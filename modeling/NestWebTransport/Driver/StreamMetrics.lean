import NestWebTransport.Driver.StreamIndependence

/-! The counts of streams balance, and the code that runs synchronously comes to an end. -/
namespace NestWebTransport

namespace StreamState

variable {s t : StreamState} {k l n : Nat} {w : StreamWork} {ws : List StreamWork}
  {cause : AbortCause} {reason : Option Thrown} {half : StreamHalf}

/-- How many constructed adapters are not closed. -/
def openStreams (s : StreamState) : Nat :=
  (List.range s.streamCount).countP fun k => !(s.stream k).lifecycle.closed

theorem Standing.closings_le (h : Sound s) : (s.stream k).closings ≤ 1 := by
  have hreports := h.reports k
  split at hreports <;> omega

/-- Where nothing is left to run, what is doomed is closed, and its closing is reported. -/
theorem Standing.settled (h : Sound s) (hagenda : s.agenda = []) :
    (∀ k, (s.stream k).closings = if (s.stream k).lifecycle.closed then 1 else 0) ∧
      ∀ k, Doomed none s k → (s.stream k).lifecycle.closed = true := by
  refine ⟨fun k => ?_, fun k hdoomed => hdoomed.resolve_right nofun⟩
  have hreports := h.reports k
  rw [hagenda] at hreports
  exact hreports

theorem Standing.active_eq (h : Sound s) (hagenda : s.agenda = []) :
    s.streamsActive = s.openStreams := by
  have hcount := tally_count (n := s.streamCount) (f := s.stream)
    (g := fun st : StreamAdapter => 1 - (st.closings : Int))
    (p := fun st : StreamAdapter => !st.lifecycle.closed) fun i _ => ?_
  · have hactive := h.active
    rw [hcount] at hactive
    exact Int.ofNat.inj hactive
  · rw [(h.settled hagenda).1 i]
    cases (s.stream i).lifecycle.closed <;> rfl

theorem Standing.closed_of_ended (h : Sound s) (hagenda : s.agenda = []) (hk : k < s.streamCount)
    (hended : (s.session (s.stream k).session).aborted.isSome = true) :
    (s.stream k).lifecycle.closed = true := by
  rcases h.heard k hk with hdoomed | ⟨_, hturn⟩
  · exact (h.settled hagenda).2 k hdoomed
  · rw [hagenda] at hturn
    rcases hturn with hopen | hfirst | ⟨_, hmem, _⟩
    · rw [hopen] at hended
      cases hended
    · cases hfirst
    · cases hmem

/-! ### The agenda is worked off -/

/-- How many steps an entry can take, with no lifecycle to abort. -/
def weight (s : StreamState) : StreamWork → Nat
  | .startNotify c => 2 * (s.session c).listeners.length + 2
  | .notify _ todo => 2 * todo.length + 1
  | _ => 1

/-- An open lifecycle can bring three entries and is closed then. -/
def load (s : StreamState) : Nat := (s.agenda.map s.weight).sum + 4 * s.openStreams

theorem weight_le {t : StreamState}
    (hlisteners : ∀ c, (t.session c).listeners.length ≤ (s.session c).listeners.length)
    (w : StreamWork) : t.weight w ≤ s.weight w := by
  cases w with
  | startNotify c =>
    have hle := hlisteners c
    simp only [weight]
    omega
  | _ => exact Nat.le_refl _

theorem load_le {t : StreamState}
    (hlisteners : ∀ c, (t.session c).listeners.length ≤ (s.session c).listeners.length)
    (hagenda : t.agenda = s.agenda) (hopen : t.openStreams = s.openStreams) : t.load ≤ s.load := by
  unfold load
  rw [hagenda, hopen]
  exact Nat.add_le_add_right (List.sum_le_sum fun w _ => weight_le hlisteners w) _

theorem openStreams_congr {t : StreamState} (hcount : t.streamCount = s.streamCount)
    (hclosed : ∀ k, (t.stream k).lifecycle.closed = (s.stream k).lifecycle.closed) :
    t.openStreams = s.openStreams := by
  unfold openStreams
  rw [hcount]
  exact List.countP_congr fun k _ => by rw [hclosed k]

theorem Quiet.load_le (h : Quiet s t) : t.load ≤ s.load :=
  StreamState.load_le (fun c => by rw [h.session]) h.agenda
    (openStreams_congr h.streamCount fun k => (h.stream k).closed)

theorem push_load : (s.push ws).load = (ws.map s.weight).sum + s.load := by
  change ((ws ++ s.agenda).map s.weight).sum + 4 * s.openStreams = _
  rw [List.map_append, List.sum_append, load, Nat.add_assoc]

theorem openStreams_eq (s : StreamState) : (s.openStreams : Int) = tally s.streamCount
    (fun st : StreamAdapter => if !st.lifecycle.closed then 1 else 0) s.stream :=
  (tally_count (p := fun st : StreamAdapter => !st.lifecycle.closed) fun _ _ => rfl).symm

/-- One lifecycle less is open. -/
theorem openStreams_markClosed (cause : AbortCause) (r : Thrown) (hk : k < s.streamCount)
    (hopen : (s.stream k).lifecycle.closed = false) :
    (s.markClosed k cause r).openStreams + 1 = s.openStreams := by
  have hold := openStreams_eq s
  have hnew := openStreams_eq (s.markClosed k cause r)
  change _ = tally s.streamCount _ (Function.update s.stream k _) at hnew
  rw [tally_update hk, ← hold, hopen] at hnew
  simp only [Bool.not_true, Bool.not_false, Bool.false_eq_true, if_true, if_false] at hnew
  omega

theorem unsubscribe_length (c : Nat) :
    ((s.unsubscribe k).session c).listeners.length ≤ (s.session c).listeners.length := by
  unfold unsubscribe
  rw [modifySession_session]
  split
  · rename_i hc
    rw [hc]
    exact List.length_erase_le
  · exact Nat.le_refl _

/-- An abort puts on the agenda what it takes off the streams. -/
theorem abort_load (cause : AbortCause) (reason : Option Thrown) (hk : k < s.streamCount) :
    (s.abort k cause reason).load ≤ s.load := by
  unfold abort
  split
  · exact Nat.le_refl _
  · rename_i hopen
    rw [Bool.not_eq_true] at hopen
    have hmarked := openStreams_markClosed cause (reason.getD defaultAbortReason) hk hopen
    rw [abort_eq]
    refine (load_le unsubscribe_length rfl rfl).trans ?_
    rw [push_load]
    have hrest : (s.markClosed k cause (reason.getD defaultAbortReason)).load =
        (s.agenda.map s.weight).sum +
          4 * (s.markClosed k cause (reason.getD defaultAbortReason)).openStreams := rfl
    rw [hrest, load]
    simp only [List.map_cons, List.map_nil, List.sum_cons, List.sum_nil, weight]
    omega

/-- The last part of a stream puts its close on the agenda once. -/
theorem finishPart_load (hk : k < s.streamCount) : (s.finishPart k half).load ≤ s.load := by
  have hparts : (s.modify k fun st => { st with parts := st.parts ++ [half] }).load ≤ s.load := by
    refine load_le (fun _ => Nat.le_refl _) rfl (openStreams_congr rfl fun i => ?_)
    rw [modify_stream]
    split
    · rename_i hi
      rw [hi]
    · rfl
  have hk' : k < (s.modify k fun st => { st with parts := st.parts ++ [half] }).streamCount := hk
  refine Nat.le_trans ?_ hparts
  unfold finishPart
  generalize (s.modify k fun st => { st with parts := st.parts ++ [half] }) = p at *
  have hless : (p.modifyLifecycle k fun l =>
      { l with remainingParts := l.remainingParts - 1 }).load ≤ p.load := by
    refine load_le (fun _ => Nat.le_refl _) rfl (openStreams_congr rfl fun i => ?_)
    rw [modifyLifecycle, modify_stream]
    split
    · rename_i hi
      rw [hi]
    · rfl
  simp only
  split
  · exact Nat.le_refl _
  · split
    · refine Nat.le_trans (abort_load _ _ ?_) hless
      exact hk'
    · exact hless

theorem finishReadable_load (h : Sound s) (countAsPart : Bool) :
    (s.finishReadable k countAsPart).load ≤ s.load := by
  unfold finishReadable
  cases hb : (s.stream k).readable with
  | none => exact Nat.le_refl _
  | some b =>
    have hquiet : Quiet s (s.modifyReadable k fun b => { b with finished := true }) :=
      quiet_readable _ fun _ _ => rfl
    simp only
    split
    · refine Nat.le_trans (finishPart_load ?_) hquiet.load_le
      exact h.lt_of_readable hb
    · exact hquiet.load_le

theorem finishWritable_load (h : Sound s) : (s.finishWritable k).load ≤ s.load := by
  unfold finishWritable
  cases hb : (s.stream k).writable with
  | none => exact Nat.le_refl _
  | some b =>
    have hquiet : Quiet s (s.modifyWritable k fun b => { b with finished := true }) :=
      quiet_writable _ fun _ _ => rfl
    simp only
    split
    · exact Nat.le_refl _
    · refine Nat.le_trans (finishPart_load ?_) hquiet.load_le
      exact h.lt_of_writable hb

theorem abortReadable_load : (s.abortReadable k).load ≤ s.load := by
  unfold abortReadable
  cases (s.stream k).readable with
  | none => exact Nat.le_refl _
  | some b =>
    simp only
    split
    · exact Nat.le_refl _
    · exact (quiet_errorReadable.trans quiet_stop).load_le

theorem abortWritable_load (h : Sound s) : (s.abortWritable k).load ≤ s.load := by
  unfold abortWritable
  cases (s.stream k).writable with
  | none => exact Nat.le_refl _
  | some b =>
    simp only
    split
    · exact Nat.le_refl _
    · split
      · refine Nat.le_trans (finishWritable_load ?_) quiet_errorWritable.load_le
        exact h.quiet quiet_errorWritable
      · exact (quiet_errorWritable.trans quiet_resetWritable).load_le

theorem streamClosed_load : (s.streamClosed k).load ≤ s.load := by
  refine load_le (fun _ => Nat.le_refl _) rfl (openStreams_congr rfl fun i => ?_)
  change ((s.modify k fun st => { st with closings := st.closings + 1 }).stream i).lifecycle.closed
    = _
  rw [modify_stream]
  split
  · rename_i hi
    rw [hi]
  · rfl

/-- A notice costs more than the aborts it makes. -/
theorem notify_load {todo : List Nat} (h : Sound (s.push [.notify n todo])) :
    (s.notify n todo).load < s.load + s.weight (.notify n todo) := by
  cases todo with
  | nil =>
    refine Nat.lt_succ_of_le (load_le (fun c => ?_) rfl rfl)
    change ((s.modifySession n fun c => { c with listeners := [] }).session c).listeners.length ≤ _
    rw [modifySession_session]
    split
    · exact Nat.zero_le _
    · exact Nat.le_refl _
  | cons l todo =>
    have hpush : (s.push [.notify n todo]).load = 2 * todo.length + 1 + s.load := by
      rw [push_load]
      rfl
    have hweight : s.weight (.notify n (l :: todo)) = 2 * (todo.length + 1) + 1 := rfl
    unfold notify
    simp only
    split
    · rename_i hin
      have habort := abort_load (s := s.push [.notify n todo]) (k := l) .sessionEnded
        (s.session n).aborted (h.listeners n l hin)
      omega
    · omega

/-- Each entry worked off lowers the load. -/
theorem work_load (h : Sound s) (hagenda : s.agenda ≠ []) : s.work.load < s.load := by
  cases hw : s.agenda with
  | nil => exact absurd hw hagenda
  | cons first rest =>
    have hsame : ({ s with agenda := rest } : StreamState).push [first] = s := by
      change ({ s with agenda := first :: rest } : StreamState) = s
      rw [← hw]
    have hload : s.load = ({ s with agenda := rest } : StreamState).weight first +
        ({ s with agenda := rest } : StreamState).load := by
      conv_lhs => rw [← hsame, push_load]
      rfl
    have hone : ∀ a b : Nat, a ≤ b → a < 1 + b := by
      intro a b hle
      omega
    have hsound : Sound (({ s with agenda := rest } : StreamState).push [first]) := hsame ▸ h
    unfold work
    rw [hw, hload]
    simp only
    generalize ({ s with agenda := rest } : StreamState) = t at *
    cases first with
    | abortReadable k => exact hone _ _ abortReadable_load
    | abortWritable k => exact hone _ _ (abortWritable_load ((standing_push_idle rfl).mp hsound))
    | finishReadable k countAsPart =>
      exact hone _ _ (finishReadable_load ((standing_push_idle rfl).mp hsound) countAsPart)
    | finishWritable k => exact hone _ _ (finishWritable_load ((standing_push_idle rfl).mp hsound))
    | streamClosed k => exact hone _ _ streamClosed_load
    | startNotify c =>
      simp only [perform, push_load, List.map_cons, List.map_nil, List.sum_cons, List.sum_nil,
        weight]
      omega
    | notify c todo =>
      rw [Nat.add_comm]
      exact notify_load hsound

/-- The code that runs synchronously comes to an end, if the application leaves it at that. -/
theorem drains (h : Sound s) :
    ∃ n t, machine.Run s (List.replicate n .work) t ∧ t.agenda = [] := by
  induction hload : s.load using Nat.strong_induction_on generalizing s with
  | _ load ih =>
    by_cases hagenda : s.agenda = []
    · exact ⟨0, s, .refl, hagenda⟩
    · have hless := work_load h hagenda
      obtain ⟨n, t, hrun, hdone⟩ := ih s.work.load (hload ▸ hless) h.work rfl
      refine ⟨n + 1, t, .stepL ⟨?_, rfl⟩ hrun, hdone⟩
      cases hw : s.agenda with
      | nil => exact absurd hw hagenda
      | cons first rest =>
        change (!s.agenda.isEmpty) = true
        rw [hw]
        rfl

/-- Every reachable state of the streams has its halves in order. -/
theorem halves_of_reachable (h : machine.Reachable s) : Halves s := by
  refine (h.invariant (P := fun s => Sound s ∧ Halves s) ?_ ?_).2
  · rintro _ rfl
    exact ⟨sound_new, halves_new⟩
  · rintro s e _ ⟨he, rfl⟩ ⟨hsound, hhalves⟩
    exact ⟨hsound.next he, (hhalves.next hsound he).halves⟩

/-- What the driver counts of its streams. An adapter is opened once and closed at most once, its
halves finish their parts at most once, and the count of active streams is never lowered at zero.
A closing is reported, or about to be by the code that runs, exactly of the adapters whose signal is
aborted. Once the agenda is worked off, which it can be, the count of active streams is the number
of adapters whose signal is not aborted. -/
theorem metrics_balance (h : machine.Reachable s) :
    s.streamsTotal = s.streamCount ∧
    (∀ k, (s.stream k).closings ≤ 1 ∧ (s.stream k).parts.Nodup) ∧
    (∀ k, (s.stream k).lifecycle.closed = (s.stream k).lifecycle.aborted.isSome ∧
      (s.stream k).closings + s.agenda.count (.streamClosed k) =
        if (s.stream k).lifecycle.aborted.isSome then 1 else 0) ∧
    (s.streamsActive : Int) =
      tally s.streamCount (fun st : StreamAdapter => 1 - (st.closings : Int)) s.stream ∧
    (∀ k rest, s.agenda = .streamClosed k :: rest → 0 < s.streamsActive) ∧
    (s.agenda = [] →
      (∀ k, (s.stream k).closings = if (s.stream k).lifecycle.aborted.isSome then 1 else 0) ∧
      (∀ k < s.streamCount, (s.stream k).resetCalled = true ∨
        (s.session (s.stream k).session).aborted.isSome = true →
        (s.stream k).lifecycle.closed = true) ∧
      s.streamsActive = s.openStreams ∧
      ((∀ k < s.streamCount, (s.session (s.stream k).session).aborted.isSome = true) →
        s.streamsActive = 0)) ∧
    ∃ n t, machine.Run s (List.replicate n .work) t ∧ t.agenda = [] := by
  have hsound := sound_of_reachable h
  have hmarked := fun k => ((halves_of_reachable h).stream k).marked
  refine ⟨hsound.total, fun k => ⟨hsound.closings_le, (hsound.tidy k).nodup⟩,
    fun k => ⟨hmarked k, hmarked k ▸ hsound.reports k⟩, hsound.active,
    fun k rest hagenda => ?_, fun hagenda => ⟨fun k => hmarked k ▸ (hsound.settled hagenda).1 k,
      fun k hk hover => ?_, hsound.active_eq hagenda, fun hall => ?_⟩, drains hsound⟩
  · have hsame : ({ s with agenda := rest } : StreamState).push [.streamClosed k] = s := by
      change ({ s with agenda := .streamClosed k :: rest } : StreamState) = s
      rw [← hagenda]
    exact (Standing.streamClosed (s := { s with agenda := rest }) (hsame ▸ hsound)).2
  · rcases hover with hreset | hended
    · exact (hsound.settled hagenda).2 k (hsound.reset k hreset)
    · exact hsound.closed_of_ended hagenda hk hended
  · rw [hsound.active_eq hagenda]
    refine List.countP_eq_zero.mpr fun k hk => ?_
    have hk' := List.mem_range.mp hk
    rw [hsound.closed_of_ended hagenda hk' (hall k hk')]
    exact Bool.false_ne_true

/-- Two streams of a session, the first one cancelled while a read is pending, and a third stream
that comes when the session has ended. -/
theorem metrics_balance_ended : ∃ s : StreamState, machine.Reachable s ∧ s.agenda = [] ∧
    s.streamCount = 3 ∧ (s.stream 0).parts = [.writable] ∧ s.streamsActive = 0 := by
  obtain ⟨s, hrun, hagenda, hcount, hparts, hended⟩ := program.exists_run
    [.construct 0 (.bidirectional 4 4), .construct 0 (.receive 8), .pull 0, .cancel 0,
      .pulled 0 .done, .work, .work, .work, .work, .resetSettled 0, .endSession 0 .other, .work,
      .work, .work, .work, .work, .work, .construct 0 (.send 12), .work, .work, .work] new
    (fun s => s.agenda = [] ∧ s.streamCount = 3 ∧ (s.stream 0).parts = [.writable] ∧
      (List.range 3).all (fun k => (s.session (s.stream k).session).aborted.isSome) = true)
    (by decide +kernel)
  have hreach : machine.Reachable s := ⟨new, _, rfl, hrun⟩
  refine ⟨s, hreach, hagenda, hcount, hparts,
    ((metrics_balance hreach).2.2.2.2.2.1 hagenda).2.2.2 fun k hk => ?_⟩
  exact List.all_eq_true.mp hended k (List.mem_range.mpr (hcount ▸ hk))

end StreamState

end NestWebTransport
