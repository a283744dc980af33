import NestWebTransport.Driver.StreamAdapters
import NestWebTransport.Foundation.Tally
import Mathlib.Data.List.Nodup

/-! What the driver counts of its streams, and which of them are sure to be closed. -/
namespace NestWebTransport

namespace StreamWork

/-- The entry is the loop over a session's listeners, or leads to it. -/
def loops (session : Nat) : StreamWork → Bool
  | .startNotify c => c == session
  | .notify c _ => c == session
  | _ => false

/-- The entry concerns one bridge only. -/
def isIdle : StreamWork → Bool
  | .abortReadable _ | .abortWritable _ | .finishReadable _ _ | .finishWritable _ => true
  | _ => false

end StreamWork

namespace StreamAdapter

/-- Each half finishes its part once, and only as it finishes. -/
structure Tidy (st : StreamAdapter) : Prop where
  nodup : st.parts.Nodup
  readable : .readable ∈ st.parts → ∃ b, st.readable = some b ∧ b.finished = true
  writable : .writable ∈ st.parts → ∃ b, st.writable = some b ∧ b.finished = true

/-- Two adapters between which nothing of their streams is reported. -/
structure Like (st st' : StreamAdapter) : Prop where
  session : st'.session = st.session
  closed : st'.lifecycle.closed = st.lifecycle.closed
  closings : st'.closings = st.closings
  resetCalled : st'.resetCalled = st.resetCalled
  tidy : st.Tidy → st'.Tidy
  absent : st = .absent → st' = .absent

variable {st st' : StreamAdapter}

theorem Like.refl : Like st st := ⟨rfl, rfl, rfl, rfl, fun h => h, fun h => h⟩

theorem Like.trans {st'' : StreamAdapter} (h : Like st st') (h' : Like st' st'') :
    Like st st'' where
  session := h'.session.trans h.session
  closed := h'.closed.trans h.closed
  closings := h'.closings.trans h.closings
  resetCalled := h'.resetCalled.trans h.resetCalled
  tidy htidy := h'.tidy (h.tidy htidy)
  absent habsent := h'.absent (h.absent habsent)

theorem tidy_absent : Tidy .absent := ⟨List.nodup_nil, fun h => (by cases h), fun h => (by cases h)⟩

end StreamAdapter

namespace StreamState

variable {s t : StreamState} {k l n : Nat} {w : StreamWork} {ws : List StreamWork}
  {cause : AbortCause} {reason : Option Thrown} {half : StreamHalf} {due : Option Nat}

/-- The lifecycle is closed, or it is the one that is due to be aborted. -/
def Doomed (due : Option Nat) (s : StreamState) (k : Nat) : Prop :=
  (s.stream k).lifecycle.closed = true ∨ due = some k

/-- The stream listens to a session that goes on, or that comes to it in its loop. -/
structure Listens (s : StreamState) (k : Nat) : Prop where
  listens : k ∈ (s.session (s.stream k).session).listeners
  turn : (s.session (s.stream k).session).aborted = none ∨
    .startNotify (s.stream k).session ∈ s.agenda ∨
    ∃ todo, .notify (s.stream k).session todo ∈ s.agenda ∧ k ∈ todo

/-- How the counts and the subscriptions stand while one stream is due to be aborted, or none. -/
structure Standing (due : Option Nat) (s : StreamState) : Prop where
  total : s.streamsTotal = s.streamCount
  active : (s.streamsActive : Int) =
    tally s.streamCount (fun st : StreamAdapter => 1 - (st.closings : Int)) s.stream
  reports : ∀ k, (s.stream k).closings + s.agenda.count (.streamClosed k) =
    if (s.stream k).lifecycle.closed then 1 else 0
  fresh : ∀ k, s.streamCount ≤ k → s.stream k = .absent
  due_lt : ∀ k, due = some k → k < s.streamCount
  listeners : ∀ session, ∀ k ∈ (s.session session).listeners, k < s.streamCount
  tidy : ∀ k, (s.stream k).Tidy
  reset : ∀ k, (s.stream k).resetCalled = true → Doomed due s k
  heard : ∀ k < s.streamCount, Doomed due s k ∨ Listens s k
  loops : ∀ session, s.agenda.countP (StreamWork.loops session) ≤
    if (s.session session).aborted.isSome then 1 else 0

/-- Between two steps, no abort is due. -/
abbrev Sound (s : StreamState) : Prop := Standing none s

theorem sound_new : Sound new where
  total := rfl
  active := rfl
  reports _ := rfl
  fresh _ _ := rfl
  due_lt _ h := by cases h
  listeners _ _ h := by cases h
  tidy _ := StreamAdapter.tidy_absent
  reset _ h := by cases h
  heard _ h := absurd h (Nat.not_lt_zero _)
  loops _ := Nat.zero_le _

/-! ### What makes no difference -/

/-- Two states between which nothing of a stream is reported. -/
structure Quiet (s t : StreamState) : Prop where
  session : t.session = s.session
  streamCount : t.streamCount = s.streamCount
  streamsActive : t.streamsActive = s.streamsActive
  streamsTotal : t.streamsTotal = s.streamsTotal
  agenda : t.agenda = s.agenda
  stream : ∀ k, (s.stream k).Like (t.stream k)

theorem Doomed.quiet (h : Doomed due s k) (hquiet : Quiet s t) : Doomed due t k := by
  refine h.imp_left fun hclosed => ?_
  rw [(hquiet.stream k).closed]
  exact hclosed

/-- What leaves the streams and the agenda alone keeps their standing. -/
theorem Standing.quiet (h : Standing due s) (hquiet : Quiet s t) : Standing due t where
  total := by rw [hquiet.streamsTotal, hquiet.streamCount, h.total]
  active := by
    rw [hquiet.streamsActive, hquiet.streamCount, h.active]
    exact tally_congr fun i _ => by rw [(hquiet.stream i).closings]
  reports k := by
    rw [(hquiet.stream k).closings, (hquiet.stream k).closed, hquiet.agenda]
    exact h.reports k
  fresh k hk := (hquiet.stream k).absent (h.fresh k (hquiet.streamCount ▸ hk))
  due_lt k hdue := by
    rw [hquiet.streamCount]
    exact h.due_lt k hdue
  listeners session k hmem := by
    rw [hquiet.session] at hmem
    rw [hquiet.streamCount]
    exact h.listeners session k hmem
  tidy k := (hquiet.stream k).tidy (h.tidy k)
  reset k hreset := (h.reset k ((hquiet.stream k).resetCalled ▸ hreset)).quiet hquiet
  heard k hk := by
    rcases h.heard k (hquiet.streamCount ▸ hk) with hdoomed | ⟨hlistens, hturn⟩
    · exact .inl (hdoomed.quiet hquiet)
    · refine .inr ⟨?_, ?_⟩
      · rw [(hquiet.stream k).session, hquiet.session]
        exact hlistens
      · rw [(hquiet.stream k).session, hquiet.session, hquiet.agenda]
        exact hturn
  loops session := by
    rw [hquiet.agenda, hquiet.session]
    exact h.loops session

theorem quiet_modify (f : StreamAdapter → StreamAdapter)
    (hf : (s.stream k).Like (f (s.stream k))) : Quiet s (s.modify k f) := by
  refine ⟨rfl, rfl, rfl, rfl, rfl, fun i => ?_⟩
  change (s.stream i).Like (Function.update s.stream k (f (s.stream k)) i)
  by_cases hi : i = k
  · subst hi
    rw [Function.update_self]
    exact hf
  · rw [Function.update_of_ne hi]
    exact .refl

theorem quiet_readable (f : ReadableBridge → ReadableBridge)
    (hf : ∀ b, b.finished = true → (f b).finished = true) : Quiet s (s.modifyReadable k f) := by
  refine quiet_modify _ ⟨rfl, rfl, rfl, rfl, fun h => ⟨h.nodup, fun hmem => ?_, h.writable⟩,
    fun habsent => ?_⟩
  · obtain ⟨b, hb, hfinished⟩ := h.readable hmem
    exact ⟨f b, by rw [hb]; rfl, hf b hfinished⟩
  · rw [habsent]
    rfl

theorem quiet_writable (f : WritableBridge → WritableBridge)
    (hf : ∀ b, b.finished = true → (f b).finished = true) : Quiet s (s.modifyWritable k f) := by
  refine quiet_modify _ ⟨rfl, rfl, rfl, rfl, fun h => ⟨h.nodup, h.readable, fun hmem => ?_⟩,
    fun habsent => ?_⟩
  · obtain ⟨b, hb, hfinished⟩ := h.writable hmem
    exact ⟨f b, by rw [hb]; rfl, hf b hfinished⟩
  · rw [habsent]
    rfl

/-! ### Entries of the agenda -/

theorem Listens.agenda (h : Listens s k) (hstream : t.stream = s.stream)
    (hsession : t.session = s.session)
    (hstart : ∀ c, .startNotify c ∈ s.agenda → .startNotify c ∈ t.agenda)
    (hnotify : ∀ c todo, .notify c todo ∈ s.agenda → .notify c todo ∈ t.agenda) : Listens t k := by
  refine ⟨?_, ?_⟩
  · rw [hstream, hsession]
    exact h.listens
  · rw [hstream, hsession]
    rcases h.turn with hopen | hfirst | ⟨todo, hmem, hin⟩
    · exact .inl hopen
    · exact .inr (.inl (hstart _ hfirst))
    · exact .inr (.inr ⟨todo, hnotify _ _ hmem, hin⟩)

/-- An entry that concerns one bridge only may stand in the agenda or not. -/
theorem standing_push_idle (hw : w.isIdle = true) :
    Standing due (s.push [w]) ↔ Standing due s := by
  have hclosed : ∀ k, (s.push [w]).agenda.count (.streamClosed k) =
      s.agenda.count (.streamClosed k) := by
    intro k
    refine List.count_cons_of_ne fun heq => ?_
    rw [heq] at hw
    cases hw
  have hstart : ∀ c, .startNotify c ∈ (s.push [w]).agenda ↔ .startNotify c ∈ s.agenda := by
    intro c
    refine ⟨fun hmem => (List.mem_cons.mp hmem).resolve_left fun heq => ?_, List.mem_cons_of_mem _⟩
    rw [← heq] at hw
    cases hw
  have hnotify : ∀ c todo, .notify c todo ∈ (s.push [w]).agenda ↔ .notify c todo ∈ s.agenda := by
    intro c todo
    refine ⟨fun hmem => (List.mem_cons.mp hmem).resolve_left fun heq => ?_, List.mem_cons_of_mem _⟩
    rw [← heq] at hw
    cases hw
  have hloops : ∀ c, (s.push [w]).agenda.countP (StreamWork.loops c) =
      s.agenda.countP (StreamWork.loops c) := by
    intro c
    refine List.countP_cons_of_neg ?_
    cases w <;> first | exact Bool.false_ne_true | cases hw
  constructor
  · intro h
    exact ⟨h.total, h.active, fun k => by rw [← hclosed]; exact h.reports k, h.fresh, h.due_lt,
      h.listeners, h.tidy, h.reset, fun k hk => (h.heard k hk).imp_right
        (·.agenda rfl rfl (fun _ => (hstart _).mp) fun _ _ => (hnotify _ _).mp),
      fun c => by rw [← hloops]; exact h.loops c⟩
  · intro h
    exact ⟨h.total, h.active, fun k => by rw [hclosed]; exact h.reports k, h.fresh, h.due_lt,
      h.listeners, h.tidy, h.reset, fun k hk => (h.heard k hk).imp_right
        (·.agenda rfl rfl (fun _ => (hstart _).mpr) fun _ _ => (hnotify _ _).mpr),
      fun c => by rw [hloops]; exact h.loops c⟩

/-- Any stream may be due to be aborted. -/
theorem Standing.owe (h : Sound s) (hk : k < s.streamCount) : Standing (some k) s := by
  have hdoomed : ∀ i, Doomed none s i → Doomed (some k) s i := fun i hd => hd.imp_right nofun
  refine { h with
    due_lt := fun i hi => Option.some.inj hi ▸ hk
    reset := fun i hreset => hdoomed i (h.reset i hreset)
    heard := fun i hi => (h.heard i hi).imp_left (hdoomed i) }

/-- An abort of a closed lifecycle need not be made. -/
theorem Standing.drop (h : Standing (some k) s) (hclosed : (s.stream k).lifecycle.closed = true) :
    Sound s := by
  have hdoomed : ∀ i, Doomed (some k) s i → Doomed none s i := by
    rintro i (hclosed' | hdue)
    · exact .inl hclosed'
    · exact .inl (Option.some.inj hdue ▸ hclosed)
  exact { h with
    due_lt := nofun
    reset := fun i hreset => hdoomed i (h.reset i hreset)
    heard := fun i hi => (h.heard i hi).imp_left (hdoomed i) }

/-! ### One stream at a time -/

/-- Only one stream differs, and it keeps its session and its halves; the agenda gains or loses
reports about it, and no loop. -/
structure Touches (k : Nat) (s t : StreamState) : Prop where
  session : t.session = s.session
  streamCount : t.streamCount = s.streamCount
  streamsTotal : t.streamsTotal = s.streamsTotal
  stream : ∀ i, i ≠ k → t.stream i = s.stream i
  owner : (t.stream k).session = (s.stream k).session
  tidy : (s.stream k).Tidy → (t.stream k).Tidy
  closed : (s.stream k).lifecycle.closed = true → (t.stream k).lifecycle.closed = true
  turns : ∀ w ∈ s.agenda, w ≠ .streamClosed k → w ∈ t.agenda
  reports : ∀ i, i ≠ k → t.agenda.count (.streamClosed i) = s.agenda.count (.streamClosed i)
  loops : ∀ c, t.agenda.countP (StreamWork.loops c) = s.agenda.countP (StreamWork.loops c)

theorem Touches.closed_of {i : Nat} (h : Touches k s t)
    (hclosed : (s.stream i).lifecycle.closed = true) : (t.stream i).lifecycle.closed = true := by
  by_cases hi : i = k
  · subst hi
    exact h.closed hclosed
  · rw [h.stream i hi]
    exact hclosed

theorem Touches.session_of (h : Touches k s t) (i : Nat) :
    (t.stream i).session = (s.stream i).session := by
  by_cases hi : i = k
  · subst hi
    exact h.owner
  · rw [h.stream i hi]

theorem Listens.touched {i : Nat} (h : Listens s i) (htouch : Touches k s t) : Listens t i := by
  refine ⟨?_, ?_⟩
  · rw [htouch.session_of, htouch.session]
    exact h.listens
  · rw [htouch.session_of, htouch.session]
    rcases h.turn with hopen | hfirst | ⟨todo, hmem, hin⟩
    · exact .inl hopen
    · exact .inr (.inl (htouch.turns _ hfirst nofun))
    · exact .inr (.inr ⟨todo, htouch.turns _ hmem nofun, hin⟩)

/-- What touches one stream keeps the standing if the count of the open streams follows its reports,
its reports follow its lifecycle, and it is not reset before it is doomed. -/
theorem Standing.touched (h : Standing due s) (hk : k < s.streamCount) (htouch : Touches k s t)
    (hactive : (t.streamsActive : Int) + (t.stream k).closings =
      s.streamsActive + (s.stream k).closings)
    (hreports : (t.stream k).closings + t.agenda.count (.streamClosed k) =
      if (t.stream k).lifecycle.closed then 1 else 0)
    (hreset : (t.stream k).resetCalled = true → Doomed due t k) : Standing due t where
  total := by rw [htouch.streamsTotal, htouch.streamCount, h.total]
  active := by
    have hupdate : t.stream = Function.update s.stream k (t.stream k) := by
      funext i
      by_cases hi : i = k
      · rw [hi, Function.update_self]
      · rw [Function.update_of_ne hi, htouch.stream i hi]
    have hold := h.active
    rw [htouch.streamCount, hupdate, tally_update hk, ← hold]
    omega
  reports i := by
    by_cases hi : i = k
    · rw [hi]
      exact hreports
    · rw [htouch.stream i hi, htouch.reports i hi]
      exact h.reports i
  fresh i hi := by
    rw [htouch.streamCount] at hi
    have hne : i ≠ k := fun heq => absurd hk (Nat.not_lt.mpr (heq ▸ hi))
    rw [htouch.stream i hne]
    exact h.fresh i hi
  due_lt i hi := htouch.streamCount ▸ h.due_lt i hi
  listeners c l hl := by
    rw [htouch.session] at hl
    rw [htouch.streamCount]
    exact h.listeners c l hl
  tidy i := by
    by_cases hi : i = k
    · rw [hi]
      exact htouch.tidy (h.tidy k)
    · rw [htouch.stream i hi]
      exact h.tidy i
  reset i hcalled := by
    by_cases hi : i = k
    · rw [hi] at hcalled ⊢
      exact hreset hcalled
    · rw [htouch.stream i hi] at hcalled
      exact (h.reset i hcalled).imp_left htouch.closed_of
  heard i hi := by
    rw [htouch.streamCount] at hi
    exact (h.heard i hi).imp (·.imp_left htouch.closed_of) (·.touched htouch)
  loops c := by
    rw [htouch.session, htouch.loops]
    exact h.loops c

theorem modify_stream (f : StreamAdapter → StreamAdapter) (i : Nat) :
    (s.modify k f).stream i = if i = k then f (s.stream k) else s.stream i := by
  change Function.update s.stream k _ i = _
  by_cases hi : i = k
  · rw [hi, Function.update_self, if_pos rfl]
  · rw [Function.update_of_ne hi, if_neg hi]

theorem markClosed_stream (cause : AbortCause) (r : Thrown) (i : Nat) :
    (s.markClosed k cause r).stream i =
    if i = k then { s.stream k with lifecycle :=
      { (s.stream k).lifecycle with closed := true, aborted := some (cause, r) } }
    else s.stream i :=
  modify_stream (s := s) (k := k) (fun st =>
    { st with lifecycle := { st.lifecycle with closed := true, aborted := some (cause, r) } }) i

/-- A lifecycle closes with one report of `streamClosed` in the agenda. -/
theorem Standing.close (cause : AbortCause) (r : Thrown) (ws : List StreamWork) (h : Standing due s)
    (hk : k < s.streamCount) (hopen : (s.stream k).lifecycle.closed = false)
    (hws : ws.count (.streamClosed k) = 1)
    (hidle : ∀ w ∈ ws, w = .streamClosed k ∨ w.isIdle = true) :
    Standing due ((s.markClosed k cause r).push ws) := by
  have hstream := markClosed_stream (s := s) (k := k) cause r
  have hself := hstream k
  rw [if_pos rfl] at hself
  have hnone : ∀ i, i ≠ k → ws.count (.streamClosed i) = 0 := by
    refine fun i hi => List.count_eq_zero.mpr fun hmem => ?_
    rcases hidle _ hmem with heq | hidle
    · cases heq
      exact hi rfl
    · cases hidle
  have hloops : ∀ w ∈ ws, ∀ c, ¬ w.loops c = true := by
    intro w hw c
    rcases hidle w hw with rfl | hidle
    · simp [StreamWork.loops]
    · cases w <;> simp_all [StreamWork.isIdle, StreamWork.loops]
  have htouch : Touches k s ((s.markClosed k cause r).push ws) := by
    refine ⟨rfl, rfl, rfl, fun i hi => (hstream i).trans (if_neg hi),
      (congrArg StreamAdapter.session hself :), fun htidy => ?_,
      fun _ => congrArg (·.lifecycle.closed) hself, fun _ hw _ => List.mem_append_right _ hw,
      fun i hi => ?_, fun c => ?_⟩
    · change ((s.markClosed k cause r).stream k).Tidy
      rw [hself]
      exact ⟨htidy.nodup, htidy.readable, htidy.writable⟩
    · change (ws ++ s.agenda).count _ = _
      rw [List.count_append, hnone i hi, Nat.zero_add]
    · change (ws ++ s.agenda).countP _ = _
      rw [List.countP_append, List.countP_eq_zero.mpr fun w hw => hloops w hw c, Nat.zero_add]
  have hclosings : (((s.markClosed k cause r).push ws).stream k).closings = (s.stream k).closings :=
    (congrArg StreamAdapter.closings hself :)
  have hclosed : (((s.markClosed k cause r).push ws).stream k).lifecycle.closed = true :=
    congrArg (·.lifecycle.closed) hself
  refine h.touched hk htouch (by rw [hclosings]; rfl) ?_ fun _ => .inl hclosed
  have hold := h.reports k
  rw [hopen] at hold
  rw [hclosings, hclosed]
  change _ + (ws ++ s.agenda).count _ = _
  rw [List.count_append, hws]
  simp only [Bool.false_eq_true, if_false, if_true] at hold ⊢
  omega

/-- A closed lifecycle need not listen any longer. -/
theorem Standing.unsubscribe (h : Sound s) (hclosed : (s.stream k).lifecycle.closed = true) :
    Sound (s.unsubscribe k) := by
  have hsession : ∀ c, (s.unsubscribe k).session c = if c = (s.stream k).session then
      { s.session c with listeners := (s.session c).listeners.erase k } else s.session c := by
    intro c
    by_cases hc : c = (s.stream k).session
    · rw [hc, if_pos rfl]
      exact Function.update_self ..
    · rw [if_neg hc]
      exact Function.update_of_ne hc ..
  have haborted : ∀ c, ((s.unsubscribe k).session c).aborted = (s.session c).aborted := by
    intro c
    rw [hsession]
    split <;> rfl
  have hmem : ∀ c l, l ∈ ((s.unsubscribe k).session c).listeners → l ∈ (s.session c).listeners := by
    intro c l hl
    rw [hsession] at hl
    split at hl
    · exact List.mem_of_mem_erase hl
    · exact hl
  refine ⟨h.total, h.active, h.reports, h.fresh, h.due_lt,
    fun c l hl => h.listeners c l (hmem c l hl), h.tidy, h.reset, fun i hi => ?_, fun c => ?_⟩
  · rcases h.heard i hi with hdoomed | ⟨hlistens, hturn⟩
    · exact .inl hdoomed
    · by_cases hik : i = k
      · rw [hik]
        exact .inl (.inl hclosed)
      · refine .inr ⟨?_, ?_⟩
        · change i ∈ ((s.unsubscribe k).session (s.stream i).session).listeners
          rw [hsession]
          split
          · exact (List.mem_erase_of_ne hik).mpr hlistens
          · exact hlistens
        · change ((s.unsubscribe k).session (s.stream i).session).aborted = none ∨ _
          rw [haborted]
          exact hturn
  · rw [haborted]
    exact h.loops c

theorem abort_eq {r : Thrown} :
    ((s.unsubscribe k).markClosed k cause r).push ws =
      ((s.markClosed k cause r).push ws).unsubscribe k := by
  have hsession : ((s.markClosed k cause r).stream k).session = (s.stream k).session := by
    rw [markClosed_stream, if_pos rfl]
  unfold StreamState.unsubscribe
  rw [show (((s.markClosed k cause r).push ws).stream k).session = (s.stream k).session
    from hsession]
  rfl

/-- A lifecycle that is to be aborted closes instead. -/
theorem Standing.close_now (cause : AbortCause) (r : Thrown) (ws : List StreamWork)
    (h : Standing (some k) s) (hopen : (s.stream k).lifecycle.closed = false)
    (hws : ws.count (.streamClosed k) = 1)
    (hidle : ∀ w ∈ ws, w = .streamClosed k ∨ w.isIdle = true) :
    Sound ((s.markClosed k cause r).push ws) := by
  have hmarked := h.close cause r ws (h.due_lt k rfl) hopen hws hidle
  refine hmarked.drop ?_
  change ((s.markClosed k cause r).stream k).lifecycle.closed = true
  rw [markClosed_stream, if_pos rfl]

/-- An abort leaves the lifecycle closed, and nothing else to be done for it. -/
theorem Standing.abort (cause : AbortCause) (reason : Option Thrown) (h : Standing (some k) s) :
    Sound (s.abort k cause reason) := by
  unfold StreamState.abort
  split
  · rename_i hclosed
    exact h.drop hclosed
  · rename_i hopen
    rw [Bool.not_eq_true] at hopen
    rw [abort_eq]
    refine (h.close_now cause (reason.getD defaultAbortReason)
      [.abortReadable k, .abortWritable k, .streamClosed k] hopen (by simp)
      (by simp [StreamWork.isIdle])).unsubscribe ?_
    change ((s.markClosed k cause _).stream k).lifecycle.closed = true
    rw [markClosed_stream, if_pos rfl]

/-- An abort can be made at any time. -/
theorem Standing.abort_now (cause : AbortCause) (reason : Option Thrown) (h : Sound s)
    (hk : k < s.streamCount) : Sound (s.abort k cause reason) :=
  (h.owe hk).abort cause reason

/-! ### What else a step can do -/

/-- A half that had not finished before finishes its part. -/
theorem Standing.finishPart (h : Sound s) (hk : k < s.streamCount)
    (hnew : half ∉ (s.stream k).parts)
    (hfinished : match half with
      | .readable => ∃ b, (s.stream k).readable = some b ∧ b.finished = true
      | .writable => ∃ b, (s.stream k).writable = some b ∧ b.finished = true) :
    Sound (s.finishPart k half) := by
  have hpresent : (s.stream k).readable.isSome = true ∨ (s.stream k).writable.isSome = true := by
    cases half with
    | readable =>
      obtain ⟨b, hb, _⟩ := hfinished
      exact .inl (by rw [hb]; rfl)
    | writable =>
      obtain ⟨b, hb, _⟩ := hfinished
      exact .inr (by rw [hb]; rfl)
  have hcounted : Quiet s (s.modify k fun st => { st with parts := st.parts ++ [half] }) := by
    refine quiet_modify _ ⟨rfl, rfl, rfl, rfl, fun htidy => ⟨?_, fun hmem => ?_, fun hmem => ?_⟩,
      fun habsent => ?_⟩
    · exact htidy.nodup.append (List.nodup_singleton _) (List.disjoint_singleton.mpr hnew)
    · rcases List.mem_append.mp hmem with hold | hlast
      · exact htidy.readable hold
      · cases List.mem_singleton.mp hlast
        exact hfinished
    · rcases List.mem_append.mp hmem with hold | hlast
      · exact htidy.writable hold
      · cases List.mem_singleton.mp hlast
        exact hfinished
    · rw [habsent] at hpresent
      rcases hpresent with hno | hno <;> cases hno
  have hsound := h.quiet hcounted
  have hk' : k < (s.modify k fun st => { st with parts := st.parts ++ [half] }).streamCount := hk
  unfold StreamState.finishPart
  generalize (s.modify k fun st => { st with parts := st.parts ++ [half] }) = p at *
  have hless : Quiet p (p.modifyLifecycle k fun l =>
      { l with remainingParts := l.remainingParts - 1 }) := by
    refine quiet_modify _ ⟨rfl, rfl, rfl, rfl, fun htidy =>
      ⟨htidy.nodup, htidy.readable, htidy.writable⟩, fun habsent => ?_⟩
    rw [habsent]
    rfl
  simp only
  split
  · exact hsound
  · split
    · exact (hsound.quiet hless).abort_now _ _ hk'
    · exact hsound.quiet hless

/-- A report in the agenda is made, and the count it lowers is not zero. -/
theorem Standing.streamClosed (h : Sound (s.push [.streamClosed k])) :
    Sound (s.streamClosed k) ∧ 0 < s.streamsActive := by
  have hself : (s.push [.streamClosed k]).agenda.count (.streamClosed k) =
      s.agenda.count (.streamClosed k) + 1 := List.count_cons_self
  have hreport := h.reports k
  rw [hself] at hreport
  change (s.stream k).closings + _ = if (s.stream k).lifecycle.closed then 1 else 0 at hreport
  have hk : k < s.streamCount := by
    by_contra hk
    rw [show s.stream k = .absent from h.fresh k (Nat.not_lt.mp hk)] at hreport
    cases hreport
  have hpos : 0 < s.streamsActive := by
    have hle : ∀ i < s.streamCount, (0 : Int) ≤ 1 - ((s.stream i).closings : Int) := by
      intro i _
      have hi := h.reports i
      change (s.stream i).closings + _ = _ at hi
      split at hi <;> omega
    have hone := le_tally (g := fun st : StreamAdapter => 1 - (st.closings : Int)) hk hle
    have hactive := h.active
    change (s.streamsActive : Int) = tally s.streamCount _ s.stream at hactive
    have hzero : (s.stream k).closings = 0 := by split at hreport <;> omega
    rw [hzero, ← hactive] at hone
    omega
  refine ⟨?_, hpos⟩
  have hstream : ∀ i, (s.streamClosed k).stream i = if i = k then
      { s.stream k with closings := (s.stream k).closings + 1 } else s.stream i :=
    modify_stream (s := s) (k := k) fun st => { st with closings := st.closings + 1 }
  have hafter := hstream k
  rw [if_pos rfl] at hafter
  have htouch : Touches k (s.push [.streamClosed k]) (s.streamClosed k) := by
    refine ⟨rfl, rfl, rfl, fun i hi => (hstream i).trans (if_neg hi),
      (congrArg StreamAdapter.session hafter :), fun htidy => ?_, fun hclosed => ?_,
      fun w hw hne => (List.mem_cons.mp hw).resolve_left hne, fun i hi => ?_,
      fun c => (List.countP_cons_of_neg Bool.false_ne_true).symm⟩
    · rw [hafter]
      exact ⟨htidy.nodup, htidy.readable, htidy.writable⟩
    · rw [hafter]
      exact hclosed
    · exact (List.count_cons_of_ne (by simpa using fun heq => hi heq.symm)).symm
  refine h.touched hk htouch ?_ ?_ fun hreset => ?_
  · rw [hafter]
    change ((s.streamsActive - 1 : Nat) : Int) + (((s.stream k).closings + 1 : Nat) : Int) =
      (s.streamsActive : Int) + ((s.stream k).closings : Int)
    omega
  · rw [hafter]
    change (s.stream k).closings + 1 + s.agenda.count _ = _
    rw [← hreport]
    omega
  · rw [hafter] at hreset
    exact (h.reset k hreset).imp_left htouch.closed

theorem modifySession_session (f : StreamSession → StreamSession) (c : Nat) :
    (s.modifySession n f).session c = if c = n then f (s.session n) else s.session c := by
  change Function.update s.session n _ c = _
  by_cases hc : c = n
  · rw [hc, Function.update_self, if_pos rfl]
  · rw [Function.update_of_ne hc, if_neg hc]

/-- What `f` leaves alone is the same in every session. -/
theorem modifySession_keeps {β : Type} {f : StreamSession → StreamSession} (g : StreamSession → β)
    (hf : g (f (s.session n)) = g (s.session n)) (c : Nat) :
    g ((s.modifySession n f).session c) = g (s.session c) := by
  rw [modifySession_session]
  split
  · rename_i hc
    rw [hc, hf]
  · rfl

/-- The next stream comes into use, listening or to be aborted. -/
theorem Standing.add {st : StreamAdapter} (h : Sound s)
    (hnew : st.lifecycle.closed = false ∧ st.closings = 0 ∧ st.parts = [] ∧ st.resetCalled = false)
    (hstream : t.stream = Function.update s.stream s.streamCount st)
    (hcount : t.streamCount = s.streamCount + 1) (hactive : t.streamsActive = s.streamsActive + 1)
    (htotal : t.streamsTotal = s.streamsTotal + 1)
    (haborted : ∀ c, (t.session c).aborted = (s.session c).aborted)
    (hlisteners : ∀ c l, l ∈ (t.session c).listeners →
      l ∈ (s.session c).listeners ∨ l = s.streamCount)
    (hkept : ∀ c l, l ∈ (s.session c).listeners → l ∈ (t.session c).listeners)
    (hagenda : t.agenda = s.agenda) (hdue : ∀ k, due = some k → k = s.streamCount)
    (hheard : Doomed due t s.streamCount ∨ Listens t s.streamCount) : Standing due t := by
  have hself : t.stream s.streamCount = st := by rw [hstream, Function.update_self]
  have hother : ∀ i, i ≠ s.streamCount → t.stream i = s.stream i := by
    intro i hi
    rw [hstream, Function.update_of_ne hi]
  have hdoomed : ∀ i, i ≠ s.streamCount → Doomed none s i → Doomed due t i := by
    rintro i hi (hclosed | hnone)
    · left
      rw [hother i hi]
      exact hclosed
    · cases hnone
  refine ⟨by rw [htotal, hcount, h.total], ?_, fun i => ?_, fun i hi => ?_, fun i hi => ?_,
    fun c l hl => ?_, fun i => ?_, fun i hreset => ?_, fun i hi => ?_, fun c => ?_⟩
  · rw [hactive, hcount, hstream, tally_push, ← h.active, hnew.2.1]
    simp
  · rw [hagenda]
    by_cases hi : i = s.streamCount
    · have hold := h.reports i
      rw [h.fresh i (Nat.le_of_eq hi.symm)] at hold
      rw [hi, hself, hnew.1, hnew.2.1, ← hi]
      exact hold
    · rw [hother i hi]
      exact h.reports i
  · rw [hcount] at hi
    rw [hother i (by omega)]
    exact h.fresh i (by omega)
  · rw [hcount, hdue i hi]
    exact Nat.lt_succ_self _
  · rw [hcount]
    rcases hlisteners c l hl with hold | rfl
    · exact (h.listeners c l hold).trans (Nat.lt_succ_self _)
    · exact Nat.lt_succ_self _
  · by_cases hi : i = s.streamCount
    · rw [hi, hself]
      have hnone : ∀ half, half ∉ st.parts := by
        intro half hin
        rw [hnew.2.2.1] at hin
        cases hin
      exact ⟨by rw [hnew.2.2.1]; exact List.nodup_nil, fun hin => absurd hin (hnone _),
        fun hin => absurd hin (hnone _)⟩
    · rw [hother i hi]
      exact h.tidy i
  · by_cases hi : i = s.streamCount
    · rw [hi, hself, hnew.2.2.2] at hreset
      cases hreset
    · rw [hother i hi] at hreset
      exact hdoomed i hi (h.reset i hreset)
  · by_cases hik : i = s.streamCount
    · rw [hik]
      exact hheard
    · rcases h.heard i (by omega) with hd | ⟨hlistens, hturn⟩
      · exact .inl (hdoomed i hik hd)
      · refine .inr ⟨?_, ?_⟩
        · rw [hother i hik]
          exact hkept _ _ hlistens
        · rw [hother i hik, haborted, hagenda]
          exact hturn
  · rw [hagenda, haborted]
    exact h.loops c

/-- A stream is built open, with no part finished. -/
theorem adapt_new {st : StreamAdapter} {native : NativeHalves} (h : native.adapt n = some st) :
    st.session = n ∧ st.lifecycle.closed = false ∧ st.closings = 0 ∧ st.parts = [] ∧
      st.resetCalled = false := by
  cases native with
  | receive id =>
    obtain ⟨_, _, rfl⟩ := Option.map_eq_some_iff.mp h
    exact ⟨rfl, rfl, rfl, rfl, rfl⟩
  | send id =>
    obtain ⟨_, _, rfl⟩ := Option.map_eq_some_iff.mp h
    exact ⟨rfl, rfl, rfl, rfl, rfl⟩
  | bidirectional readableId writableId =>
    simp only [NativeHalves.adapt] at h
    split at h
    · cases h
    · obtain ⟨_, _, rfl⟩ := Option.map_eq_some_iff.mp h
      exact ⟨rfl, rfl, rfl, rfl, rfl⟩

/-- A new stream listens to a session that goes on, and is closed where the session has ended. -/
theorem Standing.construct (h : Sound s) (native : NativeHalves) :
    Sound (s.construct n native) := by
  unfold StreamState.construct
  cases hadapt : native.adapt n with
  | none => exact h
  | some st =>
    obtain ⟨hn, hnew⟩ := adapt_new hadapt
    set t : StreamState := { s with
      stream := Function.update s.stream s.streamCount st, streamCount := s.streamCount + 1,
      streamsActive := s.streamsActive + 1, streamsTotal := s.streamsTotal + 1 } with ht
    have hself : t.stream s.streamCount = st := Function.update_self ..
    cases haborted : (s.session n).aborted with
    | none =>
      change Sound (t.modifySession n fun c =>
        { c with listeners := c.listeners ++ [s.streamCount] })
      have hsession := modifySession_session (s := t) (n := n)
        fun c : StreamSession => { c with listeners := c.listeners ++ [s.streamCount] }
      refine Standing.add h hnew rfl rfl rfl rfl
        (modifySession_keeps (·.aborted) rfl) (fun c l hl => ?_) (fun c l hl => ?_) rfl
        nofun (.inr ⟨?_, .inl ?_⟩)
      · rw [hsession] at hl
        split at hl
        · rename_i hc
          rw [hc]
          exact (List.mem_append.mp hl).imp_right List.mem_singleton.mp
        · exact .inl hl
      · rw [hsession]
        split
        · rename_i hc
          exact List.mem_append_left _ (hc ▸ hl)
        · exact hl
      · change s.streamCount ∈
          ((t.modifySession n _).session (t.stream s.streamCount).session).listeners
        rw [hself, hn, hsession, if_pos rfl]
        exact List.mem_append_right _ List.mem_cons_self
      · change ((t.modifySession n _).session (t.stream s.streamCount).session).aborted = none
        rw [hself, hn, hsession, if_pos rfl]
        exact haborted
    | some reason =>
      have hdoomed : Standing (some s.streamCount) t :=
        Standing.add h hnew rfl rfl rfl rfl (fun _ => rfl) (fun _ _ => .inl) (fun _ _ hl => hl) rfl
          (fun _ hk => (Option.some.inj hk).symm) (.inl (.inr rfl))
      exact hdoomed.close_now _ reason _ (by rw [hself]; exact hnew.1) (by simp)
        (by simp [StreamWork.isIdle])

/-- The end of a session leaves its loop in the agenda. -/
theorem Standing.endSession (h : Sound s) (r : Thrown) : Sound (s.endSession n r) := by
  unfold StreamState.endSession
  cases haborted : (s.session n).aborted with
  | some _ => exact h
  | none =>
    change Sound ((s.modifySession n fun c => { c with aborted := some r }).push [.startNotify n])
    have hsession := modifySession_session (s := s) (n := n)
      fun c : StreamSession => { c with aborted := some r }
    have hlisteners : ∀ c, ((s.modifySession n fun c => { c with aborted := some r }).session
        c).listeners = (s.session c).listeners := modifySession_keeps (·.listeners) rfl
    refine ⟨h.total, h.active, fun i => ?_, h.fresh, nofun,
      fun c l hl => h.listeners c l (hlisteners c ▸ hl), h.tidy, h.reset, fun i hi => ?_,
      fun c => ?_⟩
    · refine Eq.trans ?_ (h.reports i)
      exact congrArg _ (List.count_cons_of_ne (by simp))
    · rcases h.heard i hi with hdoomed | ⟨hlistens, hturn⟩
      · exact .inl hdoomed
      · refine .inr ⟨?_, ?_⟩
        · exact (hlisteners _).symm ▸ hlistens
        · by_cases hin : (s.stream i).session = n
          · exact .inr (.inl (hin ▸ List.mem_cons_self))
          · rcases hturn with hopen | hfirst | ⟨todo, hmem, hlater⟩
            · left
              change ((s.modifySession n fun c => { c with aborted := some r }).session
                (s.stream i).session).aborted = none
              rw [hsession, if_neg hin]
              exact hopen
            · exact .inr (.inl (List.mem_cons_of_mem _ hfirst))
            · exact .inr (.inr ⟨todo, List.mem_cons_of_mem _ hmem, hlater⟩)
    · have hloops := h.loops c
      change (StreamWork.startNotify n :: s.agenda).countP _ ≤
        if ((s.modifySession n fun c => { c with aborted := some r }).session c).aborted.isSome
          then 1 else 0
      rw [hsession]
      by_cases hc : c = n
      · subst hc
        rw [haborted] at hloops
        rw [List.countP_cons_of_pos (by simp [StreamWork.loops]), if_pos rfl]
        simpa using hloops
      · rw [List.countP_cons_of_neg (by simpa [StreamWork.loops] using fun h => hc h.symm),
          if_neg hc]
        exact hloops

/-- An entry for the loop of a session may become another one that leaves out nobody's turn. -/
theorem Standing.swap_loop (todo : List Nat) (h : Standing due (s.push [w]))
    (hw : w = .startNotify n ∨ ∃ todo, w = .notify n todo)
    (hturn : ∀ i ∈ (s.session n).listeners,
      (∀ todo', w = .notify n todo' → i ∈ todo') → i ∈ todo ∨ Doomed due s i) :
    Standing due (s.push [.notify n todo]) := by
  have hclosed : ∀ i, w ≠ .streamClosed i := by
    intro i heq
    rcases hw with rfl | ⟨_, rfl⟩ <;> cases heq
  have hloops : ∀ c, w.loops c = (StreamWork.notify n todo).loops c := by
    intro c
    rcases hw with rfl | ⟨_, rfl⟩ <;> rfl
  refine ⟨h.total, h.active, fun i => ?_, h.fresh, h.due_lt, h.listeners, h.tidy, h.reset,
    fun i hi => ?_, fun c => ?_⟩
  · refine Eq.trans ?_ (h.reports i)
    change _ + (StreamWork.notify n todo :: s.agenda).count _ = _ + (w :: s.agenda).count _
    rw [List.count_cons_of_ne (by simp), List.count_cons_of_ne (hclosed i)]
    rfl
  · rcases h.heard i hi with hd | ⟨hlistens, hcomes⟩
    · exact .inl hd
    · change i ∈ (s.session (s.stream i).session).listeners at hlistens
      -- The turn of the stream comes in this entry, or in one that stays.
      by_cases hin : (s.stream i).session = n ∧ ∀ todo', w = .notify n todo' → i ∈ todo'
      · obtain ⟨hn, hin⟩ := hin
        rcases hturn i (hn ▸ hlistens) hin with htodo | hd
        · refine .inr ⟨hlistens, .inr (.inr ⟨todo, ?_, htodo⟩)⟩
          change StreamWork.notify (s.stream i).session todo ∈ _
          rw [hn]
          exact List.mem_cons_self
        · exact .inl hd
      · refine .inr ⟨hlistens, hcomes.imp_right fun hrest => ?_⟩
        rcases hrest with hfirst | ⟨todo', hmem, hi'⟩
        · rcases List.mem_cons.mp hfirst with heq | hfirst
          · refine absurd ?_ hin
            rcases hw with rfl | ⟨_, rfl⟩
            · exact ⟨StreamWork.startNotify.inj heq, fun _ h => by cases h⟩
            · cases heq
          · exact .inl (List.mem_cons_of_mem _ hfirst)
        · rcases List.mem_cons.mp hmem with heq | hmem
          · refine absurd ?_ hin
            rcases hw with rfl | ⟨_, rfl⟩
            · cases heq
            · obtain ⟨hn, rfl⟩ := StreamWork.notify.inj heq
              refine ⟨hn, fun _ h => ?_⟩
              cases h
              exact hi'
          · exact .inr ⟨todo', List.mem_cons_of_mem _ hmem, hi'⟩
  · refine Nat.le_trans (Nat.le_of_eq ?_) (h.loops c)
    change (StreamWork.notify n todo :: s.agenda).countP _ = (w :: s.agenda).countP _
    rw [List.countP_cons, List.countP_cons, hloops]

/-- The loop has come to its end: nobody who listens waits for it. -/
theorem Standing.clear (h : Sound (s.push [.notify n []])) :
    Sound (s.modifySession n fun c => { c with listeners := [] }) := by
  have hsession := modifySession_session (s := s) (n := n)
    fun c : StreamSession => { c with listeners := [] }
  have haborted : ∀ c, ((s.modifySession n fun c => { c with listeners := [] }).session c).aborted =
      (s.session c).aborted := modifySession_keeps (·.aborted) rfl
  have hloop := h.loops n
  have hcount : (s.push [.notify n []]).agenda.countP (StreamWork.loops n) =
      s.agenda.countP (StreamWork.loops n) + 1 :=
    List.countP_cons_of_pos (by simp [StreamWork.loops])
  rw [hcount] at hloop
  have hended : (s.session n).aborted ≠ none := by
    intro hopen
    change _ ≤ if (s.session n).aborted.isSome then 1 else 0 at hloop
    rw [hopen] at hloop
    simp at hloop
  have honly : ∀ w ∈ s.agenda, ¬ w.loops n = true := by
    refine List.countP_eq_zero.mp ?_
    split at hloop <;> omega
  refine ⟨h.total, h.active, fun i => ?_, h.fresh, nofun, fun c l hl => ?_, h.tidy, h.reset,
    fun i hi => ?_, fun c => ?_⟩
  · refine Eq.trans ?_ (h.reports i)
    exact congrArg _ (List.count_cons_of_ne (by simp)).symm
  · rw [hsession] at hl
    split at hl
    · cases hl
    · exact h.listeners c l hl
  · rcases h.heard i hi with hd | ⟨hlistens, hturn⟩
    · exact .inl hd
    · have hn : (s.stream i).session ≠ n := by
        intro hn
        change (s.session (s.stream i).session).aborted = none ∨ _ at hturn
        change _ ∨ StreamWork.startNotify (s.stream i).session ∈ _ ∨
          ∃ todo, StreamWork.notify (s.stream i).session todo ∈ _ ∧ _ at hturn
        rw [hn] at hturn
        rcases hturn with hopen | hfirst | ⟨todo, hmem, hin⟩
        · exact hended hopen
        · have hin := (List.mem_cons.mp hfirst).resolve_left (by simp)
          exact honly _ hin (by simp [StreamWork.loops])
        · rcases List.mem_cons.mp hmem with heq | hmem
          · cases heq
            cases hin
          · exact honly _ hmem (by simp [StreamWork.loops])
      refine .inr ⟨?_, ?_⟩
      · change i ∈ ((s.modifySession n fun c => { c with listeners := [] }).session
          (s.stream i).session).listeners
        rw [hsession, if_neg hn]
        exact hlistens
      · change ((s.modifySession n fun c => { c with listeners := [] }).session
          (s.stream i).session).aborted = none ∨ _
        rw [haborted]
        refine hturn.imp_right fun hrest => hrest.imp (fun hfirst => ?_) fun hlater => ?_
        · exact (List.mem_cons.mp hfirst).resolve_left (by simp)
        · obtain ⟨todo, hmem, hin⟩ := hlater
          rcases List.mem_cons.mp hmem with heq | hmem
          · rw [(StreamWork.notify.inj heq).2] at hin
            cases hin
          · exact ⟨todo, hmem, hin⟩
  · rw [haborted]
    refine Nat.le_trans ?_ (h.loops c)
    exact (List.sublist_cons_self _ _).countP_le

/-- A notice aborts one stream after the other; those that are left stay on the agenda. -/
theorem Standing.notify {todo : List Nat} (h : Sound (s.push [.notify n todo])) :
    Sound (s.notify n todo) := by
  cases todo with
  | nil => exact h.clear
  | cons l todo =>
    unfold StreamState.notify
    simp only
    split
    · rename_i hin
      have hl : l < s.streamCount := h.listeners n l hin
      refine ((h.owe hl).swap_loop todo (.inr ⟨_, rfl⟩) fun i _ hall => ?_).abort _ _
      rcases List.mem_cons.mp (hall _ rfl) with rfl | hi
      · exact .inr (.inr rfl)
      · exact .inl hi
    · rename_i hout
      refine Standing.swap_loop todo h (.inr ⟨_, rfl⟩) fun i hi hall => .inl ?_
      exact (List.mem_cons.mp (hall _ rfl)).resolve_left fun heq => hout (heq ▸ hi)

end StreamState

end NestWebTransport
