import NestWebTransport.Driver.IncomingBridge

/-! Which reads of the incoming collections settle once `finish` has run. -/
namespace NestWebTransport

namespace IncomingStreamBridge

variable {b : IncomingStreamBridge} {e : BridgeEvent}

theorem finished_callPullIfNeeded (b : IncomingStreamBridge) :
    b.callPullIfNeeded.finished = b.finished ∧ b.callPullIfNeeded.readable = b.readable ∧
      b.callPullIfNeeded.cancelling = b.cancelling := by
  unfold IncomingStreamBridge.callPullIfNeeded
  split
  · split
    · obtain ⟨source, pull, heq, -⟩ := b.beginPull_eq
      rw [heq]
      exact ⟨rfl, rfl, rfl⟩
    · exact ⟨rfl, rfl, rfl⟩
  · exact ⟨rfl, rfl, rfl⟩

theorem finished_cancel (b : IncomingStreamBridge) : b.cancel.finished = true := by
  unfold IncomingStreamBridge.cancel
  split
  · assumption
  · rfl

theorem readable_cancel (b : IncomingStreamBridge) : b.cancel.readable = b.readable := by
  unfold IncomingStreamBridge.cancel
  split
  · rfl
  · obtain ⟨pull, heq, -⟩ := answer_eq b .done
    rw [heq]

theorem ended_cancelled (b : IncomingStreamBridge) :
    (b.next .cancelled).readable.state ≠ .readable := by
  unfold IncomingStreamBridge.next
  simp only
  split
  · rw [readable_cancel]
    exact cancel_state b.readable
  · assumption

theorem finished_answer (b : IncomingStreamBridge) (result : ReadResult NativeStream) :
    (b.answer result).finished = b.finished := by
  obtain ⟨pull, heq, -⟩ := answer_eq b result
  rw [heq]

/-- A bridge that has finished stays so. -/
theorem finished_next (hfinished : b.finished = true) (e : BridgeEvent) :
    (b.next e).finished = true := by
  cases e with
  | read => exact (finished_callPullIfNeeded _).1.trans hfinished
  | cancelled =>
    unfold IncomingStreamBridge.next
    simp only
    split
    · exact finished_cancel _
    · exact hfinished
  | arrived stream => exact (finished_answer b _).trans hfinished
  | nativeClosed => exact (finished_answer b _).trans hfinished
  | nativeFailed => exact (finished_answer b _).trans hfinished
  | pullContinues =>
    change b.pullContinues.finished = true
    unfold IncomingStreamBridge.pullContinues
    simp only [hfinished, if_true]
    split <;> first | rfl | exact hfinished
  | discardSettled => exact hfinished
  | pullSettled =>
    change b.pullSettled.finished = true
    unfold IncomingStreamBridge.pullSettled
    split
    · exact (finished_callPullIfNeeded _).1.trans hfinished
    · exact hfinished
  | cancelSettled => rfl

/-! ### Reads that settle -/

/-- A pull that settles after `finish` while reads wait is followed by one whose native `read`
rejects. -/
def Rejoins (b : IncomingStreamBridge) (e : BridgeEvent) : Prop :=
  e = .pullSettled → b.finished = true → b.readable.state = .readable → 0 < b.readable.reads →
    b.pullAgain = true ∧ (b.held = false ∨ b.source.state = .errored)

/-- A pull is under way while reads wait. -/
def Served (b : IncomingStreamBridge) : Prop :=
  b.readable.state = .readable → 0 < b.readable.reads → b.pull ≠ .idle

theorem Coherent.served (h : Coherent b) : Served b.callPullIfNeeded := by
  intro hstate hreads
  obtain ⟨-, hreadable, -⟩ := finished_callPullIfNeeded b
  rw [hreadable] at hstate hreads
  have hpull := h.direct.shouldCallPull_iff.mpr ⟨hstate, hreads⟩
  unfold IncomingStreamBridge.callPullIfNeeded
  rw [if_pos hpull]
  split
  · obtain ⟨source, pull, heq, -, hpulls⟩ := b.beginPull_eq
    rw [heq]
    rintro rfl
    rcases hpulls with ⟨hs, -⟩ | ⟨result, hs⟩ <;> cases hs
  · assumption

theorem Served.answer (h : Served b) (result : ReadResult NativeStream)
    (source : ReadableStream NativeStream) : Served { b.answer result with source := source } := by
  obtain ⟨pull, heq, -, hfrom⟩ := answer_eq b result
  rw [heq]
  intro hstate hreads
  rcases hfrom with rfl | ⟨-, rfl⟩
  · exact h hstate hreads
  · nofun

theorem Served.cancel (h : Served b) : Served b.cancel := by
  unfold IncomingStreamBridge.cancel
  split
  · exact h
  · exact h.answer .done b.source.cancel

/-- A pull that goes on returns, or awaits the discarding of its stream. -/
theorem pullContinues_pull (h : b.enabled .pullContinues = true) :
    b.pullContinues.pull = .returned ∨ b.pullContinues.pull = .discarding := by
  unfold IncomingStreamBridge.pullContinues
  unfold enabled at h
  split
  · exact Or.inl rfl
  · split
    · exact Or.inl rfl
    · exact Or.inl rfl
  · split
    · exact Or.inr rfl
    · split
      · exact Or.inl rfl
      · exact Or.inl rfl
  · rename_i hfailed hdone hvalue
    cases hpull : b.pull with
    | continuing result =>
      cases result with
      | value stream => exact absurd hpull (hvalue stream)
      | done => exact absurd hpull hdone
      | failed => exact absurd hpull hfailed
    | idle => simp [hpull] at h
    | reading => simp [hpull] at h
    | discarding => simp [hpull] at h
    | returned => simp [hpull] at h

/-- The pull of a bridge that has finished, or of one with reads waiting, goes on. -/
theorem Sound.pullAgain (h : Sound b) (hpull : b.pull = .returned) (hreads : 0 < b.readable.reads)
    (hstate : b.readable.state = .readable) (hok : b.Rejoins .pullSettled) :
      b.pullAgain = true := by
  cases hfinished : b.finished with
  | false => exact h.again hfinished hpull hreads
  | true => exact (hok rfl hfinished hstate hreads).1

theorem Sound.served_pullSettled (h : Sound b) (hpull : b.pull = .returned)
    (hok : b.Rejoins .pullSettled) : Served b.pullSettled := by
  unfold IncomingStreamBridge.pullSettled
  split
  · refine Coherent.served { h with reading := nofun, asks := ?_, discards := nofun }
    rintro - (hs | ⟨result, hs⟩) <;> cases hs
  · rename_i hagain
    exact fun hstate hreads => absurd (h.pullAgain hpull hreads hstate hok) hagain

/-- Reads that wait keep a pull under way where a settling pull is followed by the one they need. -/
theorem Sound.served_next (h : Sound b) (hserved : Served b) (he : b.enabled e = true)
    (hok : b.Rejoins e) : Served (b.next e) := by
  cases e with
  | read => exact h.read.served
  | cancelled => exact fun hstate => absurd hstate (ended_cancelled b)
  | arrived stream => exact hserved.answer _ _
  | nativeClosed => exact hserved.answer _ _
  | nativeFailed => exact hserved.answer _ _
  | pullContinues =>
    intro _ _ hidle
    rcases pullContinues_pull he with hs | hs <;>
      rw [show b.pullContinues.pull = .idle from hidle] at hs <;> cases hs
  | discardSettled => exact fun _ _ => nofun
  | pullSettled => exact h.served_pullSettled (returned_of_pullSettled he) hok
  | cancelSettled => exact hserved

/-! ### Collections that end -/

/-- Moreover a collection that is still readable has a pull under way, or awaits its native
cancellation, and it has a pull under way when that cancellation settles. -/
def Ends (b : IncomingStreamBridge) (e : BridgeEvent) : Prop :=
  b.Rejoins e ∧
    (e = .pullSettled → b.finished = true → b.readable.state = .readable →
      b.readable.reads = 0 → b.cancelling = true) ∧
    (e = .cancelSettled → b.readable.state = .readable → b.pull ≠ .idle)

/-- After `finish` a readable collection without a pull awaits its native cancellation. -/
def Closing (b : IncomingStreamBridge) : Prop :=
  b.finished = true → b.readable.state = .readable → b.pull = .idle → b.cancelling = true

theorem Closing.answer (h : Closing b) (result : ReadResult NativeStream)
    (source : ReadableStream NativeStream) : Closing { b.answer result with source := source } := by
  obtain ⟨pull, heq, -, hfrom⟩ := answer_eq b result
  rw [heq]
  intro hfinished hstate hidle
  rcases hfrom with rfl | ⟨-, rfl⟩
  · exact h hfinished hstate hidle
  · cases hidle

theorem Closing.cancel (h : Closing b) : Closing b.cancel := by
  unfold IncomingStreamBridge.cancel
  split
  · exact h
  · exact fun _ _ _ => rfl

/-- A pull that settles leaves the collection closing. -/
theorem Sound.closing_pullSettled (h : Sound b) (hpull : b.pull = .returned)
    (hok : b.Ends .pullSettled) : Closing b.pullSettled := by
  have hserved := h.served_pullSettled hpull hok.1
  obtain ⟨hfinished, hreadable, hcancelling⟩ : b.pullSettled.finished = b.finished ∧
      b.pullSettled.readable = b.readable ∧ b.pullSettled.cancelling = b.cancelling := by
    unfold IncomingStreamBridge.pullSettled
    split
    · exact finished_callPullIfNeeded _
    · exact ⟨rfl, rfl, rfl⟩
  intro hf hs hidle
  have hnone : b.readable.reads = 0 := by
    by_contra hne
    exact hserved hs (by rw [hreadable]; omega) hidle
  rw [hfinished] at hf
  rw [hreadable] at hs
  rw [hcancelling]
  exact hok.2.1 rfl hf hs hnone

/-- After `finish` a collection without a pull goes on awaiting its cancellation, or has ended. -/
theorem Sound.closing_next (h : Sound b) (hclosing : Closing b) (he : b.enabled e = true)
    (hok : b.Ends e) : Closing (b.next e) := by
  cases e with
  | read =>
    intro _ hs hidle
    have hserved := h.read.served hs
    obtain ⟨-, hreadable, -⟩ := finished_callPullIfNeeded { b with readable := b.readable.read.2 }
    rw [show (b.next .read).readable = b.readable.read.2 from hreadable] at hs
    rw [hreadable] at hserved
    rcases h.direct.read with ⟨hstate, heq⟩ | ⟨-, heq⟩
    · exact absurd (heq ▸ hs) hstate
    · refine absurd hidle (hserved ?_)
      change 0 < b.readable.read.2.reads
      rw [heq]
      exact Nat.succ_pos _
  | cancelled => exact fun _ hstate => absurd hstate (ended_cancelled b)
  | arrived stream => exact hclosing.answer _ _
  | nativeClosed => exact hclosing.answer _ _
  | nativeFailed => exact hclosing.answer _ _
  | pullContinues =>
    intro _ _ hidle
    rcases pullContinues_pull he with hs | hs <;>
      rw [show b.pullContinues.pull = .idle from hidle] at hs <;> cases hs
  | discardSettled => exact fun _ _ => nofun
  | pullSettled => exact h.closing_pullSettled (returned_of_pullSettled he) hok
  | cancelSettled => exact fun _ hs hidle => absurd hidle (hok.2.2 rfl hs)

/-! ### Reads that are left -/

/-- No pull will end the collection. -/
def Stuck (b : IncomingStreamBridge) : Prop :=
  b.finished = true ∧ b.readable.state = .readable ∧
    (b.pull = .idle ∨ (b.pull = .continuing .done ∨ b.pull = .returned) ∧ b.pullAgain = false)

/-- Nothing the bridge does by itself ends a read that is stuck. -/
theorem Sound.stuck_next (h : Sound b) (hstuck : Stuck b) (he : b.enabled e = true)
    (hcall : e.isCall = false) : Stuck (b.next e) ∧ (b.next e).readable = b.readable := by
  obtain ⟨hfinished, hstate, hpull⟩ := hstuck
  have hdrained := h.drained hfinished hstate
  cases e with
  | read => cases hcall
  | cancelled => cases hcall
  | arrived stream => exact absurd (readable_of_arrived he) hdrained
  | nativeClosed => exact absurd (readable_of_nativeClosed he) hdrained
  | nativeFailed => exact absurd (readable_of_nativeFailed he) hdrained
  | pullContinues =>
    obtain ⟨result, hresult⟩ := continuing_of_pullContinues he
    rcases hpull with hpull | ⟨hpull | hpull, hagain⟩
    · rw [hpull] at hresult
      cases hresult
    · have heq : b.next .pullContinues = { b with pull := .returned } := by
        simp [IncomingStreamBridge.next, IncomingStreamBridge.pullContinues, hpull, hfinished]
      rw [heq]
      exact ⟨⟨hfinished, hstate, Or.inr ⟨Or.inr rfl, hagain⟩⟩, rfl⟩
    · rw [hpull] at hresult
      cases hresult
  | discardSettled => simp [discarding_of_discardSettled he] at hpull
  | pullSettled =>
    have he := returned_of_pullSettled he
    have hagain : b.pullAgain = false := by simpa [he] using hpull
    have heq : b.next .pullSettled = { b with pull := .idle } := by
      simp [IncomingStreamBridge.next, IncomingStreamBridge.pullSettled, hagain]
    rw [heq]
    exact ⟨⟨hfinished, hstate, Or.inl rfl⟩, rfl⟩
  | cancelSettled => exact ⟨⟨rfl, hstate, hpull⟩, rfl⟩

/-- The next pull finds the native collection closed by `finish`. -/
theorem Sound.beginPull_done (h : Sound b) (hfinished : b.finished = true)
    (hstate : b.readable.state = .readable) (hheld : b.held = true)
    (herrored : b.source.state ≠ .errored) :
    b.beginPull = { b with pull := .continuing .done } := by
  have hdrained := h.drained hfinished hstate
  unfold beginPull
  rw [if_neg (by simp [hheld])]
  cases hsource : b.source.state with
  | readable => exact absurd hsource hdrained
  | errored => exact absurd hsource herrored
  | closed => simp [ReadableStream.read, hsource]

/-- A pull that settles without another one whose native `read` rejects leaves the collection. -/
theorem Sound.stuck_pullSettled (h : Sound b) (hfinished : b.finished = true)
    (hstate : b.readable.state = .readable)
    (hleaves : 0 < b.readable.reads → b.pullAgain = true →
      b.held = true ∧ b.source.state ≠ .errored) :
    Stuck b.pullSettled ∧ b.pullSettled.readable = b.readable := by
  unfold IncomingStreamBridge.pullSettled
  split
  · rename_i hagain
    unfold IncomingStreamBridge.callPullIfNeeded
    split
    · rename_i hpull
      obtain ⟨-, hreads⟩ := h.direct.shouldCallPull_iff.mp hpull
      obtain ⟨hheld, herrored⟩ := hleaves hreads hagain
      have hidle : Sound { b with pull := .idle, pullAgain := false } := by
        refine ⟨{ h with reading := nofun, asks := ?_, discards := nofun }, nofun⟩
        rintro - (hs | ⟨result, hs⟩) <;> cases hs
      rw [if_pos rfl, hidle.beginPull_done hfinished hstate hheld herrored]
      exact ⟨⟨hfinished, hstate, Or.inr ⟨Or.inl rfl, rfl⟩⟩, rfl⟩
    · exact ⟨⟨hfinished, hstate, Or.inl rfl⟩, rfl⟩
  · exact ⟨⟨hfinished, hstate, Or.inl rfl⟩, rfl⟩

theorem Sound.stuck_of_not_rejoins (h : Sound b) (hok : ¬ b.Rejoins e) :
    Stuck (b.next e) ∧ (b.next e).readable = b.readable ∧ 0 < b.readable.reads := by
  unfold Rejoins at hok
  push Not at hok
  obtain ⟨rfl, hfinished, hstate, hreads, hleaves⟩ := hok
  obtain ⟨hstuck, hreadable⟩ := h.stuck_pullSettled hfinished hstate fun _ hagain => by
    obtain ⟨hheld, herrored⟩ := hleaves hagain
    exact ⟨by simpa using hheld, herrored⟩
  exact ⟨hstuck, hreadable, hreads⟩

theorem Sound.stuck_of_not_ends (h : Sound b) (he : b.enabled e = true) (hok : ¬ b.Ends e) :
    Stuck (b.next e) ∧ (b.next e).readable = b.readable := by
  by_cases hrejoins : b.Rejoins e
  · rcases not_and_or.mp (fun hends => hok ⟨hrejoins, hends⟩) with hpulls | hcancels
    · push Not at hpulls
      obtain ⟨rfl, hfinished, hstate, hnone, -⟩ := hpulls
      exact h.stuck_pullSettled hfinished hstate fun hreads => by omega
    · push Not at hcancels
      obtain ⟨rfl, hstate, hidle⟩ := hcancels
      exact ⟨⟨rfl, hstate, Or.inl hidle⟩, rfl⟩
  · obtain ⟨hstuck, hreadable, -⟩ := h.stuck_of_not_rejoins hrejoins
    exact ⟨hstuck, hreadable⟩

end IncomingStreamBridge

/-! ### Both collections -/

namespace RWebTransportSessionAdapter

variable {s t u : IncomingState} {e : IncomingEvent} {es fs : List IncomingEvent}

/-- The event meets the condition, if it is one of a bridge. -/
def Meets (ok : IncomingStreamBridge → BridgeEvent → Prop) (s : IncomingState) (e : IncomingEvent) :
    Prop :=
  ∀ k event, e = .bridge k event → ok (s.bridge k) event

/-- What every event of a bridge keeps, and `finish` as well, every run keeps. -/
theorem keeps_step {P : IncomingStreamBridge → Prop}
    (ok : IncomingStreamBridge → BridgeEvent → Prop)
    (hnext : ∀ b event, P b → b.enabled event = true → ok b event → P (b.next event))
    (hcancel : ∀ b, P b → P b.cancel) (hs : program.machine.Step s e t) (hok : Meets ok s e)
    (h : ∀ k, P (s.bridge k)) (k : IncomingStreams) : P (t.bridge k) := by
  obtain ⟨he, rfl⟩ := hs
  change enabled s e = true at he
  change P ((next s e).bridge k)
  cases e with
  | bridge k' event =>
    change P (Function.update s.bridge k' ((s.bridge k').next event) k)
    rw [Function.update_apply]
    split_ifs
    · exact hnext _ event (h k') he (hok k' event rfl)
    · exact h k
  | finish =>
    change P ((finish s).bridge k)
    unfold finish
    split
    · exact h k
    · exact hcancel _ (h k)

/-- One event steps the bridge of its own collection and leaves the others alone. -/
theorem sound_step (hs : program.machine.Step s e t) (h : ∀ k, (s.bridge k).Sound) :
    ∀ k, (t.bridge k).Sound :=
  keeps_step (fun _ _ => True) (fun _ _ h he _ => h.next he) (fun _ h => h.cancel (Or.inl rfl)) hs
    (fun _ _ _ => trivial) h

/-- The close of the session finishes the bridges of all collections, and none is unfinished
again. -/
theorem finished_step (hs : program.machine.Step s e t)
    (h : s.closed = true → ∀ k, (s.bridge k).finished = true) :
    t.closed = true → ∀ k, (t.bridge k).finished = true := by
  intro hclosed
  by_cases hbefore : s.closed = true
  · exact keeps_step (P := fun b => b.finished = true) (fun _ _ => True)
      (fun _ event hf _ _ => IncomingStreamBridge.finished_next hf event)
      (fun b _ => b.finished_cancel) hs (fun _ _ _ => trivial) (h hbefore)
  · obtain ⟨-, rfl⟩ := hs
    change (next s e).closed = true at hclosed
    intro k
    change ((next s e).bridge k).finished = true
    cases e with
    | bridge k' event => exact absurd hclosed hbefore
    | finish =>
      change ((finish s).bridge k).finished = true
      unfold finish
      rw [if_neg hbefore]
      exact (s.bridge k).finished_cancel

/-- What every run keeps. -/
structure Sound (s : IncomingState) : Prop where
  bridges : ∀ k, (s.bridge k).Sound
  finished : s.closed = true → ∀ k, (s.bridge k).finished = true

theorem sound_new : Sound new := ⟨fun _ => IncomingStreamBridge.sound_mapIncomingStream, nofun⟩

/-- Both parts of the invariant, the bridges and the close, are kept by each event. -/
theorem Sound.step (h : Sound s) (hs : program.machine.Step s e t) : Sound t :=
  ⟨sound_step hs h.bridges, finished_step hs h.finished⟩

/-- A property of bridges that the events which meet a condition keep, over a whole run. -/
theorem keeps_run {P : IncomingStreamBridge → Prop}
    (ok : IncomingStreamBridge → BridgeEvent → Prop)
    (hnew : P .mapIncomingStream)
    (hnext : ∀ b event, b.Sound → P b → b.enabled event = true → ok b event → P (b.next event))
    (hcancel : ∀ b, P b → P b.cancel) (h : (program.machine.restrict (Meets ok)).Run new es t) :
    Sound t ∧ ∀ k, P (t.bridge k) := by
  refine h.invariant (P := fun s => Sound s ∧ ∀ k, P (s.bridge k)) ?_ ⟨sound_new, fun _ => hnew⟩
  rintro s e t ⟨hok, hs⟩ ⟨hsound, hP⟩
  refine ⟨hsound.step hs, fun k => ?_⟩
  refine (keeps_step (P := fun b => b.Sound ∧ P b) ok ?_ ?_ hs hok
    (fun k => ⟨hsound.bridges k, hP k⟩) k).2
  · exact fun b event h he hok => ⟨h.1.next he, hnext b event h.1 h.2 he hok⟩
  · exact fun b h => ⟨h.1.cancel (Or.inl rfl), hcancel b h.2⟩

/-- A collection that is left stays as it is until the application calls again. -/
theorem stuck_run (h : (program.machine.restrict fun _ e => e.isCall = false).Run s es t)
    (hsound : Sound s) {k : IncomingStreams} (hstuck : (s.bridge k).Stuck) :
    (t.bridge k).Stuck ∧ (t.bridge k).readable = (s.bridge k).readable := by
  induction h with
  | refl => exact ⟨hstuck, rfl⟩
  | @stepL s u t e es hst _ ih =>
    obtain ⟨hcall, hs⟩ := hst
    have hkept : (u.bridge k).Stuck ∧ (u.bridge k).readable = (s.bridge k).readable := by
      obtain ⟨he, rfl⟩ := hs
      change enabled s e = true at he
      change ((next s e).bridge k).Stuck ∧ ((next s e).bridge k).readable = (s.bridge k).readable
      cases e with
      | bridge k' event =>
        change (Function.update s.bridge k' ((s.bridge k').next event) k).Stuck ∧
          (Function.update s.bridge k' ((s.bridge k').next event) k).readable = _
        rw [Function.update_apply]
        split_ifs with hk
        · subst hk
          exact (hsound.bridges k).stuck_next hstuck he hcall
        · exact ⟨hstuck, rfl⟩
      | finish =>
        change ((finish s).bridge k).Stuck ∧ ((finish s).bridge k).readable = (s.bridge k).readable
        unfold finish
        split
        · exact ⟨hstuck, rfl⟩
        · simp only [IncomingStreamBridge.cancel, hstuck.1, if_true]
          exact ⟨hstuck, trivial⟩
    obtain ⟨hlast, hreadable⟩ := ih (hsound.step hs) hkept.1
    exact ⟨hlast, hreadable.trans hkept.2⟩

/-- A pull that is under way once nothing is left to run waits for a stream. -/
theorem Sound.unpulled (h : Sound t) (hsettled : Settled t) {k : IncomingStreams}
    (hstate : (t.bridge k).readable.state = .readable) : (t.bridge k).pull = .idle := by
  obtain ⟨hclosed, hquiescent⟩ := hsettled
  rcases (hquiescent k).1 with hidle | hreading
  · exact hidle
  · have hsource := (h.bridges k).reading hreading
    exact absurd hsource ((h.bridges k).drained (h.finished hclosed k) hstate)

theorem Sound.unread (h : Sound t) (hsettled : Settled t) {k : IncomingStreams}
    (hserved : (t.bridge k).Served) : (t.bridge k).readable.reads = 0 := by
  by_contra hne
  have hstate : (t.bridge k).readable.state = .readable := by
    by_contra hended
    exact hne ((h.bridges k).direct.ended hended)
  exact hserved hstate (by omega) (h.unpulled hsettled hstate)

/-- The invariant holds in every run of the adapter. -/
theorem sound_run (h : program.machine.Run new es s) : Sound s :=
  h.invariant (P := Sound) (fun _ _ _ hs h => h.step hs) sound_new

theorem not_meets {ok : IncomingStreamBridge → BridgeEvent → Prop} (h : ¬ Meets ok s e)
    (hs : program.machine.Step s e t) : ∃ k event, (s.bridge k).enabled event = true ∧
      t.bridge k = (s.bridge k).next event ∧ ¬ ok (s.bridge k) event := by
  unfold Meets at h
  push Not at h
  obtain ⟨k, event, rfl, hok⟩ := h
  obtain ⟨he, rfl⟩ := hs
  exact ⟨k, event, he, Function.update_self _ _ _, hok⟩

theorem served_mapIncomingStream : IncomingStreamBridge.mapIncomingStream.Served :=
  fun _ hreads => absurd hreads (Nat.lt_irrefl 0)

/-- Once `finish` has run and nothing is left to run, no read waits, where every pull that settles
with reads waiting is followed by one that rejects; any other such pull leaves its reads until the
application calls again. The collections have also ended where no pull or cancellation settles and
leaves them readable. -/
theorem incoming_settled (es : List IncomingEvent) (t : IncomingState) :
    ((program.machine.restrict (Meets (·.Rejoins ·))).Run new es t → Settled t →
      ∀ k, (t.bridge k).readable.reads = 0) ∧
    (∀ fs s e u, program.machine.Run new es s → ¬ Meets (·.Rejoins ·) s e →
      program.machine.Step s e u →
      (program.machine.restrict fun _ e => e.isCall = false).Run u fs t →
      ∃ k, 0 < (t.bridge k).readable.reads) ∧
    ((program.machine.restrict (Meets (·.Ends ·))).Run new es t → Settled t →
      ∀ k, (t.bridge k).readable.reads = 0 ∧ (t.bridge k).readable.state ≠ .readable) ∧
    (∀ fs s e u, program.machine.Run new es s → ¬ Meets (·.Ends ·) s e →
      program.machine.Step s e u →
      (program.machine.restrict fun _ e => e.isCall = false).Run u fs t →
      ∃ k, (t.bridge k).readable.state = .readable) := by
  refine ⟨?_, ?_, ?_, ?_⟩
  · intro h hsettled k
    obtain ⟨hsound, hserved⟩ := keeps_run _ served_mapIncomingStream
      (fun _ _ h hserved he hok => h.served_next hserved he hok) (fun _ h => h.cancel) h
    exact hsound.unread hsettled (hserved k)
  · intro fs s e u h hok hs hrest
    have hsound := sound_run h
    obtain ⟨k, event, he, heq, hnot⟩ := not_meets hok hs
    obtain ⟨hstuck, hreadable, hreads⟩ := (hsound.bridges k).stuck_of_not_rejoins hnot
    rw [← heq] at hstuck hreadable
    obtain ⟨-, hlast⟩ := stuck_run hrest (hsound.step hs) hstuck
    exact ⟨k, by rw [hlast, hreadable]; exact hreads⟩
  · intro h hsettled k
    obtain ⟨hsound, hkept⟩ := keeps_run (P := fun b => b.Served ∧ b.Closing) _
      ⟨served_mapIncomingStream, nofun⟩
      (fun _ _ h hkept he hok => ⟨h.served_next hkept.1 he hok.1, h.closing_next hkept.2 he hok⟩)
      (fun _ h => ⟨h.1.cancel, h.2.cancel⟩) h
    refine ⟨hsound.unread hsettled (hkept k).1, fun hstate => ?_⟩
    have hidle := hsound.unpulled hsettled hstate
    have hcancelling := (hkept k).2 (hsound.finished hsettled.1 k) hstate hidle
    rw [(hsettled.2 k).2] at hcancelling
    cases hcancelling
  · intro fs s e u h hok hs hrest
    have hsound := sound_run h
    obtain ⟨k, event, he, heq, hnot⟩ := not_meets hok hs
    obtain ⟨hstuck, -⟩ := (hsound.bridges k).stuck_of_not_ends he hnot
    rw [← heq] at hstuck
    obtain ⟨⟨-, hstate, -⟩, -⟩ := stuck_run hrest (hsound.step hs) hstuck
    exact ⟨k, hstate⟩

/-- Both controllers have started, and a read waits on each collection. -/
def smallReads : List IncomingEvent :=
  [.bridge .bidirectional .pullSettled, .bridge .unidirectional .pullSettled,
    .bridge .bidirectional .read, .bridge .unidirectional .read]

/-- `finish` runs, and then every continuation. -/
def smallFinish : List IncomingEvent :=
  [.finish, .bridge .bidirectional .pullContinues, .bridge .unidirectional .pullContinues,
    .bridge .bidirectional .pullSettled, .bridge .unidirectional .pullSettled,
    .bridge .bidirectional .cancelSettled, .bridge .unidirectional .cancelSettled]

/-- Reads that wait when the native session closes. -/
theorem incoming_reads_left : ∃ t, program.machine.Run new
    (smallReads ++ [.bridge .bidirectional .nativeClosed, .bridge .unidirectional .nativeClosed] ++
      smallFinish) t ∧
    Settled t ∧ ∀ k, (t.bridge k).readable.reads = 1 ∧ (t.bridge k).readable.state = .readable := by
  obtain ⟨t, hrun, hsettled, hbidirectional, hunidirectional⟩ := program.exists_run
    (smallReads ++ [.bridge .bidirectional .nativeClosed, .bridge .unidirectional .nativeClosed] ++
      smallFinish) new
    (fun t => Settled t ∧
      ((t.bridge .bidirectional).readable.reads = 1 ∧
        (t.bridge .bidirectional).readable.state = .readable) ∧
      (t.bridge .unidirectional).readable.reads = 1 ∧
        (t.bridge .unidirectional).readable.state = .readable) (by decide +kernel)
  refine ⟨t, hrun, hsettled, fun k => ?_⟩
  cases k with
  | bidirectional => exact hbidirectional
  | unidirectional => exact hunidirectional

instance (b : IncomingStreamBridge) (e : BridgeEvent) : Decidable (b.Rejoins e) :=
  inferInstanceAs (Decidable (_ → _))

instance (b : IncomingStreamBridge) (e : BridgeEvent) : Decidable (b.Ends e) :=
  inferInstanceAs (Decidable (_ ∧ _))

theorem meets_bridge {ok : IncomingStreamBridge → BridgeEvent → Prop} {k : IncomingStreams}
    {event : BridgeEvent} : Meets ok s (.bridge k event) ↔ ok (s.bridge k) event :=
  ⟨fun h => h k event rfl, by rintro h k' event' ⟨⟩; exact h⟩

instance (ok : IncomingStreamBridge → BridgeEvent → Prop) [∀ b e, Decidable (ok b e)]
    (s : IncomingState) : (e : IncomingEvent) → Decidable (Meets ok s e)
  | .bridge _ _ => decidable_of_iff _ meets_bridge.symm
  | .finish => .isTrue nofun

/-- Reads that wait when the native session fails. -/
theorem incoming_settled_failed : ∃ t : IncomingState,
    (∀ k, (t.bridge k).readable.state = .errored) ∧
    ∀ k, (t.bridge k).readable.reads = 0 ∧ (t.bridge k).readable.state ≠ .readable := by
  obtain ⟨t, hrun, hsettled, hbidirectional, hunidirectional⟩ :=
    (program.restrict (Meets IncomingStreamBridge.Ends)).exists_run
      (smallReads ++
        [.bridge .bidirectional .nativeFailed, .bridge .unidirectional .nativeFailed] ++
          smallFinish) new
      (fun t => Settled t ∧ (t.bridge .bidirectional).readable.state = .errored ∧
        (t.bridge .unidirectional).readable.state = .errored) (by decide +kernel)
  refine ⟨t, fun k => ?_,
    (incoming_settled _ t).2.2.1 ((program.restrict_run _).mp hrun) hsettled⟩
  cases k with
  | bidirectional => exact hbidirectional
  | unidirectional => exact hunidirectional

end RWebTransportSessionAdapter

end NestWebTransport
