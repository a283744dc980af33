import NestWebTransport.Testing.BytePipe

/-! What is written into a byte pipe is read out of it, in order and within its bounds. -/
namespace NestWebTransport

namespace BoundedBytePipe

variable {o : BytePipeOptions} {s t : BoundedBytePipe} {e : BytePipeEvent} {es : List BytePipeEvent}
  {w : WritableStream PipeChunk} {chunk : PipeChunk} {value : List UInt8}

/-! ### Both sides, whatever the write in flight does -/

/-- The readable holds what its source was given, never more than there is room for, and the pipe
has notified its end when it is over. -/
structure Coherent (o : BytePipeOptions) (s : BoundedBytePipe) : Prop where
  flows : s.readable.Flows
  writable : s.writable.Sound
  pulls : s.pulls.Sound
  bounded : s.readable.stream.queue.length ≤ o.capacity.value
  sized : ∀ chunk ∈ s.readable.supplied, chunk.length ≤ o.maxChunkSize.value
  counted : s.bytes = s.readable.supplied.map List.length
  ordered : s.readable.supplied.map PipeChunk.bytes <+: s.writable.taken
  opened : s.state = .open → s.readable.stream.canCloseOrEnqueue = true
  live : s.state = .open → s.writable.state = .writable
  notified : s.terminalNotified = true ↔ s.state ≠ .open
  terminals : s.terminals = if s.state = .open then 0 else 1

/-- What the end of an open pipe does to it. -/
structure Ends (s t : BoundedBytePipe) : Prop where
  supplied : t.readable.supplied = s.readable.supplied
  writable : s.writable.Halts t.writable
  ended : t.state ≠ .open
  write : (s.capacityWaiter = false ∧ t.write = s.write) ∨
    (s.capacityWaiter = true ∧ (t.write = some .woken ∨ t.write = some .refused))
  waiter : t.capacityWaiter = false

theorem settleCapacityWaiter_cases (s : BoundedBytePipe) (phase : WritePhase) :
    (s.capacityWaiter = false ∧ s.settleCapacityWaiter phase = s) ∨
      (s.capacityWaiter = true ∧
        s.settleCapacityWaiter phase =
          { s with capacityWaiter := false, write := some phase }) := by
  unfold settleCapacityWaiter
  cases hwaiter : s.capacityWaiter with
  | false => exact .inl ⟨rfl, rfl⟩
  | true => exact .inr ⟨rfl, rfl⟩

/-- A pipe ends: its waiter is settled, its readable takes nothing more, and it notifies once. -/
theorem Coherent.finish (h : Coherent o s) (hopen : s.state = .open) {state : PipeState}
    (hstate : state ≠ .open) {phase : WritePhase} (hphase : phase = .woken ∨ phase = .refused)
    {readable : Delivery (List UInt8)} (hflows : readable.Flows)
    (hsupplied : readable.supplied = s.readable.supplied)
    (hbounded : readable.stream.queue.length ≤ o.capacity.value) (hw : w.Sound)
    (hhalts : s.writable.Halts w) :
    Coherent o (notifyTerminal { settleCapacityWaiter { s with state := state } phase with
      readable := readable, writable := w }) ∧
    Ends s (notifyTerminal { settleCapacityWaiter { s with state := state } phase with
      readable := readable, writable := w }) := by
  have hsilent : s.terminalNotified = false := by
    by_contra hnotified
    exact h.notified.mp (by simpa using hnotified) hopen
  have hcounted : s.bytes = readable.supplied.map List.length := hsupplied ▸ h.counted
  have hordered : readable.supplied.map PipeChunk.bytes <+: w.taken := by
    rw [hsupplied, hhalts.taken]
    exact h.ordered
  have hnotifies : s.terminals + 1 = if state = .open then 0 else 1 := by
    rw [if_neg hstate, h.terminals, if_pos hopen]
  rcases settleCapacityWaiter_cases { s with state := state } phase with ⟨hwaiter, heq⟩ |
    ⟨hwaiter, heq⟩
  all_goals
    rw [heq]
    unfold notifyTerminal
    rw [if_neg (by simp [hsilent])]
  · exact ⟨⟨hflows, hw, h.pulls, hbounded, hsupplied ▸ h.sized, hcounted, hordered,
      fun hnow => absurd hnow hstate, fun hnow => absurd hnow hstate,
      ⟨fun _ => hstate, fun _ => rfl⟩, hnotifies⟩,
      ⟨hsupplied, hhalts, hstate, .inl ⟨hwaiter, rfl⟩, hwaiter⟩⟩
  · exact ⟨⟨hflows, hw, h.pulls, hbounded, hsupplied ▸ h.sized, hcounted, hordered,
      fun hnow => absurd hnow hstate, fun hnow => absurd hnow hstate,
      ⟨fun _ => hstate, fun _ => rfl⟩, hnotifies⟩,
      ⟨hsupplied, hhalts, hstate, .inr ⟨hwaiter, hphase.imp (congrArg some) (congrArg some)⟩, rfl⟩⟩

theorem closePipe_of_ended (h : s.state ≠ .open) : s.closePipe = s := if_pos h

theorem abortPipe_of_ended (h : s.state ≠ .open) : s.abortPipe = s := if_pos h

theorem closePipe_eq (hopen : s.state = .open) : s.closePipe =
    notifyTerminal { settleCapacityWaiter { s with state := .closed } .woken with
      readable := s.readable.close, writable := s.writable } := by
  unfold closePipe releaseCapacityWaiter settleCapacityWaiter
  rw [if_neg (not_not.mpr hopen)]
  split <;> rfl

theorem abortPipe_eq (hopen : s.state = .open) (readable : Delivery (List UInt8)) :
    { s with readable := readable }.abortPipe =
      notifyTerminal { settleCapacityWaiter { s with state := .aborted } .refused with
        readable := readable.error, writable := s.writable.error.2 } := by
  unfold abortPipe abortReadable rejectCapacityWaiter settleCapacityWaiter
  rw [if_neg (not_not.mpr hopen)]
  simp only
  split <;> rfl

theorem writableAborted_eq (hopen : s.state = .open) : s.writableAborted =
    notifyTerminal { settleCapacityWaiter { s with state := .aborted } .refused with
      readable := s.readable.error, writable := s.writable } := by
  unfold writableAborted abortReadable rejectCapacityWaiter settleCapacityWaiter
  rw [if_neg (not_not.mpr hopen)]
  simp only
  split <;> rfl

theorem Coherent.closePipe (h : Coherent o s) (hopen : s.state = .open) :
    Coherent o s.closePipe ∧ Ends s s.closePipe := by
  have hclosed : PipeState.closed ≠ .open := by decide
  rw [closePipe_eq hopen]
  exact h.finish hopen hclosed (.inl rfl) h.flows.close rfl
    ((Delivery.length_close_le _).trans h.bounded) h.writable .refl

/-- The abort of a pipe whose readable may have been cancelled just now. -/
theorem Coherent.abortPipe (h : Coherent o s) (hopen : s.state = .open)
    {readable : Delivery (List UInt8)} (hflows : readable.Flows)
    (hsupplied : readable.supplied = s.readable.supplied)
    (hbounded : readable.stream.queue.length ≤ o.capacity.value) :
    Coherent o { s with readable := readable }.abortPipe ∧
      Ends s { s with readable := readable }.abortPipe := by
  have haborted : PipeState.aborted ≠ .open := by decide
  rw [abortPipe_eq hopen]
  exact h.finish hopen haborted (.inr rfl) hflows.error hsupplied
    ((Delivery.length_error_le _).trans hbounded) h.writable.error.1 s.writable.halts_error

theorem Coherent.writableAborted (h : Coherent o s) (hopen : s.state = .open) :
    Coherent o s.writableAborted ∧ Ends s s.writableAborted := by
  have haborted : PipeState.aborted ≠ .open := by decide
  rw [writableAborted_eq hopen]
  exact h.finish hopen haborted (.inr rfl) h.flows.error rfl
    ((Delivery.length_error_le _).trans h.bounded) h.writable .refl

/-! ### The write in flight -/

/-- The write of the sink holds the one chunk that was taken and not enqueued. -/
structure Sound (o : BytePipeOptions) (s : BoundedBytePipe) : Prop extends Coherent o s where
  engaged : s.write = none ↔ s.writable.inFlight = none
  waiter : s.capacityWaiter = true ↔ s.write = some .waiting
  underway : ∀ phase, s.write = some phase → phase.isSettled = false →
    ∃ value, s.writable.inFlight = some (.bytes value) ∧ value.length ≤ o.maxChunkSize.value ∧
      s.writable.taken = s.readable.supplied.map .bytes ++ [.bytes value]
  stored : s.write = some .stored → s.writable.taken = s.readable.supplied.map .bytes
  idle : s.write = none →
    s.writable.state = .writable ∨ s.writable.state = .closed ∨
      s.writable.closeRequest = .inFlight →
    s.writable.taken = s.readable.supplied.map .bytes
  waits : s.write = some .waiting → s.state = .open
  room : s.write = some .ready → s.state = .open →
    s.readable.stream.queue.length < o.capacity.value
  failed : s.write = some .failed ∨ s.write = some .refused → s.state ≠ .open
  closing : s.writable.closeRequest = .inFlight → s.state ≠ .open

theorem sound_new : Sound o new where
  flows := Delivery.flows_new
  writable := WritableStream.sound_new
  pulls := PullLoop.sound_new
  bounded := Nat.zero_le _
  sized _ hchunk := by cases hchunk
  counted := rfl
  ordered := List.prefix_refl _
  opened _ := rfl
  live _ := rfl
  notified := ⟨nofun, fun hne => absurd rfl hne⟩
  terminals := rfl
  engaged := ⟨fun _ => rfl, fun _ => rfl⟩
  waiter := ⟨nofun, nofun⟩
  underway _ hphase := by cases hphase
  stored hstored := by cases hstored
  idle _ _ := rfl
  waits hwaiting := by cases hwaiting
  room hready := by cases hready
  failed hfailed := by rcases hfailed with hfailed | hfailed <;> cases hfailed
  closing hclosing := by cases hclosing

theorem Sound.ends (h : Sound o s) (ht : Coherent o t) (hends : Ends s t) : Sound o t := by
  obtain ⟨hsupplied, hhalts, hended, hwrite, hwaiter⟩ := hends
  have hwriting : s.capacityWaiter = true → s.writable.inFlight ≠ none := fun hwaiting hflight => by
    have hnone := h.engaged.mpr hflight
    rw [h.waiter.mp hwaiting] at hnone
    cases hnone
  have hnot : t.write ≠ some .waiting := by
    intro hwaiting
    rcases hwrite with ⟨hno, heq⟩ | ⟨-, heq | heq⟩
    · exact Bool.false_ne_true (hno.symm.trans (h.waiter.mpr (heq ▸ hwaiting)))
    · exact absurd (heq.symm.trans hwaiting) nofun
    · exact absurd (heq.symm.trans hwaiting) nofun
  refine ⟨ht, ?_, ?_, ?_, ?_, ?_, fun hwaiting => absurd hwaiting hnot,
    fun _ hopen => absurd hopen hended, fun _ => hended, fun _ => hended⟩
  · rw [hhalts.inFlight]
    rcases hwrite with ⟨-, heq⟩ | ⟨hwaiting, heq | heq⟩
    · rw [heq]
      exact h.engaged
    · exact ⟨fun hnone => absurd (heq.symm.trans hnone) nofun,
        fun hnone => absurd hnone (hwriting hwaiting)⟩
    · exact ⟨fun hnone => absurd (heq.symm.trans hnone) nofun,
        fun hnone => absurd hnone (hwriting hwaiting)⟩
  · exact ⟨fun hwaiting => absurd (hwaiter.symm.trans hwaiting) nofun,
      fun hwaiting => absurd hwaiting hnot⟩
  · intro phase hphase hunsettled
    rw [hhalts.inFlight, hhalts.taken, hsupplied]
    rcases hwrite with ⟨-, heq⟩ | ⟨hwaiting, -⟩
    · exact h.underway phase (heq ▸ hphase) hunsettled
    · exact h.underway _ (h.waiter.mp hwaiting) rfl
  · intro hstored
    rw [hhalts.taken, hsupplied]
    rcases hwrite with ⟨-, heq⟩ | ⟨-, heq | heq⟩
    · exact h.stored (heq ▸ hstored)
    · exact absurd (heq.symm.trans hstored) nofun
    · exact absurd (heq.symm.trans hstored) nofun
  · intro hnone hgoes
    rw [hhalts.taken, hsupplied]
    rcases hwrite with ⟨-, heq⟩ | ⟨-, heq | heq⟩
    · refine h.idle (heq ▸ hnone) ?_
      rcases hgoes with hstate | hstate | hclosing
      · rcases hhalts.state with hsame | hsame | hsame
        · exact .inl (hsame ▸ hstate)
        · exact absurd (hsame.symm.trans hstate) nofun
        · exact absurd (hsame.symm.trans hstate) nofun
      · rcases hhalts.state with hsame | hsame | hsame
        · exact .inr (.inl (hsame ▸ hstate))
        · exact absurd (hsame.symm.trans hstate) nofun
        · exact absurd (hsame.symm.trans hstate) nofun
      · exact .inr (.inr (hhalts.closing hclosing))
    · exact absurd (heq.symm.trans hnone) nofun
    · exact absurd (heq.symm.trans hnone) nofun

theorem Sound.closePipe (h : Sound o s) : Sound o s.closePipe := by
  by_cases hopen : s.state = .open
  · obtain ⟨ht, hends⟩ := h.toCoherent.closePipe hopen
    exact h.ends ht hends
  · rw [closePipe_of_ended hopen]
    exact h

theorem Sound.abortPipe (h : Sound o s) : Sound o s.abortPipe := by
  by_cases hopen : s.state = .open
  · obtain ⟨ht, hends⟩ := h.toCoherent.abortPipe hopen h.flows rfl h.bounded
    exact h.ends ht hends
  · rw [abortPipe_of_ended hopen]
    exact h

theorem Sound.writableAborted (h : Sound o s) : Sound o s.writableAborted := by
  by_cases hopen : s.state = .open
  · obtain ⟨ht, hends⟩ := h.toCoherent.writableAborted hopen
    exact h.ends ht hends
  · rw [BoundedBytePipe.writableAborted, if_pos hopen]
    exact h

theorem Sound.cancel (h : Sound o s) : Sound o s.cancel := by
  unfold BoundedBytePipe.cancel
  split_ifs with hstate
  · have hbounded : s.readable.cancel.stream.queue.length ≤ o.capacity.value := by
      unfold Delivery.cancel ReadableStream.cancel
      rw [if_pos hstate, if_pos hstate]
      exact Nat.zero_le _
    have hsupplied : s.readable.cancel.supplied = s.readable.supplied := by
      unfold Delivery.cancel
      rw [if_pos hstate]
    by_cases hopen : s.state = .open
    · obtain ⟨ht, hends⟩ := h.toCoherent.abortPipe hopen h.flows.cancel hsupplied hbounded
      exact h.ends ht hends
    · rw [abortPipe_of_ended (s := { s with readable := s.readable.cancel }) hopen]
      refine ⟨⟨h.flows.cancel, h.writable, h.pulls, hbounded, hsupplied ▸ h.sized,
        hsupplied ▸ h.counted, hsupplied ▸ h.ordered, fun hnow => absurd hnow hopen, h.live,
        h.notified, h.terminals⟩, h.engaged, h.waiter, hsupplied ▸ h.underway,
        hsupplied ▸ h.stored, hsupplied ▸ h.idle, h.waits, fun _ hnow => absurd hnow hopen,
        h.failed, h.closing⟩
  · exact h

/-! ### The sink is called -/

/-- The write of the sink runs and holds its chunk. -/
structure Engaged (o : BytePipeOptions) (s : BoundedBytePipe) (value : List UInt8) : Prop
    extends Coherent o s where
  inFlight : s.writable.inFlight = some (.bytes value)
  small : value.length ≤ o.maxChunkSize.value
  held : s.writable.taken = s.readable.supplied.map .bytes ++ [.bytes value]

theorem Sound.holds (h : Sound o s) {phase : WritePhase} (hphase : s.write = some phase)
    (hunsettled : phase.isSettled = false) : ∃ value, Engaged o s value := by
  obtain ⟨value, hflight, hsmall, hheld⟩ := h.underway phase hphase hunsettled
  exact ⟨value, h.toCoherent, hflight, hsmall, hheld⟩

theorem Coherent.writeCaught (h : Coherent o s) (hflight : s.writable.inFlight ≠ none)
    (hwaiter : s.capacityWaiter = false) : Sound o s.writeCaught := by
  have hcaught : ∀ t, Coherent o t → t.writable.inFlight = s.writable.inFlight →
      t.capacityWaiter = false → t.state ≠ .open → Sound o { t with write := some .failed } := by
    intro t ht hsame hno hended
    refine ⟨⟨ht.flows, ht.writable, ht.pulls, ht.bounded, ht.sized, ht.counted, ht.ordered,
      ht.opened, ht.live, ht.notified, ht.terminals⟩, ⟨nofun, fun hnone => ?_⟩,
      ⟨fun hwaiting => ?_, nofun⟩, fun phase hphase hunsettled => ?_, nofun, nofun, nofun, nofun,
      fun _ => hended, fun _ => hended⟩
    · exact absurd (hsame.symm.trans hnone) hflight
    · exact absurd (hno.symm.trans hwaiting) nofun
    · cases hphase
      cases hunsettled
  unfold BoundedBytePipe.writeCaught
  by_cases hopen : s.state = .open
  · obtain ⟨ht, hends⟩ := h.abortPipe hopen h.flows rfl h.bounded
    exact hcaught _ ht hends.writable.inFlight hends.waiter hends.ended
  · rw [abortPipe_of_ended hopen]
    exact hcaught _ h rfl hwaiter hopen

/-- The write turns to a phase it has yet to go on from. -/
theorem Engaged.turns (h : Engaged o s value) (phase : WritePhase)
    (hunsettled : phase.isSettled = false) (hwaits : phase = .waiting → s.state = .open)
    (hroom : phase = .ready → s.state = .open →
      s.readable.stream.queue.length < o.capacity.value)
    (hrefused : phase = .refused → s.state ≠ .open) :
    Sound o { s with write := some phase, capacityWaiter := phase == .waiting } := by
  refine ⟨⟨h.flows, h.writable, h.pulls, h.bounded, h.sized, h.counted, h.ordered, h.opened,
    h.live, h.notified, h.terminals⟩, ⟨nofun, fun hnone => ?_⟩, ?_, fun phase' hphase _ => ?_,
    fun hstored => ?_, nofun, fun hwaiting => ?_, fun hready => ?_, fun hfailed => ?_,
    fun hclosing => absurd hclosing (h.writable.closeRequest_ne h.inFlight)⟩
  · exact absurd (h.inFlight.symm.trans hnone) nofun
  · change (phase == .waiting) = true ↔ some phase = some .waiting
    rw [beq_iff_eq, Option.some_inj]
  · exact ⟨value, h.inFlight, h.small, h.held⟩
  · cases hstored
    cases hunsettled
  · exact hwaits (Option.some_inj.mp hwaiting)
  · exact hroom (Option.some_inj.mp hready)
  · rcases hfailed with hfailed | hrefusal
    · cases hfailed
      cases hunsettled
    · exact hrefused (Option.some_inj.mp hrefusal)

theorem length_lt_of_hasCapacity (h : s.hasCapacity o = true) :
    s.readable.stream.queue.length < o.capacity.value :=
  of_decide_eq_true (Bool.and_eq_true_iff.mp h).2

theorem Engaged.waitForCapacity (h : Engaged o s value) (hwaiter : s.capacityWaiter = false) :
    Sound o (s.waitForCapacity o) := by
  unfold BoundedBytePipe.waitForCapacity
  split_ifs with hended hroom
  · have hturns := h.turns .refused rfl nofun nofun fun _ => hended
    rwa [show (WritePhase.refused == .waiting) = s.capacityWaiter from hwaiter.symm] at hturns
  · have hturns := h.turns .ready rfl nofun
      (fun _ _ => length_lt_of_hasCapacity hroom) nofun
    rwa [show (WritePhase.ready == .waiting) = s.capacityWaiter from hwaiter.symm] at hturns
  · exact h.turns .waiting rfl (fun _ => not_not.mp hended) nofun nofun

theorem Sound.pulled (h : Sound o s) {result : Bool × PullLoop} (hresult : result.2.Sound) :
    Sound o (s.pulled result) := by
  have hpulls : Sound o { s with pulls := result.2 } :=
    ⟨⟨h.flows, h.writable, hresult, h.bounded, h.sized, h.counted, h.ordered, h.opened, h.live,
      h.notified, h.terminals⟩, h.engaged, h.waiter, h.underway, h.stored, h.idle, h.waits, h.room,
      h.failed, h.closing⟩
  unfold BoundedBytePipe.pulled
  simp only
  split_ifs
  · rcases settleCapacityWaiter_cases { s with pulls := result.2 } .woken with ⟨-, heq⟩ |
      ⟨hwaiter, heq⟩
    · rw [releaseCapacityWaiter, heq]
      exact hpulls
    · rw [releaseCapacityWaiter, heq]
      obtain ⟨value, hengaged⟩ := hpulls.holds (hpulls.waiter.mp hwaiter) rfl
      exact hengaged.turns .woken rfl nofun nofun nofun
  · exact hpulls

theorem Sound.withRead (h : Sound o s) : Sound o { s with readable := s.readable.read } := by
  have hsupplied : s.readable.read.supplied = s.readable.supplied := Delivery.supplied_read
  have hlength := s.readable.length_read_le
  refine ⟨⟨h.flows.read, h.writable, h.pulls, hlength.trans h.bounded, hsupplied ▸ h.sized,
    hsupplied ▸ h.counted, hsupplied ▸ h.ordered, fun hopen => ?_, h.live, h.notified,
    h.terminals⟩, h.engaged, h.waiter, hsupplied ▸ h.underway, hsupplied ▸ h.stored,
    hsupplied ▸ h.idle, h.waits, fun hready hopen => hlength.trans_lt (h.room hready hopen),
    h.failed, h.closing⟩
  change s.readable.read.stream.canCloseOrEnqueue = true
  rw [Delivery.stream_read, ReadableStream.read_canCloseOrEnqueue]
  exact h.opened hopen

theorem Sound.read (h : Sound o s) : Sound o (s.read o) := by
  unfold BoundedBytePipe.read
  simp only
  split_ifs
  · exact h.withRead.pulled h.pulls.callPullIfNeeded
  · exact h.withRead

theorem pulled_of_unwaited (h : s.capacityWaiter = false) (result : Bool × PullLoop) :
    s.pulled result = { s with pulls := result.2 } := by
  unfold pulled releaseCapacityWaiter settleCapacityWaiter
  simp [h]

theorem Engaged.enqueueChunk (h : Engaged o s value) (hwaiter : s.capacityWaiter = false)
    (hroom : s.state = .open → s.readable.stream.queue.length < o.capacity.value) :
    Sound o (s.enqueueChunk o value) := by
  have hwrites : s.writable.inFlight ≠ none := by
    rw [h.inFlight]
    nofun
  unfold BoundedBytePipe.enqueueChunk
  split_ifs with hcan
  · obtain ⟨hopen, hcan⟩ := hcan
    have hsupplied := Delivery.supplied_enqueue hcan value
    simp only [callPullIfNeeded]
    rw [pulled_of_unwaited (s := { s with readable := s.readable.enqueue value }) hwaiter]
    have hheld : s.writable.taken = (s.readable.enqueue value).supplied.map .bytes := by
      rw [hsupplied, List.map_append]
      exact h.held
    refine ⟨⟨h.flows.enqueue value, h.writable, h.pulls.callPullIfNeeded, ?_, ?_, ?_, ?_,
      fun _ => ?_, h.live, h.notified, h.terminals⟩, ⟨nofun, fun hnone => absurd hnone hwrites⟩,
      ⟨fun hwaiting => ?_, nofun⟩, fun phase hphase hunsettled => ?_, fun _ => hheld, nofun, nofun,
      nofun, nofun, fun hclosing => absurd hclosing (h.writable.closeRequest_ne h.inFlight)⟩
    · change (s.readable.enqueue value).stream.queue.length ≤ o.capacity.value
      rw [Delivery.stream_enqueue]
      have hroom := hroom hopen
      unfold ReadableStream.enqueue
      split_ifs
      · exact h.bounded
      · rw [List.length_append, List.length_singleton]
        exact hroom
    · intro chunk hchunk
      change chunk ∈ (s.readable.enqueue value).supplied at hchunk
      rw [hsupplied, List.mem_append, List.mem_singleton] at hchunk
      rcases hchunk with hold | rfl
      · exact h.sized chunk hold
      · exact h.small
    · change s.bytes ++ [value.length] = (s.readable.enqueue value).supplied.map List.length
      rw [hsupplied, List.map_append, h.counted]
      rfl
    · exact hheld ▸ List.prefix_refl _
    · change (s.readable.enqueue value).stream.canCloseOrEnqueue = true
      rw [Delivery.stream_enqueue, ReadableStream.enqueue_canCloseOrEnqueue]
      exact hcan
    · exact absurd (hwaiter.symm.trans hwaiting) nofun
    · cases hphase
      cases hunsettled
  · exact h.writeCaught hwrites hwaiter

theorem Sound.resume (h : Sound o s) (hresumes : s.write.any (·.resumes) = true) :
    Sound o (s.resume o) := by
  unfold BoundedBytePipe.resume
  cases hphase : s.write with
  | none =>
    rw [hphase] at hresumes
    cases hresumes
  | some phase =>
    have hresumes : phase.resumes = true := by
      rw [hphase] at hresumes
      exact hresumes
    have hunwaited : phase ≠ .waiting → s.capacityWaiter = false := by
      intro hne
      by_contra hwaiter
      rw [Bool.not_eq_false] at hwaiter
      exact hne (Option.some_inj.mp (hphase.symm.trans (h.waiter.mp hwaiter)))
    cases phase with
    | waiting => cases hresumes
    | stored => cases hresumes
    | failed => cases hresumes
    | woken =>
      obtain ⟨value, hengaged⟩ := h.holds hphase rfl
      exact hengaged.waitForCapacity (hunwaited nofun)
    | ready =>
      obtain ⟨value, hengaged⟩ := h.holds hphase rfl
      rw [hengaged.inFlight]
      exact hengaged.enqueueChunk (hunwaited nofun) (h.room hphase)
    | refused =>
      obtain ⟨value, hengaged⟩ := h.holds hphase rfl
      refine hengaged.writeCaught ?_ (hunwaited nofun)
      rw [hengaged.inFlight]
      nofun

/-- The writable has taken a step that calls nothing, or the abort of a sink that is gone. -/
theorem Sound.halts (h : Sound o s) (hw : w.Sound) (hhalts : s.writable.Halts w)
    (hlive : s.state = .open → w.state = .writable) : Sound o { s with writable := w } := by
  obtain ⟨hflight, htaken, hclosing, hstate⟩ := hhalts
  refine ⟨⟨h.flows, hw, h.pulls, h.bounded, h.sized, h.counted, htaken.symm ▸ h.ordered, h.opened,
    hlive, h.notified, h.terminals⟩, hflight.symm ▸ h.engaged, h.waiter,
    hflight.symm ▸ htaken.symm ▸ h.underway, htaken.symm ▸ h.stored, fun hnone hgoes => ?_, h.waits,
    h.room, h.failed, fun hclosed => h.closing (hclosing hclosed)⟩
  rw [htaken]
  refine h.idle hnone ?_
  rcases hstate with hsame | hsame | hsame
  · exact hgoes.imp (hsame ▸ ·) (Or.imp (hsame ▸ ·) hclosing)
  · rcases hgoes with hgoes | hgoes | hgoes
    · exact absurd (hsame.symm.trans hgoes) nofun
    · exact absurd (hsame.symm.trans hgoes) nofun
    · exact .inr (.inr (hclosing hgoes))
  · rcases hgoes with hgoes | hgoes | hgoes
    · exact absurd (hsame.symm.trans hgoes) nofun
    · exact absurd (hsame.symm.trans hgoes) nofun
    · exact .inr (.inr (hclosing hgoes))

/-- No write runs. -/
theorem Coherent.resting (h : Coherent o s) (hwrite : s.write = none)
    (hwaiter : s.capacityWaiter = false) (hflight : s.writable.inFlight = none)
    (hheld : s.writable.state = .writable ∨ s.writable.state = .closed ∨
      s.writable.closeRequest = .inFlight → s.writable.taken = s.readable.supplied.map .bytes)
    (hclosing : s.writable.closeRequest = .inFlight → s.state ≠ .open) : Sound o s := by
  have hnone : ∀ phase, s.write ≠ some phase := fun phase hphase => by
    rw [hwrite] at hphase
    cases hphase
  exact ⟨h, ⟨fun _ => hflight, fun _ => hwrite⟩,
    ⟨fun hwaiting => absurd (hwaiter.symm.trans hwaiting) nofun, fun hw => absurd hw (hnone _)⟩,
    fun phase hphase => absurd hphase (hnone phase), fun hw => absurd hw (hnone _), fun _ => hheld,
    fun hw => absurd hw (hnone _), fun hw => absurd hw (hnone _),
    fun hw => hw.elim (absurd · (hnone _)) (absurd · (hnone _)), hclosing⟩

theorem Sound.unwaited (h : Sound o s) (hwrite : s.write = none) : s.capacityWaiter = false := by
  by_contra hwaiter
  rw [Bool.not_eq_false] at hwaiter
  exact absurd (hwrite.symm.trans (h.waiter.mp hwaiter)) nofun

theorem Coherent.withWritable (h : Coherent o s) (hw : w.Sound)
    (htaken : s.writable.taken <+: w.taken) (hlive : s.state = .open → w.state = .writable) :
    Coherent o { s with writable := w } :=
  ⟨h.flows, hw, h.pulls, h.bounded, h.sized, h.counted, h.ordered.trans htaken, h.opened, hlive,
    h.notified, h.terminals⟩

/-- The sink is called once nothing is in flight. -/
theorem Sound.turn (h : Sound o s) (hw : w.Sound) {call : Option (SinkCall PipeChunk)}
    (hturns : s.writable.Turns call w) (hlive : s.state = .open → w.state = .writable) :
    Sound o (s.turn o (call, w)) := by
  cases hturns with
  | quiet hflight htaken hclosing hstate =>
    exact h.halts hw ⟨hflight, htaken, hclosing.mp, hstate⟩ hlive
  | aborts hflight htaken hclosing hclosing' hstate =>
    have hgone : s.writable.Halts w :=
      ⟨hflight, htaken, fun hnow => absurd (hclosing'.symm.trans hnow) nofun, .inr (.inr hstate)⟩
    exact (h.halts hw hgone hlive).abortPipe
  | closes hflight hflight' htaken hclosing hstate =>
    have hwrite := h.engaged.mpr hflight
    have hcoherent := h.toCoherent.withWritable hw (htaken ▸ List.prefix_refl _) hlive
    have hheld : w.taken = s.readable.supplied.map .bytes :=
      htaken.trans (h.idle hwrite (.inl hstate.1))
    change Sound o { s with writable := w }.closePipe
    by_cases hopen : s.state = .open
    · obtain ⟨ht, hsupplied, hhalts, hended, hwrites, hwaiter⟩ := hcoherent.closePipe hopen
      refine ht.resting ?_ hwaiter (hhalts.inFlight.trans hflight') ?_ fun _ => hended
      · rcases hwrites with ⟨-, heq⟩ | ⟨hwaiting, -⟩
        · exact heq.trans hwrite
        · exact absurd ((h.unwaited hwrite).symm.trans hwaiting) nofun
      · rw [hsupplied, hhalts.taken]
        exact fun _ => hheld
    · rw [closePipe_of_ended (s := { s with writable := w }) hopen]
      exact hcoherent.resting hwrite (h.unwaited hwrite) hflight' (fun _ => hheld) fun _ => hopen
  | @writes _ chunk hflight hflight' htaken hstate =>
    have hwrite := h.engaged.mpr hflight
    have hcoherent := h.toCoherent.withWritable hw (htaken ▸ List.prefix_append _ _) hlive
    have hwrites : w.inFlight ≠ none := by
      rw [hflight']
      nofun
    change Sound o ({ s with writable := w }.beginWrite o chunk)
    unfold BoundedBytePipe.beginWrite
    cases chunk with
    | other => exact hcoherent.writeCaught hwrites (h.unwaited hwrite)
    | bytes value =>
      simp only
      split_ifs with hlarge
      · exact hcoherent.writeCaught hwrites (h.unwaited hwrite)
      · have hheld : w.taken = s.readable.supplied.map .bytes ++ [.bytes value] := by
          rw [htaken, h.idle hwrite (.inl hstate.1)]
        exact Engaged.waitForCapacity ⟨hcoherent, hflight', not_lt.mp hlarge, hheld⟩
          (h.unwaited hwrite)

theorem Coherent.landed (h : Coherent o s) (hflight : s.writable.inFlight = some chunk) :
    Coherent o { s with write := none, writable := { s.writable with inFlight := none } } :=
  ⟨h.flows, h.writable.landed hflight, h.pulls, h.bounded, h.sized, h.counted, h.ordered,
    h.opened, h.live, h.notified, h.terminals⟩

theorem Sound.landed (h : Sound o s) (hflight : s.writable.inFlight = some chunk)
    (hstored : s.write = some .stored) :
    Sound o { s with write := none, writable := { s.writable with inFlight := none } } := by
  have hwaiter : s.capacityWaiter = false := by
    by_contra hwaiter
    rw [Bool.not_eq_false] at hwaiter
    exact absurd (hstored.symm.trans (h.waiter.mp hwaiter)) nofun
  exact (h.toCoherent.landed hflight).resting rfl hwaiter rfl (fun _ => h.stored hstored)
    fun hnow => absurd hnow (h.writable.closeRequest_ne hflight)

theorem Sound.writeSettled (h : Sound o s) (hsettled : s.write.any (·.isSettled) = true) :
    Sound o (s.writeSettled o) := by
  obtain ⟨phase, hphase, hsettled⟩ := (Option.any_eq_true _ _).mp hsettled
  obtain ⟨chunk, hflight⟩ : ∃ chunk, s.writable.inFlight = some chunk := by
    cases hflight : s.writable.inFlight with
    | none => exact absurd (hphase.symm.trans (h.engaged.mpr hflight)) nofun
    | some chunk => exact ⟨chunk, rfl⟩
  have hclosing := h.writable.closeRequest_ne hflight
  have hwaiter : s.capacityWaiter = false := by
    by_contra hwaiter
    rw [Bool.not_eq_false] at hwaiter
    cases Option.some_inj.mp (hphase.symm.trans (h.waiter.mp hwaiter))
    cases hsettled
  have hlanded := h.toCoherent.landed hflight
  unfold BoundedBytePipe.writeSettled
  cases phase with
  | waiting => cases hsettled
  | woken => cases hsettled
  | refused => cases hsettled
  | ready => cases hsettled
  | stored =>
    have hbase := h.landed hflight hphase
    rw [hphase]
    obtain ⟨hw, hturns⟩ := h.writable.writeSettled hflight true
    exact hbase.turn hw hturns fun hopen => WritableStream.writeSettled_state (h.live hopen)
  | failed =>
    rw [hphase]
    obtain ⟨hhalts, hstate, hcall⟩ := s.writable.halts_writeSettled
    have hw := (h.writable.writeSettled hflight false).1
    have hended := h.failed (.inl hphase)
    have hafter : Sound o { s with
        write := none, writable := (s.writable.writeSettled false).2 } := by
      refine Coherent.resting (hlanded.withWritable hw (hhalts.taken ▸ List.prefix_refl _)
        fun hopen => absurd hopen hended) rfl hwaiter hhalts.inFlight ?_ fun _ => hended
      rintro (hnow | hnow | hnow)
      · rcases hstate with heq | heq <;> exact absurd (heq.symm.trans hnow) nofun
      · rcases hstate with heq | heq <;> exact absurd (heq.symm.trans hnow) nofun
      · exact absurd (hhalts.closing hnow) hclosing
    change Sound o (perform o _ (s.writable.writeSettled false).1)
    rcases hcall with hcall | hcall
    · rw [hcall]
      exact hafter
    · rw [hcall]
      exact hafter.abortPipe

theorem Sound.closeSettled (h : Sound o s) (hclosing : s.writable.closeRequest = .inFlight) :
    Sound o { s with writable := s.writable.closeSettled } := by
  obtain ⟨-, -, -, hflight, -⟩ := h.writable.closing hclosing
  have hwrite := h.engaged.mpr hflight
  have hended := h.closing hclosing
  exact Coherent.resting (h.toCoherent.withWritable (h.writable.closeSettled hclosing)
    (List.prefix_refl _) fun hopen => absurd hopen hended) hwrite (h.unwaited hwrite) hflight
    (fun _ => h.idle hwrite (.inr (.inr hclosing))) fun _ => hended

theorem Sound.abortWriter (h : Sound o s) : Sound o (s.abortWriter o) := by
  unfold BoundedBytePipe.abortWriter
  split_ifs
  · exact h
  · have haborted := h.writableAborted
    have hended : s.writableAborted.state ≠ .open := by
      by_cases hopen : s.state = .open
      · exact (h.toCoherent.writableAborted hopen).2.ended
      · rw [BoundedBytePipe.writableAborted, if_pos hopen]
        exact hopen
    obtain ⟨hw, hturns⟩ := haborted.writable.abort
    exact haborted.turn hw hturns fun hopen => absurd hopen hended

/-- One case per event of the pipe; bytes move from the writable's queue to the readable's. -/
theorem Sound.next (h : Sound o s) (he : s.enabled e = true) : Sound o (s.next o e) := by
  cases e with
  | write chunk =>
    obtain ⟨hw, hturns⟩ := h.writable.write chunk
    exact h.turn hw hturns fun hopen => WritableStream.write_state (h.live hopen) chunk
  | closeWriter =>
    obtain ⟨hw, hturns⟩ := h.writable.close
    exact h.turn hw hturns fun hopen => WritableStream.close_state (h.live hopen)
  | abortWriter => exact h.abortWriter
  | read => exact h.read
  | cancel => exact h.cancel
  | close => exact h.closePipe
  | abort => exact h.abortPipe
  | readableStarted => exact h.pulled h.pulls.start
  | writableStarted =>
    obtain ⟨hw, hturns⟩ := h.writable.start (by simpa [enabled] using he)
    exact h.turn hw hturns fun hopen => WritableStream.start_state (h.live hopen)
  | pullSettled => exact h.pulled (h.pulls.settle he)
  | resumed => exact h.resume he
  | writeSettled => exact h.writeSettled he
  | closeSettled => exact h.closeSettled (beq_iff_eq.mp he)

/-- Soundness is kept by the steps of the machine. -/
theorem Sound.step (h : Sound o s) (hs : (machine o).Step s e t) : Sound o t := by
  obtain ⟨he, rfl⟩ := hs
  exact h.next he

/-- Every reachable pipe is sound. -/
theorem sound_of_reachable (h : (machine o).Reachable s) : Sound o s := by
  refine h.invariant ?_ fun _ _ _ hs h => h.step hs
  rintro _ rfl
  exact sound_new

/-! ### What reaches the reader -/

/-- All that was accepted has been taken once the writable has closed. -/
theorem Sound.closed_supplied (h : Sound o s) (hclosed : s.writable.state = .closed) :
    s.readable.supplied.map .bytes = s.writable.accepted := by
  have hwrite : s.write = none := by
    rw [h.engaged]
    cases hflight : s.writable.inFlight with
    | none => rfl
    | some chunk =>
      obtain ⟨-, -, hstate | hstate⟩ := h.writable.inFlight chunk hflight
      · exact absurd (hclosed.symm.trans hstate) nofun
      · exact absurd (hclosed.symm.trans hstate) nofun
  rw [(h.writable.closed hclosed).1, h.idle hwrite (.inr (.inl hclosed))]

/-- In an open pipe the sink holds at most one chunk between its two queues. -/
theorem Sound.conserves (h : Sound o s) (hopen : s.state = .open) :
    ∃ held : List PipeChunk, held.length ≤ 1 ∧ s.writable.accepted =
      (s.readable.delivered ++ s.readable.stream.queue).map .bytes ++ held ++ s.writable.queue := by
  have hstate := ReadableStream.state_of_canCloseOrEnqueue (h.opened hopen)
  have hlive := h.live hopen
  rw [← h.flows.whole hstate, h.writable.whole hlive]
  cases hwrite : s.write with
  | none => exact ⟨[], Nat.zero_le 1, by rw [h.idle hwrite (.inl hlive), List.append_nil]⟩
  | some phase =>
    cases hsettled : phase.isSettled with
    | false =>
      obtain ⟨value, -, -, hheld⟩ := h.underway phase hwrite hsettled
      exact ⟨[.bytes value], Nat.le_refl 1, by rw [hheld]⟩
    | true =>
      cases phase with
      | stored => exact ⟨[], Nat.zero_le 1, by rw [h.stored hwrite, List.append_nil]⟩
      | failed => exact absurd hopen (h.failed (.inl hwrite))
      | _ => cases hsettled

/-- Whatever the two ends do and however their promises settle, the reader gets what was written, in
order and within the bounds of the pipe, and all of it when both ends have closed. -/
theorem delivers_written (h : (machine o).Reachable s) :
    s.readable.delivered.map .bytes <+: s.writable.accepted ∧
    s.readable.stream.queue.length ≤ o.capacity.value ∧
    (∀ chunk ∈ s.readable.supplied, chunk.length ≤ o.maxChunkSize.value) ∧
    s.bytes = s.readable.supplied.map List.length ∧
    (s.terminals = if s.state = .open then 0 else 1) ∧
    (s.state = .open → ∃ held : List PipeChunk, held.length ≤ 1 ∧ s.writable.accepted =
      (s.readable.delivered ++ s.readable.stream.queue).map .bytes ++ held ++ s.writable.queue) ∧
    (s.writable.state = .closed → s.readable.stream.state = .closed → s.readable.cancelled = false →
      s.readable.delivered.map .bytes = s.writable.accepted) := by
  have hs := sound_of_reachable h
  refine ⟨?_, hs.bounded, hs.sized, hs.counted, hs.terminals, hs.conserves,
    fun hclosed hend hkept =>
    ?_⟩
  · have hdelivered := hs.flows.ordered.map PipeChunk.bytes
    exact hdelivered.trans (hs.ordered.trans hs.writable.ordered)
  · rw [hs.flows.drained hend hkept]
    exact hs.closed_supplied hclosed

def smallPipe : BytePipeOptions := ⟨.one, .two⟩

/-- Two chunks and a close; the second chunk has to wait for the first read. -/
def gracefulRun : List BytePipeEvent :=
  [.readableStarted, .pullSettled, .writableStarted, .write (.bytes [1]), .write (.bytes [2]),
    .closeWriter, .resumed, .writeSettled, .read, .pullSettled, .resumed, .resumed, .writeSettled,
    .closeSettled, .read]

theorem delivers_written_gracefully : ∃ s, (machine smallPipe).Reachable s ∧
    s.readable.delivered.length = 2 ∧ s.readable.delivered.map .bytes = s.writable.accepted := by
  obtain ⟨s, hrun, hclosed, hend, hkept, htwo⟩ := (program smallPipe).exists_run gracefulRun new
    (fun s => s.writable.state = .closed ∧ s.readable.stream.state = .closed ∧
      s.readable.cancelled = false ∧ s.readable.delivered.length = 2) (by decide +kernel)
  have hreachable : (machine smallPipe).Reachable s := ⟨new, gracefulRun, rfl, hrun⟩
  obtain ⟨-, -, -, -, -, -, hall⟩ := delivers_written hreachable
  exact ⟨s, hreachable, htwo, hall hclosed hend hkept⟩

end BoundedBytePipe

end NestWebTransport
