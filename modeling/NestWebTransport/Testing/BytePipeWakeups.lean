import NestWebTransport.Foundation.Quiescence
import NestWebTransport.Testing.BytePipeDelivery

/-! A byte pipe left to itself comes to rest, and rests only for want of room or of chunks. -/
namespace NestWebTransport

namespace BytePipeEvent

/-- The promises of the streams and of the sink, which settle by themselves. -/
def isInternal : BytePipeEvent → Bool
  | .readableStarted | .writableStarted | .pullSettled | .resumed | .writeSettled | .closeSettled =>
    true
  | _ => false

end BytePipeEvent

namespace BoundedBytePipe

variable {o : BytePipeOptions} {s t : BoundedBytePipe} {e : BytePipeEvent} {es : List BytePipeEvent}
  {w : WritableStream PipeChunk} {chunk : PipeChunk} {value : List UInt8} {phase : WritePhase}

/-! ### No wake-up is lost -/

/-- A write waits for room in an open pipe only behind a full readable, or while the pull loop has
yet to look again. -/
def Wakes (o : BytePipeOptions) (s : BoundedBytePipe) : Prop :=
  s.write = some .waiting →
    o.capacity.value ≤ s.readable.stream.queue.length ∨ s.pulls.returns

theorem Wakes.of_write (h : s.write ≠ some .waiting) : Wakes o s :=
  fun hwaiting => absurd hwaiting h

theorem write_notifyTerminal : s.notifyTerminal.write = s.write := by
  unfold notifyTerminal
  split_ifs <;> rfl

/-- A settled waiter leaves no write waiting. -/
theorem settleCapacityWaiter_write (hwaiter : s.write = some .waiting → s.capacityWaiter = true)
    (hphase : phase ≠ .waiting) : (s.settleCapacityWaiter phase).write ≠ some .waiting := by
  rcases s.settleCapacityWaiter_cases phase with ⟨hno, heq⟩ | ⟨-, heq⟩
  · rw [heq]
    intro hwaiting
    exact Bool.false_ne_true (hno.symm.trans (hwaiter hwaiting))
  · rw [heq]
    exact fun hwaiting => hphase (Option.some_inj.mp hwaiting)

theorem Wakes.closePipe (h : Wakes o s)
    (hwaiter : s.write = some .waiting → s.capacityWaiter = true) : Wakes o s.closePipe := by
  by_cases hopen : s.state = .open
  · refine .of_write ?_
    rw [closePipe_eq hopen, write_notifyTerminal]
    exact settleCapacityWaiter_write (s := { s with state := .closed }) hwaiter nofun
  · rw [closePipe_of_ended hopen]
    exact h

theorem Wakes.abortPipe (h : Wakes o s)
    (hwaiter : s.write = some .waiting → s.capacityWaiter = true) : Wakes o s.abortPipe := by
  by_cases hopen : s.state = .open
  · refine .of_write ?_
    have heq := abortPipe_eq hopen s.readable
    rw [heq, write_notifyTerminal]
    exact settleCapacityWaiter_write (s := { s with state := .aborted }) hwaiter nofun
  · rw [abortPipe_of_ended hopen]
    exact h

theorem Wakes.writableAborted (h : Wakes o s)
    (hwaiter : s.write = some .waiting → s.capacityWaiter = true) : Wakes o s.writableAborted := by
  by_cases hopen : s.state = .open
  · refine .of_write ?_
    rw [writableAborted_eq hopen, write_notifyTerminal]
    exact settleCapacityWaiter_write (s := { s with state := .aborted }) hwaiter nofun
  · rw [BoundedBytePipe.writableAborted, if_pos hopen]
    exact h

theorem wakes_writeCaught (o : BytePipeOptions) (s : BoundedBytePipe) : Wakes o s.writeCaught :=
  .of_write nofun

theorem wakes_waitForCapacity (hopened : s.state = .open → s.readable.stream.state = .readable) :
    Wakes o (s.waitForCapacity o) := by
  unfold BoundedBytePipe.waitForCapacity
  split_ifs with hended hroom
  · exact .of_write nofun
  · exact .of_write nofun
  · intro _
    left
    unfold hasCapacity at hroom
    rw [hopened (not_not.mp hended)] at hroom
    simpa using hroom

theorem wakes_enqueueChunk (o : BytePipeOptions) (s : BoundedBytePipe) (value : List UInt8) :
    Wakes o (s.enqueueChunk o value) := by
  unfold BoundedBytePipe.enqueueChunk
  split_ifs
  · exact .of_write nofun
  · exact wakes_writeCaught o s

theorem wakes_resume (hopened : s.state = .open → s.readable.stream.state = .readable) :
    Wakes o (s.resume o) := by
  unfold BoundedBytePipe.resume
  split
  · exact wakes_waitForCapacity hopened
  · exact wakes_enqueueChunk o s _
  · exact wakes_writeCaught o s

theorem wakes_beginWrite (hopened : s.state = .open → s.readable.stream.state = .readable)
    (chunk : PipeChunk) : Wakes o (s.beginWrite o chunk) := by
  unfold BoundedBytePipe.beginWrite
  split
  · exact wakes_writeCaught o s
  · split_ifs
    · exact wakes_writeCaught o s
    · exact wakes_waitForCapacity hopened

/-- A pull releases the write that waits. -/
theorem Wakes.pulled (hwaiter : s.write = some .waiting → s.capacityWaiter = true)
    {result : Bool × PullLoop} (hresult : s.write = some .waiting → result.1 = true ∨
      o.capacity.value ≤ s.readable.stream.queue.length ∨ result.2.returns) :
    Wakes o (s.pulled result) := by
  unfold BoundedBytePipe.pulled
  simp only
  split_ifs with hcalled
  · exact .of_write (settleCapacityWaiter_write (s := { s with pulls := result.2 }) hwaiter nofun)
  · exact fun hwaiting => (hresult hwaiting).resolve_left hcalled

theorem Sound.waits_open (h : Sound o s) (hwaiting : s.write = some .waiting) :
    s.readable.stream.canCloseOrEnqueue = true := h.opened (h.waits hwaiting)

/-- Where there is room, the stream wants to be filled. -/
theorem shouldCallPull_of_room (hcan : s.readable.stream.canCloseOrEnqueue = true)
    (hroom : ¬ o.capacity.value ≤ s.readable.stream.queue.length) :
    s.shouldCallPull o = true := by
  unfold BoundedBytePipe.shouldCallPull ReadableStream.shouldCallPull
  rw [hcan, Bool.true_and, Bool.or_eq_true]
  exact .inr (decide_eq_true (not_le.mp hroom))

theorem Wakes.callPullIfNeeded (h : Sound o s) : Wakes o (s.callPullIfNeeded o) := by
  refine .pulled h.waiter.mpr fun hwaiting => ?_
  by_cases hfull : o.capacity.value ≤ s.readable.stream.queue.length
  · exact .inr (.inl hfull)
  · rw [shouldCallPull_of_room (h.waits_open hwaiting) hfull]
    exact PullLoop.callPullIfNeeded_wanted.imp_right .inr

theorem Sound.opened_state (h : Sound o s) (hopen : s.state = .open) :
    s.readable.stream.state = .readable :=
  ReadableStream.state_of_canCloseOrEnqueue (h.opened hopen)

theorem Wakes.start (h : Sound o s) :
    Wakes o (s.pulled (s.pulls.start (s.shouldCallPull o))) := by
  refine .pulled h.waiter.mpr fun hwaiting => ?_
  by_cases hfull : o.capacity.value ≤ s.readable.stream.queue.length
  · exact .inr (.inl hfull)
  · rw [shouldCallPull_of_room (h.waits_open hwaiting) hfull]
    exact PullLoop.callPullIfNeeded_wanted.imp_right .inr

theorem Wakes.settle (h : Sound o s) (hw : Wakes o s) (hpulling : s.pulls.pulling = true) :
    Wakes o (s.pulled (s.pulls.settle (s.shouldCallPull o))) := by
  refine .pulled h.waiter.mpr fun hwaiting => ?_
  by_cases hfull : o.capacity.value ≤ s.readable.stream.queue.length
  · exact .inr (.inl hfull)
  · rw [shouldCallPull_of_room (h.waits_open hwaiting) hfull]
    have hreturns := (hw hwaiting).resolve_left hfull
    exact (PullLoop.settle_wanted h.pulls hpulling hreturns).imp_right .inr

theorem Wakes.read (h : Sound o s) : Wakes o (s.read o) := by
  unfold BoundedBytePipe.read
  simp only
  split_ifs with hstate
  · exact .callPullIfNeeded h.withRead
  · refine .of_write fun hwaiting => hstate ?_
    exact ReadableStream.state_of_canCloseOrEnqueue (h.withRead.waits_open hwaiting)

theorem Wakes.cancel (h : Sound o s) (hw : Wakes o s) : Wakes o s.cancel := by
  unfold BoundedBytePipe.cancel
  split_ifs
  · by_cases hopen : s.state = .open
    · refine .of_write ?_
      rw [abortPipe_eq hopen, write_notifyTerminal]
      exact settleCapacityWaiter_write (s := { s with state := .aborted }) h.waiter.mpr nofun
    · rw [abortPipe_of_ended (s := { s with readable := s.readable.cancel }) hopen]
      exact .of_write fun hwaiting => hopen (h.waits hwaiting)
  · exact hw

theorem Wakes.turn (h : Sound o s) (hw : Wakes o s)
    (result : Option (SinkCall PipeChunk) × WritableStream PipeChunk) :
    Wakes o (s.turn o result) := by
  have hsame : Wakes o { s with writable := result.2 } := hw
  unfold BoundedBytePipe.turn perform
  split
  · exact wakes_beginWrite (s := { s with writable := result.2 }) h.opened_state _
  · exact hsame.closePipe h.waiter.mpr
  · exact hsame.abortPipe h.waiter.mpr
  · exact hsame

theorem Wakes.writeSettled (h : Sound o s) : Wakes o (s.writeSettled o) := by
  have hidle : ({ s with write := none } : BoundedBytePipe).write ≠ some .waiting := nofun
  unfold BoundedBytePipe.writeSettled BoundedBytePipe.turn perform
  split
  · exact wakes_beginWrite (s := { s with
      write := none, writable := (s.writable.writeSettled (s.write == some .stored)).2 })
      h.opened_state _
  · exact Wakes.closePipe (.of_write hidle) fun hwaiting => absurd hwaiting hidle
  · exact Wakes.abortPipe (.of_write hidle) fun hwaiting => absurd hwaiting hidle
  · exact .of_write hidle

theorem Wakes.abortWriter (h : Sound o s) (hw : Wakes o s) : Wakes o (s.abortWriter o) := by
  unfold BoundedBytePipe.abortWriter
  split_ifs
  · exact hw
  · exact .turn h.writableAborted (hw.writableAborted h.waiter.mpr) _

/-- A write that waits does so behind a full readable, or the pull loop will look again. -/
theorem Wakes.next (h : Sound o s) (hw : Wakes o s) (he : s.enabled e = true) :
    Wakes o (s.next o e) := by
  cases e with
  | write chunk => exact .turn h hw _
  | closeWriter => exact .turn h hw _
  | abortWriter => exact .abortWriter h hw
  | read => exact .read h
  | cancel => exact .cancel h hw
  | close => exact hw.closePipe h.waiter.mpr
  | abort => exact hw.abortPipe h.waiter.mpr
  | readableStarted => exact .start h
  | writableStarted => exact .turn h hw _
  | pullSettled => exact .settle h hw he
  | resumed => exact wakes_resume h.opened_state
  | writeSettled => exact .writeSettled h
  | closeSettled => exact hw

/-! ### The writable goes on -/

theorem writable_settleCapacityWaiter :
    (s.settleCapacityWaiter phase).writable = s.writable := by
  unfold settleCapacityWaiter
  split_ifs <;> rfl

theorem writable_notifyTerminal : s.notifyTerminal.writable = s.writable := by
  unfold notifyTerminal
  split_ifs <;> rfl

theorem writable_pulled (result : Bool × PullLoop) : (s.pulled result).writable = s.writable := by
  unfold pulled releaseCapacityWaiter
  simp only
  split_ifs
  · exact writable_settleCapacityWaiter
  · rfl

theorem writable_closePipe : s.closePipe.writable = s.writable := by
  by_cases hopen : s.state = .open
  · rw [closePipe_eq hopen, writable_notifyTerminal]
  · rw [closePipe_of_ended hopen]

theorem writable_writableAborted : s.writableAborted.writable = s.writable := by
  by_cases hopen : s.state = .open
  · rw [writableAborted_eq hopen, writable_notifyTerminal]
  · rw [writableAborted, if_pos hopen]

/-- What the pipe does to its writable by itself. -/
def Errs (s t : BoundedBytePipe) : Prop :=
  t.writable = s.writable ∨ t.writable = s.writable.error.2

theorem errs_abortPipe (s : BoundedBytePipe) : Errs s s.abortPipe := by
  by_cases hopen : s.state = .open
  · have heq := abortPipe_eq hopen s.readable
    rw [heq]
    exact .inr writable_notifyTerminal
  · rw [abortPipe_of_ended hopen]
    exact .inl rfl

theorem errs_waitForCapacity (o : BytePipeOptions) (s : BoundedBytePipe) :
    Errs s (s.waitForCapacity o) := by
  unfold waitForCapacity
  split_ifs
  · exact .inl rfl
  · exact .inl rfl
  · exact .inl rfl

theorem errs_beginWrite (o : BytePipeOptions) (s : BoundedBytePipe) (chunk : PipeChunk) :
    Errs s (s.beginWrite o chunk) := by
  unfold beginWrite
  split
  · exact errs_abortPipe s
  · split_ifs
    · exact errs_abortPipe s
    · exact errs_waitForCapacity o s

theorem errs_enqueueChunk (o : BytePipeOptions) (s : BoundedBytePipe) (value : List UInt8) :
    Errs s (s.enqueueChunk o value) := by
  unfold enqueueChunk
  split_ifs
  · exact .inl (writable_pulled _)
  · exact errs_abortPipe s

theorem errs_resume (o : BytePipeOptions) (s : BoundedBytePipe) : Errs s (s.resume o) := by
  unfold resume
  split
  · exact errs_waitForCapacity o s
  · exact errs_enqueueChunk o s _
  · exact errs_abortPipe s

theorem errs_perform (o : BytePipeOptions) (s : BoundedBytePipe)
    (call : Option (SinkCall PipeChunk)) : Errs s (s.perform o call) := by
  unfold perform
  split
  · exact errs_beginWrite o s _
  · exact .inl writable_closePipe
  · exact errs_abortPipe s
  · exact .inl rfl

theorem Errs.pumped (h : Errs s t) (hs : s.writable.Pumped) : t.writable.Pumped := by
  rcases h with heq | heq
  · rw [heq]
    exact hs
  · rw [heq]
    exact hs.error

theorem pumped_turn (result : Option (SinkCall PipeChunk) × WritableStream PipeChunk)
    (h : result.2.Pumped) : (s.turn o result).writable.Pumped :=
  (errs_perform o { s with writable := result.2 } result.1).pumped h

/-- A started writable with nothing in flight has nothing left to do, whatever happened last. -/
theorem pumped_next (h : s.writable.Pumped) (e : BytePipeEvent) :
    (s.next o e).writable.Pumped := by
  cases e with
  | write chunk => exact pumped_turn _ (h.write chunk)
  | closeWriter => exact pumped_turn _ h.close
  | abortWriter =>
    change (s.abortWriter o).writable.Pumped
    unfold abortWriter
    split_ifs
    · exact h
    · exact pumped_turn _ (writable_writableAborted (s := s) ▸ h).abort
  | read =>
    change (s.read o).writable.Pumped
    unfold read
    simp only
    split_ifs
    · exact (writable_pulled (s := { s with readable := s.readable.read }) _).symm ▸ h
    · exact h
  | cancel =>
    change s.cancel.writable.Pumped
    unfold cancel
    split_ifs
    · exact (errs_abortPipe { s with readable := s.readable.cancel }).pumped h
    · exact h
  | close => exact writable_closePipe.symm ▸ h
  | abort => exact (errs_abortPipe s).pumped h
  | readableStarted => exact (writable_pulled _).symm ▸ h
  | writableStarted => exact pumped_turn _ (WritableStream.pumped_advanceQueueIfNeeded _)
  | pullSettled => exact (writable_pulled _).symm ▸ h
  | resumed => exact (errs_resume o s).pumped h
  | writeSettled => exact pumped_turn _ (WritableStream.pumped_writeSettled _)
  | closeSettled => exact .of_state nofun

/-! ### At rest -/

/-- The invariant of both sides, with the wake-ups. -/
structure Balanced (o : BytePipeOptions) (s : BoundedBytePipe) : Prop extends Sound o s where
  wakes : Wakes o s
  pumped : s.writable.Pumped

/-- A balanced pipe stays balanced. -/
theorem Balanced.step (h : Balanced o s) (hs : (machine o).Step s e t) : Balanced o t := by
  obtain ⟨he, rfl⟩ := hs
  exact ⟨h.toSound.next he, h.wakes.next h.toSound he, pumped_next h.pumped e⟩

/-- Every reachable pipe is balanced. -/
theorem balanced_of_reachable (h : (machine o).Reachable s) : Balanced o s := by
  refine h.invariant ?_ fun _ _ _ hs h => h.step hs
  rintro _ rfl
  exact ⟨sound_new, .of_write nofun, fun hstarted => absurd hstarted nofun⟩

/-- At rest the loops have started, no pull is pending, and a write can only wait for room. -/
structure Quiet (s : BoundedBytePipe) : Prop where
  readable : s.pulls.started = true
  writable : s.writable.started = true
  pulls : s.pulls.pulling = false
  write : s.write = none ∨ s.write = some .waiting

theorem quiet_of_atRest (h : (machine o).AtRest (·.isInternal = true) s) : Quiet s := by
  have hnot : ∀ e : BytePipeEvent, e.isInternal = true → s.enabled e = false := by
    intro e he
    by_contra henabled
    exact h e (s.next o e) he ⟨Bool.not_eq_false _ ▸ henabled, rfl⟩
  have hresumes : s.write.any (·.resumes) = false := hnot .resumed rfl
  have hsettles : s.write.any (·.isSettled) = false := hnot .writeSettled rfl
  refine ⟨by simpa [enabled] using hnot .readableStarted rfl,
    by simpa [enabled] using hnot .writableStarted rfl, hnot .pullSettled rfl, ?_⟩
  cases hwrite : s.write with
  | none => exact .inl rfl
  | some phase =>
    rw [hwrite] at hresumes hsettles
    cases phase with
    | waiting => exact .inr rfl
    | woken => cases hresumes
    | refused => cases hresumes
    | ready => cases hresumes
    | stored => cases hsettles
    | failed => cases hsettles

/-- An open pipe that rests has passed on every accepted chunk, or its readable is full. -/
theorem Balanced.stalls (h : Balanced o s) (hquiet : Quiet s) (hopen : s.state = .open) :
    s.readable.supplied.map .bytes = s.writable.accepted ∨
      (s.write = some .waiting ∧ s.readable.stream.queue.length = o.capacity.value) := by
  rcases hquiet.write with hwrite | hwrite
  · left
    have hlive := h.live hopen
    have hflight := h.engaged.mp hwrite
    have hqueue := (h.pumped hquiet.writable hflight hlive).1
    rw [h.writable.whole hlive, hqueue, List.append_nil, h.idle hwrite (.inl hlive)]
  · right
    refine ⟨hwrite, le_antisymm h.bounded ?_⟩
    refine (h.wakes hwrite).resolve_right fun hreturns => ?_
    rcases hreturns with hstarted | hagain
    · exact absurd (hquiet.readable.symm.trans hstarted) nofun
    · exact absurd (hquiet.pulls.symm.trans (h.pulls.pullAgain hagain)) nofun

/-- A read that waits in an open pipe at rest has nothing left to wait for. -/
theorem Balanced.starves (h : Balanced o s) (hquiet : Quiet s) (hopen : s.state = .open)
    (hreads : 0 < s.readable.stream.reads) :
    s.readable.delivered.map .bytes = s.writable.accepted := by
  obtain ⟨hstate, hqueue, -⟩ := h.flows.waiting hreads
  have hwhole := h.flows.whole hstate
  rw [hqueue, List.append_nil] at hwhole
  rw [← hwhole]
  refine (h.stalls hquiet hopen).resolve_right fun hfull => ?_
  rw [hqueue, List.length_nil] at hfull
  exact Nat.not_succ_le_zero _ (hfull.2 ▸ o.capacity.positive)

/-! ### The way to rest -/

/-- What a write has yet to go through. -/
def writeLoad : Option WritePhase → Nat
  | none => 0
  | some .stored => 1
  | some .failed => 1
  | some .refused => 2
  | some .ready => 4
  | some .waiting => 4
  | some .woken => 5

/-- What the pipe has yet to do by itself. -/
def load (s : BoundedBytePipe) : Nat :=
  2 * s.pulls.load + writeLoad s.write + s.writable.load 4

theorem Errs.load (h : Errs s t) (hpulls : t.pulls = s.pulls) :
    t.load + writeLoad s.write ≤ s.load + writeLoad t.write := by
  have hwritable : t.writable.load 4 ≤ s.writable.load 4 := by
    rcases h with heq | heq
    · exact heq ▸ le_rfl
    · exact heq ▸ s.writable.load_error
  unfold BoundedBytePipe.load
  rw [hpulls]
  omega

theorem pulls_settleCapacityWaiter : (s.settleCapacityWaiter phase).pulls = s.pulls := by
  unfold settleCapacityWaiter
  split_ifs <;> rfl

theorem pulls_notifyTerminal : s.notifyTerminal.pulls = s.pulls := by
  unfold notifyTerminal
  split_ifs <;> rfl

theorem pulls_abortPipe : s.abortPipe.pulls = s.pulls := by
  by_cases hopen : s.state = .open
  · have heq := abortPipe_eq hopen s.readable
    rw [heq, pulls_notifyTerminal]
    exact pulls_settleCapacityWaiter
  · rw [abortPipe_of_ended hopen]

theorem pulls_closePipe : s.closePipe.pulls = s.pulls := by
  by_cases hopen : s.state = .open
  · rw [closePipe_eq hopen, pulls_notifyTerminal]
    exact pulls_settleCapacityWaiter
  · rw [closePipe_of_ended hopen]

theorem pulls_waitForCapacity : (s.waitForCapacity o).pulls = s.pulls := by
  unfold waitForCapacity
  split_ifs <;> rfl

theorem pulls_beginWrite : (s.beginWrite o chunk).pulls = s.pulls := by
  unfold beginWrite
  split
  · exact pulls_abortPipe
  · split_ifs
    · exact pulls_abortPipe
    · exact pulls_waitForCapacity

theorem writeLoad_waitForCapacity (o : BytePipeOptions) (s : BoundedBytePipe) :
    writeLoad (s.waitForCapacity o).write ≤ 4 := by
  unfold waitForCapacity
  split_ifs <;> simp [writeLoad]

theorem writeLoad_beginWrite (o : BytePipeOptions) (s : BoundedBytePipe) (chunk : PipeChunk) :
    writeLoad (s.beginWrite o chunk).write ≤ 4 := by
  unfold beginWrite
  split
  · change writeLoad (some .failed) ≤ 4
    decide
  · split_ifs
    · change writeLoad (some .failed) ≤ 4
      decide
    · exact writeLoad_waitForCapacity o s

/-- Where nobody waits for room the end of the pipe leaves the write alone. -/
theorem write_unwaited (hwaiter : s.capacityWaiter = false) :
    s.closePipe.write = s.write ∧ s.abortPipe.write = s.write := by
  by_cases hopen : s.state = .open
  · have heq := abortPipe_eq hopen s.readable
    rw [heq, closePipe_eq hopen, write_notifyTerminal, write_notifyTerminal]
    unfold settleCapacityWaiter
    simp [hwaiter]
  · rw [closePipe_of_ended hopen, abortPipe_of_ended hopen]
    exact ⟨rfl, rfl⟩

theorem load_perform (hwrite : s.write = none) (hwaiter : s.capacityWaiter = false)
    (call : Option (SinkCall PipeChunk)) :
    (s.perform o call).load ≤ s.load + WritableStream.callLoad 4 call := by
  have herrs := errs_perform o s call
  cases call with
  | none => exact le_rfl
  | some call =>
    cases call with
    | write chunk =>
      have hload := herrs.load pulls_beginWrite
      have hcost := writeLoad_beginWrite o s chunk
      rw [hwrite] at hload
      exact (Nat.le_add_right _ _).trans (hload.trans (Nat.add_le_add_left hcost _))
    | close =>
      have hload := herrs.load pulls_closePipe
      change s.closePipe.load + _ ≤ s.load + writeLoad s.closePipe.write at hload
      rw [(write_unwaited hwaiter).1] at hload
      exact Nat.le_of_add_le_add_right hload
    | abort =>
      have hload := herrs.load pulls_abortPipe
      change s.abortPipe.load + _ ≤ s.load + writeLoad s.abortPipe.write at hload
      rw [(write_unwaited hwaiter).2] at hload
      exact Nat.le_of_add_le_add_right hload

/-- A pull loop that has less to do makes up for the write it may wake. -/
theorem Sound.load_pulled (h : Sound o s) {result : Bool × PullLoop}
    (hresult : result.2.load < s.pulls.load) : (s.pulled result).load < s.load := by
  unfold BoundedBytePipe.pulled
  simp only
  split_ifs
  · rcases settleCapacityWaiter_cases { s with pulls := result.2 } .woken with ⟨-, heq⟩ |
      ⟨hwaiter, heq⟩
    · rw [releaseCapacityWaiter, heq]
      unfold load
      simp only
      omega
    · rw [releaseCapacityWaiter, heq]
      unfold load
      rw [h.waiter.mp hwaiter]
      simp only [writeLoad]
      omega
  · unfold load
    simp only
    omega

theorem Sound.load_writableStarted (h : Sound o s) (hstarted : s.writable.started = false) :
    (s.turn o s.writable.start).load < s.load := by
  have hwrite : s.write = none := by
    rw [h.engaged]
    cases hflight : s.writable.inFlight with
    | none => rfl
    | some chunk => exact absurd (hstarted.symm.trans (h.writable.inFlight chunk hflight).1) nofun
  have hperform := load_perform (o := o) (s := { s with writable := s.writable.start.2 }) hwrite
    (h.unwaited hwrite) s.writable.start.1
  have hstart := WritableStream.load_start (c := 4) hstarted
  unfold BoundedBytePipe.turn
  refine hperform.trans_lt ?_
  unfold load
  simp only
  omega

theorem Sound.load_resumed (h : Sound o s) (hresumes : s.write.any (·.resumes) = true) :
    (s.resume o).load < s.load := by
  obtain ⟨phase, hphase, hresumes⟩ := (Option.any_eq_true _ _).mp hresumes
  have hunsettled : phase.isSettled = false := by
    cases phase with
    | stored => cases hresumes
    | failed => cases hresumes
    | _ => rfl
  obtain ⟨value, hengaged⟩ := h.holds hphase hunsettled
  have hcaught : s.writeCaught.load + writeLoad (some phase) ≤ s.load + 1 :=
    hphase ▸ Errs.load (errs_abortPipe s) pulls_abortPipe
  unfold BoundedBytePipe.resume
  rw [hphase, hengaged.inFlight]
  cases phase with
  | waiting => cases hresumes
  | stored => cases hresumes
  | failed => cases hresumes
  | woken =>
    have hload := (errs_waitForCapacity o s).load pulls_waitForCapacity
    have hcost := writeLoad_waitForCapacity o s
    have hwoken : writeLoad s.write = 5 := by
      rw [hphase]
      rfl
    simp only
    omega
  | ready =>
    have hwaiter : s.capacityWaiter = false := by
      by_contra hwaiter
      rw [Bool.not_eq_false] at hwaiter
      exact absurd (hphase.symm.trans (h.waiter.mp hwaiter)) nofun
    simp only
    unfold BoundedBytePipe.enqueueChunk
    split_ifs
    · simp only [callPullIfNeeded]
      rw [pulled_of_unwaited (s := { s with readable := s.readable.enqueue value }) hwaiter]
      have hpulls := PullLoop.load_callPullIfNeeded s.pulls
        (shouldCallPull o { s with readable := s.readable.enqueue value })
      have hready : writeLoad s.write = 4 := by
        rw [hphase]
        rfl
      have hstored : writeLoad (some .stored) = 1 := rfl
      unfold load
      simp only
      omega
    · simp only [writeLoad] at hcaught
      omega
  | refused =>
    simp only [writeLoad] at hcaught
    simp only
    omega

theorem Sound.load_writeSettled (h : Sound o s) (hsettled : s.write.any (·.isSettled) = true) :
    (s.writeSettled o).load < s.load := by
  obtain ⟨phase, hphase, hsettled⟩ := (Option.any_eq_true _ _).mp hsettled
  have hcost : writeLoad s.write = 1 := by
    rw [hphase]
    cases phase with
    | stored => rfl
    | failed => rfl
    | _ => cases hsettled
  have hwaiter : s.capacityWaiter = false := by
    by_contra hwaiter
    rw [Bool.not_eq_false] at hwaiter
    cases Option.some_inj.mp (hphase.symm.trans (h.waiter.mp hwaiter))
    cases hsettled
  have hperform := load_perform (o := o)
    (s := { s with
      write := none, writable := (s.writable.writeSettled (s.write == some .stored)).2 })
    rfl hwaiter (s.writable.writeSettled (s.write == some .stored)).1
  have hsettle := s.writable.load_writeSettled (c := 4) (s.write == some .stored)
  unfold BoundedBytePipe.writeSettled BoundedBytePipe.turn
  refine hperform.trans_lt ?_
  unfold load
  rw [hcost]
  simp only [writeLoad]
  omega

theorem load_closeSettled (hclosing : s.writable.closeRequest = .inFlight) :
    load { s with writable := s.writable.closeSettled } < s.load := by
  have hclosed := WritableStream.load_closeSettled (c := 4) hclosing
  unfold load
  simp only
  omega

/-- Each promise that settles leaves less to do, whichever it is. -/
theorem Balanced.load_next (h : Balanced o s) (he : s.enabled e = true)
    (hinternal : e.isInternal = true) : (s.next o e).load < s.load := by
  cases e with
  | readableStarted =>
    exact h.load_pulled (PullLoop.load_start (by simpa [enabled] using he) _)
  | writableStarted => exact h.load_writableStarted (by simpa [enabled] using he)
  | pullSettled => exact h.load_pulled (PullLoop.load_settle he _)
  | resumed => exact h.load_resumed he
  | writeSettled => exact h.load_writeSettled he
  | closeSettled => exact load_closeSettled (beq_iff_eq.mp he)
  | _ => cases hinternal

theorem unloads (o : BytePipeOptions) :
    (machine o).Unloads (·.isInternal = true) (Balanced o) load := by
  intro s e t hs h hinternal
  have ht := h.step hs
  obtain ⟨he, rfl⟩ := hs
  exact ⟨ht, h.load_next he hinternal⟩

/-- Left to itself a byte pipe comes to rest, in whatever order its promises settle. An open pipe
then holds a write back only behind a full readable, and a read only when everything was read. -/
theorem rests_balanced (h : (machine o).Reachable s) :
    (∃ es t, (machine o).Run s es t ∧ (∀ e ∈ es, e.isInternal = true) ∧
      (machine o).AtRest (·.isInternal = true) t) ∧
    ∀ es t, (machine o).Run s es t → (∀ e ∈ es, e.isInternal = true) →
      es.length + t.load ≤ s.load ∧
      ((machine o).AtRest (·.isInternal = true) t → t.state = .open →
        (t.readable.supplied.map .bytes = t.writable.accepted ∨
          (t.write = some .waiting ∧ t.readable.stream.queue.length = o.capacity.value)) ∧
        (0 < t.readable.stream.reads → t.readable.delivered.map .bytes = t.writable.accepted)) := by
  have hs := balanced_of_reachable h
  refine ⟨(unloads o).exists_rest hs, fun es t hrun hinternal => ⟨?_, fun hrest hopen => ?_⟩⟩
  · exact (unloads o).length_add_load_le hrun hinternal hs
  · have ht := balanced_of_reachable (h.run hrun)
    have hquiet := quiet_of_atRest hrest
    exact ⟨ht.stalls hquiet hopen, ht.starves hquiet hopen⟩

/-- Two writes and a read that comes before any promise has settled. -/
def eagerRun : List BytePipeEvent := [.write (.bytes [1]), .write (.bytes [2]), .read]

theorem rests_balanced_after_read : ∃ s es t, (machine smallPipe).Reachable s ∧ 0 < s.load ∧
    (machine smallPipe).Run s es t ∧ (machine smallPipe).AtRest (·.isInternal = true) t ∧
    es.length + t.load ≤ s.load ∧ (t.state = .open → 0 < t.readable.stream.reads →
      t.readable.delivered.map .bytes = t.writable.accepted) := by
  obtain ⟨s, hrun, hload⟩ := (program smallPipe).exists_run eagerRun new (fun s => 0 < s.load)
    (by decide +kernel)
  have hreachable : (machine smallPipe).Reachable s := ⟨new, eagerRun, rfl, hrun⟩
  obtain ⟨⟨es, t, hsettles, hinternal, hrest⟩, hall⟩ := rests_balanced hreachable
  obtain ⟨hbound, hfacts⟩ := hall es t hsettles hinternal
  exact ⟨s, es, t, hreachable, hload, hsettles, hrest, hbound, fun hopen =>
    (hfacts hrest hopen).2⟩

end BoundedBytePipe

end NestWebTransport
