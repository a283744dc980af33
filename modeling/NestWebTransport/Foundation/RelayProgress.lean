import NestWebTransport.Foundation.Quiescence
import NestWebTransport.Foundation.RelayDelivery

/-! A relay leaves no chunk behind: it comes to rest only for want of chunks or of reads. -/
namespace NestWebTransport

namespace RelayEvent

/-- The promises of the relay, which settle by themselves. -/
def isInternal {α : Type*} : RelayEvent α → Bool
  | .sourceFailed | .started | .pullResumed _ | .pullSettled | .unlocked => true
  | _ => false

end RelayEvent

namespace Relay

variable {α : Type*} {r t : Relay α} {e : RelayEvent α} {es : List (RelayEvent α)}
  {source sink : Delivery α} {chunk : α}

/-! ### What the sink wants is asked for -/

/-- A started sink that wants a chunk has a pull under way, and another one to come where that pull
has nothing left to bring. -/
def Wants (r : Relay α) : Prop :=
  r.pulls.started = true → r.shouldCallPull = true →
    r.pulls.pulling = true ∧ (r.pull = some .finished → r.pulls.pullAgain = true)

theorem Wants.of_not_takes (h : ¬ Takes r) : Wants r :=
  fun _ hshould => absurd (takes_of_shouldCallPull hshould) h

theorem sink_beginPull : r.beginPull.sink = r.sink := by
  unfold beginPull
  split_ifs <;> rfl

theorem pulls_beginPull : r.beginPull.pulls = r.pulls := by
  unfold beginPull
  split_ifs <;> rfl

theorem pull_beginPull : r.beginPull.pull ≠ some .finished := by
  unfold beginPull
  split_ifs
  · exact nofun
  · simp only
    cases r.source.stream.read.1 with
    | none => exact nofun
    | some result => exact nofun

theorem shouldCallPull_congr (h : t.sink = r.sink) : t.shouldCallPull = r.shouldCallPull := by
  unfold shouldCallPull
  rw [h]

/-- A pull loop that meets every wish leaves none open. -/
theorem wants_pulled {result : Bool × PullLoop}
    (h : result.2.started = true → r.shouldCallPull = true →
      result.2.pulling = true ∧ (result.1 = true ∨ result.2.pullAgain = true)) :
    Wants (r.pulled result) := by
  unfold Relay.pulled
  simp only
  split_ifs with hcalled
  · intro hstarted hshould
    rw [pulls_beginPull] at hstarted ⊢
    rw [shouldCallPull_congr sink_beginPull] at hshould
    exact ⟨(h hstarted hshould).1, fun hfinished => absurd hfinished pull_beginPull⟩
  · intro hstarted hshould
    obtain ⟨hpulling, hagain⟩ := h hstarted hshould
    exact ⟨hpulling, fun _ => hagain.resolve_left hcalled⟩

theorem wants_callPullIfNeeded (r : Relay α) : Wants r.callPullIfNeeded := by
  refine wants_pulled fun hstarted hshould => ?_
  rw [hshould] at hstarted ⊢
  exact PullLoop.callPullIfNeeded_asks hstarted

/-- The source and its lock are no concern of the sink. -/
theorem Wants.ending (h : Wants r) (state : ReadableState) (source : Delivery α) (released : Bool) :
    Wants { r with
      source := source, released := released, pull := RelayPull.ending state r.pull } :=
  fun hstarted hshould => ⟨(h hstarted hshould).1, fun hfinished =>
    (h hstarted hshould).2 (RelayPull.ending_eq_finished.mp hfinished)⟩

theorem Wants.enqueue (h : Wants r) (chunk : α) : Wants (r.enqueue chunk) := by
  unfold Relay.enqueue
  split_ifs
  · exact fun hstarted hshould => ⟨(h hstarted hshould).1, nofun⟩
  · exact h
  · exact h

theorem Wants.settled (h : Wants r) (hs : Sound r) (hfinished : r.pull = some .finished) :
    Wants (Relay.pulled { r with pull := none } (r.pulls.settle r.shouldCallPull)) := by
  refine wants_pulled fun hstarted hshould => ?_
  have hagain := (h (hs.pulls.pulling (hs.pulling hfinished)) hshould).2 hfinished
  unfold PullLoop.settle at hstarted ⊢
  rw [if_pos hagain] at hstarted ⊢
  change r.shouldCallPull = true at hshould
  rw [hshould] at hstarted ⊢
  exact PullLoop.callPullIfNeeded_asks hstarted

/-! ### The lock goes when the sink has ended -/

/-- A sink that takes nothing has given the source's lock back, or will, just once. -/
structure Freed (r : Relay α) : Prop where
  ended : ¬ Takes r → r.released = true ∨ r.releasePending = true
  once : r.releasePending = true → r.released = false

theorem Freed.congr (h : Freed r) (htakes : Takes t ↔ Takes r) (hreleased : t.released = r.released)
    (hpending : t.releasePending = r.releasePending) : Freed t := by
  refine ⟨fun hended => ?_, ?_⟩
  · rw [hreleased, hpending]
    exact h.ended (htakes.not.mp hended)
  · rw [hreleased, hpending]
    exact h.once

theorem released_release : r.release.released = true := by
  unfold release
  split_ifs with h
  · exact h
  · rfl

theorem released_cancelSource : r.cancelSource.released = r.released := by
  unfold cancelSource
  split_ifs <;> rfl

theorem freed_pending : Freed { r.cancelSource with releasePending := !r.released } := by
  refine ⟨fun _ => ?_, fun hpending => ?_⟩
  · change r.cancelSource.released = true ∨ (!r.released) = true
    rw [released_cancelSource]
    cases r.released with
    | false => exact .inr rfl
    | true => exact .inl rfl
  · exact released_cancelSource.trans (Bool.not_eq_true' _ ▸ hpending)

theorem Freed.pulled (h : Freed r) (result : Bool × PullLoop) : Freed (r.pulled result) := by
  unfold Relay.pulled
  simp only
  split_ifs
  · unfold beginPull
    split_ifs <;> exact ⟨h.ended, h.once⟩
  · exact ⟨h.ended, h.once⟩

/-- The lock is given back where it is not yet. -/
theorem freed_of_once (h : r.releasePending = true → r.released = false) : Freed r.release := by
  unfold release
  split_ifs with hreleased
  · exact ⟨fun _ => .inl hreleased, h⟩
  · exact ⟨fun _ => .inl rfl, nofun⟩

theorem Freed.pullCaught (h : Freed r) (stops : Bool) : Freed (r.pullCaught stops) := by
  unfold Relay.pullCaught
  refine freed_of_once ?_
  cases stops with
  | false => exact h.once
  | true =>
    unfold cancelSource
    simp only [if_true]
    split_ifs
    · exact h.once
    · exact h.once

theorem not_takes_pullCaught (h : Sound r) (stops : Bool) : ¬ Takes (r.pullCaught stops) := by
  have hsink : (r.pullCaught stops).sink = r.sink.error := by
    unfold Relay.pullCaught
    cases stops with
    | false => exact sink_release
    | true => exact sink_release.trans sink_cancelSource
  exact (takes_congr (r := { r with sink := r.sink.error }) hsink).not.mpr h.errored.2

theorem not_takes_close : ¬ Takes { r with sink := r.sink.close } := by
  intro htakes
  have hended : r.sink.close.stream.canCloseOrEnqueue = false :=
    ReadableStream.close_canCloseOrEnqueue
  exact absurd (hended.symm.trans htakes) nofun

structure Steady (r : Relay α) : Prop extends Sound r where
  wants : Wants r
  freed : Freed r

theorem steady_new : Steady (new : Relay α) where
  toSound := sound_new
  wants hstarted := by cases hstarted
  freed := ⟨fun hended => absurd rfl hended, nofun⟩

/-- A pull that goes on leaves the loop wanting what the sink wants, or gives the lock back. -/
theorem Steady.pullResumed (h : Steady r) (hresolved : r.pull.any (·.isResolved) = true)
    (stops : Bool) : Wants (r.pullResumed stops) ∧ Freed (r.pullResumed stops) := by
  rcases pullResumed_cases hresolved stops with ⟨chunk, hpull, htakes, heq⟩ | ⟨-, -, heq⟩ |
    ⟨result, hpull, hkept, heq⟩
  · rw [heq]
    have htakes' : (r.sink.enqueue chunk).stream.canCloseOrEnqueue = true := by
      rw [Delivery.stream_enqueue, ReadableStream.enqueue_canCloseOrEnqueue]
      exact htakes
    have hfreed : Freed { r with
        received := r.received ++ [chunk], pull := some .finished, sink := r.sink.enqueue chunk } :=
      ⟨fun hended => absurd htakes' hended, h.freed.once⟩
    exact ⟨wants_callPullIfNeeded _, hfreed.pulled _⟩
  · rw [heq]
    exact ⟨.of_not_takes ((takes_congr sink_release).not.mpr not_takes_close),
      freed_of_once h.freed.once⟩
  · rw [heq]
    have hfreed : Freed { r with
        received := r.received ++ RelayPull.held r.pull, pull := some .finished } :=
      ⟨h.freed.ended, h.freed.once⟩
    exact ⟨.of_not_takes (not_takes_pullCaught (h.finishing hpull hkept) stops),
      hfreed.pullCaught stops⟩

theorem Steady.read (h : Steady r) : Wants r.read ∧ Freed r.read := by
  have hfreed : Freed { r with sink := r.sink.read } := h.freed.congr takes_read rfl rfl
  unfold Relay.read
  simp only
  split_ifs with hstate
  · exact ⟨wants_callPullIfNeeded _, hfreed.pulled _⟩
  · exact ⟨.of_not_takes (not_takes_of_state hstate), hfreed⟩

/-- Besides soundness each event keeps a started loop pulling where the sink wants a chunk. -/
theorem Steady.step (h : Steady r) (hs : machine.Step r e t) : Steady t := by
  have ht := h.toSound.step hs
  obtain ⟨he, rfl⟩ := hs
  suffices hboth : Wants (program.next r e) ∧ Freed (program.next r e) from ⟨ht, hboth.1, hboth.2⟩
  have hfreed : Freed (program.next r e) →
      (program.next r e).released = true ∨ (program.next r e).releasePending = true →
      Wants (program.next r e) ∧ Freed (program.next r e) :=
    fun hfreed hended => ⟨.of_not_takes (ht.released hended), hfreed⟩
  cases e with
  | enqueue chunk =>
    refine ⟨h.wants.enqueue chunk, ?_⟩
    change Freed (r.enqueue chunk)
    unfold Relay.enqueue
    split_ifs <;> exact ⟨h.freed.ended, h.freed.once⟩
  | close => exact ⟨h.wants.ending _ _ _, h.freed.ended, h.freed.once⟩
  | fail => exact ⟨h.wants.ending _ _ _, h.freed.ended, h.freed.once⟩
  | read => exact h.read
  | cancel =>
    change Wants r.cancel ∧ Freed r.cancel
    by_cases hstate : r.sink.stream.state = .readable
    · have hended : ¬ Takes r.cancel := by
        unfold Relay.cancel
        rw [if_pos hstate]
        exact (h.cancelled hstate).2
      refine ⟨.of_not_takes hended, ?_⟩
      unfold Relay.cancel
      rw [if_pos hstate]
      exact freed_pending
    · rw [show r.cancel = r from if_neg hstate]
      exact ⟨h.wants, h.freed⟩
  | abort =>
    exact ⟨.of_not_takes h.stopped.2, freed_pending⟩
  | sourceFailed => exact hfreed (freed_of_once h.freed.once) (.inl released_release)
  | started =>
    refine ⟨wants_pulled fun hstarted hshould => ?_, h.freed.pulled _⟩
    rw [hshould] at hstarted ⊢
    exact PullLoop.callPullIfNeeded_asks hstarted
  | pullResumed stops => exact h.pullResumed he stops
  | pullSettled =>
    have hidle : Freed { r with pull := none } := ⟨h.freed.ended, h.freed.once⟩
    exact ⟨h.wants.settled h.toSound (finished_of_enabled he), hidle.pulled _⟩
  | unlocked => exact hfreed (freed_of_once h.freed.once) (.inl released_release)

/-- A steady relay stays steady through any run. -/
theorem Steady.run (h : Steady r) (hr : machine.Run r es t) : Steady t :=
  hr.invariant (fun _ _ _ hs h => Steady.step h hs) h

/-! ### At rest -/

/-- Nothing is left for the relay to do by itself. -/
def Rests (r : Relay α) : Prop := ∀ e : RelayEvent α, e.isInternal = true → r.enabled e = false

/-- A sink at rest that wants a chunk waits for the source. -/
theorem Steady.awaits (h : Steady r) (hrest : Rests r) (hshould : r.shouldCallPull = true) :
    r.pull = some .requested := by
  have hstarted : r.pulls.started = true := by
    have hnot := hrest .started rfl
    simpa [enabled] using hnot
  obtain ⟨hpulling, -⟩ := h.wants hstarted hshould
  have hresolved := hrest (.pullResumed false) rfl
  have hfinished := hrest .pullSettled rfl
  unfold enabled at hresolved hfinished
  cases hpull : r.pull with
  | none => exact absurd ((h.engaged.mp hpull).symm.trans hpulling) nofun
  | some pull =>
    rw [hpull] at hresolved hfinished
    cases pull with
    | requested => rfl
    | resolved result => cases hresolved
    | finished => cases hfinished

theorem Steady.source_of_awaits (h : Steady r) (hrequested : r.pull = some .requested) :
    r.source.stream.state = .readable ∧ r.source.stream.queue = [] := by
  have hreads : 0 < r.source.stream.reads := by
    rw [h.requested]
    exact RelayPull.asked_pos.mpr hrequested
  obtain ⟨hstate, hqueue, -⟩ := h.source.waiting hreads
  exact ⟨hstate, hqueue⟩

theorem shouldCallPull_of_reads (htakes : Takes r) (hreads : 0 < r.sink.stream.reads) :
    r.shouldCallPull = true := by
  unfold shouldCallPull ReadableStream.shouldCallPull
  rw [show r.sink.stream.canCloseOrEnqueue = true from htakes, decide_eq_true hreads]
  rfl

theorem Steady.takes_of_reads (h : Steady r) (hreads : 0 < r.sink.stream.reads) : Takes r := by
  obtain ⟨hstate, -, hopen⟩ := h.sink.waiting hreads
  unfold Takes ReadableStream.canCloseOrEnqueue
  rw [hstate, hopen]
  rfl

/-- A read that waits at rest has nothing left to wait for but the source. -/
theorem Steady.starves (h : Steady r) (hrest : Rests r) (hreads : 0 < r.sink.stream.reads) :
    r.source.stream.state = .readable ∧ r.source.stream.queue = [] ∧
      0 < r.source.stream.reads ∧ r.sink.delivered = r.source.supplied := by
  have htakes := h.takes_of_reads hreads
  obtain ⟨hstate, hqueue, -⟩ := h.sink.waiting hreads
  have hrequested := h.awaits hrest (shouldCallPull_of_reads htakes hreads)
  obtain ⟨hsource, hempty⟩ := h.source_of_awaits hrequested
  have hwhole := h.sink.whole hstate
  rw [hqueue, List.append_nil] at hwhole
  have hall := h.source.whole hsource
  rw [hempty, List.append_nil, h.answered, hrequested] at hall
  refine ⟨hsource, hempty, ?_, ?_⟩
  · rw [h.requested, hrequested]
    exact Nat.one_pos
  · rw [← hwhole, ← h.supplied_eq htakes, hall]
    exact (List.append_nil _).symm

/-- The source's queue holds chunks back at rest only where the sink has one of its own. -/
theorem Steady.stalls (h : Steady r) (hrest : Rests r) (htakes : Takes r)
    (hqueue : r.source.stream.queue ≠ []) :
    r.sink.stream.queue.length = 1 ∧ r.sink.stream.reads = 0 := by
  have hshould : r.shouldCallPull = false := by
    by_contra hshould
    have hrequested := h.awaits hrest (Bool.not_eq_false _ ▸ hshould)
    exact hqueue (h.source_of_awaits hrequested).2
  unfold shouldCallPull ReadableStream.shouldCallPull at hshould
  rw [show r.sink.stream.canCloseOrEnqueue = true from htakes, Bool.true_and,
    Bool.or_eq_false_iff, decide_eq_false_iff_not, decide_eq_false_iff_not] at hshould
  exact ⟨Nat.le_antisymm h.bounded (Nat.not_lt.mp hshould.2), Nat.eq_zero_of_not_pos hshould.1⟩

/-- At rest the lock is the relay's just while its sink takes chunks, and the source has not
failed. -/
theorem Steady.locked_iff (h : Steady r) (hrest : Rests r) :
    (r.released = false ↔ Takes r) ∧
      (r.released = false → r.source.stream.state ≠ .errored) := by
  have hpending : r.releasePending = false := hrest .unlocked rfl
  refine ⟨⟨fun hlocked => ?_, h.unreleased⟩, fun hlocked herrored => ?_⟩
  · by_contra hended
    rcases h.freed.ended hended with hreleased | hlater
    · exact absurd (hlocked.symm.trans hreleased) nofun
    · exact absurd (hpending.symm.trans hlater) nofun
  · have hnot := hrest .sourceFailed rfl
    simp [enabled, herrored, hlocked] at hnot

/-! ### The way to rest -/

/-- What a pull has yet to do. -/
def pullLoad : Option (RelayPull α) → Nat
  | some (.resolved (.value _)) => 5
  | some (.resolved _) => 2
  | some .finished => 1
  | some .requested => 0
  | none => 0

/-- What the relay has yet to do by itself. -/
def load (r : Relay α) : Nat :=
  3 * r.pulls.load + pullLoad r.pull + 3 * r.source.stream.queue.length +
    (if r.releasePending then 3 else 0) + if r.released then 0 else 1

theorem released_beginPull : r.beginPull.released = r.released ∧
    r.beginPull.releasePending = r.releasePending := by
  unfold beginPull
  split_ifs <;> exact ⟨rfl, rfl⟩

/-- A chunk that a pull takes leaves the source's queue. -/
theorem load_beginPull (r : Relay α) :
    pullLoad r.beginPull.pull + 3 * r.beginPull.source.stream.queue.length ≤
      3 * r.source.stream.queue.length + 2 := by
  unfold beginPull
  split_ifs
  · simp only [pullLoad]
    omega
  · simp only
    rcases r.source.read_cases with ⟨hstate, heq⟩ | ⟨hstate, hqueue, heq⟩ |
      ⟨chunk, rest, hstate, hqueue, heq⟩
    · have hanswer :
          pullLoad (some ((r.source.stream.read.1.map .resolved).getD .requested)) = 2 := by
        cases hnow : r.source.stream.state with
        | readable => exact absurd hnow hstate
        | closed => rw [ReadableStream.read_of_closed hnow]; rfl
        | errored => rw [ReadableStream.read_of_errored hnow]; rfl
      rw [hanswer, heq]
      omega
    · rw [ReadableStream.read_of_nil hstate hqueue, heq]
      exact Nat.le_add_right_of_le (Nat.le_of_eq (Nat.zero_add _))
    · have hlength : r.source.read.stream.queue.length = rest.length := by
        rw [heq]
        simp only
        split_ifs with hlast
        · rw [hlast.1]
          rfl
        · rfl
      rw [ReadableStream.read_of_cons hstate hqueue, hlength, hqueue, List.length_cons]
      change 5 + 3 * rest.length ≤ 3 * (rest.length + 1) + 2
      omega

theorem load_pulled (r : Relay α) (result : Bool × PullLoop) :
    (r.pulled result).load + 3 * r.pulls.load ≤ r.load + 3 * result.2.load + 2 := by
  unfold pulled
  simp only
  split_ifs
  · have hbegin := load_beginPull { r with pulls := result.2 }
    unfold load
    rw [pulls_beginPull, released_beginPull.1, released_beginPull.2]
    simp only at hbegin ⊢
    omega
  · unfold load
    simp only
    omega

theorem load_pulled_of_quiet {result : Bool × PullLoop} (h : result.1 = false) :
    (r.pulled result).load + 3 * r.pulls.load = r.load + 3 * result.2.load := by
  unfold pulled load
  simp only
  rw [if_neg (Bool.not_eq_true _ ▸ h)]
  simp only
  omega

theorem pullLoad_ending (state : ReadableState) (pull : Option (RelayPull α)) :
    pullLoad (RelayPull.ending state pull) ≤ pullLoad pull + 2 ∧
      (pull ≠ some .requested → RelayPull.ending state pull = pull) := by
  cases state <;> rcases pull with - | (- | result | -) <;>
    first
      | exact ⟨Nat.le_add_right _ _, fun _ => rfl⟩
      | exact ⟨Nat.le_of_eq rfl, fun h => absurd rfl h⟩

/-- A lock given back is one thing less to do, unless a read is rejected with it. -/
theorem load_release (r : Relay α) : r.release.load ≤ r.load + 2 ∧
    (r.released = false → r.releasePending = true → r.release.load < r.load) ∧
    (r.pull ≠ some .requested → r.release.load ≤ r.load) ∧
    (r.pull ≠ some .requested → r.released = false → r.release.load < r.load) := by
  obtain ⟨hending, hsame⟩ := pullLoad_ending .errored r.pull
  unfold release
  split_ifs with hreleased
  · refine ⟨Nat.le_add_right _ _, fun hlocked => ?_, fun _ => Nat.le_of_eq rfl, fun _ hlocked => ?_⟩
    · exact absurd (hreleased.symm.trans hlocked) nofun
    · exact absurd (hreleased.symm.trans hlocked) nofun
  · unfold load
    simp only [Bool.false_eq_true, if_false, if_true, if_neg hreleased]
    refine ⟨by omega, fun _ hpending => ?_, fun hne => ?_, fun hne _ => ?_⟩
    · rw [if_pos hpending]
      omega
    · rw [hsame hne]
      omega
    · rw [hsame hne]
      omega

theorem load_cancelSource (h : r.pull ≠ some .requested) : r.cancelSource.load ≤ r.load := by
  unfold cancelSource
  split_ifs
  · exact Nat.le_of_eq rfl
  · unfold withSource load
    simp only
    rw [(pullLoad_ending _ _).2 h]
    have hqueue : r.source.cancel.stream.queue.length ≤ r.source.stream.queue.length := by
      rcases r.source.cancel_cases with ⟨-, heq⟩ | ⟨-, heq⟩
      · exact Nat.le_of_eq (congrArg (·.stream.queue.length) heq)
      · rw [heq]
        exact Nat.zero_le _
    omega

/-- The `catch` of a pull leaves nothing new to do. -/
theorem load_pullCaught (h : r.pull ≠ some .requested) (stops : Bool) :
    (r.pullCaught stops).load ≤ r.load := by
  unfold pullCaught
  cases stops with
  | false => exact (load_release _).2.2.1 h
  | true =>
    have hstill : (cancelSource { r with sink := r.sink.error }).pull ≠ some .requested := by
      unfold cancelSource withSource
      split_ifs
      · exact h
      · simp only
        rw [(pullLoad_ending _ _).2 h]
        exact h
    simp only [if_true]
    refine Nat.le_trans ((load_release _).2.2.1 hstill) ?_
    exact load_cancelSource (r := { r with sink := r.sink.error }) h

/-- A pull that goes on has less to do than before, even where the next one begins. -/
theorem Steady.load_pullResumed (h : Steady r) (hresolved : r.pull.any (·.isResolved) = true)
    (stops : Bool) : (r.pullResumed stops).load < r.load := by
  rcases pullResumed_cases hresolved stops with ⟨chunk, hpull, htakes, heq⟩ | ⟨hpull, -, heq⟩ |
    ⟨result, hpull, hkept, heq⟩
  · have hloop := PullLoop.load_callPullIfNeeded r.pulls
      (shouldCallPull { r with sink := r.sink.enqueue chunk })
    have hquiet := load_pulled_of_quiet (r := { r with
      received := r.received ++ [chunk], pull := some .finished, sink := r.sink.enqueue chunk })
      (PullLoop.callPullIfNeeded_pulling (h.pulling hpull)
        (shouldCallPull { r with sink := r.sink.enqueue chunk }))
    have hless : load { r with
        received := r.received ++ [chunk]
        pull := some .finished
        sink := r.sink.enqueue chunk } + 4 =
          r.load := by
      unfold load
      rw [hpull]
      simp only [pullLoad]
      omega
    rw [heq]
    unfold callPullIfNeeded
    simp only at hquiet
    refine Nat.lt_of_add_lt_add_right (n := 3 * r.pulls.load) ?_
    refine Nat.lt_of_le_of_lt (Nat.le_of_eq hquiet) ?_
    omega
  · have hidle : some RelayPull.finished ≠ some (RelayPull.requested (α := α)) := nofun
    rw [heq]
    refine Nat.lt_of_le_of_lt ((load_release _).2.2.1 hidle) ?_
    unfold load
    rw [hpull]
    simp only [pullLoad]
    omega
  · have hidle : some RelayPull.finished ≠ some (RelayPull.requested (α := α)) := nofun
    rw [heq]
    refine Nat.lt_of_le_of_lt (load_pullCaught hidle stops) ?_
    have htwo : 2 ≤ pullLoad r.pull := by
      rw [hpull]
      cases result <;> simp [pullLoad]
    unfold load
    simp only [pullLoad] at htwo ⊢
    omega

/-- Each promise that settles leaves less to do, whichever it is. -/
theorem Steady.load_next (h : Steady r) (he : r.enabled e = true)
    (hinternal : e.isInternal = true) : (r.next e).load < r.load := by
  cases e with
  | sourceFailed =>
    have he := Bool.and_eq_true_iff.mp he
    have hidle : r.pull ≠ some .requested := by
      intro hrequested
      have hreadable := (h.source_of_awaits hrequested).1
      exact absurd (hreadable.symm.trans (beq_iff_eq.mp he.1)) nofun
    exact (load_release { r with sink := r.sink.error }).2.2.2 hidle (Bool.not_eq_true' _ ▸ he.2)
  | started =>
    have hloop := PullLoop.load_start (Bool.not_eq_true' _ ▸ he) r.shouldCallPull
    have hload := r.load_pulled (r.pulls.start r.shouldCallPull)
    change (r.pulled (r.pulls.start r.shouldCallPull)).load < r.load
    omega
  | pullResumed stops => exact h.load_pullResumed he stops
  | pullSettled =>
    have hfinished := finished_of_enabled he
    have hloop := PullLoop.load_settle (h.pulling hfinished) r.shouldCallPull
    have hload := load_pulled { r with pull := none } (r.pulls.settle r.shouldCallPull)
    have hless : load { r with pull := none } + 1 = r.load := by
      unfold load
      rw [hfinished]
      simp only [pullLoad]
      omega
    change (pulled { r with pull := none } (r.pulls.settle r.shouldCallPull)).load < r.load
    simp only at hload
    omega
  | unlocked => exact (load_release r).2.1 (h.freed.once he) he
  | _ => cases hinternal

end Relay

end NestWebTransport
