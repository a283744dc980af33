import NestWebTransport.Testing.BoundedValueQueue

/-! No value of a bounded queue is lost, repeated or overtaken. -/
namespace NestWebTransport

namespace BoundedValueQueue

variable {α : Type*} {capacity : PositiveInteger} {overflow : QueueOverflowPolicy}
  {q t : BoundedValueQueue α} {value : α} {e : ValueQueueEvent α} {es fs : List (ValueQueueEvent α)}

structure Sound (capacity : PositiveInteger) (q : BoundedValueQueue α) : Prop where
  bounded : q.values.length ≤ capacity.value
  waiting : q.waitingForValue = true → q.values = [] ∧ q.state = .open
  controller : q.readable.canCloseOrEnqueue = true ↔ q.state = .open ∨ q.state = .closing
  closing : q.state = .closing → q.values ≠ []
  ended : q.state = .closed ∨ q.state = .aborted → q.values = []
  conserves : Conserves q.pushed q.handed q.values (q.dropped ++ q.discarded)

theorem sound_new : Sound (α := α) capacity new where
  bounded := Nat.zero_le _
  waiting := nofun
  controller := by simp [new, ReadableStream.new, ReadableStream.canCloseOrEnqueue]
  closing := nofun
  ended _ := rfl
  conserves := .nil

/-- What is stored can still be handed over. -/
theorem Sound.canEnqueue (h : Sound capacity q) (hvalues : q.values ≠ []) :
    q.readable.canCloseOrEnqueue = true := by
  apply h.controller.mpr
  cases hstate : q.state with
  | «open» => exact .inl rfl
  | closing => exact .inr rfl
  | closed => exact absurd (h.ended (.inl hstate)) hvalues
  | aborted => exact absurd (h.ended (.inr hstate)) hvalues

theorem enqueue_eq (h : q.readable.canCloseOrEnqueue = true) :
    q.enqueue value =
      { q with readable := q.readable.enqueue value, handed := q.handed ++ [value] } := if_pos h

theorem flushOne_cons {rest : List α} (hvalues : q.values = value :: rest) :
    q.flushOne =
      if ({ q with values := rest }.enqueue value).values = [] ∧
          ({ q with values := rest }.enqueue value).state = .closing then
        ({ q with values := rest }.enqueue value).finishClose
      else { q with values := rest }.enqueue value := by
  unfold flushOne
  rw [hvalues]

theorem flushOne_nil (hvalues : q.values = []) :
    q.flushOne =
      match q.state with
      | .closing => q.finishClose
      | .open => { q with waitingForValue := true }
      | .closed | .aborted => q := by
  cases q
  cases hvalues
  rfl

/-! ### What each operation keeps -/

theorem Sound.drop (h : Sound capacity q)
    (hwaiting : q.waitingForValue = false) (value : α) :
    Sound capacity ({ q with pushed := q.pushed ++ [value] }.onDrop value) where
  bounded := h.bounded
  waiting hw := absurd (hwaiting.symm.trans hw) Bool.false_ne_true
  controller := h.controller
  closing := h.closing
  ended := h.ended
  conserves := by
    refine (h.conserves.lose value).congr ?_
    change (q.dropped ++ q.discarded ++ [value]).Perm (q.dropped ++ [value] ++ q.discarded)
    rw [List.append_assoc, List.append_assoc]
    exact List.perm_append_comm.append_left _

/-- The oldest value makes room for the one that arrives. -/
theorem Sound.dropOldest (h : Sound capacity q) (hstate : q.state = .open)
    (hwaiting : q.waitingForValue = false) {dropped : α} {rest : List α}
    (hvalues : q.values = dropped :: rest) (value : α) :
    Sound capacity { { q with pushed := q.pushed ++ [value] }.onDrop dropped with
      values := rest ++ [value] } where
  bounded := by
    have hbounded := h.bounded
    rw [hvalues, List.length_cons] at hbounded
    change (rest ++ [value]).length ≤ _
    rwa [List.length_append, List.length_singleton]
  waiting hw := absurd (hwaiting.symm.trans hw) Bool.false_ne_true
  controller := h.controller
  closing hclosing := by
    change q.state = .closing at hclosing
    rw [hstate] at hclosing
    cases hclosing
  ended hended := by
    change q.state = .closed ∨ q.state = .aborted at hended
    rw [hstate] at hended
    rcases hended with hended | hended <;> cases hended
  conserves := by
    have hcons := h.conserves
    rw [hvalues] at hcons
    refine (hcons.loseFirst.store value).congr ?_
    change (q.dropped ++ q.discarded ++ [dropped]).Perm (q.dropped ++ [dropped] ++ q.discarded)
    rw [List.append_assoc, List.append_assoc]
    exact List.perm_append_comm.append_left _

theorem Sound.pushFull (h : Sound capacity q) (hstate : q.state = .open)
    (hwaiting : q.waitingForValue = false) (hfull : capacity.value ≤ q.values.length) (value : α) :
    Sound capacity ({ q with pushed := q.pushed ++ [value] }.pushFull overflow value).2 := by
  cases overflow with
  | dropNewest => exact h.drop hwaiting value
  | reject => exact h.drop hwaiting value
  | closeSession => exact h.drop hwaiting value
  | dropOldest =>
    cases hvalues : q.values with
    | nil =>
      -- a capacity is positive
      rw [hvalues] at hfull
      exact absurd (capacity.positive.trans hfull) (Nat.not_succ_le_zero 0)
    | cons dropped rest =>
      have hdropped := h.dropOldest hstate hwaiting hvalues value
      unfold BoundedValueQueue.pushFull
      exact hdropped

theorem Sound.push (h : Sound capacity q) (value : α) :
    Sound capacity (q.push capacity overflow value).2 := by
  unfold BoundedValueQueue.push
  by_cases hstate : q.state = .open
  · rw [if_neg (not_not.mpr hstate)]
    have hcan := h.controller.mpr (.inl hstate)
    simp only
    cases hwaiting : q.waitingForValue with
    | true =>
      obtain ⟨hvalues, -⟩ := h.waiting hwaiting
      rw [if_pos rfl]
      change Sound capacity (BoundedValueQueue.enqueue _ value)
      rw [enqueue_eq (by exact hcan)]
      have hcons := h.conserves
      rw [hvalues] at hcons
      refine ⟨h.bounded, nofun, ?_, h.closing, h.ended, ?_⟩
      · change (q.readable.enqueue value).canCloseOrEnqueue = true ↔ _
        rw [ReadableStream.enqueue_canCloseOrEnqueue]
        exact h.controller
      · change Conserves (q.pushed ++ [value]) (q.handed ++ [value]) q.values _
        rw [hvalues]
        exact hcons.handDirectly value
    | false =>
      rw [if_neg Bool.false_ne_true]
      split
      · rename_i hroom
        refine ⟨?_, nofun, h.controller, fun _ => ?_, fun hended => ?_, h.conserves.store value⟩
        · change (q.values ++ [value]).length ≤ _
          rw [List.length_append, List.length_singleton]
          exact hroom
        · exact List.append_ne_nil_of_right_ne_nil _ (List.cons_ne_nil _ _)
        · change q.state = .closed ∨ q.state = .aborted at hended
          rw [hstate] at hended
          rcases hended with hended | hended <;> cases hended
      · rename_i hfull
        rw [← hwaiting]
        exact h.pushFull hstate hwaiting (not_lt.mp hfull) value
  · rw [if_pos hstate]
    exact h

/-- Once nothing is stored the stream is closed, and the queue with it. -/
theorem sound_finishClose (hvalues : q.values = []) (hstate : q.state ≠ .closed)
    (hconserves : Conserves q.pushed q.handed q.values (q.dropped ++ q.discarded)) :
    Sound capacity q.finishClose := by
  unfold finishClose
  rw [if_neg hstate]
  refine ⟨?_, nofun, ?_, nofun, fun _ => hvalues, hconserves⟩
  · change q.values.length ≤ _
    rw [hvalues]
    exact Nat.zero_le _
  · simp [ReadableStream.close_canCloseOrEnqueue]

theorem Sound.conserves_clear (h : Sound capacity q) :
    Conserves q.clear.pushed q.clear.handed q.clear.values
      (q.clear.dropped ++ q.clear.discarded) := by
  refine h.conserves.loseAll.congr ?_
  rw [List.append_assoc]
  exact .refl _

theorem Sound.close (h : Sound capacity q) (discard : Bool) : Sound capacity (q.close discard) := by
  unfold BoundedValueQueue.close
  split
  · exact h
  · rename_i hopen
    have hopen : q.state = .open ∨ q.state = .closing := by tauto
    cases discard with
    | true =>
      simp only [clear, if_true]
      exact sound_finishClose rfl nofun h.conserves_clear
    | false =>
      simp only [Bool.false_eq_true, if_false]
      split
      · rename_i hvalues
        exact sound_finishClose hvalues nofun h.conserves
      · rename_i hvalues
        refine ⟨h.bounded, fun hwaiting => absurd (h.waiting hwaiting).1 hvalues, ?_,
          fun _ => hvalues, nofun, h.conserves⟩
        exact iff_of_true (h.controller.mpr hopen) (.inr rfl)

theorem Sound.abort (h : Sound capacity q) : Sound capacity q.abort := by
  unfold BoundedValueQueue.abort
  split
  · exact h
  · refine ⟨Nat.zero_le _, nofun, ?_, nofun, fun _ => rfl, h.conserves_clear⟩
    simp [ReadableStream.error_canCloseOrEnqueue]

theorem Sound.flushOne (h : Sound capacity q) : Sound capacity q.flushOne := by
  cases hvalues : q.values with
  | cons value rest =>
    have hcan := h.canEnqueue (by rw [hvalues]; exact List.cons_ne_nil _ _)
    have hcons := h.conserves
    rw [hvalues] at hcons
    rw [flushOne_cons hvalues, enqueue_eq (by exact hcan)]
    split
    · rename_i hlast
      exact sound_finishClose hlast.1 (by rw [hlast.2]; nofun) hcons.handFirst
    · rename_i hmore
      refine ⟨?_, fun hwaiting => ?_, ?_, fun hclosing hempty => hmore ⟨hempty, hclosing⟩,
        fun hended => ?_, hcons.handFirst⟩
      · have hbounded := h.bounded
        rw [hvalues] at hbounded
        exact (Nat.le_succ _).trans hbounded
      · have hempty := (h.waiting hwaiting).1
        rw [hvalues] at hempty
        cases hempty
      · change (q.readable.enqueue value).canCloseOrEnqueue = true ↔ _
        rw [ReadableStream.enqueue_canCloseOrEnqueue]
        exact h.controller
      · have hempty := h.ended hended
        rw [hvalues] at hempty
        cases hempty
  | nil =>
    cases hstate : q.state with
    | closing => exact absurd hvalues (h.closing hstate)
    | «open» =>
      have hwaits : q.flushOne = { q with waitingForValue := true } := by
        rw [flushOne_nil hvalues, hstate]
      rw [hwaits]
      exact ⟨h.bounded, fun _ => ⟨hvalues, hstate⟩, h.controller, h.closing, h.ended, h.conserves⟩
    | closed =>
      rw [flushOne_nil hvalues, hstate]
      exact h
    | aborted =>
      rw [flushOne_nil hvalues, hstate]
      exact h

/-- Whatever the consumer does to its stream leaves the queue alone. -/
theorem Sound.withReadable (h : Sound capacity q) (readable : ReadableStream α)
    (hcan : readable.canCloseOrEnqueue = q.readable.canCloseOrEnqueue) :
    Sound capacity { q with readable := readable } :=
  ⟨h.bounded, h.waiting, by rw [hcan]; exact h.controller, h.closing, h.ended, h.conserves⟩

theorem Sound.cancel (h : Sound capacity q) : Sound capacity q.cancel := by
  unfold BoundedValueQueue.cancel BoundedValueQueue.abort
  split
  · simp only
    split
    · rename_i hended
      refine ⟨h.bounded, h.waiting, ?_, h.closing, h.ended, h.conserves⟩
      rw [ReadableStream.cancel_canCloseOrEnqueue]
      rcases hended with hended | hended <;> simp [hended]
    · refine ⟨Nat.zero_le _, nofun, ?_, nofun, fun _ => rfl, h.conserves_clear⟩
      simp [ReadableStream.error_canCloseOrEnqueue]
  · exact h

/-- Each event keeps every value stored, delivered or dropped, and the queue within its capacity. -/
theorem Sound.next (h : Sound capacity q) (e : ValueQueueEvent α) :
    Sound capacity (q.next capacity overflow e) := by
  cases e with
  | push value => exact h.push value
  | close discard => exact h.close discard
  | abort => exact h.abort
  | pull => exact h.flushOne
  | read => exact h.withReadable _ ReadableStream.read_canCloseOrEnqueue
  | release => exact h.withReadable _ rfl
  | cancel => exact h.cancel

/-- A sound queue stays sound through any run. -/
theorem sound_run (h : (machine capacity overflow).Run q es t) (hq : Sound capacity q) :
    Sound capacity t :=
  h.invariant (fun _ e _ hstep hs => by
    obtain ⟨-, rfl⟩ := hstep
    exact hs.next e) hq

/-! ### What a push does -/

/-- The queue takes another value without giving one up. -/
def HasRoom (q : BoundedValueQueue α) (capacity : PositiveInteger) : Prop :=
  q.state = .open ∧ (q.waitingForValue = true ∨ q.values.length < capacity.value)

instance : Decidable (HasRoom q capacity) := inferInstanceAs (Decidable (_ ∧ _))

theorem enqueue_state (value : α) : (q.enqueue value).state = q.state := by
  unfold enqueue
  split <;> rfl

theorem pushFull_state (value : α) : (q.pushFull overflow value).2.state = q.state := by
  cases overflow with
  | dropOldest =>
    unfold pushFull
    simp only
    split <;> rfl
  | dropNewest => rfl
  | reject => rfl
  | closeSession => rfl

theorem push_state (value : α) : (q.push capacity overflow value).2.state = q.state := by
  unfold BoundedValueQueue.push
  split
  · rfl
  · simp only
    split
    · exact enqueue_state value
    · split
      · rfl
      · exact pushFull_state value

/-- The value is handed over or stored, behind all that came before. -/
theorem Sound.push_of_room (h : Sound capacity q) (hroom : HasRoom q capacity)
    (overflow : QueueOverflowPolicy) (value : α) :
    (q.push capacity overflow value).1 = .accepted none ∧
      (q.push capacity overflow value).2.handed ++ (q.push capacity overflow value).2.values =
        q.handed ++ q.values ++ [value] := by
  obtain ⟨hstate, hroom⟩ := hroom
  have hcan := h.controller.mpr (.inl hstate)
  unfold BoundedValueQueue.push
  rw [if_neg (not_not.mpr hstate)]
  simp only
  cases hwaiting : q.waitingForValue with
  | true =>
    rw [if_pos rfl]
    refine ⟨rfl, ?_⟩
    simp only
    rw [enqueue_eq (by exact hcan)]
    simp only
    rw [(h.waiting hwaiting).1, List.append_nil, List.append_nil]
  | false =>
    have hlength : q.values.length < capacity.value :=
      hroom.resolve_left (by rw [hwaiting]; exact Bool.false_ne_true)
    rw [if_neg Bool.false_ne_true, if_pos hlength]
    exact ⟨rfl, (List.append_assoc ..).symm⟩

theorem push_of_full (hstate : q.state = .open) (hroom : ¬ HasRoom q capacity) (value : α) :
    q.push capacity overflow value =
      { q with pushed := q.pushed ++ [value] }.pushFull overflow value := by
  have hwaiting : ¬ q.waitingForValue = true := fun hwaiting => hroom ⟨hstate, .inl hwaiting⟩
  have hlength : ¬ q.values.length < capacity.value := fun hlength => hroom ⟨hstate, .inr hlength⟩
  unfold BoundedValueQueue.push
  rw [if_neg (not_not.mpr hstate)]
  simp only
  rw [if_neg hwaiting, if_neg hlength]

/-- A read that waits makes the stream pull, and a pull makes room. -/
theorem Sound.exists_pull (h : Sound capacity q) (hstate : q.state = .open)
    (hlength : ¬ q.values.length < capacity.value) (hqueue : q.readable.queue = []) :
    ∃ t, (machine capacity overflow).Run q [.read, .pull] t ∧ HasRoom t capacity := by
  obtain ⟨value, rest, hvalues⟩ : ∃ value rest, q.values = value :: rest := by
    refine List.exists_cons_of_ne_nil fun hempty => hlength ?_
    rw [hempty]
    exact capacity.positive
  have hcan := h.controller.mpr (.inl hstate)
  have hreadable : q.readable.state = .readable := by
    simp only [ReadableStream.canCloseOrEnqueue, Bool.and_eq_true, beq_iff_eq] at hcan
    exact hcan.1
  have hread : q.readable.read.2 = { q.readable with reads := q.readable.reads + 1 } := by
    unfold ReadableStream.read
    rw [hreadable]
    simp only [hqueue, hreadable]
  have hreading := h.withReadable _ (ReadableStream.read_canCloseOrEnqueue (r := q.readable))
  have hpull : ReadableStream.shouldCallPull q.readable.read.2 0 = true := by
    rw [ReadableStream.shouldCallPull, ReadableStream.read_canCloseOrEnqueue, hcan, hread]
    simp
  refine ⟨_, .stepL ⟨rfl, rfl⟩ (.single ⟨hpull, rfl⟩), ?_⟩
  have hbounded := h.bounded
  rw [hvalues] at hbounded
  change HasRoom (BoundedValueQueue.flushOne { q with readable := q.readable.read.2 }) capacity
  rw [flushOne_cons (by exact hvalues), enqueue_eq (by exact hreading.controller.mpr (.inl hstate))]
  split
  · rename_i hlast
    have hclosing : q.state = .closing := hlast.2
    rw [hstate] at hclosing
    cases hclosing
  · exact ⟨hstate, .inr hbounded⟩

/-- A consumer that goes on reading makes room. -/
theorem Sound.exists_room (h : Sound capacity q) (hstate : q.state = .open) :
    ∃ es t, (∀ e ∈ es, e = .read ∨ e = .pull) ∧ (machine capacity overflow).Run q es t ∧
      HasRoom t capacity := by
  by_cases hlength : q.values.length < capacity.value
  · exact ⟨[], q, by simp, .refl, hstate, .inr hlength⟩
  generalize hqueue : q.readable.queue = queue
  induction queue generalizing q with
  | nil =>
    obtain ⟨t, hrun, hroom⟩ := h.exists_pull hstate hlength hqueue
    exact ⟨_, t, by simp, hrun, hroom⟩
  | cons chunk queue ih =>
    -- what the stream has kept is read first
    have hcan := h.controller.mpr (.inl hstate)
    have hread : q.readable.read.2.queue = queue := by
      simp only [ReadableStream.canCloseOrEnqueue, Bool.and_eq_true, beq_iff_eq,
        Bool.not_eq_true'] at hcan
      unfold ReadableStream.read
      rw [hcan.1]
      simp only [hqueue, hcan.2]
      rw [if_neg (by simp)]
    have hreading := h.withReadable _ (ReadableStream.read_canCloseOrEnqueue (r := q.readable))
    obtain ⟨es, t, hes, hrun, hroom⟩ := ih hreading hstate hlength hread
    refine ⟨.read :: es, t, ?_, .stepL ⟨rfl, rfl⟩ hrun, hroom⟩
    intro e he
    rcases List.mem_cons.mp he with rfl | he
    · exact .inl rfl
    · exact hes e he

/-! ### A queue that has been shut -/

theorem finishClose_shut (h : q.state ≠ .open) : q.finishClose.state ≠ .open := by
  unfold finishClose
  split
  · exact h
  · nofun

theorem abort_shut (h : q.state ≠ .open) : q.abort.state ≠ .open := by
  unfold abort
  split
  · exact h
  · nofun

theorem flushOne_shut (h : q.state ≠ .open) : q.flushOne.state ≠ .open := by
  cases hvalues : q.values with
  | cons value rest =>
    have hnext : ({ q with values := rest }.enqueue value).state ≠ .open := by
      rw [enqueue_state]
      exact h
    rw [flushOne_cons hvalues]
    split
    · exact finishClose_shut hnext
    · exact hnext
  | nil =>
    rw [flushOne_nil hvalues]
    cases hstate : q.state with
    | closing => exact finishClose_shut h
    | «open» => exact absurd hstate h
    | closed => exact h
    | aborted => exact h

/-- A queue that is not open is never opened. -/
theorem next_shut (h : q.state ≠ .open) (e : ValueQueueEvent α) :
    (q.next capacity overflow e).state ≠ .open := by
  cases e with
  | push value =>
    change (q.push capacity overflow value).2.state ≠ .open
    rw [push_state]
    exact h
  | close discard =>
    change (q.close discard).state ≠ .open
    unfold BoundedValueQueue.close
    split
    · exact h
    · simp only
      generalize (if discard = true then q.clear else q) = q'
      split
      · exact finishClose_shut nofun
      · nofun
  | abort => exact abort_shut h
  | pull => exact flushOne_shut h
  | read => exact h
  | release => exact h
  | cancel =>
    change q.cancel.state ≠ .open
    unfold BoundedValueQueue.cancel
    split
    · exact abort_shut h
    · exact h

/-! ### What the queue promises -/

structure Kept (capacity : PositiveInteger) (q : BoundedValueQueue α) : Prop where
  bounded : q.values.length ≤ capacity.value
  waiting : q.waitingForValue = true → q.values = []
  accounted : q.pushed.Perm (q.handed ++ q.values ++ (q.dropped ++ q.discarded))
  ordered : (q.handed ++ q.values).Sublist q.pushed
  closing : q.state = .closing → q.values ≠ []

theorem Sound.kept (h : Sound capacity q) : Kept capacity q :=
  ⟨h.bounded, fun hwaiting => (h.waiting hwaiting).1, h.conserves.accounted, h.conserves.ordered,
    h.closing⟩

/-- An event that lets the queue hand over what it stores: no abort, no cancellation and no `close`
that discards. -/
def KeepsStored : ValueQueueEvent α → Prop
  | .abort | .cancel | .close true => False
  | .push _ | .close false | .pull | .read | .release => True

/-- A queue that takes no more values and has yet to hand over the last of `all`. -/
structure Emptying (all : List α) (q : BoundedValueQueue α) : Prop where
  shut : q.state ≠ .open
  rest : q.handed ++ q.values = all

variable {all : List α}

theorem Emptying.finishClose (h : Emptying all q) : Emptying all q.finishClose := by
  unfold BoundedValueQueue.finishClose
  split
  · exact h
  · exact ⟨nofun, h.rest⟩

theorem emptying_close (q : BoundedValueQueue α) :
    Emptying (q.handed ++ q.values) (q.close false) := by
  unfold BoundedValueQueue.close
  split
  · rename_i hended
    exact ⟨hended.1, rfl⟩
  · have hclosing : Emptying (q.handed ++ q.values) { q with state := .closing } := ⟨nofun, rfl⟩
    simp only [Bool.false_eq_true, if_false]
    split
    · exact hclosing.finishClose
    · exact hclosing

theorem Emptying.flushOne (h : Emptying all q) (hsound : Sound capacity q) :
    Emptying all q.flushOne := by
  cases hvalues : q.values with
  | cons value rest =>
    have hcan := hsound.canEnqueue (by rw [hvalues]; exact List.cons_ne_nil _ _)
    have hnext : Emptying all { q with
        values := rest
        readable := q.readable.enqueue value
        handed := q.handed ++ [value] } := by
      refine ⟨h.shut, ?_⟩
      have hrest := h.rest
      rw [hvalues] at hrest
      change q.handed ++ [value] ++ rest = all
      rw [← hrest, List.append_assoc]
      rfl
    rw [flushOne_cons hvalues, enqueue_eq (by exact hcan)]
    split
    · exact hnext.finishClose
    · exact hnext
  | nil =>
    rw [flushOne_nil hvalues]
    cases hstate : q.state with
    | closing => exact h.finishClose
    | «open» => exact absurd hstate h.shut
    | closed => exact h
    | aborted => exact h

/-- A closed queue only hands out what it holds. -/
theorem Emptying.next (h : Emptying all q) (hsound : Sound capacity q) (he : KeepsStored e) :
    Emptying all (q.next capacity overflow e) := by
  cases e with
  | push value =>
    change Emptying all (q.push capacity overflow value).2
    unfold BoundedValueQueue.push
    rw [if_pos h.shut]
    exact h
  | close discard =>
    cases discard with
    | true => exact he.elim
    | false => exact h.rest ▸ emptying_close q
  | abort => exact he.elim
  | pull => exact h.flushOne hsound
  | read => exact ⟨h.shut, h.rest⟩
  | release => exact ⟨h.shut, h.rest⟩
  | cancel => exact he.elim

/-- A run without a cancel or an abort hands out what a closed queue holds, in order. -/
theorem emptying_run (h : (machine capacity overflow).Run q es t) (hsound : Sound capacity q)
    (hq : Emptying all q) (hes : ∀ e ∈ es, KeepsStored e) : Emptying all t := by
  have hstep : ∀ q e t, KeepsStored e → (machine capacity overflow).Step q e t →
      Sound capacity q ∧ Emptying all q → Sound capacity t ∧ Emptying all t := by
    rintro q e t he ⟨-, rfl⟩ ⟨hsound, hq⟩
    exact ⟨hsound.next e, hq.next hsound he⟩
  exact (h.invariant_of_events KeepsStored hstep hes ⟨hsound, hq⟩).2

/-- A stream that takes no more chunks has been handed all there is. -/
theorem Sound.ended_of_closed (h : Sound capacity q)
    (hclosed : q.readable.canCloseOrEnqueue = false) : q.values = [] := by
  by_contra hvalues
  rw [h.canEnqueue hvalues] at hclosed
  cases hclosed

/-- Values are conserved in every state of a run. From a `close` without `discard` on the stored
values are handed over before the stream is closed, unless the queue is aborted, cancelled or closed
again with `discard`. -/
theorem values_conserved (capacity : PositiveInteger) (overflow : QueueOverflowPolicy)
    (es : List (ValueQueueEvent α)) (q : BoundedValueQueue α)
    (h : (machine capacity overflow).Run new es q) :
    Kept capacity q ∧
      ∀ fs t, (∀ e ∈ fs, KeepsStored e) → (machine capacity overflow).Run (q.close false) fs t →
        t.handed ++ t.values = q.handed ++ q.values ∧
          (t.readable.canCloseOrEnqueue = false → t.handed = q.handed ++ q.values) := by
  have hsound := sound_run h sound_new
  refine ⟨hsound.kept, fun fs t hkeeps hrun => ?_⟩
  have hclosed := hsound.close false
  have hrest := (emptying_run hrun hclosed (emptying_close q) hkeeps).rest
  refine ⟨hrest, fun hended => ?_⟩
  have hempty := (sound_run hrun hclosed).ended_of_closed hended
  rwa [hempty, List.append_nil] at hrest

def twoValues : PositiveInteger := .two

/-- The third value pushes the first one out; the other two are handed over, and the stream ends. -/
theorem values_conserved_two :
    ∃ (q t : BoundedValueQueue Nat),
      (machine twoValues .dropOldest).Run new [.push 1, .push 2, .push 3] q ∧
        (machine twoValues .dropOldest).Run (q.close false) [.read, .pull, .read, .pull] t ∧
          q.dropped = [1] ∧ t.readable.canCloseOrEnqueue = false ∧ t.handed = [2, 3] := by
  obtain ⟨q, hrun, hq, t, hrest, hended⟩ :
      ∃ q, (machine twoValues .dropOldest).Run new [.push 1, .push 2, .push 3] q ∧
        (q.dropped = [1] ∧ q.handed ++ q.values = [2, 3]) ∧
          ∃ t, (machine twoValues .dropOldest).Run (q.close false) [.read, .pull, .read, .pull] t ∧
            t.readable.canCloseOrEnqueue = false := by
    refine ⟨_, (program twoValues .dropOldest).execute_run rfl, ⟨rfl, rfl⟩, ?_⟩
    exact (program twoValues .dropOldest).exists_run _ _
      (fun t => t.readable.canCloseOrEnqueue = false) (by decide +kernel)
  have hkeeps : ∀ e ∈ [ValueQueueEvent.read, .pull, .read, .pull], KeepsStored (α := Nat) e := by
    simp [KeepsStored]
  have hkept := (values_conserved twoValues .dropOldest _ q hrun).2 _ t hkeeps hrest
  refine ⟨q, t, hrun, hrest, hq.1, hended, ?_⟩
  rw [hkept.2 hended, hq.2]

/-- A second `close` may discard what the first one left to be handed over. -/
theorem second_close_discards :
    ∃ (q t : BoundedValueQueue Nat),
      (machine twoValues .dropOldest).Run new [.push 1] q ∧
        (machine twoValues .dropOldest).Run (q.close false) [.close true] t ∧
          t.readable.canCloseOrEnqueue = false ∧ q.values = [1] ∧ t.handed = [] := by
  refine ⟨_, _, (program twoValues .dropOldest).execute_run rfl,
    (program twoValues .dropOldest).execute_run rfl, rfl, rfl, rfl⟩

end BoundedValueQueue

end NestWebTransport
