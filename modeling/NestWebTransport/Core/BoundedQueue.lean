import Mathlib.Data.List.Range
import Mathlib.Data.Nat.ModEq
import Mathlib.Logic.Function.Basic
import Mathlib.Tactic.SplitIfs

/-! The ring buffer behind every datagram queue, and the bounded FIFO list it stands for. -/
namespace NestWebTransport

inductive BoundedQueueOverflowPolicy
  | dropOldest
  | dropNewest
  | reject
  | closeSession
  deriving DecidableEq, Repr

inductive EnqueueOutcome
  | enqueued
  | droppedOldest
  | droppedNewest
  | rejected
  | closeSession
  deriving DecidableEq, Repr

/-- What `enqueue` reports. `item` is the evicted value for `droppedOldest` and the refused
argument for the three refusals. -/
structure EnqueueResult (Value : Type*) where
  accepted : Bool
  outcome : EnqueueOutcome
  item : Option Value

/-- The slot that lies `offset` places after `head`. -/
def ringIndex (capacity head offset : Nat) : Nat := (head + offset) % capacity

theorem ringIndex_lt {capacity : Nat} (h : 0 < capacity) (head offset : Nat) :
    ringIndex capacity head offset < capacity := Nat.mod_lt _ h

theorem ringIndex_zero {capacity head : Nat} (h : head < capacity) :
    ringIndex capacity head 0 = head := Nat.mod_eq_of_lt h

theorem ringIndex_succ (capacity head offset : Nat) :
    ringIndex capacity ((head + 1) % capacity) offset = ringIndex capacity head (offset + 1) := by
  simp only [ringIndex, Nat.mod_add_mod]
  congr 1
  omega

theorem ringIndex_inj {capacity head i j : Nat} (hi : i < capacity) (hj : j < capacity)
    (h : ringIndex capacity head i = ringIndex capacity head j) : i = j := by
  have hmod : i ≡ j [MOD capacity] := Nat.ModEq.add_left_cancel' head h
  simpa [Nat.ModEq, Nat.mod_eq_of_lt hi, Nat.mod_eq_of_lt hj] using hmod

/-- Every slot is some number of places after `head`. -/
theorem exists_ringIndex {capacity head i : Nat} (hhead : head < capacity) (hi : i < capacity) :
    ∃ offset, offset < capacity ∧ ringIndex capacity head offset = i := by
  refine ⟨(i + capacity - head) % capacity, Nat.mod_lt _ (by omega), ?_⟩
  rw [ringIndex, Nat.add_mod_mod, show head + (i + capacity - head) = i + capacity by omega,
    Nat.add_mod_right, Nat.mod_eq_of_lt hi]

/-- `#items`, `#head` and `#size`. A slot is `none` where the array holds no value; the live
slots are exactly those within `size` places of `head`, so no removed value is retained. -/
structure BoundedQueue (Value : Type*) where
  capacity : Nat
  overflow : BoundedQueueOverflowPolicy
  items : Nat → Option Value
  head : Nat
  size : Nat
  capacity_pos : 0 < capacity
  head_lt : head < capacity
  size_le : size ≤ capacity
  live : ∀ offset, offset < capacity →
    ((items (ringIndex capacity head offset)).isSome ↔ offset < size)

namespace BoundedQueue

variable {Value : Type*} (q : BoundedQueue Value) (v : Value)

def isEmpty : Bool := q.size == 0

def isFull : Bool := q.size == q.capacity

/-- The queue the constructor returns for options it accepts. -/
def empty (capacity : Nat) (overflow : BoundedQueueOverflowPolicy) (h : 0 < capacity) :
    BoundedQueue Value where
  capacity := capacity
  overflow := overflow
  items := fun _ => none
  head := 0
  size := 0
  capacity_pos := h
  head_lt := h
  size_le := Nat.zero_le _
  live := by simp

def slot (offset : Nat) : Option Value := q.items (ringIndex q.capacity q.head offset)

def toArray : List Value := (List.range q.size).filterMap q.slot

/-- Store at the first free slot; the branch of `enqueue` for a queue that is not full. -/
def append (h : q.size < q.capacity) : BoundedQueue Value :=
  { q with
    items := Function.update q.items (ringIndex q.capacity q.head q.size) (some v)
    size := q.size + 1
    size_le := h
    live := by
      intro offset ho
      by_cases he : offset = q.size
      · subst he
        simp
      · have hne : ringIndex q.capacity q.head offset ≠ ringIndex q.capacity q.head q.size :=
          fun heq => he (ringIndex_inj ho h heq)
        rw [Function.update_of_ne hne, q.live offset ho]
        omega }

/-- Overwrite the oldest slot and advance; the `drop-oldest` branch of `enqueue`. -/
def overwrite (h : q.size = q.capacity) : BoundedQueue Value :=
  { q with
    items := Function.update q.items q.head (some v)
    head := (q.head + 1) % q.capacity
    head_lt := Nat.mod_lt _ q.capacity_pos
    live := by
      intro offset ho
      rw [ringIndex_succ]
      constructor
      · intro _
        omega
      · intro _
        by_cases hlast : offset + 1 = q.capacity
        · have : ringIndex q.capacity q.head (offset + 1) = q.head := by
            rw [hlast, ringIndex, Nat.add_mod_right]
            exact Nat.mod_eq_of_lt q.head_lt
          simp [this]
        · by_cases hz : ringIndex q.capacity q.head (offset + 1) = q.head
          · simp [hz]
          · rw [Function.update_of_ne hz]
            exact (q.live (offset + 1) (by omega)).mpr (by omega) }

/-- Clear the oldest slot and advance, rewinding to slot 0 when that empties the queue. -/
def advance (h : 0 < q.size) : BoundedQueue Value :=
  { q with
    items := Function.update q.items q.head none
    head := if q.size - 1 = 0 then 0 else (q.head + 1) % q.capacity
    size := q.size - 1
    head_lt := by
      split_ifs
      · exact q.capacity_pos
      · exact Nat.mod_lt _ q.capacity_pos
    size_le := (Nat.sub_le _ _).trans q.size_le
    live := by
      have hself : ringIndex q.capacity q.head 0 = q.head := ringIndex_zero q.head_lt
      have hslot : ∀ offset, offset + 1 < q.capacity →
          ((Function.update q.items q.head none
            (ringIndex q.capacity q.head (offset + 1))).isSome ↔ offset < q.size - 1) := by
        intro offset ho
        have hne : ringIndex q.capacity q.head (offset + 1) ≠ q.head := by
          rw [← hself]
          intro heq
          rw [hself] at heq
          have := ringIndex_inj ho q.capacity_pos (heq.trans hself.symm)
          omega
        rw [Function.update_of_ne hne, q.live (offset + 1) ho]
        omega
      intro offset ho
      split_ifs with hlast
      · -- The last value left: every slot is now empty, wherever the window started.
        have hall : ∀ i, i < q.capacity → Function.update q.items q.head none i = none := by
          intro i hi
          by_cases hih : i = q.head
          · simp [hih]
          · obtain ⟨o, ho', rfl⟩ := exists_ringIndex q.head_lt hi
            cases o with
            | zero => exact absurd hself hih
            | succ o =>
              have := hslot o ho'
              rw [hlast] at this
              simpa using this
        rw [hall _ (ringIndex_lt q.capacity_pos _ _)]
        simp [hlast]
      · rw [ringIndex_succ]
        by_cases ho' : offset + 1 < q.capacity
        · exact hslot offset ho'
        · have : ringIndex q.capacity q.head (offset + 1) = q.head := by
            rw [show offset + 1 = q.capacity by omega, ringIndex, Nat.add_mod_right]
            exact Nat.mod_eq_of_lt q.head_lt
          have := q.size_le
          simp only [*, Function.update_self, Option.isSome_none, Bool.false_eq_true, false_iff]
          omega }

def enqueue : EnqueueResult Value × BoundedQueue Value :=
  if h : q.size < q.capacity then (⟨true, .enqueued, none⟩, q.append v h)
  else
    match q.overflow with
    | .dropOldest =>
      (⟨true, .droppedOldest, q.items q.head⟩, q.overwrite v (by have := q.size_le; omega))
    | .dropNewest => (⟨false, .droppedNewest, some v⟩, q)
    | .reject => (⟨false, .rejected, some v⟩, q)
    | .closeSession => (⟨false, .closeSession, some v⟩, q)

def dequeue : Option Value × BoundedQueue Value :=
  if h : 0 < q.size then (q.items q.head, q.advance h) else (none, q)

def peek : Option Value := if 0 < q.size then q.items q.head else none

def clear : BoundedQueue Value := empty q.capacity q.overflow q.capacity_pos

/-! ### The list a queue stands for -/

theorem filterMap_range_succ_left {α : Type*} (f : Nat → Option α) (n : Nat) :
    (List.range (n + 1)).filterMap f =
      (f 0).toList ++ (List.range n).filterMap (fun i => f (i + 1)) := by
  rw [List.range_succ_eq_map, List.filterMap_cons, List.filterMap_map]
  cases f 0 <;> rfl

theorem filterMap_range_succ {α : Type*} (f : Nat → Option α) (n : Nat) :
    (List.range (n + 1)).filterMap f = (List.range n).filterMap f ++ (f n).toList := by
  rw [List.range_succ, List.filterMap_append]
  cases h : f n <;> simp [h]

theorem slot_isSome {offset : Nat} (h : offset < q.size) : (q.slot offset).isSome :=
  (q.live offset (h.trans_le q.size_le)).mpr h

@[simp] theorem length_toArray : q.toArray.length = q.size := by
  have h : ∀ n, n ≤ q.size → ((List.range n).filterMap q.slot).length = n := by
    intro n hn
    induction n with
    | zero => rfl
    | succ n ih =>
      obtain ⟨v, hv⟩ := Option.isSome_iff_exists.mp (q.slot_isSome (Nat.lt_of_succ_le hn))
      rw [filterMap_range_succ, List.length_append, ih (by omega), hv]
      rfl
  exact h q.size le_rfl

theorem isEmpty_iff : q.isEmpty = true ↔ q.toArray = [] := by
  rw [isEmpty, beq_iff_eq, ← length_toArray, List.length_eq_zero_iff]

@[simp] theorem toArray_empty {capacity : Nat} {overflow : BoundedQueueOverflowPolicy}
    (h : 0 < capacity) : (empty capacity overflow h : BoundedQueue Value).toArray = [] := rfl

@[simp] theorem toArray_clear : q.clear.toArray = [] := rfl

theorem toArray_append (h : q.size < q.capacity) : (q.append v h).toArray = q.toArray ++ [v] := by
  have hlast : (q.append v h).slot q.size = some v := by simp [slot, append]
  have hrest : ∀ offset ∈ List.range q.size, (q.append v h).slot offset = q.slot offset := by
    intro offset ho
    rw [List.mem_range] at ho
    have hne : ringIndex q.capacity q.head offset ≠ ringIndex q.capacity q.head q.size := by
      intro heq
      have := ringIndex_inj (ho.trans h) h heq
      omega
    simp [slot, append, Function.update_of_ne hne]
  rw [toArray, show (q.append v h).size = q.size + 1 from rfl, filterMap_range_succ, hlast,
    List.filterMap_congr hrest]
  rfl

/-- Past the oldest value, a queue reads one slot further round the ring. -/
theorem toArray_eq_cons (h : 0 < q.size) :
    q.toArray = (q.items q.head).toList ++
      (List.range (q.size - 1)).filterMap (fun i => q.slot (i + 1)) := by
  obtain ⟨n, hn⟩ : ∃ n, q.size = n + 1 := ⟨q.size - 1, by omega⟩
  rw [toArray, hn, filterMap_range_succ_left, slot, ringIndex_zero q.head_lt]
  rfl

theorem items_head (h : 0 < q.size) : q.items q.head = q.toArray.head? := by
  have hs := q.slot_isSome h
  rw [slot, ringIndex_zero q.head_lt] at hs
  obtain ⟨v, hv⟩ := Option.isSome_iff_exists.mp hs
  rw [q.toArray_eq_cons h, hv]
  rfl

theorem peek_eq : q.peek = q.toArray.head? := by
  unfold peek
  split_ifs with h
  · exact q.items_head h
  · have : q.toArray = [] := List.length_eq_zero_iff.mp (by rw [length_toArray]; omega)
    simp [this]

theorem tail_toArray (h : 0 < q.size) :
    q.toArray.tail = (List.range (q.size - 1)).filterMap (fun i => q.slot (i + 1)) := by
  have hs := q.slot_isSome h
  rw [slot, ringIndex_zero q.head_lt] at hs
  obtain ⟨v, hv⟩ := Option.isSome_iff_exists.mp hs
  rw [q.toArray_eq_cons h, hv]
  rfl

/-- Overwriting a full queue drops the oldest value and puts the new one last. -/
theorem toArray_overwrite (h : q.size = q.capacity) :
    (q.overwrite v h).toArray = q.toArray.tail ++ [v] := by
  have hpos : 0 < q.size := by have := q.capacity_pos; omega
  obtain ⟨n, hn⟩ : ∃ n, q.size = n + 1 := ⟨q.size - 1, by omega⟩
  have hself : ringIndex q.capacity q.head 0 = q.head := ringIndex_zero q.head_lt
  have hlast : (q.overwrite v h).slot n = some v := by
    have : ringIndex q.capacity q.head (n + 1) = q.head := by
      rw [← hn, h, ringIndex, Nat.add_mod_right]
      exact Nat.mod_eq_of_lt q.head_lt
    simp [slot, overwrite, ringIndex_succ, this]
  have hrest : ∀ offset ∈ List.range n, (q.overwrite v h).slot offset = q.slot (offset + 1) := by
    intro offset ho
    rw [List.mem_range] at ho
    have hne : ringIndex q.capacity q.head (offset + 1) ≠ q.head := by
      intro heq
      have := ringIndex_inj (by omega) q.capacity_pos (heq.trans hself.symm)
      omega
    simp [slot, overwrite, ringIndex_succ, Function.update_of_ne hne]
  rw [q.tail_toArray hpos, toArray, show (q.overwrite v h).size = n + 1 from hn,
    filterMap_range_succ, hlast, List.filterMap_congr hrest, hn]
  rfl

theorem toArray_advance (h : 0 < q.size) : (q.advance h).toArray = q.toArray.tail := by
  rw [q.tail_toArray h, toArray, show (q.advance h).size = q.size - 1 from rfl]
  refine List.filterMap_congr fun offset ho => ?_
  rw [List.mem_range] at ho
  have hlast : q.size - 1 ≠ 0 := by omega
  have hself : ringIndex q.capacity q.head 0 = q.head := ringIndex_zero q.head_lt
  have hne : ringIndex q.capacity q.head (offset + 1) ≠ q.head := by
    intro heq
    have := q.size_le
    have := ringIndex_inj (by omega) q.capacity_pos (heq.trans hself.symm)
    omega
  simp [slot, advance, hlast, ringIndex_succ, Function.update_of_ne hne]

theorem isFull_iff : q.isFull = true ↔ q.toArray.length = q.capacity := by
  simp [isFull]

theorem dequeue_toArray :
    q.dequeue.1 = q.toArray.head? ∧ q.dequeue.2.toArray = q.toArray.tail := by
  unfold dequeue
  split_ifs with h
  · exact ⟨q.items_head h, q.toArray_advance h⟩
  · have : q.toArray = [] := List.length_eq_zero_iff.mp (by rw [length_toArray]; omega)
    simp [this]

/-- No operation changes the options. -/
theorem enqueue_options :
    (q.enqueue v).2.capacity = q.capacity ∧ (q.enqueue v).2.overflow = q.overflow := by
  unfold enqueue
  split_ifs with h
  · exact ⟨rfl, rfl⟩
  · split <;> exact ⟨rfl, rfl⟩

theorem dequeue_options :
    q.dequeue.2.capacity = q.capacity ∧ q.dequeue.2.overflow = q.overflow := by
  unfold dequeue
  split_ifs with h <;> exact ⟨rfl, rfl⟩

/-- The four ways `enqueue` can answer, each with its effect on the list. -/
theorem enqueue_cases :
    (q.toArray.length < q.capacity ∧ (q.enqueue v).1 = ⟨true, .enqueued, none⟩ ∧
      (q.enqueue v).2.toArray = q.toArray ++ [v]) ∨
    (q.toArray.length = q.capacity ∧ q.overflow = .dropOldest ∧
      (q.enqueue v).1 = ⟨true, .droppedOldest, q.toArray.head?⟩ ∧
      (q.enqueue v).2.toArray = q.toArray.tail ++ [v]) ∨
    (q.toArray.length = q.capacity ∧ q.overflow ≠ .dropOldest ∧
      (q.enqueue v).1.accepted = false ∧ (q.enqueue v).1.item = some v ∧
      (q.enqueue v).1.outcome = (match q.overflow with
        | .dropOldest => .droppedOldest
        | .dropNewest => .droppedNewest
        | .reject => .rejected
        | .closeSession => .closeSession) ∧
      (q.enqueue v).2 = q) := by
  unfold enqueue
  split_ifs with h
  · exact Or.inl ⟨by simpa using h, rfl, q.toArray_append v h⟩
  · have hfull : q.size = q.capacity := by have := q.size_le; omega
    have hpos : 0 < q.size := by have := q.capacity_pos; omega
    right
    cases ho : q.overflow with
    | dropOldest =>
      exact Or.inl ⟨by simpa using hfull, rfl, by simp only [q.items_head hpos],
        q.toArray_overwrite v hfull⟩
    | dropNewest => exact Or.inr ⟨by simpa using hfull, by simp, rfl, rfl, rfl, rfl⟩
    | reject => exact Or.inr ⟨by simpa using hfull, by simp, rfl, rfl, rfl, rfl⟩
    | closeSession => exact Or.inr ⟨by simpa using hfull, by simp, rfl, rfl, rfl, rfl⟩

end BoundedQueue

end NestWebTransport
