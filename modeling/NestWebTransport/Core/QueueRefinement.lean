import NestWebTransport.Core.BoundedQueue
import NestWebTransport.Foundation.Transcript

/-! The queue class as its fields are stored, and the list that answers every call alike. -/
namespace NestWebTransport

variable {Value : Type*}

/-- The fields of the class. `#items` grows as slots are first written; a slot that holds nothing
reads as `undefined`, which may also be a value that was enqueued. -/
structure SlotQueue (Value : Type*) where
  capacity : Nat
  overflow : BoundedQueueOverflowPolicy
  items : List Value
  head : Nat
  size : Nat

namespace SlotQueue

variable (undefined : Value) (q : SlotQueue Value) (item : Value)

/-- The constructor; `none` is the `RangeError`. -/
def create (capacity : Nat) (overflow : BoundedQueueOverflowPolicy) : Option (SlotQueue Value) :=
  if capacity < 1 || capacity > 0xffffffff then none else some ⟨capacity, overflow, [], 0, 0⟩

def isEmpty : Bool := q.size == 0

def isFull : Bool := q.size == q.capacity

def read (i : Nat) : Value := q.items.getD i undefined

/-- Assignment to an index of `#items`, which lengthens the array where it has to. -/
def write (i : Nat) : List Value :=
  if i < q.items.length then q.items.set i item
  else q.items ++ List.replicate (i - q.items.length) undefined ++ [item]

def enqueue : EnqueueResult Value × SlotQueue Value :=
  if !q.isFull then
    (⟨true, .enqueued, none⟩,
      { q with
        items := q.write undefined item ((q.head + q.size) % q.capacity)
        size := q.size + 1 })
  else
    match q.overflow with
    | .dropOldest =>
      (⟨true, .droppedOldest, some (q.read undefined q.head)⟩,
        { q with
          items := q.write undefined item q.head
          head := (q.head + 1) % q.capacity })
    | .dropNewest => (⟨false, .droppedNewest, some item⟩, q)
    | .reject => (⟨false, .rejected, some item⟩, q)
    | .closeSession => (⟨false, .closeSession, some item⟩, q)

def dequeue : Value × SlotQueue Value :=
  if q.isEmpty then (undefined, q)
  else
    (q.read undefined q.head,
      { q with
        items := q.write undefined undefined q.head
        head := if q.size - 1 = 0 then 0 else (q.head + 1) % q.capacity
        size := q.size - 1 })

def peek : Value := if q.isEmpty then undefined else q.read undefined q.head

def clear : SlotQueue Value := { q with items := [], head := 0, size := 0 }

def toArray : List Value :=
  (List.range q.size).map fun offset => q.read undefined ((q.head + offset) % q.capacity)

/-- A slot the live window does not cover. -/
def Outside (i : Nat) : Prop :=
  i < q.capacity ∧ ∀ offset < q.size, (q.head + offset) % q.capacity ≠ i

end SlotQueue

/-- What a user of the queue can ask. -/
inductive QueueCall (Value : Type*)
  | enqueue (item : Value)
  | dequeue
  | peek
  | clear
  | toArray
  | iterate
  | size
  | isEmpty
  | isFull

inductive QueueAnswer (Value : Type*)
  | enqueued (result : EnqueueResult Value)
  | value (v : Value)
  | values (vs : List Value)
  | count (n : Nat)
  | flag (b : Bool)
  | done

def SlotQueue.respond (undefined : Value) (q : SlotQueue Value) :
    QueueCall Value → QueueAnswer Value × SlotQueue Value
  | .enqueue item => (.enqueued (q.enqueue undefined item).1, (q.enqueue undefined item).2)
  | .dequeue => (.value (q.dequeue undefined).1, (q.dequeue undefined).2)
  | .peek => (.value (q.peek undefined), q)
  | .clear => (.done, q.clear)
  | .toArray => (.values (q.toArray undefined), q)
  | .iterate => (.values (q.toArray undefined), q)
  | .size => (.count q.size, q)
  | .isEmpty => (.flag q.isEmpty, q)
  | .isFull => (.flag q.isFull, q)

/-- A first-in first-out list of at most `capacity` values: what the queue is for. -/
structure ListQueue (Value : Type*) where
  capacity : Nat
  overflow : BoundedQueueOverflowPolicy
  values : List Value

namespace ListQueue

variable (undefined : Value) (l : ListQueue Value)

def enqueue (item : Value) : EnqueueResult Value × ListQueue Value :=
  if l.values.length < l.capacity then
    (⟨true, .enqueued, none⟩, { l with values := l.values ++ [item] })
  else
    match l.overflow with
    | .dropOldest =>
      (⟨true, .droppedOldest, l.values.head?⟩, { l with values := l.values.tail ++ [item] })
    | .dropNewest => (⟨false, .droppedNewest, some item⟩, l)
    | .reject => (⟨false, .rejected, some item⟩, l)
    | .closeSession => (⟨false, .closeSession, some item⟩, l)

def respond : QueueCall Value → QueueAnswer Value × ListQueue Value
  | .enqueue item => (.enqueued (l.enqueue item).1, (l.enqueue item).2)
  | .dequeue => (.value (l.values.headD undefined), { l with values := l.values.tail })
  | .peek => (.value (l.values.headD undefined), l)
  | .clear => (.done, { l with values := [] })
  | .toArray => (.values l.values, l)
  | .iterate => (.values l.values, l)
  | .size => (.count l.values.length, l)
  | .isEmpty => (.flag l.values.isEmpty, l)
  | .isFull => (.flag (l.values.length == l.capacity), l)

end ListQueue

namespace SlotQueue

variable {undefined : Value} {q : SlotQueue Value} {r : BoundedQueue Value} {item : Value}

/-- A write changes the slot it is made to, and fills what it passes with holes. -/
theorem getD_write (i j : Nat) :
    (q.write undefined item i).getD j undefined = if j = i then item else q.read undefined j := by
  unfold write read
  split_ifs with hi hj hj
  · subst hj
    simp [List.getD_eq_getElem?_getD, hi]
  · simp [List.getD_eq_getElem?_getD, Ne.symm hj]
  · subst hj
    rw [List.getD_eq_getElem?_getD, List.getElem?_append_right (by simp; omega)]
    simp [show j - (q.items.length + (j - q.items.length)) = 0 by omega]
  · rw [List.getD_eq_getElem?_getD, List.getD_eq_getElem?_getD]
    by_cases hold : j < q.items.length
    · rw [List.append_assoc, List.getElem?_append_left hold]
    · rw [List.getElem?_eq_none (by omega : q.items.length ≤ j)]
      by_cases hpad : j < i
      · rw [List.getElem?_append_left (by simp; omega), List.getElem?_append_right (by omega),
          List.getElem?_replicate]
        simp [show j - q.items.length < i - q.items.length by omega]
      · rw [List.getElem?_eq_none (by simp; omega)]

/-- The fields hold the ring `r`, its empty slots read as `undefined`. -/
structure Stores (undefined : Value) (q : SlotQueue Value) (r : BoundedQueue Value) : Prop where
  capacity : q.capacity = r.capacity
  overflow : q.overflow = r.overflow
  head : q.head = r.head
  size : q.size = r.size
  slots : ∀ i, q.read undefined i = (r.items i).getD undefined

namespace Stores

theorem isFull (h : Stores undefined q r) : q.isFull = r.isFull := by
  simp [SlotQueue.isFull, BoundedQueue.isFull, h.size, h.capacity]

theorem isEmpty (h : Stores undefined q r) : q.isEmpty = r.isEmpty := by
  simp [SlotQueue.isEmpty, BoundedQueue.isEmpty, h.size]

/-- Writing the slot the ring updates keeps the two in step. -/
theorem write (h : Stores undefined q r) (i : Nat) (v : Option Value) (j : Nat) :
    (q.write undefined (v.getD undefined) i).getD j undefined =
      (Function.update r.items i v j).getD undefined := by
  rw [getD_write]
  by_cases hj : j = i
  · subst hj
    simp
  · rw [if_neg hj, Function.update_of_ne hj, h.slots j]

theorem toArray (h : Stores undefined q r) : q.toArray undefined = r.toArray := by
  have hread : ∀ offset ∈ List.range r.size,
      r.slot offset = some (q.read undefined ((q.head + offset) % q.capacity)) := by
    intro offset ho
    have hlive := r.slot_isSome (List.mem_range.mp ho)
    obtain ⟨v, hv⟩ := Option.isSome_iff_exists.mp hlive
    rw [h.slots, h.head, h.capacity, hv]
    rw [BoundedQueue.slot, ringIndex] at hv
    rw [hv]
    rfl
  rw [SlotQueue.toArray, BoundedQueue.toArray, List.filterMap_congr hread, h.size]
  simp

theorem items_head (h : Stores undefined q r) (hpos : 0 < r.size) :
    some (q.read undefined q.head) = r.toArray.head? := by
  have hlive := r.slot_isSome hpos
  rw [BoundedQueue.slot, ringIndex_zero r.head_lt] at hlive
  obtain ⟨v, hv⟩ := Option.isSome_iff_exists.mp hlive
  rw [← r.items_head hpos, h.slots, h.head, hv]
  rfl

theorem enqueue (h : Stores undefined q r) (item : Value) :
    (q.enqueue undefined item).1 = (r.enqueue item).1 ∧
      Stores undefined (q.enqueue undefined item).2 (r.enqueue item).2 := by
  have hsize := r.size_le
  have hpos := r.capacity_pos
  by_cases hroom : r.size < r.capacity
  · have hfull : q.isFull = false := by
      rw [h.isFull, BoundedQueue.isFull, beq_eq_false_iff_ne]
      omega
    simp only [SlotQueue.enqueue, hfull, BoundedQueue.enqueue, hroom, Bool.not_false, if_true,
      dif_pos]
    refine ⟨trivial, ⟨h.capacity, h.overflow, h.head, by simp [BoundedQueue.append, h.size], ?_⟩⟩
    intro i
    have hwrite := h.write ((q.head + q.size) % q.capacity) (some item) i
    rw [h.head, h.size, h.capacity] at hwrite
    rw [h.head, h.size, h.capacity]
    exact hwrite
  · have hfull : q.isFull = true := by
      rw [h.isFull, BoundedQueue.isFull, beq_iff_eq]
      omega
    simp only [SlotQueue.enqueue, hfull, BoundedQueue.enqueue, hroom, Bool.not_true,
      Bool.false_eq_true, if_false, dif_neg, not_false_eq_true]
    rw [h.overflow]
    cases hpolicy : r.overflow with
    | dropOldest =>
      have hhead := h.items_head (by omega)
      rw [← r.items_head (by omega)] at hhead
      refine ⟨by simp only [hhead], ⟨h.capacity, ?_, ?_, h.size, ?_⟩⟩
      · simp [BoundedQueue.overwrite, hpolicy]
      · simp [BoundedQueue.overwrite, h.head, h.capacity]
      · intro i
        have hwrite := h.write q.head (some item) i
        rw [h.head] at hwrite
        rw [h.head]
        exact hwrite
    | dropNewest => exact ⟨rfl, h⟩
    | reject => exact ⟨rfl, h⟩
    | closeSession => exact ⟨rfl, h⟩

theorem dequeue (h : Stores undefined q r) :
    (q.dequeue undefined).1 = r.dequeue.1.getD undefined ∧
      Stores undefined (q.dequeue undefined).2 r.dequeue.2 := by
  by_cases hpos : 0 < r.size
  · have hempty : q.isEmpty = false := by
      rw [h.isEmpty, BoundedQueue.isEmpty, beq_eq_false_iff_ne]
      omega
    simp only [SlotQueue.dequeue, hempty, BoundedQueue.dequeue, hpos, Bool.false_eq_true, if_false,
      dif_pos]
    refine ⟨by rw [h.slots, h.head], ⟨h.capacity, h.overflow, ?_, ?_, ?_⟩⟩
    · simp only [BoundedQueue.advance, h.size, h.head, h.capacity]
    · simp only [BoundedQueue.advance, h.size]
    · intro i
      have hwrite := h.write q.head none i
      rw [h.head] at hwrite
      rw [h.head]
      exact hwrite
  · have hempty : q.isEmpty = true := by
      rw [h.isEmpty, BoundedQueue.isEmpty, beq_iff_eq]
      omega
    simp only [SlotQueue.dequeue, hempty, BoundedQueue.dequeue, hpos, if_true, dif_neg,
      not_false_eq_true]
    exact ⟨rfl, h⟩

theorem peek (h : Stores undefined q r) : q.peek undefined = r.peek.getD undefined := by
  by_cases hpos : 0 < r.size
  · have hempty : q.isEmpty = false := by
      rw [h.isEmpty, BoundedQueue.isEmpty, beq_eq_false_iff_ne]
      omega
    rw [SlotQueue.peek, hempty, BoundedQueue.peek, if_pos hpos, h.slots, h.head]
    rfl
  · have hempty : q.isEmpty = true := by
      rw [h.isEmpty, BoundedQueue.isEmpty, beq_iff_eq]
      omega
    rw [SlotQueue.peek, hempty, BoundedQueue.peek, if_neg hpos]
    rfl

theorem clear (h : Stores undefined q r) : Stores undefined q.clear r.clear :=
  ⟨h.capacity, h.overflow, rfl, rfl, fun _ => rfl⟩

/-- Outside the live window the ring is empty, so the array reads as `undefined` there. -/
theorem outside (h : Stores undefined q r) {i : Nat} (hi : q.Outside i) :
    q.read undefined i = undefined := by
  obtain ⟨hlt, hwindow⟩ := hi
  rw [h.capacity] at hlt
  obtain ⟨offset, ho, rfl⟩ := exists_ringIndex r.head_lt hlt
  have hdead : ¬ offset < r.size := by
    intro hsize
    refine hwindow offset (by rw [h.size]; exact hsize) ?_
    rw [h.head, h.capacity]
    rfl
  have hnone := (r.live offset ho).not.mpr hdead
  rw [Option.not_isSome_iff_eq_none] at hnone
  rw [h.slots, hnone]
  rfl

end Stores

end SlotQueue

/-- The fields hold a ring that stands for the list, under the same options. -/
def SlotQueue.Refines (undefined : Value) (q : SlotQueue Value) (l : ListQueue Value) : Prop :=
  ∃ r : BoundedQueue Value, q.Stores undefined r ∧ r.toArray = l.values ∧
    r.capacity = l.capacity ∧ r.overflow = l.overflow

namespace SlotQueue.Refines

variable {undefined : Value} {q : SlotQueue Value} {l : ListQueue Value}

theorem enqueue (h : q.Refines undefined l) (item : Value) :
    (q.enqueue undefined item).1 = (l.enqueue item).1 ∧
      (q.enqueue undefined item).2.Refines undefined (l.enqueue item).2 := by
  obtain ⟨r, hstore, hlist, hcapacity, hoverflow⟩ := h
  obtain ⟨hanswer, hnext⟩ := hstore.enqueue item
  rw [hanswer]
  have hoptions := r.enqueue_options item
  unfold ListQueue.enqueue
  rw [← hlist, ← hcapacity, ← hoverflow]
  rcases r.enqueue_cases item with ⟨hroom, hresult, hvalues⟩ | ⟨hfull, hpolicy, hresult, hvalues⟩ |
    ⟨hfull, hpolicy, haccepted, hitem, houtcome, hsame⟩
  · rw [if_pos hroom]
    exact ⟨hresult, _, hnext, hvalues, hoptions.1, hoptions.2⟩
  · rw [if_neg (by omega), hpolicy]
    exact ⟨hresult, _, hnext, hvalues, hoptions.1, hoptions.2.trans hpolicy⟩
  · rw [if_neg (by omega)]
    have hresult : (r.enqueue item).1 =
        ⟨false, (r.enqueue item).1.outcome, some item⟩ := by
      rw [← haccepted, ← hitem]
    rw [hresult, houtcome]
    rw [hsame] at hnext
    cases hp : r.overflow with
    | dropOldest => exact absurd hp hpolicy
    | dropNewest => exact ⟨rfl, r, hnext, hlist, hcapacity, hoverflow⟩
    | reject => exact ⟨rfl, r, hnext, hlist, hcapacity, hoverflow⟩
    | closeSession => exact ⟨rfl, r, hnext, hlist, hcapacity, hoverflow⟩

/-- Every call gets the list's answer and leaves the two in step. -/
theorem respond (h : q.Refines undefined l) (c : QueueCall Value) :
    (q.respond undefined c).1 = (l.respond undefined c).1 ∧
      (q.respond undefined c).2.Refines undefined (l.respond undefined c).2 := by
  cases c with
  | enqueue item =>
    obtain ⟨hanswer, hnext⟩ := h.enqueue item
    exact ⟨congrArg QueueAnswer.enqueued hanswer, hnext⟩
  | dequeue =>
    obtain ⟨r, hstore, hlist, hcapacity, hoverflow⟩ := h
    obtain ⟨hanswer, hnext⟩ := hstore.dequeue
    obtain ⟨hhead, htail⟩ := r.dequeue_toArray
    have hoptions := r.dequeue_options
    refine ⟨congrArg QueueAnswer.value ?_, _, hnext, ?_, hoptions.1.trans hcapacity,
      hoptions.2.trans hoverflow⟩
    · rw [hanswer, hhead, hlist, List.headD_eq_head?_getD]
    · exact htail.trans (congrArg List.tail hlist)
  | peek =>
    obtain ⟨r, hstore, hlist, hrest⟩ := h
    refine ⟨congrArg QueueAnswer.value ?_, r, hstore, hlist, hrest⟩
    rw [hstore.peek, r.peek_eq, hlist, List.headD_eq_head?_getD]
  | clear =>
    obtain ⟨r, hstore, hlist, hcapacity, hoverflow⟩ := h
    exact ⟨rfl, r.clear, hstore.clear, r.toArray_clear, hcapacity, hoverflow⟩
  | toArray =>
    obtain ⟨r, hstore, hlist, hrest⟩ := h
    refine ⟨congrArg QueueAnswer.values ?_, r, hstore, hlist, hrest⟩
    rw [hstore.toArray, hlist]
  | iterate =>
    obtain ⟨r, hstore, hlist, hrest⟩ := h
    refine ⟨congrArg QueueAnswer.values ?_, r, hstore, hlist, hrest⟩
    rw [hstore.toArray, hlist]
  | size =>
    obtain ⟨r, hstore, hlist, hrest⟩ := h
    refine ⟨congrArg QueueAnswer.count ?_, r, hstore, hlist, hrest⟩
    rw [hstore.size, ← hlist, r.length_toArray]
  | isEmpty =>
    obtain ⟨r, hstore, hlist, hrest⟩ := h
    refine ⟨congrArg QueueAnswer.flag ?_, r, hstore, hlist, hrest⟩
    rw [hstore.isEmpty, Bool.eq_iff_iff, r.isEmpty_iff, hlist, List.isEmpty_iff]
  | isFull =>
    obtain ⟨r, hstore, hlist, hcapacity, hoverflow⟩ := h
    refine ⟨congrArg QueueAnswer.flag ?_, r, hstore, hlist, hcapacity, hoverflow⟩
    rw [hstore.isFull, BoundedQueue.isFull, ← r.length_toArray, hlist, hcapacity]

end SlotQueue.Refines

namespace SlotQueue

variable {undefined : Value}

/-- A queue the constructor returns stores the empty ring. -/
theorem create_refines {capacity : Nat} {overflow : BoundedQueueOverflowPolicy}
    {q : SlotQueue Value} (h : create capacity overflow = some q) :
    q.Refines undefined ⟨capacity, overflow, []⟩ := by
  unfold create at h
  split at h
  · cases h
  · rename_i hrange
    cases h
    simp only [Bool.or_eq_true, decide_eq_true_eq, not_or] at hrange
    exact ⟨BoundedQueue.empty capacity overflow (by omega),
      ⟨rfl, rfl, rfl, rfl, fun i => rfl⟩, rfl, rfl, rfl⟩

/-- The options of the list never change. -/
theorem specify_capacity (l : ListQueue Value) (c : QueueCall Value) :
    (l.respond undefined c).2.capacity = l.capacity := by
  cases c with
  | enqueue item =>
    simp only [ListQueue.respond, ListQueue.enqueue]
    split
    · rfl
    · split <;> rfl
  | dequeue => rfl
  | peek => rfl
  | clear => rfl
  | toArray => rfl
  | iterate => rfl
  | size => rfl
  | isEmpty => rfl
  | isFull => rfl

/-- For every capacity the constructor accepts, the queue gives the answers of a bounded
first-in first-out list to every sequence of calls, and keeps no value the list has lost. -/
theorem answers_as_list (undefined : Value) (capacity : Nat)
    (overflow : BoundedQueueOverflowPolicy) (calls : List (QueueCall Value))
    (hlow : 1 ≤ capacity) (hhigh : capacity ≤ 2 ^ 32 - 1) :
    ∃ q, create capacity overflow = some q ∧
      let run := transcript (respond undefined) calls q
      let spec := transcript (ListQueue.respond undefined) calls ⟨capacity, overflow, []⟩
      run.1 = spec.1 ∧ run.2.toArray undefined = spec.2.values ∧
        run.2.size = spec.2.values.length ∧ run.2.capacity = capacity ∧ run.2.size ≤ capacity ∧
        ∀ i, run.2.Outside i → run.2.read undefined i = undefined := by
  have hcreate : create capacity overflow =
      some (⟨capacity, overflow, [], 0, 0⟩ : SlotQueue Value) := by
    unfold create
    rw [if_neg (by simp; omega)]
  refine ⟨_, hcreate, ?_⟩
  intro run spec
  obtain ⟨hanswers, r, hstore, hlist, hcapacity, _⟩ :=
    transcript_simulates (fun q l c (h : q.Refines undefined l) => h.respond c) calls
      (create_refines hcreate)
  have hkept : spec.2.capacity = capacity :=
    transcript_invariant (P := fun l => l.capacity = capacity)
      (fun l c h => (specify_capacity l c).trans h) calls rfl
  have hcap : run.2.capacity = capacity := hstore.capacity.trans (hcapacity.trans hkept)
  refine ⟨hanswers, hstore.toArray.trans hlist, ?_, hcap, ?_, fun i hi => hstore.outside hi⟩
  · rw [← hlist, r.length_toArray]
    exact hstore.size
  · rw [← hcap, hstore.capacity]
    exact hstore.size.le.trans r.size_le

/-- A ring of two slots wraps, evicts and keeps a stored `undefined` apart from an empty slot. -/
theorem answers_as_list_wrapped :
    ∃ q, create 2 .dropOldest = some q ∧
      let run := transcript (respond (none : Option Nat))
        [.enqueue none, .enqueue (some 7), .enqueue (some 8), .dequeue, .toArray] q
      let spec := transcript (ListQueue.respond (none : Option Nat))
        [.enqueue none, .enqueue (some 7), .enqueue (some 8), .dequeue, .toArray]
        ⟨2, .dropOldest, []⟩
      run.1 = spec.1 ∧ run.2.toArray none = spec.2.values ∧
        run.2.size = spec.2.values.length ∧ run.2.capacity = 2 ∧ run.2.size ≤ 2 ∧
        ∀ i, run.2.Outside i → run.2.read none i = none :=
  answers_as_list none 2 .dropOldest _ (by decide) (by decide)

end SlotQueue

end NestWebTransport
