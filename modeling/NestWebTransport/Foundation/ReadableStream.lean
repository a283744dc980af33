import Mathlib.Data.List.Basic

/-! Readable streams with a default controller and one reader. -/
namespace NestWebTransport

inductive ReadableState
  | readable
  | closed
  | errored
  deriving DecidableEq, Repr

/-- How a read settles. -/
inductive ReadResult (α : Type*)
  | value (chunk : α)
  | done
  | failed
  deriving DecidableEq, Repr

/-- Chunks that wait for a read, or `reads` that wait for a chunk. -/
structure ReadableStream (α : Type*) where
  state : ReadableState
  queue : List α
  closeRequested : Bool
  reads : Nat

namespace ReadableStream

variable {α : Type*} (r : ReadableStream α)

def new : ReadableStream α := ⟨.readable, [], false, 0⟩

/-- `controller.close` and `controller.enqueue` throw where this fails. -/
def canCloseOrEnqueue : Bool := r.state == .readable && !r.closeRequested

/-- The stream becomes terminal: its chunks are dropped and its reads settle. -/
def terminate (state : ReadableState) : ReadableStream α :=
  { r with state := state, queue := [], reads := 0 }

def error : ReadableStream α := if r.state = .readable then r.terminate .errored else r

def cancel : ReadableStream α := if r.state = .readable then r.terminate .closed else r

/-- Chunks that are left can still be read. -/
def close : ReadableStream α :=
  if r.canCloseOrEnqueue then
    if r.queue = [] then r.terminate .closed else { r with closeRequested := true }
  else r

/-- The chunk goes to the first read that waits. -/
def enqueue (chunk : α) : ReadableStream α :=
  if r.canCloseOrEnqueue then
    if 0 < r.reads then { r with reads := r.reads - 1 }
    else { r with queue := r.queue ++ [chunk] }
  else r

/-- A read, and how it settles unless it waits. -/
def read : Option (ReadResult α) × ReadableStream α :=
  match r.state with
  | .closed => (some .done, r)
  | .errored => (some .failed, r)
  | .readable =>
    match r.queue with
    | [] => (none, { r with reads := r.reads + 1 })
    | chunk :: rest =>
      if rest = [] ∧ r.closeRequested = true then (some (.value chunk), r.terminate .closed)
      else (some (.value chunk), { r with queue := rest })

/-- The controller wants another chunk. -/
def shouldCallPull (highWaterMark : Nat) : Bool :=
  r.canCloseOrEnqueue && (decide (0 < r.reads) || decide (r.queue.length < highWaterMark))

/-! ### Streams that take no more chunks -/

variable {r}

theorem state_of_canCloseOrEnqueue (h : r.canCloseOrEnqueue = true) : r.state = .readable :=
  beq_iff_eq.mp (Bool.and_eq_true_iff.mp h).1

/-- A read does not change whether the stream takes chunks. -/
theorem read_canCloseOrEnqueue : r.read.2.canCloseOrEnqueue = r.canCloseOrEnqueue := by
  unfold ReadableStream.read
  cases hstate : r.state with
  | closed => rfl
  | errored => rfl
  | readable =>
    cases hqueue : r.queue with
    | nil => simp [canCloseOrEnqueue, hstate]
    | cons chunk rest =>
      simp only
      split
      · rename_i hlast
        simp [canCloseOrEnqueue, terminate, hlast.2]
      · simp [canCloseOrEnqueue, hstate]

theorem enqueue_canCloseOrEnqueue (chunk : α) :
    (r.enqueue chunk).canCloseOrEnqueue = r.canCloseOrEnqueue := by
  unfold ReadableStream.enqueue
  split_ifs <;> rfl

theorem close_canCloseOrEnqueue : r.close.canCloseOrEnqueue = false := by
  unfold ReadableStream.close
  split_ifs with hopen
  · simp [canCloseOrEnqueue, terminate]
  · simp [canCloseOrEnqueue]
  · exact eq_false_of_ne_true hopen

/-- A close errs no stream and mends none. -/
theorem close_errored (r : ReadableStream α) : r.close.state = .errored ↔ r.state = .errored := by
  unfold ReadableStream.close
  split_ifs with hopen
  · simp [terminate, state_of_canCloseOrEnqueue hopen]
  · rfl
  · rfl

theorem error_canCloseOrEnqueue : r.error.canCloseOrEnqueue = false := by
  unfold ReadableStream.error
  split_ifs with hstate
  · simp [canCloseOrEnqueue, terminate]
  · simp [canCloseOrEnqueue, hstate]

theorem error_ne_readable (r : ReadableStream α) : r.error.state ≠ .readable := by
  unfold ReadableStream.error
  split_ifs with hstate
  · nofun
  · exact hstate

theorem cancel_canCloseOrEnqueue : r.cancel.canCloseOrEnqueue = false := by
  unfold ReadableStream.cancel
  split_ifs with hstate
  · simp [canCloseOrEnqueue, terminate]
  · simp [canCloseOrEnqueue, hstate]

/-! ### Streams that keep no chunks -/

/-- A stream that keeps no chunks: its reads wait while it is readable. -/
structure Direct (r : ReadableStream α) : Prop where
  queue : r.queue = []
  unrequested : r.closeRequested = false
  ended : r.state ≠ .readable → r.reads = 0

theorem Direct.shouldCallPull_iff (h : Direct r) :
    r.shouldCallPull 0 = true ↔ r.state = .readable ∧ 0 < r.reads := by
  simp [shouldCallPull, canCloseOrEnqueue, h.unrequested]

theorem Direct.terminate (h : Direct r) (state : ReadableState) : Direct (r.terminate state) :=
  ⟨rfl, h.unrequested, fun _ => rfl⟩

theorem Direct.error (h : Direct r) : Direct r.error ∧ r.error.state ≠ .readable := by
  refine ⟨?_, r.error_ne_readable⟩
  unfold ReadableStream.error
  split
  · exact h.terminate _
  · exact h

theorem Direct.close (h : Direct r) : Direct r.close ∧ r.close.state ≠ .readable := by
  unfold ReadableStream.close
  split
  · rw [if_pos h.queue]
    exact ⟨h.terminate _, nofun⟩
  · rename_i hnot
    refine ⟨h, fun hstate => hnot ?_⟩
    simp [canCloseOrEnqueue, hstate, h.unrequested]

theorem Direct.enqueue (h : Direct r) (hreads : 0 < r.reads) (chunk : α) :
    Direct (r.enqueue chunk) ∧ (r.enqueue chunk).state = r.state := by
  have hstate : r.state = .readable := by
    by_contra hne
    have hnone := h.ended hne
    omega
  unfold ReadableStream.enqueue
  rw [if_pos (by simp [canCloseOrEnqueue, hstate, h.unrequested]), if_pos hreads]
  exact ⟨⟨h.queue, h.unrequested, fun hne => absurd hstate hne⟩, rfl⟩

/-- A read waits unless the stream has ended. -/
theorem Direct.read (h : Direct r) :
    (r.state ≠ .readable ∧ r.read.2 = r) ∨
      (r.state = .readable ∧ r.read.2 = { r with reads := r.reads + 1 }) := by
  unfold ReadableStream.read
  cases hstate : r.state with
  | closed => exact Or.inl ⟨nofun, rfl⟩
  | errored => exact Or.inl ⟨nofun, rfl⟩
  | readable =>
    refine Or.inr ⟨rfl, ?_⟩
    simp only [h.queue]

/-- A read takes the first chunk there is, or waits, or finds that the stream has ended. -/
theorem read_cases (r : ReadableStream α) :
    (r.state ≠ .readable ∧ (r.read = (some .done, r) ∨ r.read = (some .failed, r))) ∨
    (r.state = .readable ∧ r.queue = [] ∧ r.read = (none, { r with reads := r.reads + 1 })) ∨
    ∃ chunk rest source, r.state = .readable ∧ r.queue = chunk :: rest ∧
      r.read = (some (.value chunk), source) ∧ source.queue = rest ∧
        (source.reads = r.reads ∨ source.reads = 0) := by
  unfold read
  cases hstate : r.state with
  | closed => exact Or.inl ⟨nofun, Or.inl rfl⟩
  | errored => exact Or.inl ⟨nofun, Or.inr rfl⟩
  | readable =>
    refine Or.inr ?_
    cases hqueue : r.queue with
    | nil => exact Or.inl ⟨rfl, rfl, by simp⟩
    | cons chunk rest =>
      refine Or.inr ?_
      by_cases hlast : rest = [] ∧ r.closeRequested = true
      · exact ⟨chunk, rest, r.terminate .closed, rfl, rfl, if_pos hlast, hlast.1.symm, Or.inr rfl⟩
      · exact ⟨chunk, rest, { r with queue := rest }, rfl, rfl, by simp [hlast, hstate], rfl,
          Or.inl rfl⟩

theorem read_state (h : r.read.2.state = .readable) : r.state = .readable := by
  unfold ReadableStream.read at h
  cases hstate : r.state with
  | closed => simp [hstate] at h
  | errored => simp [hstate] at h
  | readable => rfl

theorem read_of_closed (h : r.state = .closed) : r.read.1 = some .done := by
  simp [ReadableStream.read, h]

theorem read_of_errored (h : r.state = .errored) : r.read.1 = some .failed := by
  simp [ReadableStream.read, h]

theorem read_of_nil (h : r.state = .readable) (hqueue : r.queue = []) : r.read.1 = none := by
  simp [ReadableStream.read, h, hqueue]

theorem read_of_cons (h : r.state = .readable) {chunk : α} {rest : List α}
    (hqueue : r.queue = chunk :: rest) : r.read.1 = some (.value chunk) := by
  unfold ReadableStream.read
  simp only [h, hqueue]
  split_ifs <;> rfl

theorem read_none (h : r.read.1 = none) : r.read.2.state = .readable := by
  unfold ReadableStream.read at h ⊢
  cases hstate : r.state with
  | closed => simp [hstate] at h
  | errored => simp [hstate] at h
  | readable =>
    cases hqueue : r.queue with
    | nil => simp
    | cons chunk rest =>
      simp only [hstate, hqueue] at h
      split_ifs at h

end ReadableStream

end NestWebTransport
