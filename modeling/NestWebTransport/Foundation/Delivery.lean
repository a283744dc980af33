import NestWebTransport.Foundation.ReadableStream

/-! What goes into a readable stream and what its reader gets out. -/
namespace NestWebTransport

/-- A readable stream with the chunks that were enqueued and the chunks its reads were given;
`cancelled` once its reader has cancelled it. -/
structure Delivery (α : Type*) where
  stream : ReadableStream α
  supplied : List α
  delivered : List α
  cancelled : Bool

namespace Delivery

variable {α : Type*} (d : Delivery α)

def new : Delivery α := ⟨.new, [], [], false⟩

/-- The chunk goes to the read that waits longest, or into the queue. -/
def enqueue (chunk : α) : Delivery α :=
  if d.stream.canCloseOrEnqueue then
    { d with
      stream := d.stream.enqueue chunk
      supplied := d.supplied ++ [chunk]
      delivered := if 0 < d.stream.reads then d.delivered ++ [chunk] else d.delivered }
  else d

def read : Delivery α :=
  match d.stream.read with
  | (some (.value chunk), stream) =>
    { d with stream := stream, delivered := d.delivered ++ [chunk] }
  | (_, stream) => { d with stream := stream }

def close : Delivery α := { d with stream := d.stream.close }

def error : Delivery α := { d with stream := d.stream.error }

def cancel : Delivery α :=
  if d.stream.state = .readable then { d with stream := d.stream.cancel, cancelled := true } else d

/-- The reader gets what was enqueued, in its order, and all of it unless the stream is cut off;
reads wait only where nothing is left. -/
structure Flows (d : Delivery α) : Prop where
  ordered : d.delivered <+: d.supplied
  whole : d.stream.state = .readable → d.supplied = d.delivered ++ d.stream.queue
  waiting : 0 < d.stream.reads → d.stream.state = .readable ∧ d.stream.queue = [] ∧
    d.stream.closeRequested = false
  closing : d.stream.state = .readable → d.stream.closeRequested = true → d.stream.queue ≠ []
  ended : d.stream.state ≠ .readable → d.stream.queue = []
  drained : d.stream.state = .closed → d.cancelled = false → d.delivered = d.supplied
  cut : d.cancelled = true → d.stream.state ≠ .readable

variable {d}

theorem flows_new : Flows (new : Delivery α) where
  ordered := List.prefix_refl _
  whole _ := rfl
  waiting hreads := absurd hreads (Nat.lt_irrefl 0)
  closing _ hclosing := by cases hclosing
  ended hstate := absurd rfl hstate
  drained hstate := by cases hstate
  cut hcut := by cases hcut

/-- A chunk goes behind all that was supplied before it. -/
theorem Flows.enqueue (h : d.Flows) (chunk : α) : (d.enqueue chunk).Flows := by
  unfold Delivery.enqueue ReadableStream.enqueue
  split_ifs with hcan hreads
  · obtain ⟨hstate, hqueue, hopen⟩ := h.waiting hreads
    have hwhole := h.whole hstate
    rw [hqueue, List.append_nil] at hwhole
    refine ⟨?_, fun _ => ?_, fun _ => ⟨hstate, hqueue, hopen⟩, fun _ hclosing => ?_, h.ended,
      fun hclosed _ => ?_, h.cut⟩
    · exact hwhole ▸ List.prefix_refl _
    · change d.supplied ++ [chunk] = d.delivered ++ [chunk] ++ d.stream.queue
      rw [hwhole, hqueue, List.append_nil]
    · exact absurd (hopen.symm.trans hclosing) (by decide)
    · exact absurd (hstate.symm.trans hclosed) (by decide)
  · have hstate := ReadableStream.state_of_canCloseOrEnqueue hcan
    refine ⟨h.ordered.trans (List.prefix_append _ _), fun _ => ?_, fun hwait => ?_, fun _ _ => ?_,
      fun hne => absurd hstate hne, fun hclosed _ => ?_, h.cut⟩
    · change d.supplied ++ [chunk] = d.delivered ++ (d.stream.queue ++ [chunk])
      rw [h.whole hstate, List.append_assoc]
    · exact absurd hwait hreads
    · exact List.append_ne_nil_of_right_ne_nil _ (List.cons_ne_nil _ _)
    · exact absurd (hstate.symm.trans hclosed) (by decide)
  · exact h

/-- A read finds the stream at its end, waits, or takes the first chunk. -/
theorem read_cases (d : Delivery α) :
    (d.stream.state ≠ .readable ∧ d.read = d) ∨
    (d.stream.state = .readable ∧ d.stream.queue = [] ∧
      d.read = { d with stream := { d.stream with reads := d.stream.reads + 1 } }) ∨
    ∃ chunk rest, d.stream.state = .readable ∧ d.stream.queue = chunk :: rest ∧
      d.read = { d with
        delivered := d.delivered ++ [chunk]
        stream := if rest = [] ∧ d.stream.closeRequested = true then d.stream.terminate .closed
          else { d.stream with queue := rest } } := by
  unfold Delivery.read ReadableStream.read
  cases hstate : d.stream.state with
  | closed => exact .inl ⟨nofun, rfl⟩
  | errored => exact .inl ⟨nofun, rfl⟩
  | readable =>
    refine .inr ?_
    cases hqueue : d.stream.queue with
    | nil => exact .inl ⟨rfl, rfl, by simp [hstate, hqueue]⟩
    | cons chunk rest =>
      refine .inr ⟨chunk, rest, rfl, rfl, ?_⟩
      simp only
      split_ifs <;> simp [hstate]

/-- A read takes the oldest chunk that is left. -/
theorem Flows.read (h : d.Flows) : d.read.Flows := by
  rcases d.read_cases with ⟨-, heq⟩ | ⟨hstate, hqueue, heq⟩ | ⟨chunk, rest, hstate, hqueue, heq⟩
  · rw [heq]
    exact h
  · rw [heq]
    refine ⟨h.ordered, h.whole, fun _ => ⟨hstate, hqueue, ?_⟩, h.closing, h.ended, h.drained,
      h.cut⟩
    by_contra hclosing
    exact h.closing hstate (by simpa using hclosing) hqueue
  · rw [heq]
    have hreads : ¬ 0 < d.stream.reads := by
      intro hreads
      exact absurd (hqueue.symm.trans (h.waiting hreads).2.1) (List.cons_ne_nil _ _)
    have hwhole : d.supplied = d.delivered ++ [chunk] ++ rest := by
      rw [h.whole hstate, hqueue, List.append_assoc]
      rfl
    have hordered : d.delivered ++ [chunk] <+: d.supplied := ⟨rest, hwhole.symm⟩
    split_ifs with hlast
    · obtain ⟨rfl, -⟩ := hlast
      refine ⟨hordered, nofun, nofun, nofun, fun _ => rfl, fun _ _ => ?_, fun _ => nofun⟩
      rw [hwhole, List.append_nil]
    · refine ⟨hordered, fun _ => hwhole, fun hwait => absurd hwait hreads,
        fun _ hclosing hrest => hlast ⟨hrest, hclosing⟩, fun hne => absurd hstate hne,
        fun hclosed _ => ?_, h.cut⟩
      exact absurd (hstate.symm.trans hclosed) (by decide)

/-- A chunk that is taken goes to a read that waits, or into the queue. -/
theorem enqueue_cases (hcan : d.stream.canCloseOrEnqueue = true) (chunk : α) :
    (0 < d.stream.reads ∧ d.enqueue chunk = { d with
      stream := { d.stream with reads := d.stream.reads - 1 }
      supplied := d.supplied ++ [chunk]
      delivered := d.delivered ++ [chunk] }) ∨
    (d.stream.reads = 0 ∧ d.enqueue chunk = { d with
      stream := { d.stream with queue := d.stream.queue ++ [chunk] }
      supplied := d.supplied ++ [chunk] }) := by
  unfold Delivery.enqueue ReadableStream.enqueue
  rw [if_pos hcan, if_pos hcan]
  by_cases hreads : 0 < d.stream.reads
  · exact .inl ⟨hreads, by rw [if_pos hreads, if_pos hreads]⟩
  · exact .inr ⟨Nat.eq_zero_of_not_pos hreads, by rw [if_neg hreads, if_neg hreads]⟩

/-- A stream that is closed ends at once, or once its last chunk is read. -/
theorem close_cases (d : Delivery α) :
    (d.stream.canCloseOrEnqueue = false ∧ d.close = d) ∨
    (d.stream.state = .readable ∧ d.stream.queue = [] ∧
      d.close = { d with stream := d.stream.terminate .closed }) ∨
    (d.stream.state = .readable ∧ d.stream.queue ≠ [] ∧
      d.close = { d with stream := { d.stream with closeRequested := true } }) := by
  unfold Delivery.close ReadableStream.close
  split_ifs with hcan hqueue
  · exact .inr (.inl ⟨ReadableStream.state_of_canCloseOrEnqueue hcan, hqueue, rfl⟩)
  · exact .inr (.inr ⟨ReadableStream.state_of_canCloseOrEnqueue hcan, hqueue, rfl⟩)
  · exact .inl ⟨eq_false_of_ne_true hcan, rfl⟩

theorem cancel_cases (d : Delivery α) :
    (d.stream.state ≠ .readable ∧ d.cancel = d) ∨
    (d.stream.state = .readable ∧
      d.cancel = { d with stream := d.stream.terminate .closed, cancelled := true }) := by
  unfold Delivery.cancel ReadableStream.cancel
  split_ifs with hstate
  · exact .inr ⟨hstate, rfl⟩
  · exact .inl ⟨hstate, rfl⟩

theorem error_cases (d : Delivery α) :
    (d.stream.state ≠ .readable ∧ d.error = d) ∨
    (d.stream.state = .readable ∧ d.error = { d with stream := d.stream.terminate .errored }) := by
  unfold Delivery.error ReadableStream.error
  split_ifs with hstate
  · exact .inr ⟨hstate, rfl⟩
  · exact .inl ⟨hstate, rfl⟩

theorem Flows.close (h : d.Flows) : d.close.Flows := by
  unfold Delivery.close ReadableStream.close
  split_ifs with hcan hqueue
  · have hstate := ReadableStream.state_of_canCloseOrEnqueue hcan
    have hwhole := h.whole hstate
    rw [hqueue, List.append_nil] at hwhole
    exact ⟨h.ordered, nofun, nofun, nofun, fun _ => rfl, fun _ _ => hwhole.symm, fun _ => nofun⟩
  · have hstate := ReadableStream.state_of_canCloseOrEnqueue hcan
    refine ⟨h.ordered, h.whole, fun hreads => ?_, fun _ _ => hqueue, h.ended, h.drained, h.cut⟩
    exact absurd (h.waiting hreads).2.1 hqueue
  · exact h

theorem Flows.error (h : d.Flows) : d.error.Flows := by
  unfold Delivery.error ReadableStream.error
  split_ifs
  · exact ⟨h.ordered, nofun, nofun, nofun, fun _ => rfl, nofun, fun _ => nofun⟩
  · exact h

theorem Flows.cancel (h : d.Flows) : d.cancel.Flows := by
  unfold Delivery.cancel ReadableStream.cancel
  split_ifs with hstate
  · exact ⟨h.ordered, nofun, nofun, nofun, fun _ => rfl, nofun, fun _ => nofun⟩
  · exact h

/-! ### What the operations leave alone -/

theorem supplied_enqueue (hcan : d.stream.canCloseOrEnqueue = true) (chunk : α) :
    (d.enqueue chunk).supplied = d.supplied ++ [chunk] := by
  rw [Delivery.enqueue, if_pos hcan]

theorem supplied_read : d.read.supplied = d.supplied := by
  unfold Delivery.read
  split <;> rfl

theorem cancelled_read : d.read.cancelled = d.cancelled := by
  unfold Delivery.read
  split <;> rfl

theorem stream_read : d.read.stream = d.stream.read.2 := by
  unfold Delivery.read
  split
  · rename_i heq
    rw [heq]
  · rename_i heq
    rw [heq]

theorem stream_enqueue (chunk : α) : (d.enqueue chunk).stream = d.stream.enqueue chunk := by
  by_cases hcan : d.stream.canCloseOrEnqueue = true
  · rw [Delivery.enqueue, if_pos hcan]
  · rw [Delivery.enqueue, if_neg hcan, ReadableStream.enqueue, if_neg hcan]

theorem state_enqueue (chunk : α) : (d.enqueue chunk).stream.state = d.stream.state := by
  rw [stream_enqueue]
  unfold ReadableStream.enqueue
  split_ifs <;> rfl

theorem cancelled_enqueue (chunk : α) : (d.enqueue chunk).cancelled = d.cancelled := by
  unfold Delivery.enqueue
  split_ifs <;> rfl

theorem length_read_le (d : Delivery α) :
    d.read.stream.queue.length ≤ d.stream.queue.length := by
  rcases d.read_cases with ⟨-, heq⟩ | ⟨-, -, heq⟩ | ⟨chunk, rest, -, hqueue, heq⟩
  · exact Nat.le_of_eq (congrArg (·.stream.queue.length) heq)
  · exact Nat.le_of_eq (congrArg (·.stream.queue.length) heq)
  · rw [heq, hqueue]
    simp only
    split_ifs
    · exact Nat.zero_le _
    · exact Nat.le_succ _

/-- A read errs no stream and mends none. -/
theorem read_errored (d : Delivery α) :
    d.read.stream.state = .errored ↔ d.stream.state = .errored := by
  rcases d.read_cases with ⟨-, heq⟩ | ⟨-, -, heq⟩ | ⟨chunk, rest, hstate, -, heq⟩
  · rw [heq]
  · rw [heq]
  · rw [heq]
    simp only
    split_ifs
    · rw [hstate]
      exact ⟨nofun, nofun⟩
    · rfl

theorem length_close_le (d : Delivery α) :
    d.close.stream.queue.length ≤ d.stream.queue.length := by
  rcases d.close_cases with ⟨-, heq⟩ | ⟨-, -, heq⟩ | ⟨-, -, heq⟩
  · exact Nat.le_of_eq (congrArg (·.stream.queue.length) heq)
  · rw [heq]
    exact Nat.zero_le _
  · exact Nat.le_of_eq (congrArg (·.stream.queue.length) heq)

theorem length_error_le (d : Delivery α) :
    d.error.stream.queue.length ≤ d.stream.queue.length := by
  rcases d.error_cases with ⟨-, heq⟩ | ⟨-, heq⟩
  · exact Nat.le_of_eq (congrArg (·.stream.queue.length) heq)
  · rw [heq]
    exact Nat.zero_le _

/-! ### How many reads were made -/

/-- The reads that were answered with a chunk and the reads that wait. -/
def asked (d : Delivery α) : Nat := d.delivered.length + d.stream.reads

theorem asked_enqueue (chunk : α) : (d.enqueue chunk).asked = d.asked := by
  unfold Delivery.enqueue ReadableStream.enqueue asked
  split_ifs with hcan hreads
  · simp only [List.length_append, List.length_singleton]
    omega
  · rfl
  · rfl

/-- No read waits at a stream that has ended. -/
theorem Flows.reads_eq_zero (h : d.Flows) (hended : d.stream.state ≠ .readable) :
    d.stream.reads = 0 := by
  by_contra hreads
  exact hended (h.waiting (Nat.pos_of_ne_zero hreads)).1

theorem asked_close (h : d.close.stream.state = .readable) : d.close.asked = d.asked := by
  unfold Delivery.close ReadableStream.close at h ⊢
  split_ifs at h ⊢
  · cases h
  · rfl
  · rfl

theorem asked_read (h : d.read.stream.state = .readable) : d.read.asked = d.asked + 1 := by
  rcases d.read_cases with ⟨hstate, heq⟩ | ⟨-, -, heq⟩ | ⟨chunk, rest, -, -, heq⟩
  · rw [heq] at h
    exact absurd h hstate
  · rw [heq]
    rfl
  · rw [heq] at h ⊢
    unfold asked
    simp only at h ⊢
    split_ifs at h ⊢
    · cases h
    · rw [List.length_append, List.length_singleton]
      exact Nat.add_right_comm _ _ _

/-! ### What is not lost -/

/-- The chunks that are with the reader or in the queue. -/
def kept (d : Delivery α) : Nat := d.delivered.length + d.stream.queue.length

theorem kept_enqueue (hcan : d.stream.canCloseOrEnqueue = true) (chunk : α) :
    (d.enqueue chunk).kept = d.kept + 1 := by
  rcases enqueue_cases hcan chunk with ⟨-, heq⟩ | ⟨-, heq⟩
  · rw [heq]
    simp only [kept, List.length_append, List.length_singleton]
    omega
  · rw [heq]
    simp only [kept, List.length_append, List.length_singleton]
    omega

theorem kept_read (d : Delivery α) : d.read.kept = d.kept := by
  rcases d.read_cases with ⟨-, heq⟩ | ⟨-, -, heq⟩ | ⟨chunk, rest, -, hqueue, heq⟩
  · rw [heq]
  · rw [heq]
    rfl
  · have hrest : (if rest = [] ∧ d.stream.closeRequested = true then d.stream.terminate .closed
        else { d.stream with queue := rest }).queue = rest := by
      split_ifs with hlast
      · exact hlast.1.symm
      · rfl
    rw [heq, kept, kept, hqueue]
    simp only [hrest, List.length_append, List.length_cons, List.length_nil]
    omega

theorem kept_close (d : Delivery α) : d.close.kept = d.kept := by
  rcases d.close_cases with ⟨-, heq⟩ | ⟨-, hqueue, heq⟩ | ⟨-, -, heq⟩
  · rw [heq]
  · rw [heq, kept, kept, hqueue]
    rfl
  · rw [heq]
    rfl

/-- A read opens no stream. -/
theorem readable_of_read (h : d.read.stream.state = .readable) : d.stream.state = .readable := by
  rcases d.read_cases with ⟨-, heq⟩ | ⟨hstate, -⟩ | ⟨chunk, rest, hstate, -⟩
  · rwa [heq] at h
  · exact hstate
  · exact hstate

end Delivery

end NestWebTransport
