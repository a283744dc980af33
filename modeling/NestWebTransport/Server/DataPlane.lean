import NestWebTransport.Module.Options
import NestWebTransport.Server.WorkPlacement

/-! The datagram queues of all sessions, next to the work they feed. -/
namespace NestWebTransport

/-- A retained array; `arrival` numbers the reads of its session's pump. -/
structure Datagram where
  arrival : Nat
  byteLength : Nat
  deriving DecidableEq

inductive DropReason
  | sizeLimit
  | rateLimit
  | serverByteLimit
  | droppedOldest
  | droppedNewest
  | rejected
  | closeSession
  | handlerLimit
  deriving DecidableEq, Repr

def DropReason.all : List DropReason :=
  [.sizeLimit, .rateLimit, .serverByteLimit, .droppedOldest, .droppedNewest, .rejected,
    .closeSession, .handlerLimit]

/-- The reason under which an `enqueue` outcome is counted, if it is. -/
def EnqueueOutcome.dropReason : EnqueueOutcome → Option DropReason
  | .enqueued => none
  | .droppedOldest => some .droppedOldest
  | .droppedNewest => some .droppedNewest
  | .rejected => some .rejected
  | .closeSession => some .closeSession

structure DatagramBuffer where
  datagrams : BoundedQueue Datagram
  queuedDatagramBytes : Int
  datagramWindowStartedAt : Int
  datagramsInWindow : Nat

/-- What became of a session's datagrams, by arrival number. The program keeps no such record. -/
structure DatagramHistory where
  received : Nat
  dropped : List (Nat × DropReason)
  cleared : List Nat

structure DataPlane extends Workload where
  buffer : Nat → DatagramBuffer
  history : Nat → DatagramHistory
  queuedDatagramBytes : Int
  rejectedHandlers : Nat
  droppedDatagrams : Nat
  drops : DropReason → Nat

namespace DataPlane

variable (options : NormalizedWebTransportModuleOptions) (p : DataPlane) (k w : Nat)

/-- The queue and the datagram counters of a session opened at `now`. -/
def newBuffer (now : Int) : DatagramBuffer where
  datagrams := .empty options.queue.size.value options.queue.overflow options.queue.size.positive
  queuedDatagramBytes := 0
  datagramWindowStartedAt := now
  datagramsInWindow := 0

def new : DataPlane where
  handlerBudget := .new options.limits.server.maxConcurrentHandlers.value
    options.limits.server.maxPendingHandlers.value
  managedCount := 0
  scheduler := fun _ => .new 0 0 .drop
  workCount := 0
  work := fun _ => ⟨0, .admission, 0, .settled, 0, 0, []⟩
  starts := []
  resumes := []
  begun := []
  buffer := fun _ => newBuffer options 0
  history := fun _ => ⟨0, [], []⟩
  queuedDatagramBytes := 0
  rejectedHandlers := 0
  droppedDatagrams := 0
  drops := fun _ => 0

def openSession (now : Int) : DataPlane :=
  { p with
    toWorkload := p.toWorkload.openSession options.execution.maxConcurrentHandlers.value
      options.execution.maxPendingHandlers.value options.execution.overflow
    buffer := Function.update p.buffer p.managedCount (newBuffer options now)
    history := Function.update p.history p.managedCount ⟨0, [], []⟩ }

/-! ### Tasks -/

/-- `WebTransportRuntime.submit`. `bytes` is what `onSettled` would release. -/
def submit (kind : WorkKind) (bytes : Nat) : TaskSubmissionResult × DataPlane :=
  let (outcome, load) := p.toWorkload.submit k options.execution.overflow kind bytes
  if outcome.isAccepted then (outcome, { p with toWorkload := load })
  else
    (outcome,
      { p with
        toWorkload := load
        queuedDatagramBytes := p.queuedDatagramBytes - bytes
        rejectedHandlers := p.rejectedHandlers + 1 })

/-- The `onSettled` of a task; that of a datagram task reads `datagram.byteLength` now. -/
def onSettled : DataPlane :=
  { p with queuedDatagramBytes := p.queuedDatagramBytes - (p.work w).datagramBytes }

def settle : DataPlane := { p.onSettled w with toWorkload := p.toWorkload.settle w }

def settleTask : DataPlane := { p.onSettled w with toWorkload := p.toWorkload.settleTask w }

/-- `scheduler.close`. -/
def closeScheduler (discardPending : Bool) : DataPlane :=
  let (discarded, scheduler) := (p.scheduler k).close discardPending
  discarded.foldl settle { p with toWorkload := p.toWorkload.setScheduler k scheduler }

/-! ### Datagrams -/

/-- The datagrams of session `k` that wait in its queue, oldest first. -/
def queue : List Datagram := (p.buffer k).datagrams.toArray

/-- The pump has read one more datagram. -/
def receive : DataPlane :=
  { p with
    history := Function.update p.history k
      { p.history k with received := (p.history k).received + 1 } }

def setBuffer (buffer : DatagramBuffer) : DataPlane :=
  { p with buffer := Function.update p.buffer k buffer }

def recordDatagramDrop (reason : DropReason) (arrival : Nat) : DataPlane :=
  { p with
    droppedDatagrams := p.droppedDatagrams + 1
    drops := Function.update p.drops reason (p.drops reason + 1)
    history := Function.update p.history k
      { p.history k with dropped := (p.history k).dropped ++ [(arrival, reason)] } }

def clearDatagrams : DataPlane :=
  { p with
    queuedDatagramBytes := p.queuedDatagramBytes - (p.buffer k).queuedDatagramBytes
    buffer := Function.update p.buffer k
      { p.buffer k with
        queuedDatagramBytes := 0
        datagrams := (p.buffer k).datagrams.clear }
    history := Function.update p.history k
      { p.history k with
        cleared := (p.history k).cleared ++ (p.buffer k).datagrams.toArray.map Datagram.arrival } }

def maximumDatagramSize (sessionMaximum : Nat) : Nat :=
  min options.security.maxDatagramSize.value sessionMaximum

def consumeDatagramRate (b : DatagramBuffer) (now : Int) : Bool × DatagramBuffer :=
  let b :=
    if now - b.datagramWindowStartedAt ≥ 1000 then
      { b with datagramWindowStartedAt := now, datagramsInWindow := 0 }
    else b
  if options.limits.session.maxDatagramsPerSecond.value ≤ b.datagramsInWindow then (false, b)
  else (true, { b with datagramsInWindow := b.datagramsInWindow + 1 })

/-- The bytes an `enqueue` on this queue would evict. -/
def replacedBytes (q : BoundedQueue Datagram) : Nat :=
  if q.isFull && q.overflow == .dropOldest then (q.peek.map Datagram.byteLength).getD 0 else 0

/-- The pump's `enqueue` and the accounting of its result. -/
def enqueueDatagram (datagram : Datagram) : EnqueueOutcome × DataPlane :=
  let result := (p.buffer k).datagrams.enqueue datagram
  let added : Int := if result.1.accepted then datagram.byteLength else 0
  let evicted : Int :=
    if result.1.outcome = .droppedOldest then (result.1.item.map Datagram.byteLength).getD 0 else 0
  let q :=
    { p.setBuffer k
        { p.buffer k with
          datagrams := result.2
          queuedDatagramBytes := (p.buffer k).queuedDatagramBytes + added - evicted } with
      queuedDatagramBytes := p.queuedDatagramBytes + added - evicted }
  match result.1.outcome.dropReason, result.1.item with
  | some reason, some lost => (result.1.outcome, q.recordDatagramDrop k reason lost.arrival)
  | _, _ => (result.1.outcome, q)

/-- One datagram read by the pump while intake is open; `none` where its loop continues early. -/
def offerDatagram (byteLength sessionMaximum : Nat) (now : Int) :
    Option EnqueueOutcome × DataPlane :=
  let arrival := (p.history k).received
  let p := p.receive k
  if byteLength > maximumDatagramSize options sessionMaximum then
    (none, p.recordDatagramDrop k .sizeLimit arrival)
  else
    let rated := consumeDatagramRate options (p.buffer k) now
    let p := p.setBuffer k rated.2
    if rated.1 = false then (none, p.recordDatagramDrop k .rateLimit arrival)
    else if p.queuedDatagramBytes - replacedBytes (p.buffer k).datagrams + byteLength >
        (options.limits.server.maxQueuedDatagramBytes.value : Int) then
      (none, p.recordDatagramDrop k .serverByteLimit arrival)
    else
      let enqueued := p.enqueueDatagram k ⟨arrival, byteLength⟩
      (some enqueued.1, enqueued.2)

/-- One turn of the drain loop past its capacity check; `none` when the queue was empty. -/
def drainDatagram : Option TaskSubmissionResult × DataPlane :=
  let result := (p.buffer k).datagrams.dequeue
  match result.1 with
  | none => (none, p)
  | some datagram =>
    let p := p.setBuffer k
      { p.buffer k with
        datagrams := result.2
        queuedDatagramBytes := (p.buffer k).queuedDatagramBytes - datagram.byteLength }
    let submitted := p.submit options k (.datagram datagram.arrival) datagram.byteLength
    if submitted.1.isAccepted then (some submitted.1, submitted.2)
    else (some submitted.1, submitted.2.recordDatagramDrop k .handlerLimit datagram.arrival)

/-! ### What submitting, offering and draining do -/

theorem submit_toWorkload (kind : WorkKind) (bytes : Nat) :
    (p.submit options k kind bytes).2.toWorkload =
      (p.toWorkload.submit k options.execution.overflow kind bytes).2 := by
  simp only [submit]
  split <;> rfl

theorem submit_buffer (kind : WorkKind) (bytes : Nat) :
    (p.submit options k kind bytes).2.buffer = p.buffer ∧
      (p.submit options k kind bytes).2.history = p.history ∧
      (p.submit options k kind bytes).2.drops = p.drops ∧
      (p.submit options k kind bytes).2.droppedDatagrams = p.droppedDatagrams := by
  simp only [submit]
  split <;> exact ⟨rfl, rfl, rfl, rfl⟩

/-- A task without bytes leaves the byte counter as it is, accepted or not. -/
theorem submit_queuedDatagramBytes (kind : WorkKind) :
    (p.submit options k kind 0).2.queuedDatagramBytes = p.queuedDatagramBytes := by
  simp only [submit]
  split <;> simp

/-- The three effects an `enqueue` can have. -/
theorem enqueueDatagram_cases (d : Datagram) :
    (∃ buffer : DatagramBuffer, (p.buffer k).datagrams.isFull = false ∧
      buffer.datagrams.toArray = p.queue k ++ [d] ∧
      buffer.queuedDatagramBytes = (p.buffer k).queuedDatagramBytes + d.byteLength ∧
      (p.enqueueDatagram k d).2 = { p.setBuffer k buffer with
        queuedDatagramBytes := p.queuedDatagramBytes + d.byteLength }) ∨
    (∃ (buffer : DatagramBuffer) (old : Datagram) (rest : List Datagram),
      (p.buffer k).datagrams.isFull = true ∧ (p.buffer k).datagrams.overflow = .dropOldest ∧
      p.queue k = old :: rest ∧ buffer.datagrams.toArray = rest ++ [d] ∧
      buffer.queuedDatagramBytes =
        (p.buffer k).queuedDatagramBytes + d.byteLength - old.byteLength ∧
      (p.enqueueDatagram k d).2 = DataPlane.recordDatagramDrop { p.setBuffer k buffer with
        queuedDatagramBytes := p.queuedDatagramBytes + d.byteLength - old.byteLength } k
          .droppedOldest old.arrival) ∨
    ∃ (buffer : DatagramBuffer) (reason : DropReason),
      ((p.buffer k).datagrams.isFull = true ∧ (p.buffer k).datagrams.overflow ≠ .dropOldest) ∧
      buffer.datagrams.toArray = p.queue k ∧
      buffer.queuedDatagramBytes = (p.buffer k).queuedDatagramBytes ∧
      (p.enqueueDatagram k d).2 = (p.setBuffer k buffer).recordDatagramDrop k reason d.arrival := by
  unfold enqueueDatagram queue
  have hcases := (p.buffer k).datagrams.enqueue_cases d
  generalize (p.buffer k).datagrams.enqueue d = result at hcases
  obtain ⟨⟨accepted, outcome, item⟩, q⟩ := result
  obtain ⟨hlt, hres, hq⟩ | ⟨hfull, hover, hres, hq⟩ | ⟨hfull, hover, hacc, hitem, hout, hq⟩ :=
    hcases
  · simp only [EnqueueResult.mk.injEq] at hres
    obtain ⟨rfl, rfl, rfl⟩ := hres
    refine Or.inl ⟨{ p.buffer k with
      datagrams := q
      queuedDatagramBytes := (p.buffer k).queuedDatagramBytes + d.byteLength }, ?_, hq, rfl, ?_⟩
    · rw [← Bool.not_eq_true, BoundedQueue.isFull_iff]
      omega
    · simp [EnqueueOutcome.dropReason]
  · simp only [EnqueueResult.mk.injEq] at hres
    obtain ⟨rfl, rfl, rfl⟩ := hres
    cases harr : (p.buffer k).datagrams.toArray with
    | nil =>
      have := (p.buffer k).datagrams.capacity_pos
      rw [harr, List.length_nil] at hfull
      omega
    | cons old rest =>
      refine Or.inr (Or.inl ⟨{ p.buffer k with
        datagrams := q
        queuedDatagramBytes := (p.buffer k).queuedDatagramBytes + d.byteLength - old.byteLength },
        old, rest, (BoundedQueue.isFull_iff _).mpr hfull, hover, rfl, ?_, rfl, ?_⟩)
      · simpa [harr] using hq
      · simp [EnqueueOutcome.dropReason]
  · simp only at hacc hitem hout hq
    subst hacc hitem hq
    have hreason : ∃ reason, outcome ≠ .droppedOldest ∧ outcome.dropReason = some reason := by
      rw [hout]
      cases ho : (p.buffer k).datagrams.overflow <;> simp_all [EnqueueOutcome.dropReason]
    obtain ⟨reason, hnot, hreason⟩ := hreason
    refine Or.inr (Or.inr ⟨p.buffer k, reason, ⟨(BoundedQueue.isFull_iff _).mpr hfull, hover⟩,
      rfl, rfl, ?_⟩)
    simp [hreason, hnot, setBuffer]

/-- The three effects a datagram of `n` bytes can have on arrival. -/
inductive Offer (p : DataPlane) (k n limit : Nat) : DataPlane → Prop
  | refused {buffer : DatagramBuffer} (reason : DropReason)
      (hqueue : buffer.datagrams.toArray = p.queue k)
      (hbytes : buffer.queuedDatagramBytes = (p.buffer k).queuedDatagramBytes) :
      Offer p k n limit
        (((p.receive k).setBuffer k buffer).recordDatagramDrop k reason (p.history k).received)
  | enqueued {buffer : DatagramBuffer}
      (hqueue : buffer.datagrams.toArray = p.queue k ++ [⟨(p.history k).received, n⟩])
      (hbytes : buffer.queuedDatagramBytes = (p.buffer k).queuedDatagramBytes + n)
      (hlimit : p.queuedDatagramBytes + n ≤ limit) :
      Offer p k n limit
        { (p.receive k).setBuffer k buffer with queuedDatagramBytes := p.queuedDatagramBytes + n }
  | evicted {buffer : DatagramBuffer} {old : Datagram} {rest : List Datagram}
      (hold : p.queue k = old :: rest)
      (hqueue : buffer.datagrams.toArray = rest ++ [⟨(p.history k).received, n⟩])
      (hbytes : buffer.queuedDatagramBytes =
        (p.buffer k).queuedDatagramBytes + n - old.byteLength)
      (hlimit : p.queuedDatagramBytes + n - old.byteLength ≤ limit) :
      Offer p k n limit
        (DataPlane.recordDatagramDrop { (p.receive k).setBuffer k buffer with
          queuedDatagramBytes := p.queuedDatagramBytes + n - old.byteLength } k
            .droppedOldest old.arrival)

theorem consumeDatagramRate_datagrams (b : DatagramBuffer) (now : Int) :
    (consumeDatagramRate options b now).2.datagrams = b.datagrams ∧
      (consumeDatagramRate options b now).2.queuedDatagramBytes = b.queuedDatagramBytes := by
  unfold consumeDatagramRate
  by_cases hwindow : now - b.datagramWindowStartedAt ≥ 1000
  · simp only [hwindow, if_true]
    split <;> simp
  · simp only [hwindow, if_false]
    split <;> simp

/-- The ways `pumpDatagrams` may go for a datagram, in its order. -/
theorem offerDatagram_offer (n sessionMaximum : Nat) (now : Int) :
    Offer p k n options.limits.server.maxQueuedDatagramBytes.value
      (p.offerDatagram options k n sessionMaximum now).2 := by
  obtain ⟨hqueue, hbytes⟩ := consumeDatagramRate_datagrams options (p.buffer k) now
  unfold offerDatagram
  simp only [show (p.receive k).buffer = p.buffer from rfl]
  generalize consumeDatagramRate options (p.buffer k) now = rated at hqueue hbytes ⊢
  split_ifs with hsize hadmitted hlimit
  · have hself : (p.receive k).setBuffer k (p.buffer k) =
        p.receive k := by simp [setBuffer, receive]
    have hrefused : Offer p k n options.limits.server.maxQueuedDatagramBytes.value
        (((p.receive k).setBuffer k (p.buffer k)).recordDatagramDrop k .sizeLimit
          (p.history k).received) := .refused .sizeLimit rfl rfl
    rwa [hself] at hrefused
  · exact .refused .rateLimit (by rw [hqueue]; rfl) hbytes
  · exact .refused .serverByteLimit (by rw [hqueue]; rfl) hbytes
  · have hread : ((p.receive k).setBuffer k rated.2).buffer k = rated.2 := Function.update_self ..
    have hover : ∀ buffer, ((p.receive k).setBuffer k rated.2).setBuffer k buffer =
        (p.receive k).setBuffer k buffer := by simp [setBuffer]
    rw [hread, hqueue] at hlimit
    obtain ⟨buffer, hfull, hlist, hsum, heq⟩ |
      ⟨buffer, old, rest, hfull, hpolicy, hold, hlist, hsum,
      heq⟩ | ⟨buffer, reason, -, hlist, hsum, heq⟩ :=
      ((p.receive k).setBuffer k rated.2).enqueueDatagram_cases k ⟨(p.history k).received, n⟩
    · rw [heq, hover]
      simp only [queue, hread, hqueue, hbytes] at hfull hlist hsum hlimit
      refine .enqueued hlist hsum ?_
      simp only [replacedBytes, hfull, Bool.false_and, Bool.false_eq_true, if_false] at hlimit
      change ¬ p.queuedDatagramBytes - _ + _ > _ at hlimit
      omega
    · rw [heq, hover]
      simp only [queue, hread, hqueue, hbytes] at hfull hpolicy hold hlist hsum hlimit
      refine .evicted hold hlist hsum ?_
      simp only [replacedBytes, hfull, hpolicy, BoundedQueue.peek_eq, hold] at hlimit
      change ¬ p.queuedDatagramBytes - _ + _ > _ at hlimit
      simp at hlimit
      omega
    · rw [heq, hover]
      simp only [queue, hread, hqueue, hbytes] at hlist hsum
      exact .refused reason hlist hsum

/-- The effects one turn of the drain loop can have. -/
inductive Drain (p : DataPlane) (k : Nat) : DataPlane → Prop
  | empty (hqueue : p.queue k = []) : Drain p k p
  | accepted {buffer : DatagramBuffer} {d : Datagram} {rest : List Datagram} {load : Workload}
      {outcome : TaskSubmissionResult}
      (hold : p.queue k = d :: rest) (hqueue : buffer.datagrams.toArray = rest)
      (hbytes : buffer.queuedDatagramBytes = (p.buffer k).queuedDatagramBytes - d.byteLength)
      (hsubmit : p.toWorkload.submit k options.execution.overflow
        (.datagram d.arrival) d.byteLength =
        (outcome, load)) (hout : outcome.isAccepted = true) :
      Drain p k { p.setBuffer k buffer with toWorkload := load }
  | refused {buffer : DatagramBuffer} {d : Datagram} {rest : List Datagram} {load : Workload}
      {outcome : TaskSubmissionResult}
      (hold : p.queue k = d :: rest) (hqueue : buffer.datagrams.toArray = rest)
      (hbytes : buffer.queuedDatagramBytes = (p.buffer k).queuedDatagramBytes - d.byteLength)
      (hsubmit : p.toWorkload.submit k options.execution.overflow
        (.datagram d.arrival) d.byteLength =
        (outcome, load)) (hout : outcome.isAccepted = false) :
      Drain p k
        (DataPlane.recordDatagramDrop { p.setBuffer k buffer with
          toWorkload := load
          queuedDatagramBytes := p.queuedDatagramBytes - d.byteLength
          rejectedHandlers := p.rejectedHandlers + 1 } k .handlerLimit d.arrival)

/-- A drain takes the first datagram, which is submitted or refused. -/
theorem drainDatagram_drain : Drain options p k (p.drainDatagram options k).2 := by
  obtain ⟨hhead, htail⟩ := (p.buffer k).datagrams.dequeue_toArray
  unfold drainDatagram
  generalize (p.buffer k).datagrams.dequeue = result at hhead htail
  obtain ⟨head, q⟩ := result
  cases harr : (p.buffer k).datagrams.toArray with
  | nil =>
    simp only [harr, List.head?_nil] at hhead
    subst hhead
    exact .empty harr
  | cons d rest =>
    simp only [harr, List.head?_cons, List.tail_cons] at hhead htail
    subst hhead
    simp only [submit]
    generalize hsubmit : p.toWorkload.submit k options.execution.overflow (.datagram d.arrival)
      d.byteLength = submitted
    obtain ⟨outcome, load⟩ := submitted
    have hsame : (p.setBuffer k { p.buffer k with
        datagrams := q
        queuedDatagramBytes := (p.buffer k).queuedDatagramBytes - d.byteLength }).toWorkload =
        p.toWorkload := rfl
    simp only [hsame, hsubmit]
    cases hout : outcome.isAccepted with
    | true =>
      simp only [if_true, hout]
      refine .accepted harr ?_ ?_ hsubmit hout
      · exact htail
      · rfl
    | false =>
      simp only [Bool.false_eq_true, if_false, hout]
      refine .refused harr ?_ ?_ hsubmit hout
      · exact htail
      · rfl

/-! ### Steps -/

/-- The steps a data plane takes. A scheduler has capacity when its drain loop submits. -/
inductive Step : DataPlane → DataPlane → Prop
  | internal {p : DataPlane} {load : Workload} (h : p.toWorkload.Internal load) :
      Step p { p with toWorkload := load }
  | refuseAdmission {p : DataPlane} : Step p { p with rejectedHandlers := p.rejectedHandlers + 1 }
  | openSession {p : DataPlane} {now : Int} : Step p (p.openSession options now)
  | offer {p q : DataPlane} {k n : Nat} (hk : k < p.managedCount)
      (h : Offer p k n options.limits.server.maxQueuedDatagramBytes.value q) : Step p q
  | drain {p q : DataPlane} {k : Nat} (hk : k < p.managedCount)
      (hcapacity : (p.scheduler k).hasCapacity = true) (h : Drain options p k q) : Step p q
  | stream {p : DataPlane} {k id : Nat} (hk : k < p.managedCount) :
      Step p (p.submit options k (.stream id) 0).2
  | settleTask {p : DataPlane} {w : Nat} (hw : w < p.workCount)
      (hp : (p.work w).phase = .finishing) (hkind : (p.work w).kind ≠ .admission) :
      Step p (p.settleTask w)
  | discard {p : DataPlane} {k w : Nat} {rest : List Nat}
      (hp : (p.scheduler k).pending = w :: rest) :
      Step p (DataPlane.settle { p with
        toWorkload := p.toWorkload.setScheduler k { p.scheduler k with pending := rest } } w)
  | clear {p : DataPlane} {k : Nat} (hk : k < p.managedCount) : Step p (p.clearDatagrams k)
  | detach {p : DataPlane} {w : Nat} (hw : w < p.workCount)
      (hp : (p.work w).phase ≠ .settled) :
      Step p { p with toWorkload := p.toWorkload.detach w }

/-- A data plane steps with its workload. -/
theorem Step.load {options : NormalizedWebTransportModuleOptions} {p q : DataPlane}
    (h : Step options p q) :
    q.toWorkload = p.toWorkload ∨
      Workload.Step options.execution.overflow p.toWorkload q.toWorkload := by
  cases h with
  | internal h => exact Or.inr (.internal h)
  | refuseAdmission => exact Or.inl rfl
  | openSession => exact Or.inr .openSession
  | offer hk h =>
    left
    cases h <;> rfl
  | @drain _ k hk hcapacity h =>
    have hsubmit : ∀ d : Datagram, Workload.Step options.execution.overflow p.toWorkload
        (p.toWorkload.submit k options.execution.overflow (.datagram d.arrival) d.byteLength).2 :=
      fun d => .submit hk (by simp)
    cases h with
    | empty => exact Or.inl rfl
    | @accepted buffer d _ _ _ _ _ _ heq _ =>
      right
      simpa [heq] using hsubmit d
    | @refused buffer d _ _ _ _ _ _ heq _ =>
      right
      simpa [heq] using! hsubmit d
  | @stream k id hk =>
    right
    have hsubmit : Workload.Step options.execution.overflow p.toWorkload
        (p.toWorkload.submit k options.execution.overflow (.stream id) 0).2 := .submit hk (by simp)
    rwa [submit_toWorkload]
  | settleTask hw hp hkind => exact Or.inr (.settleTask hw hp hkind)
  | discard hp => exact Or.inr (.discard hp)
  | clear => exact Or.inl rfl
  | detach => exact Or.inr .detach

end DataPlane

end NestWebTransport
