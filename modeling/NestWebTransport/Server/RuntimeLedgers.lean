import NestWebTransport.Server.DatagramLedger
import NestWebTransport.Server.DatagramOrder
import NestWebTransport.Server.RuntimeContents

/-! The datagram ledgers over every run of the runtime. -/
namespace NestWebTransport

open WebTransportRuntime

variable {options : NormalizedWebTransportModuleOptions} {deps : RuntimeDependencies}
  {s t : RuntimeState} {e : RuntimeEvent} {es : List RuntimeEvent} {k w : Nat}

/-! ### Unsettled datagrams -/

def WorkKind.isDatagram : WorkKind → Bool
  | .datagram _ => true
  | _ => false

/-- The bytes of a submitted datagram that has not settled. -/
def Work.retained (a : Work) : Int :=
  if a.kind.isDatagram = true ∧ a.phase ≠ .settled then a.byteLength else 0

/-- Work whose array still reads what it was charged owes exactly what it retains. -/
theorem Work.Balanced.owed_eq_retained {a : Work} (h : a.Balanced)
    (hread : a.byteLength = a.charged) :
    a.owed = a.retained := by
  unfold Work.owed Work.retained
  cases hk : a.kind with
  | admission => simp [WorkKind.isDatagram]
  | stream id => simp [WorkKind.isDatagram]
  | datagram arrival =>
    by_cases hp : a.phase = .settled
    · simp [h.settled hp, hp, Work.datagramBytes, hk, hread]
    · simp [h.unsettled hp, hp, WorkKind.isDatagram, hread]

/-- A settled datagram owes what its array reads less than it was charged. -/
theorem Work.Balanced.owed_settled {a : Work} (h : a.Balanced) (hk : a.kind.isDatagram = true)
    (hp : a.phase = .settled) :
    a.owed = a.charged - a.byteLength ∧ a.released = [a.byteLength] := by
  cases ha : a.kind with
  | admission => simp [ha, WorkKind.isDatagram] at hk
  | stream id => simp [ha, WorkKind.isDatagram] at hk
  | datagram arrival =>
    have hreleased : a.released = [a.byteLength] := by
      rw [h.settled hp, Work.datagramBytes, ha]
    exact ⟨by simp [Work.owed, ha, hreleased], hreleased⟩

namespace DataPlane

variable {p q : DataPlane}

/-- The bytes of the submitted datagrams that have not settled. -/
def unsettledBytes (p : DataPlane) : Int := tally p.workCount Work.retained p.work

theorem ledger_new (options : NormalizedWebTransportModuleOptions) :
    ByteLedger options.limits.server.maxQueuedDatagramBytes.value (new options) where
  session := by simp [new, queue, newBuffer]
  total := rfl
  balanced := fun w hw => absurd hw (Nat.not_lt_zero w)
  le := by simp [new]

theorem ledger_evolves (h : Evolves options p q) (hp : Workload.Accounted p.toWorkload)
    (hl : ByteLedger options.limits.server.maxQueuedDatagramBytes.value p) :
    ByteLedger options.limits.server.maxQueuedDatagramBytes.value q := by
  induction h with
  | refl => exact hl
  | tail hrest hst ih => exact ledger_step hst (Evolves.accounted hrest hp).placement ih

theorem order_new (options : NormalizedWebTransportModuleOptions) :
    DatagramOrder (new options) := by
  constructor
  · simp [new, Workload.BegunAllocated]
  · simp [new, Workload.lane, Workload.line, queuedArrivals, queue, newBuffer,
      HandlerBudget.new, BoundedTaskScheduler.new]
  · simp [new, fates, queuedArrivals, queue, newBuffer, Workload.submitted]
  · rfl
  · intro r
    rfl

theorem order_evolves (h : Evolves options p q) (hp : Workload.Accounted p.toWorkload)
    (ho : DatagramOrder p) : DatagramOrder q := by
  induction h with
  | refl => exact ho
  | tail hrest hst ih => exact order_step hst (Evolves.accounted hrest hp) ih

theorem submit_outcome {kind : WorkKind} {n : Nat} :
    (p.submit options k kind n).1 =
      (p.toWorkload.submit k options.execution.overflow kind n).1 := by
  simp only [submit]
  split <;> rfl

/-- With capacity, only the global budget refuses a task. -/
theorem submit_accepted {kind : WorkKind} {n : Nat}
    (hcapacity : (p.scheduler k).hasCapacity = true) :
    (p.submit options k kind n).1.isAccepted = true ∨ p.handlerBudget.reserve = none := by
  rw [submit_outcome]
  obtain ⟨hnone, -⟩ | ⟨r, budget, -, ⟨heq, -⟩ | ⟨heq, -⟩ | ⟨refusal, -, hfull, -⟩⟩ :=
    p.toWorkload.submit_cases k options.execution.overflow kind n
  · exact Or.inr hnone
  · left
    rw [heq]
    rfl
  · left
    rw [heq]
    rfl
  · rw [hcapacity] at hfull
    cases hfull

/-- A turn of the drain loop takes at most one datagram from the queue. The session's scheduler gets
it, unless the global budget is exhausted: then it is dropped. -/
def Dequeues (k : Nat) (p q : DataPlane) : Prop :=
  (q.queue k = p.queue k ∧ q.submitted k = p.submitted k ∧
    (q.history k).dropped = (p.history k).dropped) ∨
  ∃ d rest, p.queue k = d :: rest ∧ q.queue k = rest ∧
    ((q.submitted k = p.submitted k ++ [d.arrival] ∧
        (q.history k).dropped = (p.history k).dropped) ∨
      (p.handlerBudget.reserve = none ∧ q.submitted k = p.submitted k ∧
        (q.history k).dropped = (p.history k).dropped ++ [(d.arrival, .handlerLimit)]))

theorem Dequeues.refl : Dequeues k p p := .inl ⟨rfl, rfl, rfl⟩

/-- With room in the scheduler the datagram that a drain takes is submitted. -/
theorem drain_dequeues (h : Drain options p k q) (hcapacity : (p.scheduler k).hasCapacity = true)
    (hp : Workload.Accounted p.toWorkload) (hbegun : p.toWorkload.BegunAllocated) :
    Dequeues k p q := by
  have hsubmitted := fun d : Datagram =>
    (Workload.lane_submit hp hbegun k d.byteLength options.execution.overflow
      (.datagram d.arrival) k).2.1
  cases h with
  | empty _ => exact .refl
  | @accepted buffer d rest load outcome hold hqueue hbytes heq hout =>
    have hnew := hsubmitted d
    rw [heq, hout] at hnew
    refine .inr ⟨d, rest, hold, ?_, .inl ⟨?_, rfl⟩⟩
    · change (Function.update p.buffer k buffer k).datagrams.toArray = rest
      rw [Function.update_self]
      exact hqueue
    · simpa [Workload.WorkKind.arrivalFor] using hnew
  | @refused buffer d rest load outcome hold hqueue hbytes heq hout =>
    have hnew := hsubmitted d
    rw [heq, hout] at hnew
    have hnone : p.handlerBudget.reserve = none := by
      have haccepted :
          (p.submit options k (.datagram d.arrival) d.byteLength).1.isAccepted = true ∨
            p.handlerBudget.reserve = none := submit_accepted hcapacity
      refine haccepted.resolve_left fun h => ?_
      rw [submit_outcome, heq, hout] at h
      cases h
    refine .inr ⟨d, rest, hold, ?_, .inr ⟨hnone, ?_, ?_⟩⟩
    · change (Function.update p.buffer k buffer k).datagrams.toArray = rest
      rw [Function.update_self]
      exact hqueue
    · have hsame : load.submitted k = p.submitted k := by simpa using hnew
      exact hsame
    · change (Function.update p.history k _ k).dropped = _
      rw [Function.update_self]
      rfl

end DataPlane

namespace WebTransportRuntime

/-! ### Runs -/

/-- The byte ledger of the data plane holds in every run of the server. -/
theorem ledger_run (h : (machine deps).Run (new deps) es t) :
    DataPlane.ByteLedger deps.options.limits.server.maxQueuedDatagramBytes.value t.plane :=
  DataPlane.ledger_evolves (evolves_run h (sound_new deps)) (sound_new deps).accounted
    (DataPlane.ledger_new deps.options)

/-- The datagrams are in order in every run of the server. -/
theorem order_run (h : (machine deps).Run (new deps) es t) : DataPlane.DatagramOrder t.plane :=
  DataPlane.order_evolves (evolves_run h (sound_new deps)) (sound_new deps).accounted
    (DataPlane.order_new deps.options)

/-- While no handler or resolver transfers an array, the counters are what the queues and the
unsettled datagrams hold, and the server-wide one keeps its limit. -/
theorem datagramBytes_run (h : (machine deps).Run (new deps) es t)
    (hes : ∀ w, .detached w ∉ es) :
    t.plane.queuedDatagramBytes = t.plane.queuedBytes + t.plane.unsettledBytes ∧
      (∀ k, (t.plane.buffer k).queuedDatagramBytes = bytes (t.plane.queue k)) ∧
      0 ≤ t.plane.queuedDatagramBytes ∧
      t.plane.queuedDatagramBytes ≤
        deps.options.limits.server.maxQueuedDatagramBytes.value := by
  have hledger := ledger_run h
  have howed : tally t.plane.workCount Work.owed t.plane.work = t.plane.unsettledBytes := by
    refine tally_congr fun w hw => (hledger.balanced w hw).owed_eq_retained ?_
    exact byteLength_run h hw (hes w)
  have hqueued : 0 ≤ t.plane.queuedBytes := tally_nonneg fun k _ => bytes_nonneg _
  have howing : 0 ≤ tally t.plane.workCount Work.owed t.plane.work :=
    tally_nonneg fun w hw => (hledger.balanced w hw).owed_nonneg
  have htotal := hledger.total
  exact ⟨howed ▸ htotal, hledger.session, by omega, hledger.le⟩

theorem datagramBytes_run_small :
    ∃ t : RuntimeState, t.plane.queuedDatagramBytes = 5 ∧
      t.plane.queuedDatagramBytes = t.plane.queuedBytes + t.plane.unsettledBytes ∧
      (∀ k, (t.plane.buffer k).queuedDatagramBytes = bytes (t.plane.queue k)) ∧
      0 ≤ t.plane.queuedDatagramBytes ∧
      t.plane.queuedDatagramBytes ≤
        datagramServer.options.limits.server.maxQueuedDatagramBytes.value := by
  obtain ⟨t, hrun, hbytes⟩ := exists_run datagramServer (new datagramServer) smallDatagram
    (fun t => t.plane.queuedDatagramBytes = 5) (by decide)
  exact ⟨t, hbytes, datagramBytes_run hrun (by simp [smallDatagram, smallAdmission])⟩

/-- Every submitted datagram has given back what it was charged, and nothing stays charged once
all queues are empty and all submitted datagrams have settled. -/
def BytesReturned (p : DataPlane) : Prop :=
  (∀ w < p.workCount, (p.work w).kind.isDatagram = true → (p.work w).phase = .settled →
    (p.work w).released = [(p.work w).charged]) ∧
  ((∀ k < p.managedCount, p.queue k = []) →
    (∀ w < p.workCount, (p.work w).kind.isDatagram = true → (p.work w).phase = .settled) →
    p.queuedDatagramBytes = 0)

instance (p : DataPlane) : Decidable (BytesReturned p) := inferInstanceAs (Decidable (_ ∧ _))

/-- The bytes are returned exactly while no resolver or handler transfers the buffer of a
non-empty datagram before it settles. -/
theorem bytesReturned_iff (h : (machine deps).Run (new deps) es t) :
    BytesReturned t.plane ↔
      ∀ w < t.plane.workCount, (t.plane.work w).kind.isDatagram = true →
        (t.plane.work w).phase = .settled → .detached w ∈ es → (t.plane.work w).charged = 0 := by
  have hledger := ledger_run h
  constructor
  · intro hreturned w hw hkind hp hdetached
    have hcharged := hreturned.1 w hw hkind hp
    rw [((hledger.balanced w hw).owed_settled hkind hp).2, (detached_run h hdetached).2] at hcharged
    exact (List.singleton_inj.mp hcharged).symm
  · intro hnone
    have hread : ∀ w < t.plane.workCount, (t.plane.work w).kind.isDatagram = true →
        (t.plane.work w).phase = .settled →
        (t.plane.work w).byteLength = (t.plane.work w).charged := by
      intro w hw hkind hp
      by_cases hdetached : .detached w ∈ es
      · rw [(detached_run h hdetached).2, hnone w hw hkind hp hdetached]
      · exact byteLength_run h hw hdetached
    refine ⟨fun w hw hkind hp => ?_, fun hempty hsettled => ?_⟩
    · rw [((hledger.balanced w hw).owed_settled hkind hp).2, hread w hw hkind hp]
    · have hqueued : t.plane.queuedBytes = 0 := by
        refine (tally_eq_zero_iff fun k _ => bytes_nonneg _).mpr fun k hk => ?_
        have hnil : (t.plane.buffer k).datagrams.toArray = [] := hempty k hk
        rw [hnil, bytes_nil]
      have howed : tally t.plane.workCount Work.owed t.plane.work = 0 := by
        refine (tally_eq_zero_iff fun w hw => (hledger.balanced w hw).owed_nonneg).mpr ?_
        intro w hw
        cases hkind : (t.plane.work w).kind.isDatagram with
        | true =>
          have hp := hsettled w hw hkind
          rw [((hledger.balanced w hw).owed_settled hkind hp).1, hread w hw hkind hp]
          omega
        | false =>
          unfold Work.owed
          cases ha : (t.plane.work w).kind with
          | admission => rfl
          | stream id => rfl
          | datagram arrival => simp [ha, WorkKind.isDatagram] at hkind
      have htotal := hledger.total
      omega

/-- The handler transfers the five bytes it was sent, then settles. -/
def transferredDatagram : List RuntimeEvent :=
  smallDatagram ++ [.detached 1, .runEnded 1 none, .settled 1]

theorem bytesReturned_transferred :
    ∃ t, (machine datagramServer).Run (new datagramServer) transferredDatagram t ∧
      (∀ k < t.plane.managedCount, t.plane.queue k = []) ∧
      (∀ w < t.plane.workCount, (t.plane.work w).kind.isDatagram = true →
        (t.plane.work w).phase = .settled) ∧
      t.plane.queuedDatagramBytes = 5 ∧ ¬ BytesReturned t.plane := by
  obtain ⟨t, hrun, ht⟩ := exists_run datagramServer (new datagramServer)
    transferredDatagram
    (fun t => (∀ k < t.plane.managedCount, t.plane.queue k = []) ∧
      (∀ w < t.plane.workCount, (t.plane.work w).kind.isDatagram = true →
        (t.plane.work w).phase = .settled) ∧
      t.plane.queuedDatagramBytes = 5 ∧ ¬ BytesReturned t.plane) (by decide)
  exact ⟨t, hrun, ht⟩

theorem bytesReturned_iff_small :
    ∃ t : RuntimeState, BytesReturned t.plane ↔
      ∀ w < t.plane.workCount, (t.plane.work w).kind.isDatagram = true →
        (t.plane.work w).phase = .settled → .detached w ∈ smallDatagram →
          (t.plane.work w).charged = 0 := by
  obtain ⟨t, hrun, -⟩ := exists_run datagramServer (new datagramServer) smallDatagram
    (fun t => t.plane.queuedDatagramBytes = 5) (by decide)
  exact ⟨t, bytesReturned_iff hrun⟩

theorem drainLoop_plane : DataPlane.Dequeues k s.plane (drainLoop s k).plane := by
  unfold drainLoop
  split_ifs
  · exact .refl
  · exact .refl

/-- The loop asks for capacity at every turn, so that the session's own scheduler refuses
nothing. -/
theorem dequeues_drainResumed (h : (machine deps).Run (new deps) es t)
    (hstep : (machine deps).Step t (.drainResumed k) s) :
    DataPlane.Dequeues k t.plane s.plane := by
  obtain ⟨-, rfl⟩ := hstep
  change DataPlane.Dequeues k t.plane (drainResumed deps t k).plane
  unfold drainResumed
  split_ifs with hcapacity hclosed
  · exact .refl
  · exact drainLoop_plane
  · have hdrain := DataPlane.drain_dequeues (t.plane.drainDatagram_drain deps.options k)
      (by simpa using hcapacity) (sound_run h (sound_new deps)).accounted (order_run h).begun
    simp only
    split
    · exact hdrain
    · split_ifs
      · exact hdrain
      · exact hdrain

/-- Datagrams begin in arrival order, each datagram read met exactly one fate, and only the global
budget refuses one that a step of the drain loop takes from the queue. -/
theorem datagramOrder_run (h : (machine deps).Run (new deps) es t) :
    (∀ k, (t.plane.begun.filterMap (t.plane.arrivalIn k)).Pairwise (· < ·) ∧
      ∀ a ∈ t.plane.begun.filterMap (t.plane.arrivalIn k), a < (t.plane.history k).received) ∧
    (∀ k, ((t.plane.history k).dropped.map Prod.fst ++ (t.plane.queuedArrivals k ++
      ((t.plane.history k).cleared ++ t.plane.submitted k))).Perm
        (List.range (t.plane.history k).received)) ∧
    (∀ w < t.plane.workCount, (t.plane.work w).kind.isDatagram = true →
      (t.plane.work w).released.length = if (t.plane.work w).phase = .settled then 1 else 0) ∧
    (∀ k u, (machine deps).Step t (.drainResumed k) u → DataPlane.Dequeues k t.plane u.plane) ∧
    (t.plane.droppedDatagrams : Int) = (DropReason.all.map fun r => (t.plane.drops r : Int)).sum ∧
    ∀ r, (t.plane.drops r : Int) =
      tally t.plane.managedCount (DataPlane.DatagramHistory.dropsFor r) t.plane.history := by
  have horder := order_run h
  have hledger := ledger_run h
  have hplacement := (sound_run h (sound_new deps)).accounted.placement
  have hlane : ∀ k, (t.plane.begun.filterMap (t.plane.arrivalIn k)).Sublist
      (t.plane.lane k ++ t.plane.queuedArrivals k) := by
    intro k
    have hline : t.plane.begun.Sublist (t.plane.line ++ (t.plane.scheduler k).pending) :=
      (List.sublist_append_left _ _).trans (List.sublist_append_left _ _)
    exact (hline.filterMap _).trans (List.sublist_append_left _ _)
  refine ⟨fun k => ⟨(horder.sorted k).sublist (hlane k), fun a ha => ?_⟩, horder.conserved,
    fun w hw hkind => ?_, fun k u => dequeues_drainResumed h, horder.total,
    horder.reasons⟩
  · exact horder.fresh hplacement a ((hlane k).subset ha)
  · split_ifs with hp
    · rw [((hledger.balanced w hw).owed_settled hkind hp).2]
      rfl
    · rw [(hledger.balanced w hw).unsettled hp]
      rfl

theorem datagramOrder_run_small :
    ∃ t u v : RuntimeState, t.plane.begun.filterMap (t.plane.arrivalIn 0) = [0] ∧
      (∀ k, ((t.plane.history k).dropped.map Prod.fst ++ (t.plane.queuedArrivals k ++
        ((t.plane.history k).cleared ++ t.plane.submitted k))).Perm
          (List.range (t.plane.history k).received)) ∧
      u.plane.queuedArrivals 0 = [0] ∧ (machine datagramServer).Step u (.drainResumed 0) v ∧
      DataPlane.Dequeues 0 u.plane v.plane := by
  obtain ⟨t, hrun, ht⟩ := exists_run datagramServer (new datagramServer) smallDatagram
    (fun t => t.plane.begun.filterMap (t.plane.arrivalIn 0) = [0]) (by decide)
  obtain ⟨u, hread, hqueued, hready⟩ := exists_run datagramServer (new datagramServer)
    (smallAdmission ++ [.datagramRead 0 5 0])
    (fun u => u.plane.queuedArrivals 0 = [0] ∧
      enabled datagramServer u (.drainResumed 0) = true) (by decide)
  have hstep : (machine datagramServer).Step u (.drainResumed 0)
      (next datagramServer u (.drainResumed 0)) := ⟨hready, rfl⟩
  exact ⟨t, u, _, ht, (datagramOrder_run hrun).2.1, hqueued, hstep,
    (datagramOrder_run hread).2.2.2.1 0 _ hstep⟩

end WebTransportRuntime

end NestWebTransport
