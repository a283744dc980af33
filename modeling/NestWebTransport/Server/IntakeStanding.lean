import NestWebTransport.Server.RuntimeIntake

/-! What holds of an intake between two steps, and what the pumps do to it. -/
namespace NestWebTransport

namespace BoundedTaskScheduler

variable {s t u : BoundedTaskScheduler Nat Waiter}

/-- A scheduler was offered a task. -/
structure Takes (s t : BoundedTaskScheduler Nat Waiter) : Prop where
  waiters : t.capacityWaiters = s.capacityWaiters
  accepting : t.accepting = s.accepting
  capacity : t.hasCapacity = true → s.hasCapacity = true

theorem Takes.refl (s : BoundedTaskScheduler Nat Waiter) : Takes s s := ⟨rfl, rfl, id⟩

theorem takes_started :
    Takes s { s with activeCount := s.activeCount + 1 } := by
  refine ⟨rfl, rfl, fun h => ?_⟩
  rw [hasCapacity_iff] at h ⊢
  simp only at h
  exact ⟨h.1, by omega⟩

theorem takes_queued (task : Nat) : Takes s { s with pending := s.pending ++ [task] } := by
  refine ⟨rfl, rfl, fun h => ?_⟩
  rw [hasCapacity_iff] at h ⊢
  simp only [List.length_append, List.length_cons, List.length_nil] at h
  exact ⟨h.1, by omega⟩

end BoundedTaskScheduler

namespace Intake

variable {i j : Intake}

/-- An intake that has ended is closed entirely; nobody waits for capacity that is there; a drain
loop runs while an open intake holds datagrams, and it waits at most once. -/
structure Standing (i : Intake) : Prop where
  shut : i.intakeAborted = true → i.scheduler.accepting = false ∧ i.queue = []
  closed : i.scheduler.accepting = false → i.intakeAborted = true
  ended : i.sessionAborted = true → i.intakeAborted = true
  alert : i.scheduler.capacityWaiters ≠ [] → i.scheduler.hasCapacity = false
  idle : i.drain = .idle → i.isOver = true ∨ i.queue = []
  single : i.scheduler.capacityWaiters.count .drain ≤ if i.drain = .awaitingCapacity then 1 else 0

theorem isOver_iff : i.isOver = true ↔ i.sessionAborted = true ∨ i.intakeAborted = true := by
  simp [isOver]

theorem Standing.intakeAborted_of_isOver (h : Standing i) (hover : i.isOver = true) :
    i.intakeAborted = true := by
  rcases isOver_iff.mp hover with hs | hi
  · exact h.ended hs
  · exact hi

theorem standing_new (options : NormalizedWebTransportModuleOptions) :
    Standing (WebTransportRuntime.newIntake options) where
  shut := fun h => by cases h
  closed := fun h => by cases h
  ended := fun h => by cases h
  alert := fun h => absurd rfl h
  idle := fun _ => Or.inr rfl
  single := Nat.zero_le _

/-- What is quiet for an intake keeps it standing. -/
theorem standing_quiet (h : Quiet i j) (hi : Standing i) : Standing j where
  shut := fun hj => by
    rcases h.shut hj with ha | hshut
    · obtain ⟨haccepting, hqueue⟩ := hi.shut ha
      refine ⟨?_, ?_⟩
      · cases hopen : j.scheduler.accepting with
        | false => rfl
        | true =>
          rw [h.calms.accepting hopen] at haccepting
          cases haccepting
      · rcases h.queue with heq | hempty
        · exact heq.trans hqueue
        · exact hempty
    · exact hshut
  closed := fun hj => by
    rcases h.closes hj with hclosed | ha
    · exact h.intakeAborted (hi.closed hclosed)
    · exact ha
  ended := fun hj => by
    rcases h.ended hj with hs | ha
    · exact h.intakeAborted (hi.ended hs)
    · exact ha
  alert := fun hj => by
    rcases h.calms.waiters with hnone | ⟨heq, hcapacity⟩
    · exact absurd hnone hj
    · rw [heq] at hj
      cases hc : j.scheduler.hasCapacity with
      | false => rfl
      | true =>
        have hfull := hi.alert hj
        rw [hcapacity hc] at hfull
        cases hfull
  idle := fun hj => by
    rcases hi.idle (h.drain ▸ hj) with hover | hempty
    · exact Or.inl (isOver_iff.mpr (Or.inr (h.intakeAborted (hi.intakeAborted_of_isOver hover))))
    · right
      rcases h.queue with heq | hempty'
      · exact heq.trans hempty
      · exact hempty'
  single := by
    rw [h.drain]
    rcases h.calms.waiters with hnone | ⟨heq, -⟩
    · rw [hnone]
      exact Nat.zero_le _
    · rw [heq]
      exact hi.single

/-! ### What the pumps do to it -/

theorem standing_pumps (datagramPump : DatagramPump) (streamPump : StreamKind → StreamPump)
    (hi : Standing i) :
      Standing { i with datagramPump := datagramPump, streamPump := streamPump } :=
  { hi with }

/-- A drain loop that has not registered ends. -/
theorem standing_idle (hi : Standing i) (hnone : .drain ∉ i.scheduler.capacityWaiters)
    (hend : i.isOver = true ∨ i.queue = []) : Standing { i with drain := .idle } :=
  { hi with
    idle := fun _ => hend
    single := by simp [List.count_eq_zero.mpr hnone] }

theorem whenCapacityAvailable_waiters (scheduler : BoundedTaskScheduler Nat Waiter)
    {waiter : Waiter}
    {aborted : Bool} :
    (scheduler.whenCapacityAvailable waiter aborted).capacityWaiters = scheduler.capacityWaiters ∨
      (scheduler.whenCapacityAvailable waiter aborted).capacityWaiters =
          scheduler.capacityWaiters ++ [waiter] ∧
        scheduler.hasCapacity = false := by
  unfold BoundedTaskScheduler.whenCapacityAvailable
  split_ifs with hgranted
  · exact Or.inl rfl
  · simp only [Bool.or_eq_true, not_or] at hgranted
    exact Or.inr ⟨rfl, by simpa using hgranted.1.1⟩

theorem whenCapacityAvailable_hasCapacity {scheduler : BoundedTaskScheduler Nat Waiter}
    {waiter : Waiter} {aborted : Bool} :
    (scheduler.whenCapacityAvailable waiter aborted).hasCapacity = scheduler.hasCapacity := by
  simp [BoundedTaskScheduler.hasCapacity, BoundedTaskScheduler.capacity]

/-- An intake that waits for capacity has one waiter on the list. -/
theorem standing_await {waiter : Waiter} {aborted : Bool} (hi : Standing i)
    (hsingle : i.scheduler.capacityWaiters.count .drain + [waiter].count .drain ≤
      if i.drain = .awaitingCapacity then 1 else 0) :
    Standing { i with scheduler := i.scheduler.whenCapacityAvailable waiter aborted } :=
  { hi with
    shut := fun h => ⟨by simpa using (hi.shut h).1, (hi.shut h).2⟩
    closed := fun h => hi.closed (by simpa using h)
    alert := fun h => by
      change (i.scheduler.whenCapacityAvailable waiter aborted).hasCapacity = false
      rw [whenCapacityAvailable_hasCapacity]
      rcases whenCapacityAvailable_waiters i.scheduler with heq | ⟨-, hfull⟩
      · exact hi.alert (heq ▸ h)
      · exact hfull
    single := by
      change (i.scheduler.whenCapacityAvailable waiter aborted).capacityWaiters.count .drain ≤ _
      rcases whenCapacityAvailable_waiters i.scheduler with heq | ⟨heq, -⟩
      · rw [heq]
        exact hi.single
      · rw [heq, List.count_append]
        exact hsingle }

/-- The scheduler of an open intake is offered a task, or its queue a datagram. -/
theorem standing_takes {scheduler : BoundedTaskScheduler Nat Waiter} {queue : List Datagram}
    {received : Nat} (hi : Standing i) (hopen : i.intakeAborted = false)
    (htakes : i.scheduler.Takes scheduler) (hidle : i.drain = .idle → queue = []) :
    Standing { i with scheduler := scheduler, queue := queue, received := received } :=
  { hi with
    shut := fun h => by
      rw [hopen] at h
      cases h
    closed := fun h => hi.closed (htakes.accepting.symm.trans h)
    alert := fun h => by
      have hfull := hi.alert (htakes.waiters ▸ h)
      cases hc : scheduler.hasCapacity with
      | false => rfl
      | true =>
        rw [htakes.capacity hc] at hfull
        cases hfull
    idle := fun h => Or.inr (hidle h)
    single := by
      change scheduler.capacityWaiters.count .drain ≤ _
      rw [htakes.waiters]
      exact hi.single }

/-- Only a drain loop at its `await` of capacity is registered. -/
theorem Standing.not_waiting (hi : Standing i) (h : i.drain ≠ .awaitingCapacity) :
    .drain ∉ i.scheduler.capacityWaiters := by
  have hsingle := hi.single
  rw [if_neg h] at hsingle
  exact List.count_eq_zero.mp (Nat.le_zero.mp hsingle)

/-- A drain loop that runs again leaves no trace of its last `await`. -/
theorem standing_submitted (hi : Standing i)
    (hnone : .drain ∉ i.scheduler.capacityWaiters) : Standing { i with drain := .submitted } :=
  { hi with
    idle := fun h => by cases h
    single := by simp [List.count_eq_zero.mpr hnone] }

end Intake

/-- Only the scheduler of session `k` was offered a task. -/
structure Workload.Takes (k : Nat) (l l' : Workload) : Prop where
  own : (l.scheduler k).Takes (l'.scheduler k)
  others : ∀ j, j ≠ k → l'.scheduler j = l.scheduler j

theorem Workload.Takes.of_update {l l' : Workload} {k : Nat}
    {scheduler : BoundedTaskScheduler Nat Waiter}
    (h : l'.scheduler = Function.update l.scheduler k scheduler)
    (htakes : (l.scheduler k).Takes scheduler) : Workload.Takes k l l' where
  own := by
    rw [h, Function.update_self]
    exact htakes
  others := fun j hj => by rw [h, Function.update_of_ne hj]

theorem Workload.takes_submit (l : Workload) (k : Nat) (overflow : HandlerOverflowPolicy)
    (kind : WorkKind) (n : Nat) : Workload.Takes k l (l.submit k overflow kind n).2 := by
  obtain ⟨-, heq⟩ | ⟨r, budget, -, ⟨heq, -⟩ | ⟨heq, -⟩ | ⟨refusal, -, -, heq⟩⟩ :=
    l.submit_cases k overflow kind n
  · rw [heq]
    exact ⟨.refl _, fun _ _ => rfl⟩
  · rw [heq]
    exact .of_update rfl BoundedTaskScheduler.takes_started
  · rw [heq]
    exact .of_update rfl (BoundedTaskScheduler.takes_queued _)
  · rw [heq]
    exact ⟨.refl _, fun _ _ => rfl⟩

namespace DataPlane

variable {options : NormalizedWebTransportModuleOptions} {p q : DataPlane} {k n limit j : Nat}

theorem Offer.queue_others (h : Offer p k n limit q) (hj : j ≠ k) :
    q.queue j = p.queue j ∧ (q.history j).received = (p.history j).received := by
  cases h <;>
    simp [queue, recordDatagramDrop, setBuffer, receive, hj]

/-- The policy that closes the session queues nothing. -/
theorem enqueueDatagram_closeSession {d : Datagram}
    (h : (p.enqueueDatagram k d).1 = .closeSession) :
    (p.enqueueDatagram k d).2.queue k = p.queue k := by
  unfold enqueueDatagram queue at *
  have hcases := (p.buffer k).datagrams.enqueue_cases d
  generalize (p.buffer k).datagrams.enqueue d = result at hcases h
  obtain ⟨⟨accepted, outcome, item⟩, q⟩ := result
  obtain ⟨hlt, hres, hq⟩ | ⟨hfull, hover, hres, hq⟩ | ⟨hfull, hover, hacc, hitem, hout, hq⟩ :=
    hcases
  · simp only [EnqueueResult.mk.injEq] at hres
    obtain ⟨rfl, rfl, rfl⟩ := hres
    simp [EnqueueOutcome.dropReason] at h
  · simp only [EnqueueResult.mk.injEq] at hres
    obtain ⟨rfl, rfl, rfl⟩ := hres
    revert h
    cases (p.buffer k).datagrams.toArray.head? <;> simp [EnqueueOutcome.dropReason]
  · simp only at hacc hitem hq
    subst hacc hitem hq
    cases outcome <;> simp [EnqueueOutcome.dropReason, recordDatagramDrop, setBuffer] at h ⊢

/-- A datagram that starts no drain loop has left the queue as it was. -/
theorem offerDatagram_queue {sessionMaximum : Nat} {now : Int}
    (h : ∀ outcome, (p.offerDatagram options k n sessionMaximum now).1 = some outcome →
      outcome = .closeSession) :
    (p.offerDatagram options k n sessionMaximum now).2.queue k = p.queue k := by
  obtain ⟨hqueue, -⟩ := consumeDatagramRate_datagrams options (p.buffer k) now
  unfold offerDatagram at h ⊢
  simp only [show (p.receive k).buffer = p.buffer from rfl] at h ⊢
  generalize consumeDatagramRate options (p.buffer k) now = rated at hqueue h ⊢
  have hrated : ((p.receive k).setBuffer k rated.2).queue k = p.queue k := by
    simp [queue, setBuffer, hqueue]
  split_ifs at h ⊢ with hsize hadmitted hlimit
  · rfl
  · exact hrated
  · exact hrated
  · rw [← hrated]
    exact enqueueDatagram_closeSession (h _ rfl)

theorem drainDatagram_none (h : (p.drainDatagram options k).1 = none) :
    (p.drainDatagram options k).2 = p ∧ p.queue k = [] := by
  obtain ⟨hhead, -⟩ := (p.buffer k).datagrams.dequeue_toArray
  unfold drainDatagram at h ⊢
  generalize (p.buffer k).datagrams.dequeue = result at hhead h
  obtain ⟨head, q⟩ := result
  cases head with
  | none => exact ⟨rfl, List.head?_eq_none_iff.mp hhead.symm⟩
  | some datagram =>
    simp only at h
    split_ifs at h

theorem Drain.queue_others (h : Drain options p k q) (hj : j ≠ k) : q.queue j = p.queue j := by
  cases h <;> simp [queue, recordDatagramDrop, setBuffer, hj]

theorem Drain.received (h : Drain options p k q) :
    (q.history j).received = (p.history j).received := by
  cases h with
  | empty => rfl
  | accepted => rfl
  | refused =>
    by_cases hj : j = k
    · subst hj
      simp [recordDatagramDrop, setBuffer]
    · simp [recordDatagramDrop, setBuffer, hj]

theorem Drain.takes (h : Drain options p k q) : Workload.Takes k p.toWorkload q.toWorkload := by
  cases h with
  | empty => exact ⟨.refl _, fun _ _ => rfl⟩
  | @accepted buffer d rest load outcome hold hqueue hbytes heq hout =>
    have := p.toWorkload.takes_submit k options.execution.overflow
        (.datagram d.arrival) d.byteLength
    rw [heq] at this
    exact this
  | @refused buffer d rest load outcome hold hqueue hbytes heq hout =>
    have := p.toWorkload.takes_submit k options.execution.overflow
        (.datagram d.arrival) d.byteLength
    rw [heq] at this
    exact { this with }

end DataPlane

end NestWebTransport
