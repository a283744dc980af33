import NestWebTransport.Execution.SchedulerBounds

/-! Who waits for capacity or idleness, and that every such wait ends when it should. -/
namespace NestWebTransport

namespace SchedulerState

variable {s t : SchedulerState} {options : BoundedTaskSchedulerOptions}

/-- The waiter sets, the records of the waiters and the abort listeners agree. -/
structure WaiterLedger (s : SchedulerState) : Prop where
  capacity : ∀ w, w ∈ s.scheduler.capacityWaiters ↔
    w < s.waiters ∧ (s.waiter w).kind = .capacity ∧ (s.waiter w).resolved = 0
  idle : ∀ w, w ∈ s.scheduler.idleWaiters ↔
    w < s.waiters ∧ (s.waiter w).kind = .idle ∧ (s.waiter w).resolved = 0
  capacityOnce : s.scheduler.capacityWaiters.Nodup
  idleOnce : s.scheduler.idleWaiters.Nodup
  once : ∀ w < s.waiters, (s.waiter w).resolved ≤ 1
  listening : ∀ w < s.waiters, (s.waiter w).listening = true ↔
    (s.waiter w).resolved = 0 ∧ (s.waiter w).signal.isSome = true
  firing : ∀ w ∈ s.dispatch, w < s.waiters ∧ s.isAborted (s.waiter w).signal = true
  pendingAbort : ∀ w < s.waiters, (s.waiter w).resolved = 0 →
    s.isAborted (s.waiter w).signal = true → w ∈ s.dispatch

/-- Nobody is registered who should have been resolved. -/
structure Quiet (s : SchedulerState) : Prop where
  capacity : s.scheduler.capacityWaiters ≠ [] →
    s.scheduler.accepting = true ∧ s.scheduler.hasCapacity = false
  idle : s.scheduler.idleWaiters ≠ [] → s.scheduler.isIdle = false

/-- What the waiters depend on is the same in both states. -/
structure SameWaiters (s t : SchedulerState) : Prop where
  capacity : t.scheduler.capacityWaiters = s.scheduler.capacityWaiters
  idle : t.scheduler.idleWaiters = s.scheduler.idleWaiters
  waiters : t.waiters = s.waiters
  waiter : t.waiter = s.waiter
  aborted : t.aborted = s.aborted
  dispatch : t.dispatch = s.dispatch

theorem SameWaiters.refl (s : SchedulerState) : SameWaiters s s := ⟨rfl, rfl, rfl, rfl, rfl, rfl⟩

theorem SameWaiters.trans {u : SchedulerState} (h : SameWaiters s t) (h' : SameWaiters t u) :
    SameWaiters s u where
  capacity := h'.capacity.trans h.capacity
  idle := h'.idle.trans h.idle
  waiters := h'.waiters.trans h.waiters
  waiter := h'.waiter.trans h.waiter
  aborted := h'.aborted.trans h.aborted
  dispatch := h'.dispatch.trans h.dispatch

/-- The ledger looks at the waiters and their lists only. -/
theorem WaiterLedger.congr (h : s.WaiterLedger) (e : SameWaiters s t) : t.WaiterLedger := by
  obtain ⟨hc, hi, hn, hw, ha, hd⟩ := e
  have haborted : ∀ signal, t.isAborted signal = s.isAborted signal := by
    intro signal
    rw [isAborted, isAborted, ha]
  refine ⟨?_, ?_, ?_, ?_, ?_, ?_, ?_, ?_⟩
  · rw [hc, hn, hw]
    exact h.capacity
  · rw [hi, hn, hw]
    exact h.idle
  · rw [hc]
    exact h.capacityOnce
  · rw [hi]
    exact h.idleOnce
  · rw [hn, hw]
    exact h.once
  · rw [hn, hw]
    exact h.listening
  · simp only [hd, hn, hw, haborted]
    exact h.firing
  · simp only [hd, hn, hw, haborted]
    exact h.pendingAbort

/-! ### Tasks leave the waiters alone -/

theorem sameWaiters_submit (s : SchedulerState) : SameWaiters s s.submit := by
  rcases s.submit_cases with ⟨_, heq⟩ | ⟨_, _, heq⟩ | ⟨_, _, _, heq⟩ <;> rw [heq] <;>
    exact ⟨rfl, rfl, rfl, rfl, rfl, rfl⟩

theorem sameWaiters_submits (n : Nat) (s : SchedulerState) : SameWaiters s (submit^[n] s) := by
  induction n generalizing s with
  | zero => exact .refl s
  | succ n ih =>
    rw [Function.iterate_succ_apply]
    exact (sameWaiters_submit s).trans (ih s.submit)

theorem sameWaiters_settle (observer : Nat → Nat) (phase : TaskPhase) (k : Nat)
    (s : SchedulerState) : SameWaiters s (s.settle observer phase k) := by
  have hsettled : SameWaiters s (s.settled phase k) := ⟨rfl, rfl, rfl, rfl, rfl, rfl⟩
  exact hsettled.trans (sameWaiters_submits _ _)

theorem sameWaiters_promote (s : SchedulerState) : SameWaiters s s.promote := by
  unfold promote
  split
  · exact .refl s
  · exact ⟨rfl, rfl, rfl, rfl, rfl, rfl⟩

theorem sameWaiters_foldl_settle (observer : Nat → Nat) (phase : TaskPhase) (ks : List Nat)
    (s : SchedulerState) : SameWaiters s (ks.foldl (fun s k => s.settle observer phase k) s) := by
  induction ks generalizing s with
  | nil => exact .refl s
  | cons k ks ih => exact (sameWaiters_settle observer phase k s).trans (ih _)

/-! ### Finishing waiters -/

theorem finish_waiter (s : SchedulerState) (w i : Nat) : (s.finish w).waiter i =
    if i = w then { s.waiter w with listening := false, resolved := (s.waiter w).resolved + 1 }
    else s.waiter i := by
  by_cases hi : i = w
  · subst hi
    simp [finish]
  · simp [finish, hi]

theorem finish_signal (s : SchedulerState) (w i : Nat) :
    ((s.finish w).waiter i).signal = (s.waiter i).signal := by
  rw [finish_waiter]
  split_ifs with hi
  · rw [hi]
  · rfl

theorem finish_kind (s : SchedulerState) (w i : Nat) :
    ((s.finish w).waiter i).kind = (s.waiter i).kind := by
  rw [finish_waiter]
  split_ifs with hi
  · rw [hi]
  · rfl

theorem finish_open_iff (s : SchedulerState) (w i : Nat) :
    ((s.finish w).waiter i).resolved = 0 ↔ (s.waiter i).resolved = 0 ∧ i ≠ w := by
  rw [finish_waiter]
  by_cases hi : i = w <;> simp [hi]

/-- A waiter that is answered leaves the list, and no other does. -/
theorem WaiterLedger.mem_finish_capacity (h : s.WaiterLedger) (w i : Nat) :
    i ∈ (s.finish w).scheduler.capacityWaiters ↔
      i ∈ s.scheduler.capacityWaiters ∧ i ≠ w := by
  unfold SchedulerState.finish
  cases hk : (s.waiter w).kind with
  | capacity =>
    change i ∈ s.scheduler.capacityWaiters.erase w ↔ _
    rw [h.capacityOnce.mem_erase_iff, and_comm]
  | idle =>
    change i ∈ s.scheduler.capacityWaiters ↔ _
    refine (and_iff_left_of_imp fun hi => ?_).symm
    rintro rfl
    have hkind := ((h.capacity i).mp hi).2.1
    rw [hk] at hkind
    cases hkind

/-- A waiter that is answered leaves the list, and no other does. -/
theorem WaiterLedger.mem_finish_idle (h : s.WaiterLedger) (w i : Nat) :
    i ∈ (s.finish w).scheduler.idleWaiters ↔ i ∈ s.scheduler.idleWaiters ∧ i ≠ w := by
  unfold SchedulerState.finish
  cases hk : (s.waiter w).kind with
  | capacity =>
    change i ∈ s.scheduler.idleWaiters ↔ _
    refine (and_iff_left_of_imp fun hi => ?_).symm
    rintro rfl
    have hkind := ((h.idle i).mp hi).2.1
    rw [hk] at hkind
    cases hkind
  | idle =>
    change i ∈ s.scheduler.idleWaiters.erase w ↔ _
    rw [h.idleOnce.mem_erase_iff, and_comm]

theorem finish_sublists (s : SchedulerState) (w : Nat) :
    (s.finish w).scheduler.capacityWaiters.Sublist s.scheduler.capacityWaiters ∧
      (s.finish w).scheduler.idleWaiters.Sublist s.scheduler.idleWaiters := by
  unfold finish
  cases (s.waiter w).kind with
  | capacity => exact ⟨List.erase_sublist, List.Sublist.refl _⟩
  | idle => exact ⟨List.Sublist.refl _, List.erase_sublist⟩

/-- `finish` on a registered waiter takes it out of its set and removes its listener. -/
theorem WaiterLedger.finish (h : s.WaiterLedger) {w : Nat} (hopen : (s.waiter w).resolved = 0) :
    (s.finish w).WaiterLedger := by
  obtain ⟨hcapacity, hidle⟩ := finish_sublists s w
  refine ⟨fun i => ?_, fun i => ?_, hcapacity.nodup h.capacityOnce, hidle.nodup h.idleOnce,
    fun i hi => ?_, fun i hi => ?_, fun i hi => ?_, fun i hi ho ha => ?_⟩
  · rw [h.mem_finish_capacity, h.capacity, finish_kind, finish_open_iff, and_assoc, and_assoc]
    exact Iff.rfl
  · rw [h.mem_finish_idle, h.idle, finish_kind, finish_open_iff, and_assoc, and_assoc]
    exact Iff.rfl
  · rw [finish_waiter]
    split_ifs with hiw
    · change (s.waiter w).resolved + 1 ≤ 1
      omega
    · exact h.once i hi
  · rw [finish_open_iff, finish_signal, finish_waiter]
    by_cases hiw : i = w
    · simp [hiw]
    · simp only [hiw, if_false, ne_eq, not_false_eq_true, and_true]
      exact h.listening i hi
  · rw [finish_signal]
    exact h.firing i hi
  · rw [finish_open_iff] at ho
    rw [finish_signal] at ha
    exact h.pendingAbort i hi ho.1 ha

/-- Finishing registered waiters one after the other leaves the rest registered. -/
theorem WaiterLedger.foldl_finish (h : s.WaiterLedger) (ws : List Nat) (hnodup : ws.Nodup)
    (hopen : ∀ w ∈ ws, (s.waiter w).resolved = 0) :
    (ws.foldl SchedulerState.finish s).WaiterLedger ∧
      (∀ i, i ∈ (ws.foldl SchedulerState.finish s).scheduler.capacityWaiters ↔
        i ∈ s.scheduler.capacityWaiters ∧ i ∉ ws) ∧
      (∀ i, i ∈ (ws.foldl SchedulerState.finish s).scheduler.idleWaiters ↔
        i ∈ s.scheduler.idleWaiters ∧ i ∉ ws) := by
  induction ws generalizing s with
  | nil => exact ⟨h, by simp, by simp⟩
  | cons w ws ih =>
    obtain ⟨hfresh, hrest⟩ := List.nodup_cons.mp hnodup
    have hnext : (s.finish w).WaiterLedger := h.finish (hopen w List.mem_cons_self)
    obtain ⟨hledger, hcapacity, hidle⟩ := ih hnext hrest (fun i hi => by
      rw [finish_open_iff]
      exact ⟨hopen i (List.mem_cons_of_mem _ hi), fun he => hfresh (he ▸ hi)⟩)
    refine ⟨hledger, fun i => ?_, fun i => ?_⟩
    · rw [List.foldl_cons, hcapacity, h.mem_finish_capacity, List.mem_cons, not_or, and_assoc]
    · rw [List.foldl_cons, hidle, h.mem_finish_idle, List.mem_cons, not_or, and_assoc]

theorem WaiterLedger.flushCapacity (h : s.WaiterLedger) :
    s.flushCapacity.WaiterLedger ∧ s.flushCapacity.scheduler.capacityWaiters = [] := by
  obtain ⟨hledger, hcapacity, -⟩ := h.foldl_finish s.scheduler.capacityWaiters h.capacityOnce
    fun w hw => ((h.capacity w).mp hw).2.2
  have hnone : (s.scheduler.capacityWaiters.foldl SchedulerState.finish
      s).scheduler.capacityWaiters = [] := by
    refine List.eq_nil_iff_forall_not_mem.mpr fun i hi => ?_
    obtain ⟨hmem, hnot⟩ := (hcapacity i).mp hi
    exact hnot hmem
  exact ⟨hledger.congr ⟨hnone.symm, rfl, rfl, rfl, rfl, rfl⟩, rfl⟩

theorem WaiterLedger.flushIdle (h : s.WaiterLedger) :
    s.flushIdle.WaiterLedger ∧ s.flushIdle.scheduler.idleWaiters = [] ∧
      ∀ i ∈ s.flushIdle.scheduler.capacityWaiters, i ∈ s.scheduler.capacityWaiters := by
  obtain ⟨hledger, hcapacity, hidle⟩ := h.foldl_finish s.scheduler.idleWaiters h.idleOnce
    fun w hw => ((h.idle w).mp hw).2.2
  have hnone : (s.scheduler.idleWaiters.foldl SchedulerState.finish
      s).scheduler.idleWaiters = [] := by
    refine List.eq_nil_iff_forall_not_mem.mpr fun i hi => ?_
    obtain ⟨hmem, hnot⟩ := (hidle i).mp hi
    exact hnot hmem
  exact ⟨hledger.congr ⟨rfl, hnone.symm, rfl, rfl, rfl, rfl⟩, rfl,
    fun i hi => ((hcapacity i).mp hi).1⟩

/-- The bounds and flags that decide who may wait. -/
theorem SameTasks.hasCapacity (e : SameTasks s t) :
    t.scheduler.hasCapacity = s.scheduler.hasCapacity := by
  rw [Bool.eq_iff_iff, BoundedTaskScheduler.hasCapacity_iff, BoundedTaskScheduler.hasCapacity_iff,
    e.accepting, e.activeCount, e.pending, e.maxConcurrent, e.maxPending]

theorem SameTasks.isIdle (e : SameTasks s t) : t.scheduler.isIdle = s.scheduler.isIdle := by
  simp only [BoundedTaskScheduler.isIdle, e.activeCount, e.pending]

theorem sameTasks_flushIdle (s : SchedulerState) : SameTasks s s.flushIdle :=
  { sameTasks_foldl_finish s.scheduler.idleWaiters s with }

/-- Flushing resolves everyone who should be. -/
theorem WaiterLedger.flushWaiters (h : s.WaiterLedger) :
    s.flushWaiters.WaiterLedger ∧ s.flushWaiters.Quiet := by
  have hfirst : ∃ u, (if s.scheduler.hasCapacity || !s.scheduler.accepting then s.flushCapacity
        else s) = u ∧ u.WaiterLedger ∧ (u.scheduler.capacityWaiters ≠ [] →
        u.scheduler.accepting = true ∧ u.scheduler.hasCapacity = false) := by
    refine ⟨_, rfl, ?_⟩
    split
    · obtain ⟨hledger, hnone⟩ := h.flushCapacity
      exact ⟨hledger, fun hne => absurd hnone hne⟩
    · rename_i hkeep
      simp only [Bool.or_eq_true, not_or, Bool.not_eq_true, Bool.not_eq_false'] at hkeep
      exact ⟨h, fun _ => ⟨hkeep.2, hkeep.1⟩⟩
  obtain ⟨u, hu, hledger, hcapacity⟩ := hfirst
  unfold SchedulerState.flushWaiters
  simp only [hu]
  split
  · obtain ⟨hidle, hnone, hsub⟩ := hledger.flushIdle
    have hsame := sameTasks_flushIdle u
    refine ⟨hidle, fun hne => ?_, fun hne => absurd hnone hne⟩
    rw [hsame.accepting, hsame.hasCapacity]
    obtain ⟨w, hw⟩ := List.exists_mem_of_ne_nil _ hne
    exact hcapacity (List.ne_nil_of_mem (hsub w hw))
  · rename_i hbusy
    exact ⟨hledger, hcapacity, fun _ => by simpa using hbusy⟩

/-! ### Registering and aborting -/

/-- A new waiter gets a record and, unless it is resolved at once, a place in its set. -/
theorem WaiterLedger.register (h : s.WaiterLedger) (c : SchedulerWaiter)
    (q : BoundedTaskScheduler Nat Nat)
    (hcapacity : ∀ i, i ∈ q.capacityWaiters ↔ i ∈ s.scheduler.capacityWaiters ∨
      i = s.waiters ∧ c.kind = .capacity ∧ c.resolved = 0)
    (hidle : ∀ i, i ∈ q.idleWaiters ↔ i ∈ s.scheduler.idleWaiters ∨
      i = s.waiters ∧ c.kind = .idle ∧ c.resolved = 0)
    (hcapacityOnce : q.capacityWaiters.Nodup) (hidleOnce : q.idleWaiters.Nodup)
    (honce : c.resolved ≤ 1)
    (hlistening : c.listening = true ↔ c.resolved = 0 ∧ c.signal.isSome = true)
    (haborted : c.resolved = 0 → s.isAborted c.signal = false) :
    WaiterLedger { s with
      scheduler := q
      waiters := s.waiters + 1
      waiter := Function.update s.waiter s.waiters c } := by
  have hold : ∀ i < s.waiters, Function.update s.waiter s.waiters c i = s.waiter i :=
    fun i hi => Function.update_of_ne (Nat.ne_of_lt hi) _ _
  have hnew : Function.update s.waiter s.waiters c s.waiters = c := Function.update_self ..
  refine ⟨fun i => ?_, fun i => ?_, hcapacityOnce, hidleOnce, fun i hi => ?_, fun i hi => ?_,
    fun i hi => ?_, fun i hi ho ha => ?_⟩
  · rw [hcapacity, h.capacity]
    exact (table_push_iff (P := fun c : SchedulerWaiter => c.kind = .capacity ∧ c.resolved = 0)
      i).symm
  · rw [hidle, h.idle]
    exact (table_push_iff (P := fun c : SchedulerWaiter => c.kind = .idle ∧ c.resolved = 0)
      i).symm
  · change (Function.update s.waiter s.waiters c i).resolved ≤ 1
    rcases Nat.lt_succ_iff_lt_or_eq.mp hi with hi | rfl
    · rw [hold i hi]
      exact h.once i hi
    · rw [hnew]
      exact honce
  · change (Function.update s.waiter s.waiters c i).listening = true ↔
      (Function.update s.waiter s.waiters c i).resolved = 0 ∧
        (Function.update s.waiter s.waiters c i).signal.isSome = true
    rcases Nat.lt_succ_iff_lt_or_eq.mp hi with hi | rfl
    · rw [hold i hi]
      exact h.listening i hi
    · rw [hnew]
      exact hlistening
  · obtain ⟨hlt, ha⟩ := h.firing i hi
    refine ⟨Nat.lt_succ_of_lt hlt, ?_⟩
    change s.isAborted (Function.update s.waiter s.waiters c i).signal = true
    rw [hold i hlt]
    exact ha
  · change (Function.update s.waiter s.waiters c i).resolved = 0 at ho
    change s.isAborted (Function.update s.waiter s.waiters c i).signal = true at ha
    rcases Nat.lt_succ_iff_lt_or_eq.mp hi with hi | rfl
    · rw [hold i hi] at ho ha
      exact h.pendingAbort i hi ho ha
    · rw [hnew] at ho ha
      rw [haborted ho] at ha
      cases ha

theorem WaiterLedger.resolveAtOnce (h : s.WaiterLedger) (kind : WaiterKind)
    (signal : Option Nat) : (s.resolveAtOnce kind signal).WaiterLedger :=
  h.register ⟨kind, signal, false, 1⟩ s.scheduler (by simp) (by simp) h.capacityOnce h.idleOnce
    (Nat.le_refl 1) (by simp) (by simp)

/-- A new waiter is on the list of its kind and listens to its signal. -/
theorem WaiterLedger.enroll (h : s.WaiterLedger) (kind : WaiterKind) {signal : Option Nat}
    (ha : s.isAborted signal = false) : (s.enroll kind signal).WaiterLedger := by
  have hcapacity : s.waiters ∉ s.scheduler.capacityWaiters :=
    fun hi => Nat.lt_irrefl _ ((h.capacity _).mp hi).1
  have hidle : s.waiters ∉ s.scheduler.idleWaiters :=
    fun hi => Nat.lt_irrefl _ ((h.idle _).mp hi).1
  have hcapacityOnce : (s.scheduler.capacityWaiters ++ [s.waiters]).Nodup := by
    simpa using h.capacityOnce.concat hcapacity
  have hidleOnce : (s.scheduler.idleWaiters ++ [s.waiters]).Nodup := by
    simpa using h.idleOnce.concat hidle
  cases kind with
  | capacity =>
    exact h.register ⟨.capacity, signal, signal.isSome, 0⟩
      { s.scheduler with capacityWaiters := s.scheduler.capacityWaiters ++ [s.waiters] }
      (by simp) (by simp) hcapacityOnce h.idleOnce (Nat.zero_le 1) (by simp)
      fun _ => ha
  | idle =>
    exact h.register ⟨.idle, signal, signal.isSome, 0⟩
      { s.scheduler with idleWaiters := s.scheduler.idleWaiters ++ [s.waiters] }
      (by simp) (by simp) h.capacityOnce hidleOnce (Nat.zero_le 1) (by simp)
      fun _ => ha

theorem enroll_hasCapacity (s : SchedulerState) (kind : WaiterKind) (signal : Option Nat) :
    (s.enroll kind signal).scheduler.hasCapacity = s.scheduler.hasCapacity := by
  cases kind <;> rfl

theorem enroll_isIdle (s : SchedulerState) (kind : WaiterKind) (signal : Option Nat) :
    (s.enroll kind signal).scheduler.isIdle = s.scheduler.isIdle := by
  cases kind <;> rfl

/-- The second check of the executor finds what the first one found. -/
theorem whenCapacityAvailable_cases (s : SchedulerState) (signal : Option Nat) :
    s.whenCapacityAvailable signal = s.resolveAtOnce .capacity signal ∨
      (s.scheduler.hasCapacity = false ∧ s.scheduler.accepting = true ∧
        s.isAborted signal = false ∧
        s.whenCapacityAvailable signal = s.enroll .capacity signal) := by
  unfold whenCapacityAvailable
  split
  · exact Or.inl rfl
  · rename_i hwait
    simp only [Bool.or_eq_true, not_or, Bool.not_eq_true, Bool.not_eq_false'] at hwait
    obtain ⟨⟨hfull, haccepting⟩, ha⟩ := hwait
    refine Or.inr ⟨hfull, haccepting, ha, ?_⟩
    have hagain : ((s.enroll .capacity signal).scheduler.hasCapacity ||
        !(s.enroll .capacity signal).scheduler.accepting ||
        (s.enroll .capacity signal).isAborted signal) = false := by
      rw [enroll_hasCapacity, hfull]
      change (!s.scheduler.accepting || s.isAborted signal) = false
      rw [haccepting, ha]
      rfl
    simp only [hagain, Bool.false_eq_true, if_false]

/-- `onIdle` answers at once where it can, or enrolls a waiter. -/
theorem onIdle_cases (s : SchedulerState) (signal : Option Nat) :
    s.onIdle signal = s.resolveAtOnce .idle signal ∨
      (s.scheduler.isIdle = false ∧ s.isAborted signal = false ∧
        s.onIdle signal = s.enroll .idle signal) := by
  unfold onIdle
  split
  · exact Or.inl rfl
  · rename_i hwait
    simp only [Bool.or_eq_true, not_or, Bool.not_eq_true] at hwait
    obtain ⟨hbusy, ha⟩ := hwait
    refine Or.inr ⟨hbusy, ha, ?_⟩
    have hagain : ((s.enroll .idle signal).scheduler.isIdle ||
        (s.enroll .idle signal).isAborted signal) = false := by
      rw [enroll_isIdle, hbusy]
      exact ha
    simp only [hagain, Bool.false_eq_true, if_false]

/-- An abort leaves the waiters to their listeners. -/
theorem WaiterLedger.abort (h : s.WaiterLedger) (signal : Nat) : (s.abort signal).WaiterLedger := by
  unfold SchedulerState.abort
  split
  · exact h
  · have hgrow : ∀ o : Option Nat, s.isAborted o = true →
        o.any (Function.update s.aborted signal true) = true := by
      rintro (_ | j) ha
      · cases ha
      · by_cases hj : j = signal
        · simp [hj]
        · simpa [isAborted, Function.update_of_ne hj] using ha
    refine ⟨h.capacity, h.idle, h.capacityOnce, h.idleOnce, h.once, h.listening, fun i hi => ?_,
      fun i hi ho ha => ?_⟩
    · rcases List.mem_append.mp hi with hi | hi
      · obtain ⟨hlt, hmatch⟩ := List.mem_filter.mp hi
        rw [Bool.and_eq_true, beq_iff_eq] at hmatch
        refine ⟨List.mem_range.mp hlt, ?_⟩
        change (s.waiter i).signal.any (Function.update s.aborted signal true) = true
        rw [hmatch.2]
        simp
      · obtain ⟨hlt, ha⟩ := h.firing i hi
        exact ⟨hlt, hgrow _ ha⟩
    · change (s.waiter i).signal.any (Function.update s.aborted signal true) = true at ha
      rw [List.mem_append]
      cases hsig : (s.waiter i).signal with
      | none =>
        rw [hsig] at ha
        cases ha
      | some j =>
        by_cases hj : j = signal
        · subst hj
          refine Or.inl (List.mem_filter.mpr ⟨List.mem_range.mpr hi, ?_⟩)
          rw [Bool.and_eq_true, beq_iff_eq]
          exact ⟨(h.listening i hi).mpr ⟨ho, by rw [hsig]; rfl⟩, hsig⟩
        · refine Or.inr (h.pendingAbort i hi ho ?_)
          rw [hsig] at ha ⊢
          simpa [isAborted, Function.update_of_ne hj] using ha

/-- A listener that has nothing left to resolve can be dropped. -/
theorem WaiterLedger.drop (h : s.WaiterLedger) {w : Nat} {ws : List Nat}
    (hdispatch : s.dispatch = w :: ws) (hdone : (s.waiter w).resolved ≠ 0) :
    WaiterLedger { s with dispatch := ws } := by
  refine ⟨h.capacity, h.idle, h.capacityOnce, h.idleOnce, h.once, h.listening,
    fun i hi => h.firing i (by rw [hdispatch]; exact List.mem_cons_of_mem _ hi),
    fun i hi ho ha => ?_⟩
  have hmem := h.pendingAbort i hi ho ha
  rw [hdispatch] at hmem
  refine (List.mem_cons.mp hmem).resolve_left ?_
  rintro rfl
  exact hdone ho

/-- A listener that fires answers its waiter, and only that one. -/
theorem WaiterLedger.fireListener (h : s.WaiterLedger) : s.fireListener.WaiterLedger := by
  unfold SchedulerState.fireListener
  split
  · exact h
  · rename_i w ws hdispatch
    obtain ⟨hlt, ha⟩ := h.firing w (by rw [hdispatch]; exact List.mem_cons_self)
    have hsome : (s.waiter w).signal.isSome = true := by
      cases hsig : (s.waiter w).signal with
      | none =>
        rw [hsig] at ha
        cases ha
      | some signal => rfl
    simp only
    split
    · rename_i hlistening
      have hopen := ((h.listening w hlt).mp hlistening).1
      have hdrop : WaiterLedger { s.finish w with dispatch := ws } := by
        refine (h.finish hopen).drop hdispatch ?_
        rw [finish_waiter, if_pos rfl]
        exact Nat.succ_ne_zero _
      exact hdrop
    · rename_i hsilent
      refine h.drop hdispatch fun hopen => ?_
      exact hsilent ((h.listening w hlt).mpr ⟨hopen, hsome⟩)

/-! ### Nobody stays who should go -/

theorem Quiet.of_sublists (h : s.Quiet) (htasks : SameTasks s t)
    (hcapacity : t.scheduler.capacityWaiters.Sublist s.scheduler.capacityWaiters)
    (hidle : t.scheduler.idleWaiters.Sublist s.scheduler.idleWaiters) : t.Quiet := by
  refine ⟨fun hne => ?_, fun hne => ?_⟩
  · rw [htasks.accepting, htasks.hasCapacity]
    refine h.capacity fun hnil => hne ?_
    rw [hnil] at hcapacity
    exact List.sublist_nil.mp hcapacity
  · rw [htasks.isIdle]
    refine h.idle fun hnil => hne ?_
    rw [hnil] at hidle
    exact List.sublist_nil.mp hidle

/-- Submitting uses capacity up and leaves the scheduler busy. -/
theorem Quiet.submit (h : s.Quiet) (hactive : 0 ≤ s.scheduler.activeCount) : s.submit.Quiet := by
  have hwaiters := sameWaiters_submit s
  have hfull : s.scheduler.hasCapacity = false → s.submit.scheduler.hasCapacity = false := by
    intro hno
    rw [← Bool.not_eq_true, BoundedTaskScheduler.hasCapacity_iff] at hno ⊢
    rintro ⟨haccepting, hlt⟩
    rcases s.submit_cases with ⟨_, heq⟩ | ⟨_, _, heq⟩ | ⟨_, _, _, heq⟩
    · rw [heq] at haccepting hlt
      exact hno ⟨haccepting, hlt⟩
    · rw [heq] at haccepting hlt
      refine hno ⟨haccepting, ?_⟩
      change s.scheduler.activeCount + 1 + (s.scheduler.pending.length : Int) <
        s.scheduler.maxConcurrent + s.scheduler.maxPending at hlt
      omega
    · rw [heq] at haccepting hlt
      refine hno ⟨haccepting, ?_⟩
      change s.scheduler.activeCount + ((s.scheduler.pending ++ [s.submissions]).length : Int) <
        s.scheduler.maxConcurrent + s.scheduler.maxPending at hlt
      rw [List.length_append, List.length_singleton] at hlt
      push_cast at hlt
      omega
  have hbusy : s.scheduler.isIdle = false → s.submit.scheduler.isIdle = false := by
    intro hno
    rw [← Bool.not_eq_true, BoundedTaskScheduler.isIdle_iff] at hno ⊢
    rintro ⟨hzero, hnone⟩
    rcases s.submit_cases with ⟨_, heq⟩ | ⟨_, _, heq⟩ | ⟨_, _, _, heq⟩
    · rw [heq] at hzero hnone
      exact hno ⟨hzero, hnone⟩
    · rw [heq] at hzero
      change s.scheduler.activeCount + 1 = 0 at hzero
      omega
    · rw [heq] at hnone
      change s.scheduler.pending ++ [s.submissions] = [] at hnone
      simp at hnone
  have haccept : s.submit.scheduler.accepting = s.scheduler.accepting := by
    rcases s.submit_cases with ⟨_, heq⟩ | ⟨_, _, heq⟩ | ⟨_, _, _, heq⟩ <;> rw [heq] <;> rfl
  refine ⟨fun hne => ?_, fun hne => ?_⟩
  · rw [hwaiters.capacity] at hne
    obtain ⟨haccepting, hno⟩ := h.capacity hne
    exact ⟨haccept.trans haccepting, hfull hno⟩
  · rw [hwaiters.idle] at hne
    exact hbusy (h.idle hne)

theorem Quiet.fireListener (h : s.Quiet) : s.fireListener.Quiet := by
  have hsub : s.fireListener.scheduler.capacityWaiters.Sublist s.scheduler.capacityWaiters ∧
      s.fireListener.scheduler.idleWaiters.Sublist s.scheduler.idleWaiters := by
    unfold SchedulerState.fireListener
    split
    · exact ⟨List.Sublist.refl _, List.Sublist.refl _⟩
    · rename_i w ws _
      simp only
      split
      · exact finish_sublists { s with dispatch := ws } w
      · exact ⟨List.Sublist.refl _, List.Sublist.refl _⟩
  exact h.of_sublists (sameTasks_fireListener s) hsub.1 hsub.2

theorem Quiet.whenCapacityAvailable (h : s.Quiet) (signal : Option Nat) :
    (s.whenCapacityAvailable signal).Quiet := by
  rcases s.whenCapacityAvailable_cases signal with heq | ⟨hfull, haccepting, _, heq⟩
  · rw [heq]
    exact ⟨h.capacity, h.idle⟩
  · rw [heq]
    exact ⟨fun _ => ⟨haccepting, hfull⟩, h.idle⟩

theorem Quiet.onIdle (h : s.Quiet) (signal : Option Nat) : (s.onIdle signal).Quiet := by
  rcases s.onIdle_cases signal with heq | ⟨hbusy, _, heq⟩
  · rw [heq]
    exact ⟨h.capacity, h.idle⟩
  · rw [heq]
    exact ⟨h.capacity, fun _ => hbusy⟩

/-! ### Runs -/

/-- What every step keeps, whatever the observers submit. -/
structure Attentive (s : SchedulerState) : Prop where
  tasks : TaskLedger [] s
  waiters : s.WaiterLedger
  quiet : s.Quiet

theorem attentive_new (options : BoundedTaskSchedulerOptions) : (new options).Attentive where
  tasks := (sound_new options).ledger
  waiters := by constructor <;> simp [new, BoundedTaskScheduler.new]
  quiet := by constructor <;> simp [new, BoundedTaskScheduler.new]

/-- Whatever the observers submit, a step answers the waiters whose condition it has brought
about. -/
theorem attentive_step {observer : Nat → Nat} {e : SchedulerEvent}
    (hs : (program options observer).machine.Step s e t) (h : s.Attentive) : t.Attentive := by
  have hledger := ledger_step hs h.tasks
  obtain ⟨he, rfl⟩ := hs
  obtain ⟨hl, hw, hq⟩ := h
  cases e with
  | submit => exact ⟨hledger, hw.congr (sameWaiters_submit s), hq.submit hl.active_nonneg⟩
  | close discardPending =>
    have hclosed : SameWaiters s { s with scheduler := { s.scheduler with accepting := false } } :=
      ⟨rfl, rfl, rfl, rfl, rfl, rfl⟩
    have hsame : SameWaiters s (if discardPending then
        discard { s with scheduler := { s.scheduler with accepting := false } } observer
        else { s with scheduler := { s.scheduler with accepting := false } }) := by
      cases discardPending with
      | false => exact hclosed
      | true =>
        have hdetached : SameWaiters s
            { s with scheduler := { s.scheduler with accepting := false, pending := [] } } :=
          ⟨rfl, rfl, rfl, rfl, rfl, rfl⟩
        exact hdetached.trans
          (sameWaiters_foldl_settle observer .discarded s.scheduler.pending _)
    obtain ⟨hwaiters, hquiet⟩ := (hw.congr hsame).flushWaiters
    exact ⟨hledger, hwaiters, hquiet⟩
  | call k => exact ⟨hledger, hw.congr ⟨rfl, rfl, rfl, rfl, rfl, rfl⟩, ⟨hq.capacity, hq.idle⟩⟩
  | fulfil k => exact ⟨hledger, hw.congr ⟨rfl, rfl, rfl, rfl, rfl, rfl⟩, ⟨hq.capacity, hq.idle⟩⟩
  | reject k => exact ⟨hledger, hw.congr ⟨rfl, rfl, rfl, rfl, rfl, rfl⟩, ⟨hq.capacity, hq.idle⟩⟩
  | observed k => exact ⟨hledger, hw.congr ⟨rfl, rfl, rfl, rfl, rfl, rfl⟩, ⟨hq.capacity, hq.idle⟩⟩
  | complete k =>
    have hleave : SameWaiters s (s.leave k) := ⟨rfl, rfl, rfl, rfl, rfl, rfl⟩
    have hsame : SameWaiters s (promote ((s.leave k).settle observer .completed k)) :=
      (hleave.trans (sameWaiters_settle observer .completed k _)).trans (sameWaiters_promote _)
    obtain ⟨hwaiters, hquiet⟩ := (hw.congr hsame).flushWaiters
    exact ⟨hledger, hwaiters, hquiet⟩
  | whenCapacityAvailable signal =>
    refine ⟨hledger, ?_, hq.whenCapacityAvailable signal⟩
    change (s.whenCapacityAvailable signal).WaiterLedger
    rcases s.whenCapacityAvailable_cases signal with heq | ⟨_, _, ha, heq⟩
    · rw [heq]
      exact hw.resolveAtOnce .capacity signal
    · rw [heq]
      exact hw.enroll .capacity ha
  | onIdle signal =>
    refine ⟨hledger, ?_, hq.onIdle signal⟩
    change (s.onIdle signal).WaiterLedger
    rcases s.onIdle_cases signal with heq | ⟨_, ha, heq⟩
    · rw [heq]
      exact hw.resolveAtOnce .idle signal
    · rw [heq]
      exact hw.enroll .idle ha
  | abort signal =>
    have hscheduler : (s.abort signal).scheduler = s.scheduler := by
      unfold SchedulerState.abort
      split <;> rfl
    refine ⟨hledger, hw.abort signal, ?_⟩
    change (s.abort signal).Quiet
    refine ⟨?_, ?_⟩
    · rw [hscheduler]
      exact hq.capacity
    · rw [hscheduler]
      exact hq.idle
  | listener => exact ⟨hledger, hw.fireListener, hq.fireListener⟩

/-- Between steps no waiter is registered without a reason, and none is resolved twice or leaves a
listener behind. -/
theorem no_lost_wakeup (options : BoundedTaskSchedulerOptions) (observer : Nat → Nat)
    (s : SchedulerState) (h : (program options observer).machine.Reachable s) (w : Nat)
    (hw : w < s.waiters) :
    (w ∈ s.scheduler.capacityWaiters →
        s.scheduler.accepting = true ∧ s.scheduler.hasCapacity = false) ∧
      (w ∈ s.scheduler.idleWaiters →
        0 < s.scheduler.activeCount ∨ s.scheduler.pending ≠ []) ∧
      (w ∈ s.scheduler.capacityWaiters ∨ w ∈ s.scheduler.idleWaiters →
        s.isAborted (s.waiter w).signal = false ∨ w ∈ s.dispatch) ∧
      (w ∈ s.scheduler.capacityWaiters ∨ w ∈ s.scheduler.idleWaiters ↔
        (s.waiter w).resolved = 0) ∧
      (s.waiter w).resolved ≤ 1 ∧
      ((s.waiter w).resolved = 1 → (s.waiter w).listening = false) := by
  have hattentive : s.Attentive := by
    refine h.invariant ?_ fun _ _ _ hs h => attentive_step hs h
    rintro s rfl
    exact attentive_new options
  obtain ⟨hl, hledger, hq⟩ := hattentive
  have hregistered : w ∈ s.scheduler.capacityWaiters ∨ w ∈ s.scheduler.idleWaiters ↔
      (s.waiter w).resolved = 0 := by
    rw [hledger.capacity, hledger.idle]
    cases hk : (s.waiter w).kind <;> simp [hw]
  refine ⟨fun hmem => hq.capacity (List.ne_nil_of_mem hmem), fun hmem => ?_, fun hmem => ?_,
    hregistered, hledger.once w hw, fun hone => ?_⟩
  · have hbusy := hq.idle (List.ne_nil_of_mem hmem)
    rw [← Bool.not_eq_true, BoundedTaskScheduler.isIdle_iff] at hbusy
    have hactive := hl.active_nonneg
    by_cases hnone : s.scheduler.pending = []
    · refine Or.inl ?_
      by_contra hzero
      exact hbusy ⟨by omega, hnone⟩
    · exact Or.inr hnone
  · cases ha : s.isAborted (s.waiter w).signal with
    | false => exact Or.inl rfl
    | true => exact Or.inr (hledger.pendingAbort w hw (hregistered.mp hmem) ha)
  · rw [← Bool.not_eq_true, hledger.listening w hw, hone]
    simp

/-- Two waiters on one signal and one without: a completion wakes the last, the abort the others. -/
theorem no_lost_wakeup_small :
    ∃ s, (program ⟨1, 0, .drop⟩ fun _ => 0).machine.Reachable s ∧
      (s.waiter 0).resolved = 1 ∧ (s.waiter 1).resolved = 1 ∧ (s.waiter 2).resolved = 1 ∧
      ((s.waiter 0).resolved = 1 → (s.waiter 0).listening = false) := by
  obtain ⟨s, hrun, hwaiters, hfirst, hsecond, hthird⟩ :=
    (program ⟨1, 0, .drop⟩ fun _ => 0).exists_run
      [.submit, .whenCapacityAvailable (some 7), .onIdle (some 7), .whenCapacityAvailable none,
        .abort 7, .listener, .listener, .call 0, .fulfil 0, .complete 0] (new ⟨1, 0, .drop⟩)
      (fun s => 0 < s.waiters ∧ (s.waiter 0).resolved = 1 ∧ (s.waiter 1).resolved = 1 ∧
        (s.waiter 2).resolved = 1) (by decide)
  have hreach : (program ⟨1, 0, .drop⟩ fun _ => 0).machine.Reachable s := ⟨_, _, rfl, hrun⟩
  have hkept := no_lost_wakeup ⟨1, 0, .drop⟩ (fun _ => 0) s hreach 0 hwaiters
  exact ⟨s, hreach, hfirst, hsecond, hthird, hkept.2.2.2.2.2⟩

end SchedulerState

end NestWebTransport
