import NestWebTransport.Server.WorkPlacement

/-! The budget counts unsettled work, and each reservation is released exactly once. -/
namespace NestWebTransport

/-- 1 while the work is charged to the budget. -/
def Work.unsettled (a : Work) : Int := if a.phase = .settled then 0 else 1

/-- 1 while the work holds a permit. -/
def Work.permits (a : Work) : Int := if a.phase = .granted ∨ a.phase = .running then 1 else 0

namespace Workload

variable {l l' : Workload} {k w r : Nat} {ts tg : List Nat} {aborted : Bool}
  {overflow : HandlerOverflowPolicy} {budget : HandlerBudget}

/-- Each reservation number is held by one piece of unsettled work or was given back, by one call
of its closure; `reserved` counts the former. -/
structure Reservations (l : Workload) : Prop where
  reserved : l.handlerBudget.reserved = tally l.workCount Work.unsettled l.work
  issued : ∀ w < l.workCount, (l.work w).reservation < l.handlerBudget.issued
  distinct : ∀ v < l.workCount, ∀ w < l.workCount,
    (l.work v).reservation = (l.work w).reservation → v = w
  once : l.handlerBudget.releaseCalls.Nodup
  called : ∀ r ∈ l.handlerBudget.releaseCalls, r < l.handlerBudget.issued
  settled : ∀ w < l.workCount,
    (l.work w).reservation ∈ l.handlerBudget.releaseCalls ↔ (l.work w).phase = .settled
  accounted : ∀ r < l.handlerBudget.issued,
    r ∈ l.handlerBudget.releaseCalls ∨ ∃ w < l.workCount, (l.work w).reservation = r

/-- `running` counts the work that holds a permit; `toGrant` is counted before its continuations
are queued. -/
def Running (toGrant : List Nat) (l : Workload) : Prop :=
  l.handlerBudget.running = tally l.workCount Work.permits l.work + toGrant.length

/-- No permit is idle while someone waits, and the two bounds of the budget hold. -/
structure Bounded (l : Workload) : Prop where
  running_le : l.handlerBudget.running ≤ l.handlerBudget.concurrency
  waiting : l.handlerBudget.waiters ≠ [] →
    (l.handlerBudget.concurrency : Int) ≤ l.handlerBudget.running
  reserved_le : l.handlerBudget.reserved ≤ l.handlerBudget.concurrency + l.handlerBudget.pending

/-! ### Reservations -/

theorem reservations_keeps (hk : Keeps l l') (h : Reservations l) : Reservations l' := by
  have hres : ∀ w, (l'.work w).reservation = (l.work w).reservation := fun w => by
    rw [(hk.work w).1]
  have hset : ∀ w, (l'.work w).phase = .settled ↔ (l.work w).phase = .settled :=
    fun w => (hk.work w).2
  constructor
  · rw [hk.reserved, hk.workCount, h.reserved]
    exact tally_congr fun w _ => by simp [Work.unsettled, hset w]
  · simpa [hk.workCount, hk.issued, hres] using h.issued
  · simpa [hk.workCount, hres] using h.distinct
  · simpa [hk.releaseCalls] using h.once
  · simpa [hk.releaseCalls, hk.issued] using h.called
  · simpa [hk.workCount, hk.releaseCalls, hres, hset] using h.settled
  · simpa [hk.workCount, hk.releaseCalls, hk.issued, hres] using h.accounted

/-- New work takes the number `reserve` has just issued. -/
theorem reservations_allocate {a : Work} (h : Reservations l)
    (hr : l.handlerBudget.reserve = some (a.reservation, budget)) (ha : a.phase ≠ .settled)
    (hcount : l'.workCount = l.workCount + 1)
    (hwork : l'.work = Function.update l.work l.workCount a)
    (hbudget : l'.handlerBudget = budget) : Reservations l' := by
  obtain ⟨-, hfresh, rfl⟩ := (HandlerBudget.reserve_eq_some _).mp hr
  have hold : ∀ w < l.workCount, l'.work w = l.work w := fun w hw => by
    rw [hwork, Function.update_of_ne (Nat.ne_of_lt hw)]
  have hnew : l'.work l.workCount = a := by rw [hwork, Function.update_self]
  have hsplit : ∀ w < l'.workCount, w < l.workCount ∨ w = l.workCount := fun w hw => by omega
  constructor
  · rw [hbudget, hcount, hwork, tally_push, ← h.reserved]
    simp [Work.unsettled, ha]
  · intro w hw
    obtain hw | rfl := hsplit w hw
    · rw [hold w hw, hbudget]
      exact Nat.lt_succ_of_lt (h.issued w hw)
    · rw [hnew, hbudget, hfresh]
      exact Nat.lt_succ_self _
  · intro v hv w hw heq
    obtain hv | rfl := hsplit v hv <;> obtain hw | rfl := hsplit w hw
    · rw [hold v hv, hold w hw] at heq
      exact h.distinct v hv w hw heq
    · rw [hold v hv, hnew, hfresh] at heq
      exact absurd (h.issued v hv) (by omega)
    · rw [hold w hw, hnew, hfresh] at heq
      exact absurd (h.issued w hw) (by omega)
    · rfl
  · rw [hbudget]
    exact h.once
  · rw [hbudget]
    exact fun r hr => Nat.lt_succ_of_lt (h.called r hr)
  · intro w hw
    rw [hbudget]
    obtain hw | rfl := hsplit w hw
    · rw [hold w hw]
      exact h.settled w hw
    · rw [hnew]
      refine ⟨fun hmem => ?_, fun hs => absurd hs ha⟩
      have := h.called _ hmem
      omega
  · intro r hr
    rw [hbudget] at hr ⊢
    obtain hlt | rfl : r < l.handlerBudget.issued ∨ r = l.handlerBudget.issued := by
      simp only at hr
      omega
    · obtain hc | ⟨w, hw, he⟩ := h.accounted r hlt
      · exact Or.inl hc
      · exact Or.inr ⟨w, by omega, by rw [hold w hw, he]⟩
    · exact Or.inr ⟨l.workCount, by omega, by rw [hnew, hfresh]⟩

/-- A reservation given back in the step that took it. -/
theorem reservations_return (h : Reservations l) (hr : l.handlerBudget.reserve = some (r, budget)) :
    Reservations { l with handlerBudget := budget.release r } := by
  obtain ⟨-, rfl, rfl⟩ := (HandlerBudget.reserve_eq_some _).mp hr
  have hfresh : l.handlerBudget.issued ∉ l.handlerBudget.releaseCalls :=
    fun hmem => Nat.lt_irrefl _ (h.called _ hmem)
  constructor
  · simp only [HandlerBudget.release, hfresh, if_false]
    have := h.reserved
    omega
  · exact fun w hw => Nat.lt_succ_of_lt (h.issued w hw)
  · exact h.distinct
  · exact List.nodup_cons.mpr ⟨hfresh, h.once⟩
  · intro r hr
    obtain rfl | hr := List.mem_cons.mp hr
    · exact Nat.lt_succ_self _
    · exact Nat.lt_succ_of_lt (h.called r hr)
  · intro w hw
    have hne : (l.work w).reservation ≠ l.handlerBudget.issued := Nat.ne_of_lt (h.issued w hw)
    simp only [HandlerBudget.release, List.mem_cons, hne, false_or]
    exact h.settled w hw
  · intro r hr
    simp only [HandlerBudget.release, List.mem_cons] at hr ⊢
    obtain hlt | rfl : r < l.handlerBudget.issued ∨ r = l.handlerBudget.issued := by omega
    · obtain hc | hw := h.accounted r hlt
      · exact Or.inl (Or.inr hc)
      · exact Or.inr hw
    · exact Or.inl (Or.inl rfl)

/-- Work that settles gives its reservation back. -/
theorem reservations_settle (h : Reservations l) (hw : w < l.workCount)
    (hu : (l.work w).phase ≠ .settled) : Reservations (l.settle w) := by
  have hfresh : (l.work w).reservation ∉ l.handlerBudget.releaseCalls :=
    fun hmem => hu ((h.settled w hw).mp hmem)
  have hres : ∀ v, ((l.settle w).work v).reservation = (l.work v).reservation := by
    intro v
    by_cases hv : v = w
    · subst hv
      simp [settle]
    · simp [settle, hv]
  constructor
  · have := tally_update (g := Work.unsettled) (f := l.work)
      (v := { l.work w with
        phase := .settled
        released := (l.work w).datagramBytes :: (l.work w).released }) hw
    have := h.reserved
    simp only [settle, HandlerBudget.release, hfresh, if_false]
    simp_all [Work.unsettled]
  · intro v hv
    rw [hres v]
    exact h.issued v hv
  · intro v hv x hx heq
    rw [hres v, hres x] at heq
    exact h.distinct v hv x hx heq
  · exact List.nodup_cons.mpr ⟨hfresh, h.once⟩
  · intro r hr
    obtain rfl | hr := List.mem_cons.mp hr
    · exact h.issued w hw
    · exact h.called r hr
  · intro v hv
    rw [hres v]
    simp only [settle, HandlerBudget.release, List.mem_cons]
    by_cases he : v = w
    · subst he
      simp
    · have hne : (l.work v).reservation ≠ (l.work w).reservation :=
        fun heq => he (h.distinct v hv w hw heq)
      simpa [hne, he] using h.settled v hv
  · intro r hr
    obtain hc | ⟨v, hv, rfl⟩ := h.accounted r hr
    · exact Or.inl (List.mem_cons_of_mem _ hc)
    · exact Or.inr ⟨v, hv, hres v⟩

/-! ### Permits -/

theorem tally_setPhase (g : Work → Int) (phase : WorkPhase) (hw : w < l.workCount) :
    tally l.workCount g (l.setPhase w phase).work =
      tally l.workCount g l.work - g (l.work w) + g { l.work w with phase := phase } :=
  tally_update hw

@[simp] theorem permits_failed (a : Work) (f : Failure) :
    Work.permits { a with phase := a.failed f } = 0 := by
  unfold Work.permits Work.failed
  split <;> simp

/-- Between two phases neither of which holds a permit. -/
theorem running_setPhase {phase : WorkPhase} (h : Running tg l) (hw : w < l.workCount)
    (hold : (l.work w).permits = 0)
    (hnew : Work.permits { l.work w with phase := phase } = 0) :
    Running tg (l.setPhase w phase) := by
  have hp := tally_setPhase Work.permits phase hw
  unfold Running at h ⊢
  change l.handlerBudget.running = _ at h
  change l.handlerBudget.running =
    tally l.workCount Work.permits (l.setPhase w phase).work + tg.length
  omega

theorem running_grantAll (hpl : Placement ts tg l) (h : Running tg l) :
    Running [] (l.grantAll tg) := by
  induction tg generalizing l with
  | nil => exact h
  | cons w tg ih =>
    obtain ⟨hw, hp⟩ := hpl.waiting.head
    have hgrant := tally_setPhase Work.permits .granted hw
    have hold : (l.work w).permits = 0 := by simp [Work.permits, hp]
    have hnew : Work.permits { l.work w with phase := .granted } = 1 := by simp [Work.permits]
    apply ih (placement_grant hpl)
    unfold Running at h ⊢
    rw [List.length_cons] at h
    change l.handlerBudget.running =
      tally l.workCount Work.permits (l.setPhase w .granted).work + tg.length
    omega

theorem running_wake (hpl : Placement ts [] l) (h : Running [] l) : Running [] l.wake := by
  obtain ⟨n, hn, hgranted, hbudget, -, -⟩ := l.handlerBudget.wake_spec
  unfold wake
  simp only [hgranted, hbudget]
  have hwoken : Placement ts (l.handlerBudget.waiters.take n) { l with
      handlerBudget := { l.handlerBudget with
        waiters := l.handlerBudget.waiters.drop n
        running := l.handlerBudget.running + n } } :=
    { hpl with waiting := by simpa using hpl.waiting }
  apply running_grantAll hwoken
  unfold Running at h ⊢
  simp only [List.length_take, List.length_nil, Nat.min_eq_left hn] at h ⊢
  omega

theorem running_acquire (h : Running [] l) (hw : w < l.workCount)
    (hp : (l.work w).phase = .starting) : Running [] (l.acquire w aborted) := by
  have hold : (l.work w).permits = 0 := by simp [Work.permits, hp]
  unfold acquire HandlerBudget.acquire
  split_ifs with ha hfree
  · exact running_setPhase (l := l) h hw hold (permits_failed _ _)
  · have hgrant := tally_setPhase Work.permits .granted hw
    have hnew : Work.permits { l.work w with phase := .granted } = 1 := by simp [Work.permits]
    unfold Running at h ⊢
    change l.handlerBudget.running + 1 =
      tally l.workCount Work.permits (l.setPhase w .granted).work + ([] : List Nat).length
    omega
  · have hwait : Running [] (l.setPhase w .waiting) :=
      running_setPhase h hw hold (by simp [Work.permits])
    exact hwait

/-- Work that held a permit gives it back. -/
theorem running_finishRun {phase : WorkPhase} (hpl : Placement ts [] (l.setPhase w phase))
    (h : Running [] l) (hw : w < l.workCount) (hold : (l.work w).permits = 1)
    (hnew : Work.permits { l.work w with phase := phase } = 0) :
    Running [] (l.finishRun w phase) := by
  have hp := tally_setPhase Work.permits phase hw
  have hleft : Placement ts [] { l.setPhase w phase with handlerBudget := l.handlerBudget.leave } :=
    { hpl with }
  apply running_wake hleft
  unfold Running at h ⊢
  change l.handlerBudget.running - 1 =
    tally l.workCount Work.permits (l.setPhase w phase).work + ([] : List Nat).length
  omega

theorem running_settle (h : Running tg l) (hw : w < l.workCount) (hold : (l.work w).permits = 0) :
    Running tg (l.settle w) := by
  have hp := tally_update (g := Work.permits) (f := l.work)
    (v := { l.work w with
      phase := .settled
      released := (l.work w).datagramBytes :: (l.work w).released }) hw
  unfold Running at h ⊢
  simp only [settle, HandlerBudget.release, hp, hold, h]
  simp [Work.permits]

theorem running_promote (hpl : Placement [] [] l) (h : Running [] l) :
    Running [] (l.promote k) := by
  obtain ⟨hnil, heq⟩ | ⟨w, rest, hhead, heq⟩ := l.promote_cases k
  · rw [heq]
    exact h
  · rw [heq]
    obtain ⟨hw, hheld⟩ := (hpl.pending k).mem (w := w) (by simp [hhead])
    have hstart : Running [] (l.setPhase w .starting) :=
      running_setPhase h hw (by simp [Work.permits, hheld.1]) (by simp [Work.permits])
    exact hstart

theorem running_allocate {a : Work} (h : Running [] l) (ha : a.permits = 0)
    (hcount : l'.workCount = l.workCount + 1)
    (hwork : l'.work = Function.update l.work l.workCount a)
    (hbudget : l'.handlerBudget.running = l.handlerBudget.running) : Running [] l' := by
  unfold Running at h ⊢
  rw [hbudget, hcount, hwork, tally_push, ha, h]
  simp

/-! ### Bounds -/

theorem grantAll_handlerBudget : (l.grantAll tg).handlerBudget = l.handlerBudget := by
  induction tg generalizing l with
  | nil => rfl
  | cons w tg ih => exact ih

/-- `wake` runs no more than the budget has permits. -/
theorem bounded_wake (hr : l.handlerBudget.running ≤ l.handlerBudget.concurrency)
    (hb : l.handlerBudget.reserved ≤ l.handlerBudget.concurrency + l.handlerBudget.pending) :
    Bounded l.wake := by
  obtain ⟨n, hn, hgranted, hbudget, hle, hstop⟩ := l.handlerBudget.wake_spec
  have hwake : l.wake.handlerBudget = { l.handlerBudget with
      waiters := l.handlerBudget.waiters.drop n
      running := l.handlerBudget.running + n } := by
    unfold wake
    rw [grantAll_handlerBudget, hbudget]
  constructor
  · rw [hwake]
    obtain rfl | hle := hle
    · simpa using hr
    · exact hle
  · rw [hwake]
    exact hstop
  · rw [hwake]
    exact hb

/-- A permit is taken only where one is idle. -/
theorem bounded_acquire (h : Bounded l) : Bounded (l.acquire w aborted) := by
  unfold acquire HandlerBudget.acquire
  split_ifs with ha hfree
  · exact { h with }
  · exact {
      running_le := by
        have := hfree.1
        simp only [grant, setPhase]
        omega
      waiting := fun hne => absurd hfree.2 hne
      reserved_le := h.reserved_le }
  · refine { h with waiting := fun _ => ?_ }
    by_cases hempty : l.handlerBudget.waiters = []
    · have := mt (fun hlt => (⟨hlt, hempty⟩ : _ ∧ _)) hfree
      simp only [setPhase]
      omega
    · exact h.waiting hempty

theorem bounded_finishRun {phase : WorkPhase} (h : Bounded l) : Bounded (l.finishRun w phase) := by
  have := h.running_le
  apply bounded_wake
  · simp only [HandlerBudget.leave]
    omega
  · exact h.reserved_le

theorem bounded_abortWaiter (h : Bounded l) : Bounded (l.abortWaiter w) := by
  unfold abortWaiter
  split_ifs
  · exact bounded_wake h.running_le h.reserved_le
  · exact h

theorem bounded_release (h : Bounded l) (hbudget : l'.handlerBudget = l.handlerBudget.release r) :
    Bounded l' := by
  refine ⟨?_, ?_, ?_⟩ <;> rw [hbudget]
  · exact h.running_le
  · exact h.waiting
  · have := h.reserved_le
    simp only [HandlerBudget.release]
    split_ifs <;> omega

theorem bounded_reserve (h : Bounded l) (hr : l.handlerBudget.reserve = some (r, budget))
    (hbudget : l'.handlerBudget = budget) : Bounded l' := by
  obtain ⟨hlt, -, rfl⟩ := (HandlerBudget.reserve_eq_some _).mp hr
  refine ⟨?_, ?_, ?_⟩ <;> rw [hbudget]
  · exact h.running_le
  · exact h.waiting
  · simp only
    omega

/-! ### Schedulers -/

/-- 1 while the work is one of the started tasks of session `k`. -/
def activeIn (k : Nat) (a : Work) : Int :=
  if a.owner = k ∧ a.kind ≠ .admission ∧ a.phase ≠ .pending ∧ a.phase ≠ .settled then 1 else 0

/-- Each scheduler counts its started tasks, within its bounds, and holds a task back only while
it is fully occupied. -/
structure Scheduled (l : Workload) : Prop where
  active : ∀ k, (l.scheduler k).activeCount = tally l.workCount (activeIn k) l.work
  active_le : ∀ k, (l.scheduler k).activeCount ≤ (l.scheduler k).maxConcurrent
  pending_le : ∀ k, (l.scheduler k).pending.length ≤ (l.scheduler k).maxPending
  busy : ∀ k, (l.scheduler k).pending ≠ [] →
    ((l.scheduler k).maxConcurrent : Int) ≤ (l.scheduler k).activeCount

theorem scheduled_moves (hm : Moves l l') (h : Scheduled l) : Scheduled l' := by
  have hsame : ∀ k, tally l'.workCount (activeIn k) l'.work =
      tally l.workCount (activeIn k) l.work := by
    intro k
    rw [hm.workCount]
    refine tally_congr fun w _ => ?_
    have hkept := hm.work w
    have hheld := hm.held w
    have howner : (l'.work w).owner = (l.work w).owner := by rw [hkept.1]
    have hkind : (l'.work w).kind = (l.work w).kind := by rw [hkept.1]
    simp [activeIn, howner, hkind, hheld, hkept.2]
  exact ⟨fun k => by rw [hsame, hm.scheduler]; exact h.active k, hm.scheduler ▸ h.active_le,
    hm.scheduler ▸ h.pending_le, hm.scheduler ▸ h.busy⟩

/-- One scheduler changes; the others and their tasks do not. -/
theorem Scheduled.of_update {scheduler : BoundedTaskScheduler Nat Waiter} (h : Scheduled l)
    (hsch : l'.scheduler = Function.update l.scheduler k scheduler)
    (hother : ∀ j, j ≠ k → tally l'.workCount (activeIn j) l'.work =
      tally l.workCount (activeIn j) l.work)
    (hactive : scheduler.activeCount = tally l'.workCount (activeIn k) l'.work)
    (hle : scheduler.activeCount ≤ scheduler.maxConcurrent)
    (hpend : scheduler.pending.length ≤ scheduler.maxPending)
    (hbusy : scheduler.pending ≠ [] → (scheduler.maxConcurrent : Int) ≤ scheduler.activeCount) :
    Scheduled l' := by
  have hself : l'.scheduler k = scheduler := by rw [hsch, Function.update_self]
  have hne : ∀ j, j ≠ k → l'.scheduler j = l.scheduler j := fun j hj => by
    rw [hsch, Function.update_of_ne hj]
  constructor <;> intro j <;> by_cases hj : j = k
  · subst hj
    rw [hself]
    exact hactive
  · rw [hne j hj, hother j hj]
    exact h.active j
  · subst hj
    rw [hself]
    exact hle
  · rw [hne j hj]
    exact h.active_le j
  · subst hj
    rw [hself]
    exact hpend
  · rw [hne j hj]
    exact h.pending_le j
  · subst hj
    rw [hself]
    exact hbusy
  · rw [hne j hj]
    exact h.busy j

/-- A task that starts is one more active. -/
theorem scheduled_started {kind : WorkKind} {bytes : Nat} (h : Scheduled l)
    (hkind : kind ≠ .admission)
    (hlt : (l.scheduler k).activeCount < (l.scheduler k).maxConcurrent) :
    Scheduled (l.started k r budget kind bytes) := by
  have hpush : ∀ j, tally (l.workCount + 1) (activeIn j) (l.started k r budget kind bytes).work =
      tally l.workCount (activeIn j) l.work + if k = j then 1 else 0 := by
    intro j
    simp only [started, setScheduler, allocate, tally_push]
    simp [activeIn, hkind]
  refine h.of_update rfl (fun j hj => ?_) ?_ ?_ ?_ ?_
  · exact (hpush j).trans (by simp [Ne.symm hj])
  · rw [show (l.started k r budget kind bytes).workCount = l.workCount + 1 from rfl, hpush k]
    simp [h.active k]
  · simp only
    omega
  · exact h.pending_le k
  · intro hne
    have := h.busy k hne
    omega

/-- A task that waits is one more pending. -/
theorem scheduled_queued {kind : WorkKind} {bytes : Nat} (h : Scheduled l)
    (hlt : ¬ (l.scheduler k).activeCount < (l.scheduler k).maxConcurrent)
    (hroom : (l.scheduler k).pending.length < (l.scheduler k).maxPending) :
    Scheduled (l.queued k r budget kind bytes) := by
  have hpush : ∀ j, tally (l.workCount + 1) (activeIn j) (l.queued k r budget kind bytes).work =
      tally l.workCount (activeIn j) l.work := by
    intro j
    simp only [queued, setScheduler, allocate, tally_push]
    simp [activeIn]
  refine h.of_update rfl (fun j _ => hpush j) ?_ (h.active_le k) ?_ ?_
  · rw [show (l.queued k r budget kind bytes).workCount = l.workCount + 1 from rfl, hpush k]
    exact h.active k
  · simp only [List.length_append, List.length_cons, List.length_nil]
    omega
  · intro _
    simp only
    omega

theorem scheduled_settle (h : Scheduled l) (hw : w < l.workCount)
    (hidle : ∀ j, activeIn j (l.work w) = 0) : Scheduled (l.settle w) := by
  refine { h with active := fun j => ?_ }
  have hsettled : tally l.workCount (activeIn j) (l.settle w).work =
      tally l.workCount (activeIn j) l.work - activeIn j (l.work w) + 0 := by
    simp only [settle, tally_update hw]
    simp [activeIn]
  change (l.scheduler j).activeCount = tally l.workCount (activeIn j) (l.settle w).work
  rw [hsettled, hidle j, h.active j]
  omega

theorem scheduled_discard {rest : List Nat} (hpl : Placement [] [] l) (h : Scheduled l)
    (hhead : (l.scheduler k).pending = w :: rest) :
    Scheduled ((l.setScheduler k { l.scheduler k with pending := rest }).settle w) := by
  obtain ⟨hw, hheld⟩ := (hpl.pending k).mem (w := w) (by simp [hhead])
  have hcut : Scheduled (l.setScheduler k { l.scheduler k with pending := rest }) := by
    refine h.of_update rfl (fun j _ => rfl) (h.active k) (h.active_le k) ?_ ?_
    · have := h.pending_le k
      rw [hhead, List.length_cons] at this
      simp only
      omega
    · intro _
      exact h.busy k (by simp [hhead])
  exact scheduled_settle hcut hw fun j => by simp [activeIn, setScheduler, hheld.1]

/-- A scheduler that has lost one started task makes up for it. -/
theorem scheduled_promote (hpl : Placement [] [] l)
    (hactive : ∀ j, (l.scheduler j).activeCount = tally l.workCount (activeIn j) l.work)
    (hle : ∀ j, (l.scheduler j).activeCount ≤ (l.scheduler j).maxConcurrent)
    (hroom : (l.scheduler k).activeCount + 1 ≤ (l.scheduler k).maxConcurrent)
    (hpend : ∀ j, (l.scheduler j).pending.length ≤ (l.scheduler j).maxPending)
    (hbusy : ∀ j, j ≠ k → (l.scheduler j).pending ≠ [] →
      ((l.scheduler j).maxConcurrent : Int) ≤ (l.scheduler j).activeCount)
    (hbusyk : (l.scheduler k).pending ≠ [] →
      ((l.scheduler k).maxConcurrent : Int) ≤ (l.scheduler k).activeCount + 1) :
    Scheduled (l.promote k) := by
  obtain ⟨hnil, heq⟩ | ⟨v, rest, hhead, heq⟩ := l.promote_cases k
  · rw [heq]
    constructor <;> intro j <;> by_cases hj : j = k
    · subst hj
      simpa [setScheduler] using hactive j
    · simpa [setScheduler, hj] using hactive j
    · subst hj
      simpa [setScheduler] using hle j
    · simpa [setScheduler, hj] using hle j
    · subst hj
      simpa [setScheduler] using hpend j
    · simpa [setScheduler, hj] using hpend j
    · subst hj
      simp [setScheduler, hnil]
    · simpa [setScheduler, hj] using hbusy j hj
  · rw [heq]
    obtain ⟨hv, hheld⟩ := (hpl.pending k).mem (w := v) (by simp [hhead])
    have hnext : ∀ j, tally l.workCount (activeIn j) (l.promoted k v rest).work =
        tally l.workCount (activeIn j) l.work + if k = j then 1 else 0 := by
      intro j
      simp only [promoted, setScheduler, setPhase, tally_update hv]
      simp [activeIn, hheld.1, hheld.2.1, hheld.2.2]
    have hother : ∀ j, j ≠ k → (l.promoted k v rest).scheduler j = l.scheduler j :=
      fun j hj => Function.update_of_ne hj ..
    constructor <;> intro j <;> by_cases hj : j = k
    · subst hj
      change _ = tally l.workCount (activeIn j) (l.promoted j v rest).work
      rw [hnext j, ← hactive j]
      simp [promoted, setScheduler, setPhase]
    · change _ = tally l.workCount (activeIn j) (l.promoted k v rest).work
      rw [hnext j, hother j hj, hactive j]
      simp [Ne.symm hj]
    · subst hj
      simpa [promoted, setScheduler, setPhase] using hroom
    · rw [hother j hj]
      exact hle j
    · subst hj
      have := hpend j
      rw [hhead, List.length_cons] at this
      simp only [promoted, setScheduler, setPhase, Function.update_self,
        BoundedTaskScheduler.flushWaiters_pending, BoundedTaskScheduler.flushWaiters_maxPending]
      omega
    · rw [hother j hj]
      exact hpend j
    · subst hj
      intro _
      simpa [promoted, setScheduler, setPhase] using hbusyk (by simp [hhead])
    · rw [hother j hj]
      exact hbusy j hj

/-- A task that settles makes room for the first that waits. -/
theorem scheduled_settleTask (hpl : Placement [] [] l) (h : Scheduled l) (hw : w < l.workCount)
    (hp : (l.work w).phase = .finishing) (hkind : (l.work w).kind ≠ .admission) :
    Scheduled (l.settleTask w) := by
  unfold settleTask
  generalize hk : (l.work w).owner = k
  have hleft : Placement [] [] (l.setScheduler k (l.scheduler k).leave) :=
    placement_setScheduler hpl rfl
  have hsettled := placement_settle (w := w) hleft (by simp [setScheduler, Unlisted, hp])
  have htally : ∀ j, tally l.workCount (activeIn j)
      ((l.setScheduler k (l.scheduler k).leave).settle w).work =
      tally l.workCount (activeIn j) l.work - if k = j then 1 else 0 := by
    intro j
    simp only [settle, setScheduler, tally_update hw]
    simp [activeIn, hp, hkind, hk]
  have hself : ((l.setScheduler k (l.scheduler k).leave).settle w).scheduler k =
      (l.scheduler k).leave := Function.update_self ..
  have hother : ∀ j, j ≠ k → ((l.setScheduler k (l.scheduler k).leave).settle w).scheduler j =
      l.scheduler j := fun j hj => Function.update_of_ne hj ..
  have hle := h.active_le k
  apply scheduled_promote hsettled
  · intro j
    change _ = tally l.workCount (activeIn j)
      ((l.setScheduler k (l.scheduler k).leave).settle w).work
    rw [htally j, ← h.active j]
    by_cases hj : j = k
    · subst hj
      simp [hself]
    · simp [hother j hj, Ne.symm hj]
  · intro j
    by_cases hj : j = k
    · subst hj
      rw [hself, BoundedTaskScheduler.leave_activeCount, BoundedTaskScheduler.leave_maxConcurrent]
      omega
    · rw [hother j hj]
      exact h.active_le j
  · rw [hself, BoundedTaskScheduler.leave_activeCount, BoundedTaskScheduler.leave_maxConcurrent]
    omega
  · intro j
    by_cases hj : j = k
    · subst hj
      rw [hself]
      exact h.pending_le j
    · rw [hother j hj]
      exact h.pending_le j
  · intro j hj
    rw [hother j hj]
    exact h.busy j
  · intro hne
    rw [hself] at hne ⊢
    have := h.busy k hne
    rw [BoundedTaskScheduler.leave_activeCount, BoundedTaskScheduler.leave_maxConcurrent]
    omega

/-! ### Runs -/

/-- What holds of a workload between two steps. -/
structure Accounted (l : Workload) : Prop where
  placement : Placement [] [] l
  reservations : Reservations l
  running : Running [] l
  bounded : Bounded l
  scheduled : Scheduled l

theorem accounted_moves (hm : Moves l l') (hpl : Placement [] [] l') (hr : Running [] l')
    (hb : Bounded l') (h : Accounted l) : Accounted l' :=
  ⟨hpl, reservations_keeps hm.toKeeps h.reservations, hr, hb, scheduled_moves hm h.scheduled⟩

/-- A submission reserves before it is scheduled. -/
theorem accounted_submit {bytes : Nat} {kind : WorkKind} (hk : k < l.managedCount)
    (hkind : kind ≠ .admission) (h : Accounted l) :
    Accounted (l.submit k overflow kind bytes).2 := by
  have hpl : Placement [] [] (l.submit k overflow kind bytes).2 :=
    placement_submit h.placement hk hkind
  obtain ⟨-, heq⟩ | ⟨r, budget, hr, hcase⟩ := l.submit_cases k overflow kind bytes
  · rw [heq]
    exact h
  · have hrunning : budget.running = l.handlerBudget.running := by
      obtain ⟨-, -, rfl⟩ := (HandlerBudget.reserve_eq_some _).mp hr
      rfl
    obtain ⟨heq, -, hlt⟩ | ⟨heq, -, hlt, hroom⟩ | ⟨refusal, -, -, heq⟩ := hcase <;>
      rw [heq] at hpl ⊢
    · exact ⟨hpl, reservations_allocate h.reservations hr (by simp) rfl rfl rfl,
        running_allocate h.running (by simp [Work.permits]) rfl rfl hrunning,
        bounded_reserve h.bounded hr rfl, scheduled_started h.scheduled hkind hlt⟩
    · exact ⟨hpl, reservations_allocate h.reservations hr (by simp) rfl rfl rfl,
        running_allocate h.running (by simp [Work.permits]) rfl rfl hrunning,
        bounded_reserve h.bounded hr rfl, scheduled_queued h.scheduled hlt hroom⟩
    · exact ⟨hpl, reservations_return h.reservations hr, hrunning.trans h.running,
        bounded_release (l := { l with handlerBudget := budget }) (bounded_reserve h.bounded hr rfl)
          rfl, { h.scheduled with }⟩

theorem accounted_acquire (hm : Moves l (l.acquire w aborted)) (hpl : Placement [w] [] l)
    (hres : Reservations l) (hr : Running [] l) (hb : Bounded l) (hs : Scheduled l) :
    Accounted (l.acquire w aborted) := by
  obtain ⟨hw, hp⟩ := hpl.starting.head
  exact ⟨placement_acquire hpl, reservations_keeps hm.toKeeps hres, running_acquire hr hw hp,
    bounded_acquire hb, scheduled_moves hm hs⟩

/-- An admission runs on the reservation that was made for it. -/
theorem accounted_runAdmission (hk : k < l.managedCount)
    (hr : l.handlerBudget.reserve = some (r, budget)) (h : Accounted l) :
    Accounted ({ l with handlerBudget := budget }.runAdmission k r aborted) := by
  have hrunning : budget.running = l.handlerBudget.running := by
    obtain ⟨-, -, rfl⟩ := (HandlerBudget.reserve_eq_some _).mp hr
    rfl
  let m := { l with handlerBudget := budget }.allocate k r .admission .starting 0
  have hpl : Placement [l.workCount] [] m := by
    obtain ⟨-, -, rfl⟩ := (HandlerBudget.reserve_eq_some _).mp hr
    exact {
      waiting := h.placement.waiting.skip (by simp)
      granted := h.placement.granted.skip (by simp)
      starting := (h.placement.starting.push rfl).perm (List.perm_append_singleton _ _)
      pending := fun j => (h.placement.pending j).skip (by simp [Held])
      owned := h.placement.owned.push hk }
  have hsch : Scheduled m := by
    refine { h.scheduled with active := fun j => ?_ }
    change (l.scheduler j).activeCount = tally (l.workCount + 1) (activeIn j) m.work
    simp only [m, allocate, tally_push]
    simpa [activeIn] using h.scheduled.active j
  exact accounted_acquire (moves_acquire hpl.starting.head.2) hpl
    (reservations_allocate h.reservations hr (by simp) rfl rfl rfl)
    (running_allocate h.running (by simp [Work.permits]) rfl rfl hrunning)
    (bounded_reserve h.bounded hr rfl) hsch

theorem accounted_callTask (h : Accounted l) : Accounted (l.callTask aborted) := by
  unfold callTask
  cases hs : l.starts with
  | nil => exact h
  | cons w rest =>
    have hp := (h.placement.starting.mem (w := w) (by simp [hs])).2
    have hpl : Placement [w] [] { l with starts := rest } :=
      { h.placement with starting := by simpa [hs] using h.placement.starting }
    exact accounted_acquire (moves_acquire hp) hpl { h.reservations with } h.running
      { h.bounded with } { h.scheduled with }

/-- Work in user code, or resumed after its session ended, gives its permit back. -/
theorem accounted_finishRun {phase : WorkPhase} (hpl : Placement [] [] (l.setPhase w phase))
    (hw : w < l.workCount) (hold : (l.work w).phase = .granted ∨ (l.work w).phase = .running)
    (hnew : phase = .finishing ∨ ∃ f, phase = (l.work w).failed f) (hres : Reservations l)
    (hr : Running [] l) (hb : Bounded l) (hs : Scheduled l) : Accounted (l.finishRun w phase) := by
  have hmoving : Moving (l.work w).phase := by
    obtain hp | hp := hold <;> simp [Moving, hp]
  have hmoving' : Moving phase ∧ Work.permits { l.work w with phase := phase } = 0 := by
    obtain rfl | ⟨f, rfl⟩ := hnew
    · simp [Moving, Work.permits]
    · exact ⟨failed_moving _ f, permits_failed _ f⟩
  have hm := moves_finishRun hpl hmoving hmoving'.1
  exact ⟨placement_finishRun hpl, reservations_keeps hm.toKeeps hres,
    running_finishRun hpl hr hw (by simp [Work.permits, hold]) hmoving'.2,
    bounded_finishRun hb, scheduled_moves hm hs⟩

/-- A task that is resumed has its permit, or gives it on where it was aborted. -/
theorem accounted_resumeTask (h : Accounted l) : Accounted (l.resumeTask aborted) := by
  have hpl : Placement [] [] (l.resumeTask aborted) := placement_resumeTask h.placement
  have hm : Moves l (l.resumeTask aborted) := moves_resumeTask h.placement
  unfold resumeTask at hpl hm ⊢
  cases hr : l.resumes with
  | nil => exact h
  | cons w rest =>
    obtain ⟨hw, hp⟩ := h.placement.granted.mem (w := w) (by simp [hr])
    cases aborted with
    | true =>
      exact accounted_finishRun (placement_resumed h.placement hr (failed_unlisted _ _)) hw
        (Or.inl hp) (Or.inr ⟨_, rfl⟩) { h.reservations with } h.running { h.bounded with }
        { h.scheduled with }
    | false =>
      simp only [hr] at hpl hm
      refine accounted_moves hm hpl ?_ { h.bounded with } h
      have hkeep := tally_setPhase Work.permits .running hw
      have hrunning := h.running
      unfold Running at hrunning ⊢
      change l.handlerBudget.running =
        tally l.workCount Work.permits (l.setPhase w .running).work + _
      simp only [Work.permits, hp] at hkeep
      simp_all

theorem accounted_abortWaiter (h : Accounted l) : Accounted (l.abortWaiter w) := by
  refine accounted_moves (moves_abortWaiter h.placement) (placement_abortWaiter h.placement) ?_
    (bounded_abortWaiter h.bounded) h
  unfold abortWaiter
  split_ifs with hmem
  · obtain ⟨hw, hp⟩ := h.placement.waiting.mem hmem
    apply running_wake (placement_forget h.placement hmem)
    exact running_setPhase h.running hw (by simp [Work.permits, hp]) (permits_failed _ _)
  · exact h.running

theorem accounted_settle (h : Accounted l) (hw : w < l.workCount)
    (hp : (l.work w).phase = .finishing) (hkind : (l.work w).kind = .admission) :
    Accounted (l.settle w) :=
  ⟨placement_settle h.placement (by simp [Unlisted, hp]),
    reservations_settle h.reservations hw (by simp [hp]),
    running_settle h.running hw (by simp [Work.permits, hp]), bounded_release h.bounded rfl,
    scheduled_settle h.scheduled hw (by simp [activeIn, hkind])⟩

/-- A task that settles gives back its reservation and promotes the next one. -/
theorem accounted_settleTask (h : Accounted l) (hw : w < l.workCount)
    (hp : (l.work w).phase = .finishing) (hkind : (l.work w).kind ≠ .admission) :
    Accounted (l.settleTask w) := by
  have hleft : Placement [] []
      (l.setScheduler (l.work w).owner (l.scheduler (l.work w).owner).leave) :=
    placement_setScheduler h.placement rfl
  have hsettled := placement_settle (w := w) hleft (by simp [setScheduler, Unlisted, hp])
  have hres : Reservations ((l.setScheduler (l.work w).owner
      (l.scheduler (l.work w).owner).leave).settle w) :=
    reservations_settle (l := l.setScheduler _ _) { h.reservations with } hw
      (by simp [setScheduler, hp])
  have hrunning : Running [] ((l.setScheduler (l.work w).owner
      (l.scheduler (l.work w).owner).leave).settle w) :=
    running_settle (l := l.setScheduler _ _) h.running hw (by simp [setScheduler, Work.permits, hp])
  have hpromoted := keeps_promote (k := (l.work w).owner) hsettled
  refine ⟨placement_settleTask h.placement hp, reservations_keeps hpromoted hres,
    running_promote hsettled hrunning, ?_, scheduled_settleTask h.placement h.scheduled hw hp hkind⟩
  refine bounded_release (r := (l.work w).reservation) h.bounded ?_
  unfold settleTask
  obtain ⟨-, heq⟩ | ⟨v, rest, -, heq⟩ := ((l.setScheduler (l.work w).owner
    (l.scheduler (l.work w).owner).leave).settle w).promote_cases (l.work w).owner <;>
    simp only [heq] <;> rfl

/-- The length an array reads is not looked at before its task settles. -/
theorem accounted_detach (h : Accounted l) : Accounted (l.detach w) := by
  have hwork : ∀ v, ∃ bytes, (l.detach w).work v = { l.work v with byteLength := bytes } := by
    intro v
    by_cases hv : v = w
    · subst hv
      exact ⟨0, by simp [detach]⟩
    · exact ⟨(l.work v).byteLength, by simp [detach, hv]⟩
  have htally : ∀ g : Work → Int, (∀ a bytes, g { a with byteLength := bytes } = g a) →
      tally l.workCount g (l.detach w).work = tally l.workCount g l.work := by
    intro g hg
    refine tally_congr fun v _ => ?_
    obtain ⟨bytes, hv⟩ := hwork v
    rw [hv, hg]
  have hfields : ∀ v, ((l.detach w).work v).reservation = (l.work v).reservation ∧
      ((l.detach w).work v).phase = (l.work v).phase := by
    intro v
    obtain ⟨bytes, hv⟩ := hwork v
    simp [hv]
  exact {
    placement := placement_detach h.placement
    reservations := {
      reserved := h.reservations.reserved.trans (htally _ fun _ _ => rfl).symm
      issued := by simpa [hfields] using! h.reservations.issued
      distinct := by simpa [hfields] using! h.reservations.distinct
      once := h.reservations.once
      called := h.reservations.called
      settled := by simpa [hfields] using! h.reservations.settled
      accounted := by simpa [hfields] using! h.reservations.accounted }
    running := h.running.trans (by rw [← htally Work.permits fun _ _ => rfl]; rfl)
    bounded := { h.bounded with }
    scheduled := { h.scheduled with
      active := fun k => (h.scheduled.active k).trans (htally _ fun _ _ => rfl).symm } }

/-- One case for each thing a workload does by itself. -/
theorem accounted_internal (hs : Internal l l') (h : Accounted l) : Accounted l' := by
  have hpl := placement_internal hs h.placement
  cases hs with
  | @returnReservation r budget hr =>
    have hrunning := h.running
    have hres := reservations_return h.reservations hr
    have hbound : Bounded { l with handlerBudget := budget } := bounded_reserve h.bounded hr rfl
    obtain ⟨-, -, rfl⟩ := (HandlerBudget.reserve_eq_some _).mp hr
    exact ⟨hpl, hres, hrunning, bounded_release hbound rfl, { h.scheduled with }⟩
  | runAdmission hk hr => exact accounted_runAdmission hk hr h
  | callTask => exact accounted_callTask h
  | resumeTask => exact accounted_resumeTask h
  | @finishRun w phase hw hp hnew =>
    have hunlisted : Placement [] [] (l.setPhase w phase) := by
      apply placement_unlist h.placement (by simp [Unlisted, hp])
      obtain rfl | ⟨f, rfl⟩ := hnew
      · simp [Unlisted]
      · exact failed_unlisted _ f
    exact accounted_finishRun hunlisted hw (Or.inr hp) hnew h.reservations h.running h.bounded
      h.scheduled
  | observe hw hp =>
    exact accounted_moves (moves_setPhase (by simp [Moving, hp]) (by simp [Moving])) hpl
      (running_setPhase h.running hw (by simp [Work.permits, hp]) (by simp [Work.permits]))
      { h.bounded with } h
  | settleAdmission hw hp hkind => exact accounted_settle h hw hp hkind
  | abortWaiter => exact accounted_abortWaiter h
  | @reconfigure k _ hpending hactive hconcurrent hbound =>
    refine ⟨hpl, { h.reservations with }, h.running, { h.bounded with }, ?_⟩
    refine h.scheduled.of_update rfl (fun _ _ => rfl) ?_ ?_ ?_ ?_
    · rw [hactive]
      exact h.scheduled.active k
    · rw [hactive, hconcurrent]
      exact h.scheduled.active_le k
    · rw [hpending, hbound]
      exact h.scheduled.pending_le k
    · rw [hpending, hactive, hconcurrent]
      exact h.scheduled.busy k

/-- Each operation keeps the reservations, the permits and the schedulers in agreement with the
phases of the work. -/
theorem accounted_step (hs : Step overflow l l') (h : Accounted l) : Accounted l' := by
  have hpl := placement_step hs h.placement
  cases hs with
  | internal hs => exact accounted_internal hs h
  | openSession =>
    refine ⟨hpl, { h.reservations with }, h.running, { h.bounded with }, ?_⟩
    -- No work belongs to a session that is only now being opened.
    refine h.scheduled.of_update rfl (fun _ _ => rfl) ?_ ?_ (Nat.zero_le _)
      (fun hne => absurd rfl hne)
    · refine ((tally_eq_zero_iff fun v _ => ?_).mpr fun v hv => ?_).symm
      · unfold activeIn
        split <;> simp
      · have := h.placement.owned v hv
        exact if_neg fun hc => Nat.ne_of_lt this hc.1
    · exact Int.natCast_nonneg _
  | submit hk hkind => exact accounted_submit hk hkind h
  | settleTask hw hp hkind => exact accounted_settleTask h hw hp hkind
  | @discard k w rest hhead =>
    obtain ⟨hw, hheld⟩ := (h.placement.pending k).mem (w := w) (by simp [hhead])
    have hp : (l.work w).phase = .pending := hheld.1
    exact ⟨hpl, reservations_settle (l := l.setScheduler _ _) { h.reservations with } hw
        (by simp [setScheduler, hp]),
      running_settle (l := l.setScheduler _ _) h.running hw
        (by simp [setScheduler, Work.permits, hp]),
      bounded_release h.bounded rfl, scheduled_discard h.placement h.scheduled hhead⟩
  | detach => exact accounted_detach h

end Workload

end NestWebTransport
