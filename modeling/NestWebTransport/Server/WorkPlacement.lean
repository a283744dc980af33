import NestWebTransport.Server.Workload

/-! Every piece of work is in exactly the list its phase names. -/
namespace NestWebTransport

namespace Workload

variable {l : Workload} {k w r : Nat} {ts tg : List Nat} {aborted : Bool}

/-- The steps in which no task is submitted, settled or given other contents. -/
inductive Internal : Workload → Workload → Prop
  | returnReservation {l : Workload} {r : Nat} {budget : HandlerBudget}
      (hr : l.handlerBudget.reserve = some (r, budget)) :
      Internal l { l with handlerBudget := budget.release r }
  | runAdmission {l : Workload} {k r : Nat} {budget : HandlerBudget} {aborted : Bool}
      (hk : k < l.managedCount) (hr : l.handlerBudget.reserve = some (r, budget)) :
      Internal l ({ l with handlerBudget := budget }.runAdmission k r aborted)
  | callTask {l : Workload} {aborted : Bool} : Internal l (l.callTask aborted)
  | resumeTask {l : Workload} {aborted : Bool} : Internal l (l.resumeTask aborted)
  | finishRun {l : Workload} {w : Nat} {phase : WorkPhase} (hw : w < l.workCount)
      (hp : (l.work w).phase = .running)
      (hnew : phase = .finishing ∨ ∃ f, phase = (l.work w).failed f) :
      Internal l (l.finishRun w phase)
  | observe {l : Workload} {w : Nat} {f : Failure} (hw : w < l.workCount)
      (hp : (l.work w).phase = .rejected f) : Internal l (l.setPhase w .finishing)
  | settleAdmission {l : Workload} {w : Nat} (hw : w < l.workCount)
      (hp : (l.work w).phase = .finishing) (hkind : (l.work w).kind = .admission) :
      Internal l (l.settle w)
  | abortWaiter {l : Workload} {w : Nat} : Internal l (l.abortWaiter w)
  | reconfigure {l : Workload} {k : Nat} {scheduler : BoundedTaskScheduler Nat Waiter}
      (hpending : scheduler.pending = (l.scheduler k).pending)
      (hactive : scheduler.activeCount = (l.scheduler k).activeCount)
      (hconcurrent : scheduler.maxConcurrent = (l.scheduler k).maxConcurrent)
      (hbound : scheduler.maxPending = (l.scheduler k).maxPending) :
      Internal l (l.setScheduler k scheduler)

/-- The steps a workload takes. -/
inductive Step (overflow : HandlerOverflowPolicy) : Workload → Workload → Prop
  | internal {l l' : Workload} (h : Internal l l') : Step overflow l l'
  | openSession {l : Workload} {maxConcurrent maxPending : Nat} :
      Step overflow l (l.openSession maxConcurrent maxPending overflow)
  | submit {l : Workload} {k bytes : Nat} {kind : WorkKind} (hk : k < l.managedCount)
      (hkind : kind ≠ .admission) :
      Step overflow l (l.submit k overflow kind bytes).2
  | settleTask {l : Workload} {w : Nat} (hw : w < l.workCount)
      (hp : (l.work w).phase = .finishing) (hkind : (l.work w).kind ≠ .admission) :
      Step overflow l (l.settleTask w)
  | discard {l : Workload} {k w : Nat} {rest : List Nat}
      (hp : (l.scheduler k).pending = w :: rest) :
      Step overflow l ((l.setScheduler k { l.scheduler k with pending := rest }).settle w)
  | detach {l : Workload} {w : Nat} : Step overflow l (l.detach w)

/-- A task its scheduler holds back. -/
def Held (k : Nat) (a : Work) : Prop := a.phase = .pending ∧ a.owner = k ∧ a.kind ≠ .admission

/-- Every piece of work belongs to a managed session. -/
def Owned (n managed : Nat) (work : Nat → Work) : Prop := ∀ w < n, (work w).owner < managed

theorem Owned.keep {n managed : Nat} {work : Nat → Work} {a : Work} (h : Owned n managed work)
    (ha : a.owner = (work w).owner) : Owned n managed (Function.update work w a) := by
  intro v hv
  by_cases he : v = w
  · subst he
    simpa [ha] using h v hv
  · simpa [he] using h v hv

/-- `toStart` and `toGrant` are in flight inside one step: called but not yet acquiring, and
taken off the waiters but not yet granted. -/
structure Placement (toStart toGrant : List Nat) (l : Workload) : Prop where
  waiting : Enumerates (toGrant ++ l.handlerBudget.waiters) l.workCount (·.phase = .waiting) l.work
  granted : Enumerates l.resumes l.workCount (·.phase = .granted) l.work
  starting : Enumerates (toStart ++ l.starts) l.workCount (·.phase = .starting) l.work
  pending : ∀ k, Enumerates (l.scheduler k).pending l.workCount (Held k) l.work
  owned : Owned l.workCount l.managedCount l.work

/-- A phase in which no list holds the work. -/
def Unlisted (phase : WorkPhase) : Prop :=
  phase ≠ .pending ∧ phase ≠ .starting ∧ phase ≠ .waiting ∧ phase ≠ .granted

theorem failed_unlisted (a : Work) (f : Failure) : Unlisted (a.failed f) := by
  unfold Work.failed
  split <;> simp [Unlisted]

/-- Work leaves the lists. -/
theorem placement_unlist {phase : WorkPhase} (h : Placement ts tg l)
    (hold : Unlisted (l.work w).phase)
    (hnew : Unlisted phase) : Placement ts tg (l.setPhase w phase) := by
  obtain ⟨hp, hs, hw, hg⟩ := hold
  obtain ⟨hp', hs', hw', hg'⟩ := hnew
  exact {
    waiting := h.waiting.keep (by simp [hw, hw'])
    granted := h.granted.keep (by simp [hg, hg'])
    starting := h.starting.keep (by simp [hs, hs'])
    pending := fun k => (h.pending k).keep (by simp [Held, hp, hp'])
    owned := h.owned.keep rfl }

theorem placement_grant (h : Placement ts (w :: tg) l) : Placement ts tg (l.grant w) := by
  obtain ⟨hw, hp⟩ := h.waiting.head
  exact {
    waiting := h.waiting.leave (by simp)
    granted := h.granted.enter hw (by simp [hp]) rfl
    starting := h.starting.keep (by simp [hp])
    pending := fun k => (h.pending k).keep (by simp [Held, hp])
    owned := h.owned.keep rfl }

theorem placement_grantAll (h : Placement ts tg l) : Placement ts [] (l.grantAll tg) := by
  induction tg generalizing l with
  | nil => exact h
  | cons w tg ih => exact ih (placement_grant h)

theorem placement_wake (h : Placement ts [] l) : Placement ts [] l.wake := by
  obtain ⟨n, hn, hgranted, hbudget, -, -⟩ := l.handlerBudget.wake_spec
  unfold wake
  simp only [hgranted, hbudget]
  apply placement_grantAll
  exact { h with waiting := by simpa using h.waiting }

/-- The work called last acquires, waits, or finds its session ended. -/
theorem placement_acquire (h : Placement (w :: ts) [] l) :
    Placement ts [] (l.acquire w aborted) := by
  obtain ⟨hw, hp⟩ := h.starting.head
  have hsame : ∀ phase : WorkPhase, phase ≠ .pending → ∀ k,
      Held k { l.work w with phase := phase } ↔ Held k (l.work w) := by
    intro phase hne k
    simp [Held, hp, hne]
  unfold acquire HandlerBudget.acquire
  split_ifs with ha hfree
  · obtain ⟨hp', hs', hw', hg'⟩ := failed_unlisted (l.work w) .unknown
    exact {
      waiting := h.waiting.keep (by simp [hp, hw'])
      granted := h.granted.keep (by simp [hp, hg'])
      starting := h.starting.leave hs'
      pending := fun k => (h.pending k).keep (hsame _ hp' k)
      owned := h.owned.keep rfl }
  · exact {
      waiting := h.waiting.keep (by simp [hp])
      granted := h.granted.enter hw (by simp [hp]) rfl
      starting := h.starting.leave (by simp)
      pending := fun k => (h.pending k).keep (hsame _ (by simp) k)
      owned := h.owned.keep rfl }
  · exact {
      waiting := h.waiting.enter hw (by simp [hp]) rfl
      granted := h.granted.keep (by simp [hp])
      starting := h.starting.leave (by simp)
      pending := fun k => (h.pending k).keep (hsame _ (by simp) k)
      owned := h.owned.keep rfl }

theorem placement_finishRun {phase : WorkPhase} (h : Placement ts [] (l.setPhase w phase)) :
    Placement ts [] (l.finishRun w phase) := by
  apply placement_wake
  exact { h with }

theorem placement_forget (h : Placement ts [] l) (hmem : w ∈ l.handlerBudget.waiters) :
    Placement ts [] { l.setPhase w ((l.work w).failed .unknown) with
      handlerBudget := l.handlerBudget.forget w } := by
  obtain ⟨hw, hp⟩ := h.waiting.mem hmem
  obtain ⟨hp', hs', hw', hg'⟩ := failed_unlisted (l.work w) .unknown
  exact {
    waiting := h.waiting.erase hw'
    granted := h.granted.keep (by simp [hp, hg'])
    starting := h.starting.keep (by simp [hp, hs'])
    pending := fun k => (h.pending k).keep (by simp [Held, hp, hp'])
    owned := h.owned.keep rfl }

theorem placement_abortWaiter (h : Placement ts [] l) : Placement ts [] (l.abortWaiter w) := by
  unfold abortWaiter
  split_ifs with hmem
  · exact placement_wake (placement_forget h hmem)
  · exact h

theorem placement_callTask (h : Placement [] [] l) : Placement [] [] (l.callTask aborted) := by
  unfold callTask
  cases hs : l.starts with
  | nil => exact h
  | cons w rest =>
    apply placement_acquire
    exact { h with starting := by simpa [hs] using h.starting }

/-- The caller granted first leaves the queue of continuations. -/
theorem placement_resumed {rest : List Nat} {phase : WorkPhase} (h : Placement [] [] l)
    (hr : l.resumes = w :: rest) (hnew : Unlisted phase) :
    Placement [] [] ({ l with resumes := rest }.setPhase w phase) := by
  have hgranted : Enumerates (w :: rest) l.workCount (·.phase = .granted) l.work := hr ▸ h.granted
  obtain ⟨hw, hp⟩ := hgranted.head
  obtain ⟨hp', hs', hw', hg'⟩ := hnew
  exact {
    waiting := h.waiting.keep (by simp [hp, hw'])
    granted := hgranted.leave hg'
    starting := h.starting.keep (by simp [hp, hs'])
    pending := fun k => (h.pending k).keep (by simp [Held, hp, hp'])
    owned := h.owned.keep rfl }

theorem placement_resumeTask (h : Placement [] [] l) : Placement [] [] (l.resumeTask aborted) := by
  unfold resumeTask
  cases hr : l.resumes with
  | nil => exact h
  | cons w rest =>
    cases aborted with
    | true => exact placement_finishRun (placement_resumed h hr (failed_unlisted _ _))
    | false =>
      have hunlisted : Unlisted .running := by simp [Unlisted]
      exact { placement_resumed h hr hunlisted with }

/-- Settling work that no list holds. -/
theorem placement_settle (h : Placement ts tg l) (hold : Unlisted (l.work w).phase) :
    Placement ts tg (l.settle w) := by
  obtain ⟨hp, hs, hw, hg⟩ := hold
  exact {
    waiting := h.waiting.keep (by simp [hw])
    granted := h.granted.keep (by simp [hg])
    starting := h.starting.keep (by simp [hs])
    pending := fun k => (h.pending k).keep (by simp [Held, hp])
    owned := h.owned.keep rfl }

theorem placement_setScheduler {scheduler : BoundedTaskScheduler Nat Waiter}
    (h : Placement ts tg l) (hpending : scheduler.pending = (l.scheduler k).pending) :
    Placement ts tg (l.setScheduler k scheduler) := by
  refine { h with pending := fun j => ?_ }
  by_cases hj : j = k
  · subst hj
    simpa [setScheduler, hpending] using h.pending j
  · simpa [setScheduler, hj] using h.pending j

/-- The first task held by `k` leaves it, for whatever phase follows. -/
theorem pending_leave {rest : List Nat} {a : Work} (h : ∀ j, Enumerates (l.scheduler j).pending
      l.workCount (Held j) l.work) (hhead : (l.scheduler k).pending = w :: rest)
    (ha : a.phase ≠ .pending) (j : Nat) :
    Enumerates (Function.update l.scheduler k { l.scheduler k with pending := rest } j).pending
      l.workCount (Held j) (Function.update l.work w a) := by
  have hk : Enumerates (w :: rest) l.workCount (Held k) l.work := hhead ▸ h k
  by_cases hj : j = k
  · subst hj
    simpa using hk.leave (by simp [Held, ha])
  · have howner : (l.work w).owner ≠ j := by rw [hk.head.2.2.1]; exact fun he => hj he.symm
    simpa [hj] using (h j).keep (by simp [Held, ha, howner])

theorem placement_discard {rest : List Nat} (h : Placement [] [] l)
    (hhead : (l.scheduler k).pending = w :: rest) :
    Placement [] [] ((l.setScheduler k { l.scheduler k with pending := rest }).settle w) := by
  have hp : (l.work w).phase = .pending := ((h.pending k).mem (by simp [hhead])).2.1
  exact {
    waiting := h.waiting.keep (by simp [hp])
    granted := h.granted.keep (by simp [hp])
    starting := h.starting.keep (by simp [hp])
    pending := fun j => pending_leave h.pending hhead (by simp) j
    owned := h.owned.keep rfl }

/-- The first pending task starts, and is then on the list of those that start. -/
theorem placement_promote (h : Placement [] [] l) : Placement [] [] (l.promote k) := by
  obtain ⟨hnil, heq⟩ | ⟨w, rest, hhead, heq⟩ := l.promote_cases k
  · rw [heq]
    exact placement_setScheduler h rfl
  · rw [heq]
    obtain ⟨hw, hp⟩ := (h.pending k).mem (w := w) (by simp [hhead])
    exact {
      waiting := h.waiting.keep (by simp [hp.1])
      granted := h.granted.keep (by simp [hp.1])
      starting := h.starting.enter hw (by simp [hp.1]) rfl
      pending := fun j => by
        have := pending_leave h.pending hhead
          (a := { l.work w with phase := .starting }) (by simp) j
        by_cases hj : j = k
        · subst hj
          simpa [promoted, setScheduler, setPhase] using this
        · simpa [promoted, setScheduler, setPhase, hj] using this
      owned := h.owned.keep rfl }

theorem placement_settleTask (h : Placement [] [] l) (hp : (l.work w).phase = .finishing) :
    Placement [] [] (l.settleTask w) := by
  apply placement_promote
  have hleft : Placement [] []
      (l.setScheduler (l.work w).owner (l.scheduler (l.work w).owner).leave) :=
    placement_setScheduler h rfl
  exact placement_settle hleft (by simp [setScheduler, Unlisted, hp])

theorem Owned.push {n managed : Nat} {work : Nat → Work} {a : Work} (h : Owned n managed work)
    (ha : a.owner < managed) : Owned (n + 1) managed (Function.update work n a) := by
  intro v hv
  by_cases he : v = n
  · subst he
    simpa using ha
  · simpa [he] using h v (by omega)

theorem placement_started {budget : HandlerBudget} {kind : WorkKind} {bytes : Nat}
    (h : Placement [] [] l) (hk : k < l.managedCount)
    (hb : budget.waiters = l.handlerBudget.waiters) :
    Placement [] [] (l.started k r budget kind bytes) := by
  exact {
    waiting := hb ▸ h.waiting.skip (by simp)
    granted := h.granted.skip (by simp)
    starting := h.starting.push rfl
    pending := fun j => by
      have := (h.pending j).skip (v := ⟨k, kind, r, .starting, bytes, bytes, []⟩) (by simp [Held])
      by_cases hj : j = k
      · subst hj
        simpa [started, setScheduler, allocate] using this
      · simpa [started, setScheduler, allocate, hj] using this
    owned := h.owned.push hk }

/-- A task that waits is on its session's pending list. -/
theorem placement_queued {budget : HandlerBudget} {kind : WorkKind} {bytes : Nat}
    (h : Placement [] [] l) (hk : k < l.managedCount) (hkind : kind ≠ .admission)
    (hb : budget.waiters = l.handlerBudget.waiters) :
    Placement [] [] (l.queued k r budget kind bytes) := by
  exact {
    waiting := hb ▸ h.waiting.skip (by simp)
    granted := h.granted.skip (by simp)
    starting := h.starting.skip (by simp)
    pending := fun j => by
      by_cases hj : j = k
      · subst hj
        simpa [queued, setScheduler, allocate] using
          (h.pending j).push (v := ⟨j, kind, r, .pending, bytes, bytes, []⟩) ⟨rfl, rfl, hkind⟩
      · simpa [queued, setScheduler, allocate, hj] using
          (h.pending j).skip (v := ⟨k, kind, r, .pending, bytes, bytes, []⟩)
            (by simp [Held, Ne.symm hj])
    owned := h.owned.push hk }

theorem placement_submit {overflow : HandlerOverflowPolicy} {kind : WorkKind} {bytes : Nat}
    (h : Placement [] [] l) (hk : k < l.managedCount) (hkind : kind ≠ .admission) :
    Placement [] [] (l.submit k overflow kind bytes).2 := by
  obtain ⟨-, heq⟩ | ⟨r, budget, hr, hcase⟩ := l.submit_cases k overflow kind bytes
  · rw [heq]
    exact h
  · obtain ⟨-, -, rfl⟩ := (HandlerBudget.reserve_eq_some _).mp hr
    obtain ⟨heq, -, -⟩ | ⟨heq, -, -, -⟩ | ⟨refusal, -, -, heq⟩ := hcase
    · rw [heq]
      exact placement_started h hk rfl
    · rw [heq]
      exact placement_queued h hk hkind rfl
    · rw [heq]
      exact { h with }

theorem placement_runAdmission {budget : HandlerBudget} (h : Placement [] [] l)
    (hk : k < l.managedCount) (hr : l.handlerBudget.reserve = some (r, budget)) :
    Placement [] [] ({ l with handlerBudget := budget }.runAdmission k r aborted) := by
  obtain ⟨-, -, rfl⟩ := (HandlerBudget.reserve_eq_some _).mp hr
  apply placement_acquire
  exact {
    waiting := h.waiting.skip (by simp)
    granted := h.granted.skip (by simp)
    starting := (h.starting.push rfl).perm (List.perm_append_singleton _ _)
    pending := fun j => (h.pending j).skip (by simp [Held])
    owned := h.owned.push hk }

theorem placement_openSession {maxConcurrent maxPending : Nat} {overflow : HandlerOverflowPolicy}
    (h : Placement [] [] l) :
    Placement [] [] (l.openSession maxConcurrent maxPending overflow) := by
  refine { h with pending := fun j => ?_, owned := fun v hv => Nat.lt_succ_of_lt (h.owned v hv) }
  by_cases hj : j = l.managedCount
  · subst hj
    -- No work belongs to a session that is only now being opened.
    simpa [openSession, BoundedTaskScheduler.new] using Enumerates.nil (P := Held l.managedCount)
      fun v hv hheld => Nat.ne_of_lt (h.owned v hv) hheld.2.1
  · simpa [openSession, hj] using h.pending j

theorem placement_detach (h : Placement ts tg l) : Placement ts tg (l.detach w) where
  waiting := h.waiting.keep Iff.rfl
  granted := h.granted.keep Iff.rfl
  starting := h.starting.keep Iff.rfl
  pending := fun k => (h.pending k).keep Iff.rfl
  owned := h.owned.keep rfl

/-! ### What moving work between lists keeps -/

/-- Only the phase may differ, and not by settling. -/
def Work.Kept (a b : Work) : Prop :=
  b = { a with phase := b.phase } ∧ (b.phase = .settled ↔ a.phase = .settled)

/-- Nothing is submitted or settled on the way from `l` to `l'`. -/
structure KeepsWork (l l' : Workload) : Prop where
  workCount : l'.workCount = l.workCount
  work : ∀ w, Work.Kept (l.work w) (l'.work w)

/-- Nor is a reservation taken or given back. -/
structure Keeps (l l' : Workload) : Prop extends KeepsWork l l' where
  managedCount : l'.managedCount = l.managedCount
  concurrency : l'.handlerBudget.concurrency = l.handlerBudget.concurrency
  pending : l'.handlerBudget.pending = l.handlerBudget.pending
  reserved : l'.handlerBudget.reserved = l.handlerBudget.reserved
  issued : l'.handlerBudget.issued = l.handlerBudget.issued
  releaseCalls : l'.handlerBudget.releaseCalls = l.handlerBudget.releaseCalls

/-- Nor does a scheduler take part. -/
structure Moves (l l' : Workload) : Prop extends Keeps l l' where
  scheduler : l'.scheduler = l.scheduler
  held : ∀ w, (l'.work w).phase = .pending ↔ (l.work w).phase = .pending

theorem Work.Kept.refl (a : Work) : Work.Kept a a := ⟨rfl, Iff.rfl⟩

theorem Work.Kept.trans {a b c : Work} (h : Work.Kept a b) (h' : Work.Kept b c) :
    Work.Kept a c := by
  obtain ⟨hb, hs⟩ := h
  obtain ⟨hc, hs'⟩ := h'
  refine ⟨?_, hs'.trans hs⟩
  rw [hc, hb]

theorem Moves.refl (l : Workload) : Moves l l where
  managedCount := rfl
  workCount := rfl
  concurrency := rfl
  pending := rfl
  reserved := rfl
  issued := rfl
  releaseCalls := rfl
  work := fun _ => Work.Kept.refl _
  scheduler := rfl
  held := fun _ => Iff.rfl

theorem Moves.trans {l' l'' : Workload} (h : Moves l l') (h' : Moves l' l'') : Moves l l'' where
  managedCount := h'.managedCount.trans h.managedCount
  workCount := h'.workCount.trans h.workCount
  concurrency := h'.concurrency.trans h.concurrency
  pending := h'.pending.trans h.pending
  reserved := h'.reserved.trans h.reserved
  issued := h'.issued.trans h.issued
  releaseCalls := h'.releaseCalls.trans h.releaseCalls
  work := fun w => (h.work w).trans (h'.work w)
  scheduler := h'.scheduler.trans h.scheduler
  held := fun w => (h'.held w).trans (h.held w)

/-- The phases between which work moves without its scheduler. -/
def Moving (phase : WorkPhase) : Prop := phase ≠ .settled ∧ phase ≠ .pending

theorem failed_moving (a : Work) (f : Failure) : Moving (a.failed f) := by
  unfold Work.failed
  split <;> simp [Moving]

theorem moves_setPhase {phase : WorkPhase} (hold : Moving (l.work w).phase) (hnew : Moving phase) :
    Moves l (l.setPhase w phase) := by
  obtain ⟨hs, hp⟩ := hold
  obtain ⟨hs', hp'⟩ := hnew
  refine { Moves.refl l with work := fun v => ?_, held := fun v => ?_ }
  · by_cases hv : v = w
    · subst hv
      simp [Work.Kept, setPhase, hs, hs']
    · simp [Work.Kept, setPhase, hv]
  · by_cases hv : v = w
    · subst hv
      simp [setPhase, hp, hp']
    · simp [setPhase, hv]

theorem moves_grantAll (h : Placement ts tg l) : Moves l (l.grantAll tg) := by
  induction tg generalizing l with
  | nil => exact Moves.refl l
  | cons w tg ih =>
    have hp := h.waiting.head.2
    have hmove : Moves l (l.setPhase w .granted) :=
      moves_setPhase (by simp [Moving, hp]) (by simp [Moving])
    have hgrant : Moves l (l.grant w) := { hmove with }
    exact hgrant.trans (ih (placement_grant h))

theorem moves_wake (h : Placement ts [] l) : Moves l l.wake := by
  obtain ⟨n, hn, hgranted, hbudget, -, -⟩ := l.handlerBudget.wake_spec
  unfold wake
  simp only [hgranted, hbudget]
  have hwoken : Placement ts (l.handlerBudget.waiters.take n) { l with
      handlerBudget := { l.handlerBudget with
        waiters := l.handlerBudget.waiters.drop n
        running := l.handlerBudget.running + n } } :=
    { h with waiting := by simpa using h.waiting }
  exact { moves_grantAll hwoken with }

theorem moves_acquire (hp : (l.work w).phase = .starting) : Moves l (l.acquire w aborted) := by
  have hmove : ∀ phase, Moving phase → Moves l (l.setPhase w phase) :=
    fun phase hnew => moves_setPhase (by simp [Moving, hp]) hnew
  unfold acquire HandlerBudget.acquire
  split_ifs with ha hfree
  · exact { hmove _ (failed_moving (l.work w) .unknown) with }
  · exact { hmove .granted (by simp [Moving]) with }
  · exact { hmove .waiting (by simp [Moving]) with }

theorem moves_finishRun {phase : WorkPhase} (h : Placement ts [] (l.setPhase w phase))
    (hold : Moving (l.work w).phase) (hnew : Moving phase) : Moves l (l.finishRun w phase) := by
  have hmove : Moves l { l.setPhase w phase with handlerBudget := l.handlerBudget.leave } :=
    { moves_setPhase hold hnew with }
  exact hmove.trans (moves_wake { h with })

theorem moves_abortWaiter (h : Placement ts [] l) : Moves l (l.abortWaiter w) := by
  unfold abortWaiter
  split_ifs with hmem
  · obtain ⟨hw, hp⟩ := h.waiting.mem hmem
    have hmove : Moves l (l.setPhase w ((l.work w).failed .unknown)) :=
      moves_setPhase (by simp [Moving, hp]) (failed_moving (l.work w) .unknown)
    have hforget : Moves l { l.setPhase w ((l.work w).failed .unknown) with
        handlerBudget := l.handlerBudget.forget w } := { hmove with }
    exact hforget.trans (moves_wake (placement_forget h hmem))
  · exact Moves.refl l

theorem moves_callTask (h : Placement [] [] l) : Moves l (l.callTask aborted) := by
  unfold callTask
  cases hs : l.starts with
  | nil => exact Moves.refl l
  | cons w rest =>
    have hp := (h.starting.mem (w := w) (by simp [hs])).2
    exact { moves_acquire (l := { l with starts := rest }) hp with }

theorem moves_resumeTask (h : Placement [] [] l) : Moves l (l.resumeTask aborted) := by
  unfold resumeTask
  cases hr : l.resumes with
  | nil => exact Moves.refl l
  | cons w rest =>
    have hp := (h.granted.mem (w := w) (by simp [hr])).2
    have hmoving : Moving (l.work w).phase := by simp [Moving, hp]
    cases aborted with
    | true =>
      exact { moves_finishRun (placement_resumed h hr (failed_unlisted _ _)) hmoving
        (failed_moving _ _) with }
    | false => exact { moves_setPhase (l := l) hmoving (by simp [Moving]) with }

theorem keeps_promote (h : Placement [] [] l) : Keeps l (l.promote k) := by
  obtain ⟨hnil, heq⟩ | ⟨w, rest, hhead, heq⟩ := l.promote_cases k
  · rw [heq]
    exact { (Moves.refl l).toKeeps with }
  · rw [heq]
    have hp := ((h.pending k).mem (w := w) (by simp [hhead])).2.1
    have hwork : ∀ v, Work.Kept (l.work v) ((l.setPhase w .starting).work v) := by
      intro v
      by_cases hv : v = w
      · subst hv
        simp [Work.Kept, setPhase, hp]
      · simp [Work.Kept, setPhase, hv]
    exact { (Moves.refl l).toKeeps with work := hwork }

theorem moves_finish {phase : WorkPhase} (h : Placement [] [] l) (hp : (l.work w).phase = .running)
    (hnew : phase = .finishing ∨ ∃ f, phase = (l.work w).failed f) :
    Moves l (l.finishRun w phase) := by
  have hphase : Unlisted phase ∧ Moving phase := by
    obtain rfl | ⟨f, rfl⟩ := hnew
    · simp [Unlisted, Moving]
    · exact ⟨failed_unlisted _ f, failed_moving _ f⟩
  exact moves_finishRun (placement_unlist h (by simp [Unlisted, hp]) hphase.1)
    (by simp [Moving, hp]) hphase.2

theorem moves_runAdmission (l : Workload) (k r : Nat) (aborted : Bool) :
    Moves (l.allocate k r .admission .starting 0) (l.runAdmission k r aborted) :=
  moves_acquire (by simp [allocate])

/-- The three things an internal step can do to the work. -/
theorem internal_cases {l' : Workload} (hs : Internal l l') (h : Placement [] [] l) :
    KeepsWork l l' ∨ (∃ k r, KeepsWork (l.allocate k r .admission .starting 0) l') ∨
      ∃ w < l.workCount, (l.work w).kind = .admission ∧ (l.work w).phase = .finishing ∧
        l' = l.settle w := by
  cases hs with
  | returnReservation hr => exact Or.inl ⟨rfl, fun _ => Work.Kept.refl _⟩
  | @runAdmission k r budget aborted hk hr =>
    have hm := moves_runAdmission { l with handlerBudget := budget } k r aborted
    exact Or.inr (Or.inl ⟨k, r, ⟨hm.workCount, hm.work⟩⟩)
  | callTask => exact Or.inl (moves_callTask h).toKeepsWork
  | resumeTask => exact Or.inl (moves_resumeTask h).toKeepsWork
  | finishRun hw hp hnew => exact Or.inl (moves_finish h hp hnew).toKeepsWork
  | observe hw hp =>
    exact Or.inl (moves_setPhase (by simp [Moving, hp]) (by simp [Moving])).toKeepsWork
  | @settleAdmission w hw hp hkind => exact Or.inr (Or.inr ⟨w, hw, hkind, hp, rfl⟩)
  | abortWaiter => exact Or.inl (moves_abortWaiter h).toKeepsWork
  | reconfigure => exact Or.inl ⟨rfl, fun _ => Work.Kept.refl _⟩

theorem Internal.managedCount {l' : Workload} (hs : Internal l l') (h : Placement [] [] l) :
    l'.managedCount = l.managedCount := by
  cases hs with
  | returnReservation => rfl
  | @runAdmission k r budget aborted =>
    exact (moves_runAdmission { l with handlerBudget := budget } k r aborted).managedCount
  | callTask => exact (moves_callTask h).managedCount
  | resumeTask => exact (moves_resumeTask h).managedCount
  | finishRun hw hp hnew => exact (moves_finish h hp hnew).managedCount
  | observe => rfl
  | settleAdmission => rfl
  | abortWaiter => exact (moves_abortWaiter h).managedCount
  | reconfigure => rfl

/-- One case for each thing a workload does by itself. -/
theorem placement_internal {l' : Workload} (hs : Internal l l') (h : Placement [] [] l) :
    Placement [] [] l' := by
  cases hs with
  | returnReservation hr =>
    obtain ⟨-, -, rfl⟩ := (HandlerBudget.reserve_eq_some _).mp hr
    exact { h with }
  | runAdmission hk hr => exact placement_runAdmission h hk hr
  | callTask => exact placement_callTask h
  | resumeTask => exact placement_resumeTask h
  | finishRun hw hp hnew =>
    apply placement_finishRun
    apply placement_unlist h (by simp [Unlisted, hp])
    obtain rfl | ⟨f, rfl⟩ := hnew
    · simp [Unlisted]
    · exact failed_unlisted _ f
  | observe hw hp => exact placement_unlist h (by simp [Unlisted, hp]) (by simp [Unlisted])
  | settleAdmission hw hp hkind => exact placement_settle h (by simp [Unlisted, hp])
  | abortWaiter => exact placement_abortWaiter h
  | reconfigure hpending hactive hconcurrent hbound => exact placement_setScheduler h hpending

/-- Each operation leaves every work on the list that its phase names. -/
theorem placement_step {overflow : HandlerOverflowPolicy} {l' : Workload} (hs : Step overflow l l')
    (h : Placement [] [] l) : Placement [] [] l' := by
  cases hs with
  | internal hs => exact placement_internal hs h
  | openSession => exact placement_openSession h
  | submit hk hkind => exact placement_submit h hk hkind
  | settleTask hw hp hkind => exact placement_settleTask h hp
  | discard hp => exact placement_discard h hp
  | detach => exact placement_detach h

end Workload

end NestWebTransport
