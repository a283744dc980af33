import NestWebTransport.Server.WorkBudget

/-! No queue between a session's scheduler and user code lets one datagram overtake another. -/
namespace NestWebTransport

namespace Workload

variable {l l' : Workload} {k j w : Nat} {aborted : Bool}

/-- The arrival number of a datagram task of session `k`. -/
def arrivalIn (l : Workload) (k w : Nat) : Option Nat :=
  match (l.work w).kind with
  | .datagram arrival => if (l.work w).owner = k then some arrival else none
  | _ => none

/-- Started work, in the order it entered or will enter user code. -/
def line (l : Workload) : List Nat :=
  l.begun ++ (l.resumes ++ (l.handlerBudget.waiters ++ l.starts))

/-- The datagrams of session `k` that its scheduler accepted and that began or may still begin. -/
def lane (l : Workload) (k : Nat) : List Nat :=
  (l.line ++ (l.scheduler k).pending).filterMap (l.arrivalIn k)

theorem arrivalIn_keeps (h : Keeps l l') : l'.arrivalIn k = l.arrivalIn k := by
  funext w
  have hwork := (h.work w).1
  unfold arrivalIn
  rw [hwork]

theorem sublist_of_eq {xs ys : List Nat} (h : xs = ys) : xs.Sublist ys := h ▸ List.Sublist.refl xs

theorem lane_sublist (harrival : l'.arrivalIn k = l.arrivalIn k)
    (hline : (l'.line ++ (l'.scheduler k).pending).Sublist (l.line ++ (l.scheduler k).pending)) :
    (l'.lane k).Sublist (l.lane k) := by
  unfold lane
  rw [harrival]
  exact hline.filterMap _

theorem lane_moves (hm : Moves l l') (hline : l'.line.Sublist l.line) (k : Nat) :
    (l'.lane k).Sublist (l.lane k) := by
  apply lane_sublist (arrivalIn_keeps hm.toKeeps)
  rw [hm.scheduler]
  exact hline.append (List.Sublist.refl _)

theorem grantAll_lists (l : Workload) (tg : List Nat) : (l.grantAll tg).resumes = l.resumes ++ tg ∧
    (l.grantAll tg).begun = l.begun ∧ (l.grantAll tg).starts = l.starts := by
  induction tg generalizing l with
  | nil => simp [grantAll]
  | cons w tg ih =>
    obtain ⟨hresumes, hbegun, hstarts⟩ := ih (l.grant w)
    refine ⟨?_, hbegun, hstarts⟩
    rw [show l.grantAll (w :: tg) = (l.grant w).grantAll tg from rfl, hresumes]
    simp [grant]

/-- `wake` only moves waiting callers to the end of the continuations. -/
theorem wake_line : l.wake.line = l.line := by
  obtain ⟨n, hn, hgranted, hbudget, -, -⟩ := l.handlerBudget.wake_spec
  unfold wake
  simp only [hgranted, hbudget]
  obtain ⟨hresumes, hbegun, hstarts⟩ := grantAll_lists
    { l with handlerBudget := { l.handlerBudget with
        waiters := l.handlerBudget.waiters.drop n
        running := l.handlerBudget.running + n } } (l.handlerBudget.waiters.take n)
  unfold line
  rw [hresumes, hbegun, hstarts, grantAll_handlerBudget, List.append_assoc, ← List.append_assoc
    (l.handlerBudget.waiters.take n), List.take_append_drop]

/-- The work called last goes to the end of the line ahead of the other started tasks. -/
theorem acquire_line (l : Workload) (w : Nat) (aborted : Bool) : (l.acquire w aborted).line.Sublist
    (l.begun ++ (l.resumes ++ (l.handlerBudget.waiters ++ (w :: l.starts)))) := by
  unfold acquire HandlerBudget.acquire
  split_ifs with ha hfree
  · apply (List.Sublist.refl l.begun).append
    apply (List.Sublist.refl l.resumes).append
    exact (List.Sublist.refl l.handlerBudget.waiters).append (List.sublist_cons_self w l.starts)
  · simp [line, grant, setPhase, hfree.2]
  · simp [line, setPhase]

theorem finishRun_line (phase : WorkPhase) : (l.finishRun w phase).line = l.line := wake_line

theorem abortWaiter_line : (l.abortWaiter w).line.Sublist l.line := by
  unfold abortWaiter
  split_ifs
  · rw [wake_line]
    apply (List.Sublist.refl l.begun).append
    apply (List.Sublist.refl l.resumes).append
    exact List.erase_sublist.append (List.Sublist.refl l.starts)
  · exact List.Sublist.refl _

theorem callTask_line : (l.callTask aborted).line.Sublist l.line := by
  unfold callTask
  cases hs : l.starts with
  | nil => exact List.Sublist.refl _
  | cons w rest =>
    have hacquire := acquire_line { l with starts := rest } w aborted
    simpa [line, hs] using hacquire

theorem resumeTask_line : (l.resumeTask aborted).line.Sublist l.line := by
  unfold resumeTask
  cases hr : l.resumes with
  | nil => exact List.Sublist.refl _
  | cons w rest =>
    cases aborted with
    | true =>
      simp only [if_true, finishRun_line]
      apply (List.Sublist.refl l.begun).append
      rw [hr]
      exact (List.sublist_cons_self w rest).append (List.Sublist.refl _)
    | false => simp [line, beginTask, setPhase, hr]

/-- The task a scheduler starts next was the first it held back. -/
theorem lane_promote (hpl : Placement [] [] l) : ((l.promote k).lane j).Sublist (l.lane j) := by
  have harrival := arrivalIn_keeps (k := j) (keeps_promote (k := k) hpl)
  obtain ⟨hnil, heq⟩ | ⟨v, rest, hhead, heq⟩ := l.promote_cases k
  · apply lane_sublist harrival
    rw [heq]
    by_cases hj : j = k
    · subst hj
      simp [line, setScheduler]
    · simp [line, setScheduler, hj]
  · unfold lane
    rw [harrival, heq]
    by_cases hj : j = k
    · subst hj
      simp [line, promoted, setScheduler, setPhase, hhead]
    · have howner := ((hpl.pending k).mem (w := v) (by simp [hhead])).2.2.1
      have hforeign : l.arrivalIn j v = none := by
        unfold arrivalIn
        split <;> simp [howner, Ne.symm hj]
      simp [line, promoted, setScheduler, setPhase, hj, List.filterMap_append, hforeign]

theorem settle_arrivalIn : (l.settle w).arrivalIn k = l.arrivalIn k := by
  funext v
  unfold arrivalIn
  by_cases hv : v = w
  · subst hv
    simp [settle]
  · simp [settle, hv]

/-- What was begun was allocated before. -/
def BegunAllocated (l : Workload) : Prop := ∀ w ∈ l.begun, w < l.workCount

/-- The datagrams of session `k` that its scheduler accepted, in that order. -/
def submitted (l : Workload) (k : Nat) : List Nat :=
  (List.range l.workCount).filterMap (l.arrivalIn k)

theorem line_lt (hpl : Placement [] [] l) (hb : BegunAllocated l) :
    ∀ w ∈ l.line, w < l.workCount := by
  intro w hw
  simp only [line, List.mem_append] at hw
  obtain hw | hw | hw | hw := hw
  · exact hb w hw
  · exact (hpl.granted.mem hw).1
  · exact (hpl.waiting.mem hw).1
  · exact (hpl.starting.mem hw).1

/-- New work does not change what the earlier work is. -/
theorem arrivalIn_allocate {a : Work} {ws : List Nat}
    (hwork : l'.work = Function.update l.work l.workCount a) (hlt : ∀ w ∈ ws, w < l.workCount) :
    ws.filterMap (l'.arrivalIn k) = ws.filterMap (l.arrivalIn k) := by
  refine List.filterMap_congr fun w hw => ?_
  unfold arrivalIn
  rw [hwork, Function.update_of_ne (Nat.ne_of_lt (hlt w hw))]

/-- What a new task of session `k` adds to the lane of session `j`. -/
def WorkKind.arrivalFor (kind : WorkKind) (k j : Nat) : List Nat :=
  match kind with
  | .datagram arrival => if k = j then [arrival] else []
  | _ => []

theorem arrivalIn_new {a : Work} (hwork : l'.work = Function.update l.work l.workCount a) :
    (l'.arrivalIn j l.workCount).toList = WorkKind.arrivalFor a.kind a.owner j := by
  unfold arrivalIn WorkKind.arrivalFor
  rw [hwork, Function.update_self]
  cases a.kind with
  | datagram arrival => by_cases h : a.owner = j <;> simp [h]
  | admission => rfl
  | stream => rfl

theorem submitted_keeps (h : KeepsWork l l') : l'.submitted k = l.submitted k := by
  unfold submitted
  rw [h.workCount]
  refine List.filterMap_congr fun w _ => ?_
  unfold arrivalIn
  rw [(h.work w).1]

theorem submitted_allocate {a : Work} (hwork : l'.work = Function.update l.work l.workCount a)
    (hcount : l'.workCount = l.workCount + 1) :
    l'.submitted j = l.submitted j ++ WorkKind.arrivalFor a.kind a.owner j := by
  unfold submitted
  rw [hcount, List.range_succ, List.filterMap_append,
    arrivalIn_allocate hwork (fun w hw => List.mem_range.mp hw), ← arrivalIn_new hwork]
  cases h : l'.arrivalIn j l.workCount <;> simp [h]

theorem pending_lt (hpl : Placement [] [] l) : ∀ w ∈ (l.scheduler k).pending, w < l.workCount :=
  fun _ hw => ((hpl.pending k).mem hw).1

/-- Started work goes to the end of the line, which is the end of its session's lane. -/
theorem lane_started {r n : Nat} {budget : HandlerBudget} {kind : WorkKind} (h : Accounted l)
    (hb : BegunAllocated l) (hwaiters : budget.waiters = l.handlerBudget.waiters)
    (hlt : (l.scheduler k).activeCount < (l.scheduler k).maxConcurrent) :
    (l.started k r budget kind n).lane j = l.lane j ++ WorkKind.arrivalFor kind k j := by
  have hwork : (l.started k r budget kind n).work =
      Function.update l.work l.workCount ⟨k, kind, r, .starting, n, n, []⟩ := rfl
  have hline : (l.started k r budget kind n).line = l.line ++ [l.workCount] := by
    simp [line, started, allocate, setScheduler, hwaiters]
  have hold := arrivalIn_allocate (k := j) hwork (line_lt h.placement hb)
  have hpend := arrivalIn_allocate (k := j) hwork (pending_lt (k := j) h.placement)
  have hnew := arrivalIn_new (j := j) hwork
  have hsch : ((l.started k r budget kind n).scheduler j).pending = (l.scheduler j).pending := by
    by_cases hj : j = k
    · subst hj
      simp [started, setScheduler]
    · simp [started, allocate, setScheduler, hj]
  unfold lane
  rw [hline, hsch, List.filterMap_append, List.filterMap_append, hold, hpend, List.filterMap_append]
  simp only at hnew
  have hone : [l.workCount].filterMap ((l.started k r budget kind n).arrivalIn j) =
      WorkKind.arrivalFor kind k j := by
    rw [← hnew]
    cases hv : (l.started k r budget kind n).arrivalIn j l.workCount <;> simp [hv]
  rw [hone]
  by_cases hj : k = j
  · subst hj
    -- A scheduler with an idle slot holds nothing back.
    have hempty : (l.scheduler k).pending = [] := by
      by_contra hne
      have := h.scheduled.busy k hne
      omega
    simp [hempty]
  · have hnone : WorkKind.arrivalFor kind k j = [] := by
      unfold WorkKind.arrivalFor
      split <;> simp [hj]
    simp [hnone]

/-- A datagram that waits is the last of its session's lane. -/
theorem lane_queued {r n : Nat} {budget : HandlerBudget} {kind : WorkKind} (h : Accounted l)
    (hb : BegunAllocated l) (hwaiters : budget.waiters = l.handlerBudget.waiters) :
    (l.queued k r budget kind n).lane j = l.lane j ++ WorkKind.arrivalFor kind k j := by
  have hwork : (l.queued k r budget kind n).work =
      Function.update l.work l.workCount ⟨k, kind, r, .pending, n, n, []⟩ := rfl
  have hline : (l.queued k r budget kind n).line = l.line := by
    simp [line, queued, allocate, setScheduler, hwaiters]
  have hold := arrivalIn_allocate (k := j) hwork (line_lt h.placement hb)
  have hpend := arrivalIn_allocate (k := j) hwork (pending_lt (k := j) h.placement)
  have hnew := arrivalIn_new (j := j) hwork
  unfold lane
  rw [hline, List.filterMap_append, List.filterMap_append, hold]
  simp only at hnew
  by_cases hj : k = j
  · subst hj
    have hsch : ((l.queued k r budget kind n).scheduler k).pending =
        (l.scheduler k).pending ++ [l.workCount] := by simp [queued, setScheduler]
    rw [hsch, List.filterMap_append, hpend, ← hnew]
    cases hv : (l.queued k r budget kind n).arrivalIn k l.workCount <;> simp [hv]
  · have hsch : ((l.queued k r budget kind n).scheduler j).pending = (l.scheduler j).pending := by
      simp [queued, allocate, setScheduler, Ne.symm hj]
    have hnone : WorkKind.arrivalFor kind k j = [] := by
      unfold WorkKind.arrivalFor
      split <;> simp [hj]
    rw [hsch, hpend, hnone]
    simp

/-- An accepted task is last in its lane; a refused one is in none. -/
theorem lane_submit (h : Accounted l) (hb : BegunAllocated l) (k n : Nat)
    (overflow : HandlerOverflowPolicy) (kind : WorkKind) (j : Nat) :
    let result := l.submit k overflow kind n
    let added := if result.1.isAccepted then WorkKind.arrivalFor kind k j else []
    result.2.lane j = l.lane j ++ added ∧ result.2.submitted j = l.submitted j ++ added ∧
      BegunAllocated result.2 := by
  obtain ⟨-, heq⟩ | ⟨r, budget, hr, hcase⟩ := l.submit_cases k overflow kind n
  · simp only [heq, HandlerOverflowPolicy.refusal_isAccepted]
    simpa using hb
  · have hwaiters : budget.waiters = l.handlerBudget.waiters := by
      obtain ⟨-, -, rfl⟩ := (HandlerBudget.reserve_eq_some _).mp hr
      rfl
    obtain ⟨heq, -, hlt⟩ | ⟨heq, -, -, -⟩ | ⟨refusal, hout, -, heq⟩ := hcase
    · have hsubmitted : (l.started k r budget kind n).submitted j =
          l.submitted j ++ WorkKind.arrivalFor kind k j :=
        submitted_allocate (a := ⟨k, kind, r, .starting, n, n, []⟩) rfl rfl
      simp only [heq]
      exact ⟨lane_started h hb hwaiters hlt, hsubmitted, fun w hw => Nat.lt_succ_of_lt (hb w hw)⟩
    · have hsubmitted : (l.queued k r budget kind n).submitted j =
          l.submitted j ++ WorkKind.arrivalFor kind k j :=
        submitted_allocate (a := ⟨k, kind, r, .pending, n, n, []⟩) rfl rfl
      simp only [heq]
      exact ⟨lane_queued h hb hwaiters, hsubmitted, fun w hw => Nat.lt_succ_of_lt (hb w hw)⟩
    · simp only [heq, hout]
      refine ⟨?_, ?_, hb⟩
      · obtain ⟨-, -, rfl⟩ := (HandlerBudget.reserve_eq_some _).mp hr
        simp [lane, line, arrivalIn, HandlerBudget.release]
        rfl
      · simp [submitted]
        rfl

/-- Nothing enters a lane, and what was begun stays allocated. -/
structure Orderly (l l' : Workload) : Prop where
  lane : ∀ k, (l'.lane k).Sublist (l.lane k)
  submitted : ∀ k, l'.submitted k = l.submitted k
  begun : BegunAllocated l'

theorem orderly_moves (hm : Moves l l') (hline : l'.line.Sublist l.line) (hpl : Placement [] [] l)
    (hb : BegunAllocated l) : Orderly l l' where
  lane := lane_moves hm hline
  submitted := fun _ => submitted_keeps hm.toKeepsWork
  begun := fun w hw => by
    rw [hm.workCount]
    exact line_lt hpl hb w (hline.subset (List.mem_append_left _ hw))

theorem orderly_settle (hb : BegunAllocated l) : Orderly l (l.settle w) where
  lane := fun _ => lane_sublist settle_arrivalIn (List.Sublist.refl _)
  submitted := fun _ => by
    unfold submitted
    rw [settle_arrivalIn]
    rfl
  begun := hb

/-- An admission is in no lane. -/
theorem orderly_runAdmission {r : Nat} (hpl : Placement [] [] l) (hb : BegunAllocated l) :
    Orderly l (l.runAdmission k r aborted) := by
  have hwork : (l.allocate k r .admission .starting 0).work =
      Function.update l.work l.workCount ⟨k, .admission, r, .starting, 0, 0, []⟩ := rfl
  have hm := moves_runAdmission l k r aborted
  have hline := acquire_line (l.allocate k r .admission .starting 0) l.workCount aborted
  have hnone : ∀ j, (l.allocate k r .admission .starting 0).arrivalIn j l.workCount = none := by
    intro j
    simp [arrivalIn, hwork]
  constructor
  · intro j
    have hold := arrivalIn_allocate (k := j) hwork (line_lt hpl hb)
    have hpend := arrivalIn_allocate (k := j) hwork (pending_lt (k := j) hpl)
    have harrival := arrivalIn_keeps (k := j) hm.toKeeps
    have hsub := (hline.append (List.Sublist.refl (l.scheduler j).pending)).filterMap
      ((l.allocate k r .admission .starting 0).arrivalIn j)
    unfold lane
    rw [harrival, show ((l.runAdmission k r aborted).scheduler j).pending =
      (l.scheduler j).pending by rw [hm.scheduler]; rfl]
    refine hsub.trans (sublist_of_eq ?_)
    have hright : (l.line ++ (l.scheduler j).pending).filterMap (l.arrivalIn j) =
        l.line.filterMap ((l.allocate k r .admission .starting 0).arrivalIn j) ++
          (l.scheduler j).pending.filterMap (l.arrivalIn j) := by
      rw [List.filterMap_append, hold]
    rw [hright, List.filterMap_append, hpend]
    change (l.begun ++
      (l.resumes ++ (l.handlerBudget.waiters ++ l.workCount :: l.starts))).filterMap
      ((l.allocate k r .admission .starting 0).arrivalIn j) ++ _ = _
    simp [line, List.filterMap_append, hnone]
  · intro j
    rw [submitted_keeps hm.toKeepsWork, submitted_allocate hwork rfl]
    simp [WorkKind.arrivalFor]
  · intro w hw
    rw [hm.workCount]
    have hmem := hline.subset (List.mem_append_left _ hw)
    simp only [List.mem_append, List.mem_cons] at hmem
    have hlt := line_lt hpl hb w
    simp only [line, List.mem_append] at hlt
    change w < l.workCount + 1
    obtain hm | hm | hm | rfl | hm := hmem
    · exact Nat.lt_succ_of_lt (hlt (Or.inl hm))
    · exact Nat.lt_succ_of_lt (hlt (Or.inr (Or.inl hm)))
    · exact Nat.lt_succ_of_lt (hlt (Or.inr (Or.inr (Or.inl hm))))
    · exact Nat.lt_succ_self _
    · exact Nat.lt_succ_of_lt (hlt (Or.inr (Or.inr (Or.inr hm))))

theorem placement_reserve (hpl : Placement [] [] l) : Placement [] [] { l with
    handlerBudget := { l.handlerBudget with
      reserved := l.handlerBudget.reserved + 1
      issued := l.handlerBudget.issued + 1 } } := { hpl with }

/-- What a workload does by itself begins work in the order of the lanes. -/
theorem orderly_internal (hs : Internal l l') (hpl : Placement [] [] l) (hb : BegunAllocated l) :
    Orderly l l' := by
  cases hs with
  | returnReservation hr =>
    obtain ⟨-, -, rfl⟩ := (HandlerBudget.reserve_eq_some _).mp hr
    exact ⟨fun _ => List.Sublist.refl _, fun _ => rfl, hb⟩
  | @runAdmission k r budget aborted hk hr =>
    obtain ⟨-, -, rfl⟩ := (HandlerBudget.reserve_eq_some _).mp hr
    obtain ⟨hlane, hsubmitted, hbegun⟩ := orderly_runAdmission (placement_reserve hpl) hb
    exact ⟨hlane, hsubmitted, hbegun⟩
  | callTask => exact orderly_moves (moves_callTask hpl) callTask_line hpl hb
  | resumeTask => exact orderly_moves (moves_resumeTask hpl) resumeTask_line hpl hb
  | finishRun hw hp hnew =>
    exact orderly_moves (moves_finish hpl hp hnew) (sublist_of_eq (finishRun_line _)) hpl hb
  | observe hw hp =>
    exact orderly_moves (moves_setPhase (by simp [Moving, hp]) (by simp [Moving]))
      (List.Sublist.refl _) hpl hb
  | settleAdmission => exact orderly_settle hb
  | abortWaiter => exact orderly_moves (moves_abortWaiter hpl) abortWaiter_line hpl hb
  | @reconfigure k scheduler hpending =>
    refine ⟨fun j => lane_sublist rfl (sublist_of_eq ?_), fun _ => rfl, hb⟩
    by_cases hj : j = k
    · subst hj
      simp [line, setScheduler, hpending]
    · simp [line, setScheduler, hj]

/-- A task that settles begins the first that waits. -/
theorem orderly_settleTask (hpl : Placement [] [] l) (hb : BegunAllocated l)
    (hp : (l.work w).phase = .finishing) : Orderly l (l.settleTask w) := by
  have hleft : Placement [] []
      (l.setScheduler (l.work w).owner (l.scheduler (l.work w).owner).leave) :=
    placement_setScheduler hpl rfl
  have hsettled := placement_settle (w := w) hleft (by simp [setScheduler, Unlisted, hp])
  have hpending : ∀ j, ((l.setScheduler (l.work w).owner
      (l.scheduler (l.work w).owner).leave).scheduler j).pending = (l.scheduler j).pending := by
    intro j
    by_cases hj : j = (l.work w).owner
    · subst hj
      simp [setScheduler]
    · simp [setScheduler, hj]
  have hsettle : Orderly (l.setScheduler (l.work w).owner (l.scheduler (l.work w).owner).leave)
      ((l.setScheduler (l.work w).owner (l.scheduler (l.work w).owner).leave).settle w) :=
    orderly_settle hb
  constructor
  · intro j
    refine (lane_promote hsettled).trans ((hsettle.lane j).trans ?_)
    refine lane_sublist rfl (sublist_of_eq ?_)
    rw [hpending j]
    rfl
  · intro j
    exact (submitted_keeps (keeps_promote hsettled).toKeepsWork).trans (hsettle.submitted j)
  · intro v hv
    unfold settleTask at hv ⊢
    obtain ⟨-, heq⟩ | ⟨_, _, -, heq⟩ := ((l.setScheduler (l.work w).owner
      (l.scheduler (l.work w).owner).leave).settle w).promote_cases (l.work w).owner <;>
      rw [heq] at hv ⊢ <;> exact hb v hv

theorem orderly_discard {rest : List Nat} (hb : BegunAllocated l)
    (hhead : (l.scheduler k).pending = w :: rest) :
    Orderly l ((l.setScheduler k { l.scheduler k with pending := rest }).settle w) := by
  have hsettle : Orderly (l.setScheduler k { l.scheduler k with pending := rest })
      ((l.setScheduler k { l.scheduler k with pending := rest }).settle w) := orderly_settle hb
  refine ⟨fun j => (hsettle.lane j).trans ?_, hsettle.submitted, hb⟩
  refine lane_sublist rfl ((List.Sublist.refl l.line).append ?_)
  by_cases hj : j = k
  · subst hj
    simp [setScheduler, hhead]
  · simp [setScheduler, hj]

theorem orderly_detach (hb : BegunAllocated l) : Orderly l (l.detach w) := by
  have harrival : ∀ k, (l.detach w).arrivalIn k = l.arrivalIn k := by
    intro k
    funext v
    unfold arrivalIn
    by_cases hv : v = w
    · subst hv
      simp [detach]
    · simp [detach, hv]
  refine ⟨fun k => lane_sublist (harrival k) (List.Sublist.refl _), fun k => ?_, hb⟩
  unfold submitted
  rw [harrival]
  rfl

theorem orderly_openSession {maxConcurrent maxPending : Nat} {overflow : HandlerOverflowPolicy}
    (hb : BegunAllocated l) : Orderly l (l.openSession maxConcurrent maxPending overflow) := by
  refine ⟨fun j => lane_sublist rfl ((List.Sublist.refl l.line).append ?_), fun _ => rfl, hb⟩
  by_cases hj : j = l.managedCount
  · subst hj
    simp [openSession, BoundedTaskScheduler.new]
  · simp [openSession, hj]

end Workload

end NestWebTransport
