import NestWebTransport.Server.RuntimeWork

/-! The kinds of steps the runtime takes. -/
namespace NestWebTransport

/-- Whose pump or drain loop takes the step. -/
def RuntimeEvent.pump : RuntimeEvent → Option Nat
  | .datagramRead k _ _ | .datagramsDone k | .datagramReadFailed k _ | .datagramPumpClosed k
  | .drainResumed k | .drainContinued k | .streamResumed k _ | .streamRead k _ _ | .streamsDone k _
  | .streamReadFailed k _ _ | .streamRefused k _ _ | .streamDiscarded k _ _ | .streamSubmitted k _
  | .streamPumpClosed k _ => some k
  | _ => none

namespace WebTransportRuntime

variable {options : NormalizedWebTransportModuleOptions} {deps : RuntimeDependencies}
  {s t u : RuntimeState} {k w r : Nat} {offer : SessionOffer} {records : IpRecords}
  {readers : Bool × Bool × Bool} {budget : HandlerBudget} {e : RuntimeEvent}

/-! ### Surfaced sessions -/

/-- Every check `acceptSession` makes before it registers the session has passed. -/
structure Surfaces (deps : RuntimeDependencies) (s : RuntimeState) (offer : SessionOffer) :
    Prop where
  accepting : s.lifecycle.acceptingSessions = true
  driverRunning : offer.driverRunning = true
  path : deps.registry.hasPath offer.session.path = true
  valid : offer.session.validateSession deps.options deps.parseURL s.outstandingSessions.length
    (s.sessions.map Prod.fst) = none
  slot : (s.ipRecords.acquireIpSlot (ipLimits deps) offer.session.ipAddress offer.clock).1 = true
  budget : s.plane.handlerBudget.reserve.isSome = true
  readers : (reserveIncomingReaders deps offer).isSome = true

/-- The session `acceptSession` enters: a session that is aborted by then has no admission work,
that of another is the work `w`. -/
def newcomer (offer : SessionOffer) (readers : Bool × Bool × Bool) (w : Nat) : ManagedSession :=
  let m := { unmanaged with
    session := offer.session
    datagramReader := readers.1
    bidirectionalReader := readers.2.1
    unidirectionalReader := readers.2.2 }
  match offer.aborted with
  | some reason => { m with sessionAborted := true, context := some reason }
  | none => { m with work := some w, admission := true, accept := .racing }

/-- A session becomes managed. -/
structure Opens (options : NormalizedWebTransportModuleOptions) (offer : SessionOffer)
    (readers : Bool × Bool × Bool) (s t : RuntimeState) : Prop where
  plane : DataPlane.Evolves options s.plane t.plane
  managedCount : t.plane.managedCount = s.plane.managedCount + 1
  workCount : t.plane.workCount = s.plane.workCount + if offer.aborted = none then 1 else 0
  old : ∀ w < s.plane.workCount, t.plane.work w = s.plane.work w
  fresh : ∀ w, s.plane.workCount ≤ w → w < t.plane.workCount →
    (t.plane.work w).owner = s.plane.managedCount ∧ (t.plane.work w).kind = .admission ∧
      (t.plane.work w).byteLength = (t.plane.work w).charged
  scheduler : ∀ j, j ≠ s.plane.managedCount → t.plane.scheduler j = s.plane.scheduler j
  opened : (t.plane.scheduler s.plane.managedCount).accepting = true
  managed : t.managed = Function.update s.managed s.plane.managedCount
    (newcomer offer readers s.plane.workCount)
  sessions : t.sessions = s.sessions ++ [(offer.session.id, s.plane.managedCount)]
  outstanding : t.outstandingSessions = s.outstandingSessions ++ [s.plane.managedCount]
  acceptedSessions : t.acceptedSessions = s.acceptedSessions
  closeCalls : t.closeCalls = s.closeCalls
  stopCalls : t.stopCalls = s.stopCalls
  stopPhase : t.stopPhase = s.stopPhase

/-- A session enters with work and a reservation that are its own. -/
theorem Opens.sound (h : Opens options offer readers s t) (hs : Sound s) : Sound t where
  accounted := h.plane.accounted hs.accounted
  outstanding := by
    intro j hj
    rw [h.outstanding, List.mem_append, List.mem_singleton] at hj
    rw [h.managedCount]
    rcases hj with hj | rfl
    · exact Nat.lt_succ_of_lt (hs.outstanding j hj)
    · exact Nat.lt_succ_self _
  sessions := by
    intro e he
    rw [h.sessions, List.mem_append, List.mem_singleton] at he
    rw [h.managedCount]
    rcases he with he | rfl
    · exact Nat.lt_succ_of_lt (hs.sessions e he)
    · exact Nat.lt_succ_self _
  stopping := by
    rw [h.stopPhase, h.stopCalls]
    exact hs.stopping

/-- A refusal leaves every count of the address records as it was. -/
def Undone (s : RuntimeState) (records : IpRecords) : Prop :=
  (∀ ip, 0 ≤ s.ipRecords.active ip) → ∀ ip, records.active ip = s.ipRecords.active ip

theorem easing_refuse (code sessionId : String) (closeCode : CloseCode) (reason : String) :
    Easing options s (closeUnmanaged (recordRejection s code) sessionId closeCode reason) :=
  ⟨{ (Winding.refl s : Winding options s s) with closeCalls := List.prefix_append _ _ },
    fun _ => .refl _, rfl⟩

/-- A reservation is taken and given back. -/
theorem easing_returnReservation (hr : s.plane.handlerBudget.reserve = some (r, budget)) :
    Easing options s
      (setLoad s { s.plane.toWorkload with handlerBudget := budget.release r }) := by
  have hreturn : Workload.Internal s.plane.toWorkload
      { s.plane.toWorkload with handlerBudget := budget.release r } := .returnReservation hr
  exact easing_load hreturn { Workload.Steady.refl s.plane.toWorkload with } rfl

theorem undone_refused {clock : IpClock} {limits : IpLimits} {ip : String}
    (h : (s.ipRecords.acquireIpSlot limits ip clock).1 = false) :
    Undone s (s.ipRecords.acquireIpSlot limits ip clock).2 := by
  intro _ other
  rw [IpRecords.active_acquireIpSlot limits clock |>.2 other]
  simp [h]

/-- A slot that is released at once leaves the counts as they were. -/
theorem undone_released {clock : IpClock} {limits : IpLimits} {ip : String} (now : Int)
    (h : (s.ipRecords.acquireIpSlot limits ip clock).1 = true) :
    Undone s ((s.ipRecords.acquireIpSlot limits ip clock).2.releaseIpSlot ip now) := by
  intro hnonneg other
  have hactive : ∀ other, (s.ipRecords.acquireIpSlot limits ip clock).2.active other =
      s.ipRecords.active other +
        if other = ip ∧ (s.ipRecords.acquireIpSlot limits ip clock).1 = true then 1 else 0 :=
    (IpRecords.active_acquireIpSlot limits clock).2
  have hnow := hnonneg ip
  rw [IpRecords.active_releaseIpSlot]
  split_ifs with hother
  · subst hother
    rw [hactive other, h]
    simp only [and_self, if_true]
    omega
  · rw [hactive other, if_neg (by simp [hother]), add_zero]

/-- A surfaced session is refused, or registered once every check has passed. -/
theorem acceptSession_cases (deps : RuntimeDependencies) (s : RuntimeState) (offer : SessionOffer) :
    (∃ records, Undone s records ∧
      Easing deps.options { s with ipRecords := records } (acceptSession deps s offer)) ∨
    ∃ readers r budget, Surfaces deps s offer ∧
      s.plane.handlerBudget.reserve = some (r, budget) ∧
      acceptSession deps s offer = registerSession deps { s with ipRecords :=
        (s.ipRecords.acquireIpSlot (ipLimits deps) offer.session.ipAddress offer.clock).2 }
          offer readers r budget := by
  have hsame : Undone s s.ipRecords := fun _ _ => rfl
  unfold acceptSession
  simp only
  by_cases hgate : s.lifecycle.acceptingSessions = false ∨ offer.driverRunning = false
  · rw [if_pos hgate]
    exact Or.inl ⟨s.ipRecords, hsame, easing_refuse _ _ _ _⟩
  · rw [if_neg hgate]
    by_cases hpath : deps.registry.hasPath offer.session.path = false
    · rw [if_pos hpath]
      exact Or.inl ⟨s.ipRecords, hsame, easing_refuse _ _ _ _⟩
    · rw [if_neg hpath]
      cases hvalid : offer.session.validateSession deps.options deps.parseURL
          s.outstandingSessions.length (s.sessions.map Prod.fst) with
      | some rejection => exact Or.inl ⟨s.ipRecords, hsame, easing_refuse _ _ _ _⟩
      | none =>
        have hrefused : (s.ipRecords.acquireIpSlot (ipLimits deps) offer.session.ipAddress
          offer.clock).1 = false → _ := undone_refused
        have hreleased : (s.ipRecords.acquireIpSlot (ipLimits deps) offer.session.ipAddress
          offer.clock).1 = true → _ := undone_released offer.now
        generalize hslot : s.ipRecords.acquireIpSlot (ipLimits deps) offer.session.ipAddress
          offer.clock = acquired at hrefused hreleased
        obtain ⟨granted, records⟩ := acquired
        cases granted with
        | false => exact Or.inl ⟨records, hrefused rfl, easing_refuse _ _ _ _⟩
        | true =>
          cases hreserve : s.plane.handlerBudget.reserve with
          | none =>
            have hcount : Easing deps.options
                { s with ipRecords := records.releaseIpSlot offer.session.ipAddress offer.now }
                { s with
                  ipRecords := records.releaseIpSlot offer.session.ipAddress offer.now
                  plane := { s.plane with rejectedHandlers := s.plane.rejectedHandlers + 1 } } :=
              easing_plane (.single .refuseAdmission) (.refl _) fun _ => Or.inl rfl
            exact Or.inl ⟨_, hreleased rfl, hcount.trans (easing_refuse _ _ _ _)⟩
          | some reservation =>
            obtain ⟨r, budget⟩ := reservation
            cases hreaders : reserveIncomingReaders deps offer with
            | none =>
              have hreturn : Easing deps.options
                  { s with ipRecords := records.releaseIpSlot offer.session.ipAddress offer.now }
                  (setLoad
                    { s with
                      ipRecords := records.releaseIpSlot offer.session.ipAddress offer.now }
                    { s.plane.toWorkload with handlerBudget := budget.release r }) :=
                easing_returnReservation hreserve
              exact Or.inl ⟨_, hreleased rfl, hreturn.trans (easing_refuse _ _ _ _)⟩
            | some readers =>
              refine Or.inr ⟨readers, r, budget, ?_, rfl, rfl⟩
              exact {
                accepting := by simpa using (not_or.mp hgate).1
                driverRunning := by simpa using (not_or.mp hgate).2
                path := by simpa using hpath
                valid := hvalid
                slot := by rw [hslot]
                budget := by rw [hreserve]; rfl
                readers := by rw [hreaders]; rfl }

/-- Acquiring a permit touches no other work. -/
theorem acquire_work_of_ne {l : Workload} {aborted : Bool} {v : Nat} (hv : v ≠ w) :
    (l.acquire w aborted).work v = l.work v := by
  unfold Workload.acquire
  generalize l.handlerBudget.acquire w aborted = result
  obtain ⟨outcome, b⟩ := result
  cases outcome with
  | granted => exact Function.update_of_ne hv _ _
  | waiting => exact Function.update_of_ne hv _ _
  | rejected => exact Function.update_of_ne hv _ _

theorem runAdmission_old (l : Workload) (k r : Nat) (aborted : Bool) {v : Nat}
    (hv : v < l.workCount) : (l.runAdmission k r aborted).work v = l.work v :=
  (acquire_work_of_ne (Nat.ne_of_lt hv)).trans (Function.update_of_ne (Nat.ne_of_lt hv) _ _)

theorem runAdmission_new (l : Workload) (k r : Nat) (aborted : Bool) :
    ((l.runAdmission k r aborted).work l.workCount).owner = k ∧
      ((l.runAdmission k r aborted).work l.workCount).kind = .admission ∧
      ((l.runAdmission k r aborted).work l.workCount).byteLength =
        ((l.runAdmission k r aborted).work l.workCount).charged := by
  obtain ⟨hkept, -⟩ := (Workload.moves_runAdmission l k r aborted).work l.workCount
  rw [hkept]
  simp [Workload.allocate]

/-- A session whose signal is aborted already enters without admission work. -/
theorem opens_aborted {reason : Failure} (records : IpRecords)
    (haborted : offer.aborted = some reason)
    (hr : s.plane.handlerBudget.reserve = some (r, budget)) :
    Opens deps.options offer readers s
      (update (manage deps (setLoad { s with ipRecords := records }
        { s.plane.toWorkload with handlerBudget := budget.release r }) offer.session readers
          offer.now) s.plane.managedCount
        ({ · with sessionAborted := true, context := some reason })) := by
  have hreturn : Easing deps.options s
      (setLoad s { s.plane.toWorkload with handlerBudget := budget.release r }) :=
    easing_returnReservation hr
  exact {
    plane := hreturn.plane.tail .openSession
    managedCount := rfl
    workCount := by simp [haborted]; rfl
    old := fun _ _ => rfl
    fresh := fun w hle hlt => absurd hlt (Nat.not_lt.mpr hle)
    scheduler := fun j hj => Function.update_of_ne hj _ _
    opened := by
      simp [update, manage, setLoad, DataPlane.openSession, Workload.openSession,
        BoundedTaskScheduler.new]
    managed := by simp [update, manage, setLoad, newcomer, haborted]
    sessions := rfl
    outstanding := rfl
    acceptedSessions := rfl
    closeCalls := rfl
    stopCalls := rfl
    stopPhase := rfl }

/-- A session whose signal is not aborted enters with its admission work. -/
theorem opens_startAdmission (records : IpRecords) (haborted : offer.aborted = none)
    (hr : s.plane.handlerBudget.reserve = some (r, budget)) :
    Opens deps.options offer readers s
      (startAdmission (manage deps (setLoad { s with ipRecords := records }
        { s.plane.toWorkload with handlerBudget := budget }) offer.session readers offer.now)
          s.plane.managedCount r) := by
  have hrun : Workload.Internal (s.plane.openSession deps.options offer.now).toWorkload
      ({ (s.plane.openSession deps.options offer.now).toWorkload with
        handlerBudget := budget }.runAdmission s.plane.managedCount r false) :=
    .runAdmission (Nat.lt_succ_self _) hr
  have hmoves := Workload.moves_runAdmission
    { (s.plane.openSession deps.options offer.now).toWorkload with handlerBudget := budget }
    s.plane.managedCount r false
  have hopen : DataPlane.Evolves deps.options s.plane
      (s.plane.openSession deps.options offer.now) := .single .openSession
  have hevolves := hopen.tail (.internal hrun)
  exact {
    plane := hevolves
    managedCount := hmoves.managedCount
    workCount := by
      rw [if_pos haborted]
      exact hmoves.workCount
    old := fun w hw => runAdmission_old _ _ _ _ hw
    fresh := fun w hle hlt => by
      have hcount : w < s.plane.workCount + 1 := hlt.trans_eq hmoves.workCount
      obtain rfl : w = s.plane.workCount := by omega
      exact runAdmission_new _ _ _ _
    scheduler := fun j hj => by
      refine (congrFun hmoves.scheduler j).trans ?_
      exact Function.update_of_ne hj _ _
    opened := by
      refine (congrArg BoundedTaskScheduler.accepting
        (congrFun hmoves.scheduler s.plane.managedCount)).trans ?_
      simp [Workload.allocate, DataPlane.openSession, Workload.openSession,
        BoundedTaskScheduler.new]
    managed := by
      simp [startAdmission, update, manage, setLoad, newcomer, haborted, DataPlane.openSession,
        Workload.openSession]
    sessions := rfl
    outstanding := rfl
    acceptedSessions := by simp only [startAdmission, update, manage, setLoad]
    closeCalls := by simp only [startAdmission, update, manage, setLoad]
    stopCalls := by simp only [startAdmission, update, manage, setLoad]
    stopPhase := by simp only [startAdmission, update, manage, setLoad] }

/-! ### The kinds of steps -/

/-- A pump or the drain loop of the session has started. -/
def Intakes (m : ManagedSession) : Prop :=
  m.datagramPump ≠ .idle ∨ m.drain ≠ .idle ∨ ∃ kind, m.streamPump kind ≠ .idle

/-- `acceptSession` past its last check: the session counts as accepted. -/
def accepted (s : RuntimeState) (k : Nat) : RuntimeState :=
  update { s with acceptedSessions := s.acceptedSessions + 1 } k ({ · with accept := .accepted })

/-- The steps in which the admission work of session `k` goes on. -/
inductive Admits (deps : RuntimeDependencies) (s : RuntimeState) (k : Nat) :
    RuntimeEvent → RuntimeState → Prop
  | authenticated {result : Except Failure Principal}
      (hstage : (s.managed k).stage = .authenticating) :
      Admits deps s k (.authenticateSettled k result) (authenticateSettled deps s k result)
  | pipeline {event : PipelineEvent} (hready : isPipelineReady deps s k event = true) :
      Admits deps s k (.pipeline k event) (pipelineStep deps s k event)
  | returned {index : Nat} (hstage : (s.managed k).stage = .invoked index) :
      Admits deps s k (.handlerReturned k) (handlerReturned deps s k index)
  | resumed {w : Nat} {rest : List Nat} (hresumes : s.plane.resumes = w :: rest)
      (howner : (s.plane.work w).owner = k) :
      Admits deps s k .resumeTask (resumeTask deps s)

/-- What one step does, by the party that takes it. -/
inductive Turn (deps : RuntimeDependencies) (s : RuntimeState) : RuntimeEvent → RuntimeState → Prop
  | closing {e : RuntimeEvent} {t : RuntimeState} (h : Closing deps.options s t) : Turn deps s e t
  | refused {offer : SessionOffer} {records : IpRecords} {t : RuntimeState}
      (hrecords : Undone s records) (h : Easing deps.options { s with ipRecords := records } t) :
      Turn deps s (.surfaced offer) t
  | opened {offer : SessionOffer} {readers : Bool × Bool × Bool} {u t : RuntimeState}
      (hchecks : Surfaces deps s offer) (hopen : Opens deps.options offer readers s u)
      (hrecords : u.ipRecords =
        (s.ipRecords.acquireIpSlot (ipLimits deps) offer.session.ipAddress offer.clock).2)
      (h : Closing deps.options u t) : Turn deps s (.surfaced offer) t
  | admitting {e : RuntimeEvent} {k : Nat} {t : RuntimeState} (hk : k < s.plane.managedCount)
      (hadmits : Admits deps s k e t) (h : Admitting deps.options k s t) (hwork : Attended k s t) :
      Turn deps s e t
  | observed {k : Nat} (hk : k < s.plane.managedCount) (hadmission : (s.managed k).admission = true)
      (hsettled : isAdmissionSettled s k = true) :
      Turn deps s (.admissionObserved k) (admissionObserved s k)
  | returned {k : Nat} {t : RuntimeState} (hk : k < s.plane.managedCount)
      (hrace : AcceptPhase.raceOver (s.managed k).accept = true)
      (h : Closing deps.options (update s k ({ · with accept := .returned })) t) :
      Turn deps s (.continueAdmission k) t
  | accepted {k : Nat} {t : RuntimeState} (hk : k < s.plane.managedCount)
      (hrace : (s.managed k).accept = .raceFulfilled)
      (hopen : (s.managed k).isIntakeOver = false) (hrunning : s.lifecycle.state = .running)
      (h : Launching deps.options k (accepted s k) t) : Turn deps s (.continueAdmission k) t
  | retired {k : Nat} {now : Int} (hk : k < s.plane.managedCount)
      (hready : isRetirementReady s k = true) : Turn deps s (.retired k now) (retired s k now)
  | detached {w : Nat} (hw : w < s.plane.workCount) (hp : (s.plane.work w).phase ≠ .settled) :
      Turn deps s (.detached w) (setLoad s (s.plane.toWorkload.detach w))
  | ended {w : Nat} {failure : Option Failure} (hw : w < s.plane.workCount)
      (hp : (s.plane.work w).phase = .running) (hover : isRunOver s w failure = true) :
      Turn deps s (.runEnded w failure) (runEnded s w failure)
  | pumping {e : RuntimeEvent} {k : Nat} {t : RuntimeState} (hk : k < s.plane.managedCount)
      (hactive : Intakes (s.managed k)) (h : Faltering deps.options k s t) : Turn deps s e t

theorem sound_update (hs : Sound s) (f : ManagedSession → ManagedSession) : Sound (update s k f) :=
  { hs with }

theorem Faltering.sound (h : Faltering options k s t) (hs : Sound s) : Sound t := by
  obtain ⟨u, hpump, hease⟩ := h
  exact hease.sound (hpump.sound hs)

theorem Faltering.plane (h : Faltering options k s t) :
    DataPlane.Evolves options s.plane t.plane := by
  obtain ⟨u, hpump, hease⟩ := h
  exact hpump.plane.trans hease.plane

theorem retired_plane (s : RuntimeState) (k : Nat) (now : Int) :
    (retired s k now).plane = s.plane := by
  unfold retired
  simp only
  split_ifs <;> rfl

theorem internal_runEnded (failure : Option Failure) (hw : w < s.plane.workCount)
    (hp : (s.plane.work w).phase = .running) :
    Workload.Internal s.plane.toWorkload (runEnded s w failure).plane.toWorkload := by
  refine .finishRun hw hp ?_
  cases failure with
  | none => exact Or.inl rfl
  | some error => exact Or.inr ⟨error, rfl⟩

theorem Turn.plane (h : Turn deps s e t) : DataPlane.Evolves deps.options s.plane t.plane := by
  cases h with
  | closing h => exact h.plane
  | refused hrecords h => exact h.plane
  | opened hchecks hopen hrecords h => exact hopen.plane.trans h.plane
  | admitting hk hadmits h hwork => exact h.plane
  | observed hk hadmission hsettled => exact .refl
  | returned hk hrace h => exact h.plane
  | accepted hk hrace hopen hrunning h => exact h.plane
  | retired hk hready =>
    rw [retired_plane]
  | detached hw hp => exact .single (.detach hw hp)
  | ended hw hp hover => exact .single (.internal (internal_runEnded _ hw hp))
  | pumping hk hactive h => exact h.plane

/-- Every turn keeps the server sound. -/
theorem Turn.sound (h : Turn deps s e t) (hs : Sound s) : Sound t := by
  cases h with
  | closing h => exact h.sound hs
  | refused hrecords h => exact h.sound { hs with }
  | opened hchecks hopen hrecords h => exact h.sound (hopen.sound hs)
  | admitting hk hadmits h hwork => exact h.sound hs
  | observed hk hadmission hsettled => exact sound_update hs _
  | returned hk hrace h => exact h.sound (sound_update hs _)
  | accepted hk hrace hopen hrunning h => exact h.sound { hs with }
  | @retired k now hk hready =>
    unfold WebTransportRuntime.retired
    simp only
    split_ifs
    · exact { hs with outstanding := fun j hj => hs.outstanding j (List.mem_of_mem_erase hj) }
    · exact sound_update hs _
  | detached hw hp =>
    exact { hs with accounted := Workload.accounted_detach hs.accounted }
  | @ended w failure hw hp hover =>
    have hinternal := internal_runEnded failure hw hp
    have hcount := hinternal.managedCount hs.accounted.placement
    exact {
      accounted := Workload.accounted_internal hinternal hs.accounted
      outstanding := fun j hj => (hs.outstanding j hj).trans_eq hcount.symm
      sessions := fun e he => (hs.sessions e he).trans_eq hcount.symm
      stopping := hs.stopping }
  | pumping hk hactive h => exact h.sound hs

/-! ### Every step is of one of these kinds -/

/-- A surfaced session is refused, or it passed every check and became managed. -/
theorem surfaced_opens (hs : Sound s) :
    (∃ records, Undone s records ∧
      Easing deps.options { s with ipRecords := records } (acceptSession deps s offer)) ∨
    ∃ readers u, Surfaces deps s offer ∧ Opens deps.options offer readers s u ∧
      u.ipRecords =
        (s.ipRecords.acquireIpSlot (ipLimits deps) offer.session.ipAddress offer.clock).2 ∧
      Closing deps.options u (acceptSession deps s offer) := by
  obtain ⟨records, hrecords, h⟩ | ⟨readers, r, budget, hchecks, hr, heq⟩ :=
    acceptSession_cases deps s offer
  · exact Or.inl ⟨records, hrecords, h⟩
  · rw [heq]
    unfold registerSession
    simp only
    split
    · rename_i reason haborted
      have hopen : Opens deps.options offer readers s _ := opens_aborted
        (s.ipRecords.acquireIpSlot (ipLimits deps) offer.session.ipAddress offer.clock).2
        haborted hr
      refine Or.inr ⟨readers, _, hchecks, hopen, rfl,
        closing_finalizeSession (hopen.sound hs) ?_ reason⟩
      rw [hopen.managedCount]
      exact Nat.lt_succ_self _
    · rename_i haborted
      exact Or.inr ⟨readers, _, hchecks, opens_startAdmission _ haborted hr, rfl, .refl _⟩

theorem turn_surfaced (hs : Sound s) :
    Turn deps s (.surfaced offer) (acceptSession deps s offer) := by
  rcases surfaced_opens hs with
    ⟨records, hrecords, h⟩ | ⟨readers, u, hchecks, hopen, hrecords, h⟩
  · exact .refused hrecords h
  · exact .opened hchecks hopen hrecords h

/-- A pump of session `k` steps only where it has been started. -/
theorem pump_enabled (h : enabled deps s e = true) (hpump : e.pump = some k) :
    k < s.plane.managedCount ∧ Intakes (s.managed k) := by
  cases e <;> cases hpump
  all_goals simp only [enabled, Bool.and_eq_true, decide_eq_true_eq] at h
  case datagramRead => exact ⟨h.1, Or.inl (by simp [h.2])⟩
  case datagramsDone => exact ⟨h.1, Or.inl (by simp [h.2])⟩
  case datagramReadFailed => exact ⟨h.1, Or.inl (by simp [h.2])⟩
  case datagramPumpClosed => exact ⟨h.1, Or.inl (by simp [h.2])⟩
  case drainResumed => exact ⟨h.1.1, Or.inr (Or.inl (by simp [h.1.2]))⟩
  case drainContinued => exact ⟨h.1, Or.inr (Or.inl (by simp [h.2]))⟩
  case streamResumed kind => exact ⟨h.1.1, Or.inr (Or.inr ⟨kind, by simp [h.1.2]⟩)⟩
  case streamRead kind aborted => exact ⟨h.1, Or.inr (Or.inr ⟨kind, by simp [h.2]⟩)⟩
  case streamsDone kind => exact ⟨h.1, Or.inr (Or.inr ⟨kind, by simp [h.2]⟩)⟩
  case streamReadFailed kind error => exact ⟨h.1, Or.inr (Or.inr ⟨kind, by simp [h.2]⟩)⟩
  case streamRefused kind failure => exact ⟨h.1, Or.inr (Or.inr ⟨kind, by simp [h.2]⟩)⟩
  case streamDiscarded kind failure => exact ⟨h.1, Or.inr (Or.inr ⟨kind, by simp [h.2]⟩)⟩
  case streamSubmitted kind => exact ⟨h.1, Or.inr (Or.inr ⟨kind, by simp [h.2]⟩)⟩
  case streamPumpClosed kind => exact ⟨h.1, Or.inr (Or.inr ⟨kind, by simp [h.2]⟩)⟩

/-- What a step of the pumps of session `k` does. -/
theorem faltering_step (hs : Sound s) (h : Step deps s e t) (hpump : e.pump = some k) :
    Faltering deps.options k s t := by
  obtain ⟨henabled, rfl⟩ := h
  have hk := (pump_enabled henabled hpump).1
  cases e <;> cases hpump
  all_goals simp only [enabled, Bool.and_eq_true, decide_eq_true_eq] at henabled
  case datagramRead n now => exact (pumping_datagramRead hk henabled.2 n now).faltering
  case datagramsDone => exact pumping_endDatagramPump.faltering
  case datagramReadFailed error => exact faltering_datagramReadFailed hs henabled.2 error
  case datagramPumpClosed => exact pumping_endDatagramPump.faltering
  case drainResumed => exact (pumping_drainResumed hk henabled.1.2).faltering
  case drainContinued => exact (pumping_drainLoop (Or.inl (by rw [henabled.2]; rfl))).faltering
  case streamResumed kind => exact (pumping_streamResumed henabled.1.2).faltering
  case streamRead kind aborted => exact (pumping_streamRead hk henabled.2 aborted).faltering
  case streamsDone kind => exact (pumping_endStreamPump true).faltering
  case streamReadFailed kind error =>
    exact faltering_streamPumpFailed hs (by rw [henabled.2]; rfl) error
  case streamRefused kind failure => exact faltering_streamRefused hs henabled.2 failure
  case streamDiscarded kind failure => exact faltering_streamDiscarded hs henabled.2 failure
  case streamSubmitted kind => exact (pumping_streamLoop (by rw [henabled.2]; rfl)).faltering
  case streamPumpClosed kind => exact (pumping_endStreamPump false).faltering

theorem turn_pump (hs : Sound s) (h : Step deps s e t) (hpump : e.pump = some k) :
    Turn deps s e t :=
  .pumping (pump_enabled h.1 hpump).1 (pump_enabled h.1 hpump).2 (faltering_step hs h hpump)

/-- A turn that submits no work. -/
structure Settles (deps : RuntimeDependencies) (s : RuntimeState) (e : RuntimeEvent)
    (t : RuntimeState) : Prop where
  turn : Turn deps s e t
  workCount : t.plane.workCount = s.plane.workCount

theorem Settles.closing (h : Closing deps.options s t) : Settles deps s e t :=
  ⟨.closing h, h.steady.workCount⟩

theorem Settles.admitting (hk : k < s.plane.managedCount) (hadmits : Admits deps s k e t)
    (h : Admitting deps.options k s t) (hwork : Attended k s t) : Settles deps s e t :=
  ⟨.admitting hk hadmits h hwork, h.steady.workCount⟩

theorem moves_runEnded (hs : Sound s) (hp : (s.plane.work w).phase = .running)
    (failure : Option Failure) :
    Workload.Moves s.plane.toWorkload (runEnded s w failure).plane.toWorkload := by
  refine Workload.moves_finish hs.accounted.placement hp ?_
  cases failure with
  | none => exact Or.inl rfl
  | some error => exact Or.inr ⟨error, rfl⟩

/-- An acceptance whose race is over settles: the session is accepted, or its `acceptSession`
returns. -/
theorem settles_continueAdmission (hk : k < s.plane.managedCount)
    (hs : Sound s) (hrace : AcceptPhase.raceOver (s.managed k).accept = true) :
    Settles deps s (.continueAdmission k) (continueAdmission s k) := by
  have hreturned : ∀ t, Closing deps.options (update s k ({ · with accept := .returned })) t →
      Settles deps s (.continueAdmission k) t :=
    fun _ h => ⟨.returned hk hrace h, h.steady.workCount⟩
  unfold continueAdmission
  split
  · refine hreturned _ (Easing.closing ?_)
    exact ⟨{ (Winding.refl _ : Winding deps.options _ _) with
      closeCalls := List.prefix_append _ _ }, fun _ => .refl _, rfl⟩
  · rename_i hfulfilled
    simp only
    split_ifs with haborted hclosed
    · exact hreturned _ (closing_finalizeSession (sound_update hs _) hk _)
    · exact hreturned _ (.refl _)
    · obtain ⟨hintake, hrunning⟩ := not_or.mp hclosed
      have hlaunch : Launching deps.options k (accepted s k) (startPumps (accepted s k) k) :=
        launching_startPumps
      refine ⟨.accepted hk hfulfilled ?_ (not_not.mp hrunning) hlaunch, hlaunch.steady.workCount⟩
      simp [ManagedSession.isIntakeOver, haborted, hintake]
  · exact .closing (.refl s)

/-- Only surfaced sessions and pumps bring work. -/
theorem settles_step (hs : Sound s) (h : Step deps s e t) (hpump : e.pump = none)
    (hsurfaced : ∀ offer, e ≠ .surfaced offer) : Settles deps s e t := by
  obtain ⟨henabled, rfl⟩ := h
  cases e with
  | bootstrap =>
    refine .closing (Easing.closing ?_)
    simp only [next]
    unfold onApplicationBootstrap
    split_ifs
    · exact .refl s
    · exact .refl s
    · exact easing_control rfl rfl rfl rfl rfl le_rfl rfl rfl (Or.inl rfl)
    · exact easing_control rfl rfl rfl rfl rfl le_rfl rfl rfl (Or.inl rfl)
  | driverStarted i succeeded =>
    refine .closing (Easing.closing ?_)
    simp only [next]
    unfold driverStarted
    simp only
    split
    · exact easing_control rfl rfl rfl rfl rfl le_rfl rfl rfl (Or.inl rfl)
    · exact easing_control rfl rfl rfl rfl rfl le_rfl rfl rfl (Or.inl rfl)
  | startCleared i =>
    refine .closing (Easing.closing ?_)
    exact easing_control rfl rfl rfl rfl rfl le_rfl rfl rfl (Or.inl rfl)
  | stop => exact .closing (easing_stop hs).closing
  | drainEnded =>
    have hphase : s.stopPhase = .draining := by simpa [enabled] using henabled
    exact .closing (easing_drainEnded hs (by simp [hphase])).closing
  | startCancelled =>
    have hphase : s.stopPhase = .cancellingStart := by simpa [enabled] using henabled
    exact .closing (easing_closeSessions (hs.stopping (by simp [hphase]))).closing
  | sessionsClosed =>
    have hphase : s.stopPhase = .closingSessions := by simpa [enabled] using henabled
    refine .closing (Easing.closing ?_)
    exact easing_control rfl rfl rfl rfl rfl le_rfl rfl rfl
      (Or.inr (Or.inr (hs.stopping (by simp [hphase]))))
  | driverStopped result =>
    have hphase : s.stopPhase = .stoppingDriver := by simpa [enabled] using henabled
    exact .closing (closing_driverStopped hs (by simp [hphase]) result)
  | stopCleared =>
    refine .closing (Easing.closing ?_)
    exact easing_control rfl rfl rfl rfl rfl le_rfl rfl rfl (Or.inr (Or.inl rfl))
  | surfaced offer => exact absurd rfl (hsurfaced offer)
  | sessionAborted k reason =>
    simp only [enabled, Bool.and_eq_true, decide_eq_true_eq] at henabled
    exact .closing (closing_sessionAborted hs henabled.1 reason)
  | idleTimeout k => exact .closing (easing_closeSession .timeout "Session idle timeout").closing
  | handshakeTimeout k => exact .closing (easing_handshakeTimeout hs).closing
  | continueAdmission k =>
    simp only [enabled, Bool.and_eq_true, decide_eq_true_eq] at henabled
    exact settles_continueAdmission henabled.1 hs henabled.2
  | authenticateSettled k result =>
    simp only [enabled, Bool.and_eq_true, decide_eq_true_eq] at henabled
    exact .admitting henabled.1 (.authenticated henabled.2) (admitting_authenticateSettled result)
      (Or.inl (by rw [henabled.2]; rfl))
  | pipeline k event =>
    simp only [enabled, Bool.and_eq_true, decide_eq_true_eq] at henabled
    refine .admitting henabled.1 (.pipeline henabled.2) (admitting_pipelineStep event) (Or.inl ?_)
    have hready := henabled.2
    unfold isPipelineReady at hready
    split at hready
    · rename_i hstage
      rw [hstage]
      rfl
    · cases hready
  | handlerReturned k =>
    simp only [enabled, Bool.and_eq_true, decide_eq_true_eq] at henabled
    obtain ⟨hk, hready⟩ := henabled
    cases hstage : (s.managed k).stage with
    | invoked index =>
      have hnext : next deps s (.handlerReturned k) = handlerReturned deps s k index := by
        simp [next, handlerResumed, hstage]
      rw [hnext]
      exact .admitting hk (.returned hstage) (admitting_handlerReturned index)
        (Or.inl (by rw [hstage]; rfl))
    | queued => simp [hstage] at hready
    | authenticating => simp [hstage] at hready
    | invoking index phase => simp [hstage] at hready
    | fulfilled => simp [hstage] at hready
    | rejected error => simp [hstage] at hready
  | admissionObserved k =>
    simp only [enabled, Bool.and_eq_true, decide_eq_true_eq] at henabled
    exact ⟨.observed henabled.1.1 henabled.1.2 henabled.2, rfl⟩
  | retired k now =>
    simp only [enabled, Bool.and_eq_true, decide_eq_true_eq] at henabled
    refine ⟨.retired henabled.1 henabled.2, ?_⟩
    rw [next, retired_plane]
  | callTask => exact .closing (easing_callTask hs).closing
  | resumeTask =>
    have hresumes : s.plane.resumes ≠ [] := by simpa [enabled] using henabled
    obtain ⟨w, rest, hr⟩ := List.exists_cons_of_ne_nil hresumes
    obtain ⟨hk, hgoes, hwork⟩ := admitting_resumeTask hs hr
    exact .admitting hk (.resumed hr rfl) hgoes hwork
  | taskError w error => exact .closing (easing_handleRuntimeError hs error).closing
  | runEnded w failure =>
    simp only [enabled, Bool.and_eq_true, decide_eq_true_eq] at henabled
    exact ⟨.ended henabled.1.1 henabled.1.2 henabled.2,
      (moves_runEnded hs henabled.1.2 failure).workCount⟩
  | errorObserved w =>
    simp only [enabled, Bool.and_eq_true, decide_eq_true_eq] at henabled
    exact .closing (easing_errorObserved hs henabled.1).closing
  | settled w =>
    have hw : w < s.plane.workCount ∧ (s.plane.work w).phase = .finishing := by
      simpa [enabled] using henabled
    exact .closing (easing_settled hs hw.1 hw.2).closing
  | detached w =>
    simp only [enabled, Bool.and_eq_true, decide_eq_true_eq] at henabled
    exact ⟨.detached henabled.1.1 (by simpa using henabled.2), rfl⟩
  | datagramRead k byteLength now => cases hpump
  | datagramsDone k => cases hpump
  | datagramReadFailed k error => cases hpump
  | datagramPumpClosed k => cases hpump
  | drainResumed k => cases hpump
  | drainContinued k => cases hpump
  | streamResumed k kind => cases hpump
  | streamRead k kind aborted => cases hpump
  | streamsDone k kind => cases hpump
  | streamReadFailed k kind error => cases hpump
  | streamRefused k kind failure => cases hpump
  | streamDiscarded k kind failure => cases hpump
  | streamSubmitted k kind => cases hpump
  | streamPumpClosed k kind => cases hpump
  | streamAborted i => exact .closing (easing_releaseStream i).closing

/-- What a step may do to the parts of the server, one case per event; later invariants are derived
from it. -/
theorem turn_of_step (hs : Sound s) (h : Step deps s e t) : Turn deps s e t := by
  cases hpump : e.pump with
  | some k => exact turn_pump hs h hpump
  | none =>
    by_cases hsurfaced : ∃ offer, e = .surfaced offer
    · obtain ⟨offer, rfl⟩ := hsurfaced
      obtain ⟨-, rfl⟩ := h
      exact turn_surfaced hs
    · exact (settles_step hs h hpump fun offer he => hsurfaced ⟨offer, he⟩).turn

end WebTransportRuntime

end NestWebTransport
