import NestWebTransport.Server.RuntimeControl
import NestWebTransport.Server.RuntimeSessions

/-! What the pumps of a session see of it, and what closing leaves of that. -/
namespace NestWebTransport

/-- What the pumps and the drain loop of one session act on. -/
structure Intake where
  scheduler : BoundedTaskScheduler Nat Waiter
  queue : List Datagram
  received : Nat
  sessionAborted : Bool
  intakeAborted : Bool
  datagramPump : DatagramPump
  drain : DrainLoop
  streamPump : StreamKind → StreamPump

def RuntimeState.intake (s : RuntimeState) (k : Nat) : Intake where
  scheduler := s.plane.scheduler k
  queue := s.plane.queue k
  received := (s.plane.history k).received
  sessionAborted := (s.managed k).sessionAborted
  intakeAborted := (s.managed k).intakeAborted
  datagramPump := (s.managed k).datagramPump
  drain := (s.managed k).drain
  streamPump := (s.managed k).streamPump

namespace BoundedTaskScheduler

variable {s t u : BoundedTaskScheduler Nat Waiter}

/-- Nobody has come to wait for capacity, and nobody still waits for capacity that has come. -/
structure Calms (s t : BoundedTaskScheduler Nat Waiter) : Prop where
  waiters : t.capacityWaiters = [] ∨
    t.capacityWaiters = s.capacityWaiters ∧ (t.hasCapacity = true → s.hasCapacity = true)
  accepting : t.accepting = true → s.accepting = true

theorem Calms.refl (s : BoundedTaskScheduler Nat Waiter) : Calms s s :=
  ⟨Or.inr ⟨rfl, id⟩, id⟩

theorem Calms.trans (h : Calms s t) (h' : Calms t u) : Calms s u where
  waiters := by
    rcases h'.waiters with hnone | ⟨heq, hcapacity⟩
    · exact Or.inl hnone
    · rcases h.waiters with hnone | ⟨heq', hcapacity'⟩
      · exact Or.inl (heq.trans hnone)
      · exact Or.inr ⟨heq.trans heq', fun hu => hcapacity' (hcapacity hu)⟩
  accepting := fun hu => h.accepting (h'.accepting hu)

/-- Flushing leaves no waiter where there is capacity. -/
theorem flushed (s : BoundedTaskScheduler Nat Waiter) :
    s.flushWaiters.capacityWaiters = [] ∨
      s.flushWaiters.capacityWaiters = s.capacityWaiters ∧ s.flushWaiters.hasCapacity = false := by
  have hsame : s.flushWaiters.hasCapacity = s.hasCapacity := rfl
  rw [hsame]
  unfold flushWaiters
  cases hcapacity : s.hasCapacity with
  | true => exact Or.inl (by simp)
  | false =>
    cases haccepting : s.accepting with
    | true => exact Or.inr ⟨by simp, rfl⟩
    | false => exact Or.inl (by simp)

theorem calms_flush (hwaiters : s.capacityWaiters = t.capacityWaiters)
    (haccepting : s.accepting = true → t.accepting = true) : Calms t s.flushWaiters where
  waiters := by
    rcases s.flushed with hnone | ⟨heq, hfull⟩
    · exact Or.inl hnone
    · exact Or.inr ⟨heq.trans hwaiters,
        fun hcapacity => by rw [hfull] at hcapacity; cases hcapacity⟩
  accepting := haccepting

theorem calms_close (s : BoundedTaskScheduler Nat Waiter) (discardPending : Bool) :
    Calms s (s.close discardPending).2 where
  waiters := Or.inl (by simp [close, flushWaiters])
  accepting := fun h => by simp [close] at h

theorem calms_onIdle (s : BoundedTaskScheduler Nat Waiter) (waiter : Waiter) :
    Calms s (s.onIdle waiter) := by
  unfold onIdle
  split_ifs
  · exact .refl s
  · exact ⟨Or.inr ⟨rfl, id⟩, id⟩

theorem calms_abort (s : BoundedTaskScheduler Nat Waiter) : Calms s s.abortCapacityWaiters :=
  ⟨Or.inl rfl, id⟩

/-- The `finally` of a task frees a place and fills it or wakes who waited for it. -/
theorem calms_leave (s : BoundedTaskScheduler Nat Waiter) : Calms s s.leave.promote.2 := by
  unfold promote
  split
  · exact calms_flush rfl id
  · exact calms_flush rfl id

end BoundedTaskScheduler

namespace Intake

variable {i j l : Intake}

/-- `managed.session.signal.aborted || managed.intakeController.signal.aborted`. -/
def isOver (i : Intake) : Bool := i.sessionAborted || i.intakeAborted

/-- Nothing was taken in; closing may have ended the intake, and then has closed it entirely. -/
structure Quiet (i j : Intake) : Prop where
  calms : i.scheduler.Calms j.scheduler
  closes : j.scheduler.accepting = false → i.scheduler.accepting = false ∨ j.intakeAborted = true
  queue : j.queue = i.queue ∨ j.queue = []
  received : j.received = i.received
  sessionAborted : i.sessionAborted = true → j.sessionAborted = true
  intakeAborted : i.intakeAborted = true → j.intakeAborted = true
  shut : j.intakeAborted = true →
    i.intakeAborted = true ∨ j.scheduler.accepting = false ∧ j.queue = []
  ended : j.sessionAborted = true → i.sessionAborted = true ∨ j.intakeAborted = true
  datagramPump : j.datagramPump = i.datagramPump
  drain : j.drain = i.drain
  streamPump : j.streamPump = i.streamPump

theorem Quiet.refl (i : Intake) : Quiet i i where
  calms := .refl _
  closes := Or.inl
  queue := Or.inl rfl
  received := rfl
  sessionAborted := id
  intakeAborted := id
  shut := Or.inl
  ended := Or.inl
  datagramPump := rfl
  drain := rfl
  streamPump := rfl

theorem Quiet.of_eq (h : j = i) : Quiet i j := h ▸ .refl i

/-- The session's signal has aborted, and with it the intake ended. -/
theorem Quiet.aborted (h : Quiet { i with sessionAborted := true } j)
    (hj : j.intakeAborted = true) :
    Quiet i j :=
  { h with
    sessionAborted := fun _ => h.sessionAborted rfl
    ended := fun _ => Or.inr hj }

theorem Quiet.trans (h : Quiet i j) (h' : Quiet j l) : Quiet i l where
  calms := h.calms.trans h'.calms
  closes := fun hl => by
    rcases h'.closes hl with hj | hl
    · rcases h.closes hj with hi | hj
      · exact Or.inl hi
      · exact Or.inr (h'.intakeAborted hj)
    · exact Or.inr hl
  queue := by
    rcases h'.queue with heq | hempty
    · rw [heq]
      exact h.queue
    · exact Or.inr hempty
  received := h'.received.trans h.received
  sessionAborted := fun hi => h'.sessionAborted (h.sessionAborted hi)
  intakeAborted := fun hi => h'.intakeAborted (h.intakeAborted hi)
  shut := fun hl => by
    rcases h'.shut hl with hj | hshut
    · rcases h.shut hj with hi | ⟨haccepting, hqueue⟩
      · exact Or.inl hi
      · refine Or.inr ⟨?_, ?_⟩
        · cases hl : l.scheduler.accepting with
          | false => rfl
          | true =>
            rw [h'.calms.accepting hl] at haccepting
            cases haccepting
        · rcases h'.queue with heq | hempty
          · exact heq.trans hqueue
          · exact hempty
    · exact Or.inr hshut
  ended := fun hl => by
    rcases h'.ended hl with hj | hl
    · rcases h.ended hj with hi | hj
      · exact Or.inl hi
      · exact Or.inr (h'.intakeAborted hj)
    · exact Or.inr hl
  datagramPump := h'.datagramPump.trans h.datagramPump
  drain := h'.drain.trans h.drain
  streamPump := h'.streamPump.trans h.streamPump

end Intake

namespace WebTransportRuntime

variable {options : NormalizedWebTransportModuleOptions} {deps : RuntimeDependencies}
  {s t u : RuntimeState} {k w j : Nat}

/-- Nothing is taken in, no session becomes managed, and a server that stops has ended the intake
of every session it still holds. -/
structure Quiets (s t : RuntimeState) : Prop where
  intake : ∀ k, (s.intake k).Quiet (t.intake k)
  outstanding : t.outstandingSessions ⊆ s.outstandingSessions
  halts : t.lifecycle.state = s.lifecycle.state ∨ s.lifecycle.state ≠ .running ∨
    ∀ k ∈ t.outstandingSessions, (t.managed k).intakeAborted = true

theorem Quiets.refl (s : RuntimeState) : Quiets s s := ⟨fun _ => .refl _, fun _ => id, Or.inl rfl⟩

theorem Quiets.trans (h : Quiets s t) (h' : Quiets t u) : Quiets s u where
  intake := fun k => (h.intake k).trans (h'.intake k)
  outstanding := fun k hk => h.outstanding (h'.outstanding hk)
  halts := by
    have hkept : (∀ k ∈ t.outstandingSessions, (t.managed k).intakeAborted = true) →
        ∀ k ∈ u.outstandingSessions, (u.managed k).intakeAborted = true :=
      fun hall k hk => (h'.intake k).intakeAborted (hall k (h'.outstanding hk))
    rcases h.halts with heq | hnot | hall
    · rcases h'.halts with heq' | hnot | hall
      · exact Or.inl (heq'.trans heq)
      · exact Or.inr (Or.inl (heq ▸ hnot))
      · exact Or.inr (Or.inr hall)
    · exact Or.inr (Or.inl hnot)
    · exact Or.inr (Or.inr (hkept hall))

/-- No session's intake is touched. -/
theorem Quiets.of_eq (h : ∀ k, t.intake k = s.intake k)
    (houtstanding : t.outstandingSessions = s.outstandingSessions)
    (hstate : t.lifecycle.state = s.lifecycle.state) : Quiets s t :=
  ⟨fun k => .of_eq (h k), fun _ hk => houtstanding ▸ hk, Or.inl hstate⟩

theorem quiets_foldl {α : Type*} {f : RuntimeState → α → RuntimeState} (xs : List α)
    (hf : ∀ t, Quiets s t → ∀ x ∈ xs, Quiets t (f t x)) : Quiets s (xs.foldl f s) := by
  have hmain : ∀ t, Quiets s t → ∀ ys : List α, (∀ y ∈ ys, y ∈ xs) →
      Quiets s (ys.foldl f t) := by
    intro t ht ys
    induction ys generalizing t with
    | nil => exact fun _ => ht
    | cons y ys ih =>
      intro hmem
      exact ih (f t y) (ht.trans (hf t ht y (hmem y List.mem_cons_self)))
        fun z hz => hmem z (List.mem_cons_of_mem y hz)
  exact hmain s (.refl s) xs fun _ hx => hx

/-! ### One operation after another -/

/-- What the pumps see of the session itself. -/
def pumpView (m : ManagedSession) :
    Bool × Bool × DatagramPump × DrainLoop × (StreamKind → StreamPump) :=
  (m.sessionAborted, m.intakeAborted, m.datagramPump, m.drain, m.streamPump)

theorem intake_congr (hscheduler : t.plane.scheduler j = s.plane.scheduler j)
    (hqueue : t.plane.queue j = s.plane.queue j)
    (hreceived : (t.plane.history j).received = (s.plane.history j).received)
    (hview : pumpView (t.managed j) = pumpView (s.managed j)) : t.intake j = s.intake j := by
  simp only [pumpView, Prod.mk.injEq] at hview
  obtain ⟨hsession, hintake, hpump, hdrain, hstream⟩ := hview
  simp only [RuntimeState.intake, hscheduler, hqueue, hreceived, hsession, hintake, hpump, hdrain,
    hstream]

theorem intake_update {f : ManagedSession → ManagedSession} (hj : j ≠ k) :
    (update s k f).intake j = s.intake j :=
  intake_congr rfl rfl rfl (by rw [managed_update, if_neg hj])

theorem intake_update_kept {f : ManagedSession → ManagedSession}
    (h : pumpView (f (s.managed k)) = pumpView (s.managed k)) :
    (update s k f).intake j = s.intake j :=
  intake_congr rfl rfl rfl (update_field pumpView h j)

theorem quiets_update {f : ManagedSession → ManagedSession}
    (h : pumpView (f (s.managed k)) = pumpView (s.managed k)) : Quiets s (update s k f) :=
  .of_eq (fun _ => intake_update_kept h) rfl rfl

/-- Work moves between lists. -/
theorem quiets_setLoad {load : Workload} (h : load.scheduler = s.plane.scheduler) :
    Quiets s (setLoad s load) :=
  .of_eq (fun j => intake_congr (congrFun h j) rfl rfl rfl) rfl rfl

/-- A scheduler that only calms down is quiet for the intakes. -/
theorem quiets_setScheduler {scheduler : BoundedTaskScheduler Nat Waiter}
    (hcalms : (s.plane.scheduler k).Calms scheduler)
    (haccepting : scheduler.accepting = (s.plane.scheduler k).accepting) :
    Quiets s (setScheduler s k scheduler) := by
  refine ⟨fun j => ?_, fun _ => id, Or.inl rfl⟩
  by_cases hj : j = k
  · subst hj
    have hnew : (setScheduler s j scheduler).intake j =
        { s.intake j with scheduler := scheduler } := by
      simp [RuntimeState.intake, setScheduler, setLoad, Workload.setScheduler, DataPlane.queue]
    rw [hnew]
    exact { Intake.Quiet.refl (s.intake j) with
      calms := hcalms
      closes := fun hclosed => Or.inl (haccepting ▸ hclosed)
      shut := Or.inl }
  · refine .of_eq (intake_congr ?_ rfl rfl rfl)
    simp [setScheduler, setLoad, Workload.setScheduler, hj]

theorem quiets_onIdle (waiter : Waiter) :
    Quiets s (setScheduler s k ((s.plane.scheduler k).onIdle waiter)) :=
  quiets_setScheduler (BoundedTaskScheduler.calms_onIdle _ waiter) (by simp)

theorem intake_clearDatagrams :
    (clearDatagrams s k).intake j =
      if j = k then { s.intake k with queue := [] } else s.intake j := by
  split_ifs with hj
  · subst hj
    simp [RuntimeState.intake, clearDatagrams, DataPlane.clearDatagrams, DataPlane.queue]
  · refine intake_congr rfl ?_ ?_ rfl
    · simp [clearDatagrams, DataPlane.clearDatagrams, DataPlane.queue, hj]
    · simp [clearDatagrams, DataPlane.clearDatagrams, hj]

theorem quiets_clearDatagrams : Quiets s (clearDatagrams s k) := by
  refine ⟨fun j => ?_, fun _ => id, Or.inl rfl⟩
  rw [intake_clearDatagrams]
  split_ifs with hj
  · rw [hj]
    exact { Intake.Quiet.refl (s.intake k) with
      queue := Or.inr rfl
      shut := Or.inl }
  · exact .refl _

theorem settles_buffer (ds : List Nat) (p : DataPlane) :
    (ds.foldl DataPlane.settle p).buffer = p.buffer ∧
      (ds.foldl DataPlane.settle p).history = p.history := by
  induction ds generalizing p with
  | nil => exact ⟨rfl, rfl⟩
  | cons w rest ih => exact ih (p.settle w)

/-- Closing a scheduler concerns the intake of its own session. -/
theorem intake_closeScheduler (discardPending : Bool) :
    (closeScheduler s k discardPending).intake j =
      if j = k then { s.intake k with
        scheduler := ((s.plane.scheduler k).close discardPending).2 }
      else s.intake j := by
  have hscheduler : (closeScheduler s k discardPending).plane.scheduler =
      Function.update s.plane.scheduler k ((s.plane.scheduler k).close discardPending).2 :=
    DataPlane.closeScheduler_scheduler discardPending
  obtain ⟨hbuffer, hhistory⟩ : (closeScheduler s k discardPending).plane.buffer = s.plane.buffer ∧
      (closeScheduler s k discardPending).plane.history = s.plane.history := settles_buffer _ _
  have hqueue : ∀ j, (closeScheduler s k discardPending).plane.queue j = s.plane.queue j :=
    fun j => by simp only [DataPlane.queue, hbuffer]
  split_ifs with hj
  · subst hj
    simp only [RuntimeState.intake, hscheduler, hqueue, hhistory, Function.update_self]
    rfl
  · refine intake_congr ?_ (hqueue j) (by rw [hhistory]) rfl
    rw [hscheduler, Function.update_of_ne hj]

/-- A scheduler is closed only once the intake of its session has ended. -/
theorem quiets_closeScheduler (h : (s.managed k).intakeAborted = true) (discardPending : Bool) :
    Quiets s (closeScheduler s k discardPending) := by
  refine ⟨fun j => ?_, fun _ => id, Or.inl rfl⟩
  rw [intake_closeScheduler]
  split_ifs with hj
  · rw [hj]
    exact { Intake.Quiet.refl (s.intake k) with
      calms := BoundedTaskScheduler.calms_close _ discardPending
      closes := fun _ => Or.inr h
      shut := Or.inl }
  · exact .refl _

/-- `stopIntake` empties the queue, closes the scheduler and aborts the intake of its own
session. -/
theorem intake_stopIntake :
    (stopIntake s k).intake j =
      if j = k then { s.intake k with
        scheduler := ((s.plane.scheduler k).close false).2
        queue := []
        intakeAborted := true }
      else s.intake j := by
  have haborted : (update s k ({ · with intakeAborted := true })).intake k =
      { s.intake k with intakeAborted := true } := by
    simp [RuntimeState.intake, update]
  unfold stopIntake
  split_ifs with hj
  · subst hj
    refine Eq.trans (intake_update_kept ?_) ?_
    · rfl
    · rw [intake_clearDatagrams, if_pos rfl, intake_closeScheduler, if_pos rfl, haborted]
      rfl
  · rw [intake_update hj, intake_clearDatagrams, if_neg hj, intake_closeScheduler, if_neg hj,
      intake_update hj]

theorem outstandingSessions_stopIntake :
    (stopIntake s k).outstandingSessions = s.outstandingSessions := by
  simp only [stopIntake, update, clearDatagrams, closeScheduler]

theorem lifecycle_stopIntake : (stopIntake s k).lifecycle = s.lifecycle := by
  simp only [stopIntake, update, clearDatagrams, closeScheduler]

theorem quiets_stopIntake : Quiets s (stopIntake s k) := by
  refine ⟨fun j => ?_, fun i hi => outstandingSessions_stopIntake ▸ hi,
    Or.inl (congrArg Lifecycle.state lifecycle_stopIntake)⟩
  · rw [intake_stopIntake]
    split_ifs with hj
    · rw [hj]
      exact { Intake.Quiet.refl (s.intake k) with
        calms := BoundedTaskScheduler.calms_close _ false
        closes := fun _ => Or.inr rfl
        queue := Or.inr rfl
        intakeAborted := fun _ => rfl
        shut := fun _ => Or.inr ⟨rfl, rfl⟩
        ended := Or.inl }
    · exact .refl _

/-! ### Finalizing -/

theorem quiets_contextAborted (reason : Failure) : Quiets s (contextAborted s k reason) := by
  have hload : Quiets s (setLoad s (s.plane.toWorkload.abortWaiters k)) :=
    quiets_setLoad (s.plane.toWorkload.abortWaiters_scheduler k)
  refine hload.trans (quiets_update ?_)
  unfold ManagedSession.rejectRace
  split_ifs
  · rfl
  · rfl

theorem quiets_abortAdmission (reason : Failure) : Quiets s (abortAdmission s k reason) := by
  unfold abortAdmission
  split_ifs
  · exact .refl s
  · have hset : Quiets s (update s k ({ · with context := some reason })) := quiets_update rfl
    exact hset.trans (quiets_contextAborted reason)

theorem quiets_retireSession : Quiets s (retireSession s k) := by
  have hset : Quiets s (update s k fun m => { m with retirement := .awaiting m.awaited }) :=
    quiets_update rfl
  exact hset.trans (quiets_onIdle .retirement)

/-- `finalizeSession` from the end of the intake on. -/
theorem quiets_finalizing (reason : Failure) (h : (s.managed k).intakeAborted = true) :
    Quiets s
      (update (clearDatagrams (closeScheduler (abortAdmission s k reason) k true) k) k
        ({ · with streamIdleWaiters := 0 })) := by
  have habort : Quiets s (abortAdmission s k reason) := quiets_abortAdmission reason
  have hclose := habort.trans
    (quiets_closeScheduler ((habort.intake k).intakeAborted h) true)
  have hclear := hclose.trans (quiets_clearDatagrams (k := k))
  exact hclear.trans (quiets_update rfl)

theorem stopIntake_aborted : ((stopIntake s k).managed k).intakeAborted = true :=
  intakeAborted_stopIntake

/-- A session that is finalized takes nothing in any more. -/
theorem quiets_finalizeSession (reason : Failure)
    (h : (s.managed k).finalized = true → (s.managed k).intakeAborted = true) :
    Quiets s (finalizeSession s k reason) ∧
      ((finalizeSession s k reason).managed k).intakeAborted = true := by
  unfold finalizeSession
  cases hfinal : (s.managed k).finalized with
  | true => exact ⟨.refl s, h hfinal⟩
  | false =>
    simp only [Bool.false_eq_true, if_false]
    have hmark : Quiets s (update s k ({ · with finalized := true })) := quiets_update rfl
    have hintake := hmark.trans (quiets_stopIntake (k := k))
    have hrest : Quiets (stopIntake (update s k ({ · with finalized := true })) k) _ :=
      quiets_finalizing (k := k) reason stopIntake_aborted
    generalize update (clearDatagrams (closeScheduler (abortAdmission (stopIntake
      (update s k ({ · with finalized := true })) k) k reason) k true) k) k
        ({ · with streamIdleWaiters := 0 }) = u at hrest
    have hleave : Quiets u { u with
        sessions := u.sessions.filter (·.1 ≠ (u.managed k).session.id) } :=
      .of_eq (fun _ => rfl) rfl rfl
    have hend := hleave.trans (quiets_retireSession (k := k))
    exact ⟨(hintake.trans hrest).trans hend,
      ((hrest.trans hend).intake k).intakeAborted stopIntake_aborted⟩

theorem pumpView_addStreams (m : ManagedSession) (kind : StreamKind) (n : Int) :
    pumpView (m.addStreams kind n) = pumpView m := by
  cases kind
  · rfl
  · rfl

theorem pumpView_releaseStream (m : ManagedSession) (kind : StreamKind) :
    pumpView (m.releaseStream kind) = pumpView m := by
  unfold ManagedSession.releaseStream
  simp only
  split_ifs
  · exact pumpView_addStreams m kind (-1)
  · exact pumpView_addStreams m kind (-1)

theorem quiets_releaseStream (i : Nat) : Quiets s (releaseStream s i) := by
  unfold releaseStream
  split_ifs
  · exact .refl s
  · have hcount : Quiets s { s with
        stream := Function.update s.stream i { s.stream i with released := true }
        activeStreams := s.activeStreams - 1 } := .of_eq (fun _ => rfl) rfl rfl
    exact hcount.trans
      (quiets_update (f := (·.releaseStream (s.stream i).kind)) (pumpView_releaseStream _ _))

theorem quiets_releaseStreams : Quiets s (releaseStreams s k) :=
  quiets_foldl _ fun _ _ i _ => quiets_releaseStream i

/-- The abort of a session's signal feeds no intake. -/
theorem quiets_sessionAborted (reason : Failure)
    (h : (s.managed k).finalized = true → (s.managed k).intakeAborted = true) :
    Quiets s (sessionAborted s k reason) := by
  have habort : ∀ j, (update s k fun m =>
      { m with sessionAborted := true, context := some (m.context.getD reason) }).intake j =
      if j = k then { s.intake k with sessionAborted := true } else s.intake j := by
    intro j
    split_ifs with hj
    · subst hj
      simp [RuntimeState.intake, update]
    · exact intake_update hj
  have hfinal := quiets_finalizeSession (k := k) (s := update s k fun m =>
      { m with sessionAborted := true, context := some (m.context.getD reason) }) reason
      (by simpa [update] using h)
  generalize hu : (update s k fun m =>
      { m with sessionAborted := true, context := some (m.context.getD reason) }) = u
    at habort hfinal
  obtain ⟨hfinal, hover⟩ := hfinal
  have hstreams := quiets_releaseStreams (s := finalizeSession u k reason) (k := k)
  generalize hv : releaseStreams (finalizeSession u k reason) k = v at hstreams
  have hwaiters : Quiets v (setScheduler v k (v.plane.scheduler k).abortCapacityWaiters) :=
    quiets_setScheduler (BoundedTaskScheduler.calms_abort _) rfl
  have hlast : Quiets v (sessionAborted s k reason) := by
    unfold sessionAborted
    simp only [hu, hv]
    split_ifs
    · exact hwaiters.trans (quiets_contextAborted reason)
    · exact hwaiters
  have hafter := hstreams.trans hlast
  have hall := hfinal.trans hafter
  refine ⟨fun j => ?_, ?_, ?_⟩
  · have hj := hall.intake j
    rw [habort] at hj
    split_ifs at hj with he
    · rw [he] at hj ⊢
      exact hj.aborted ((hafter.intake k).intakeAborted hover)
    · exact hj
  · have houtstanding : u.outstandingSessions = s.outstandingSessions := by rw [← hu]; rfl
    exact fun j hj => houtstanding ▸ hall.outstanding hj
  · have hstate : u.lifecycle.state = s.lifecycle.state := by rw [← hu]; rfl
    rw [← hstate]
    exact hall.halts

theorem quiets_handshakeTimeout : Quiets s (handshakeTimeout s k) := by
  have habort : Quiets s (abortAdmission s k .timeout) := quiets_abortAdmission .timeout
  refine habort.trans (quiets_update ?_)
  unfold ManagedSession.rejectRace
  split_ifs
  · rfl
  · rfl

/-! ### Stopping -/

/-- The intake of every session the server still holds has ended. -/
def Halted (s : RuntimeState) : Prop :=
  ∀ k ∈ s.outstandingSessions, (s.managed k).intakeAborted = true

theorem Quiets.halted (h : Quiets s t) (hs : Halted s) : Halted t :=
  fun k hk => (h.intake k).intakeAborted (hs k (h.outstanding hk))

theorem quiets_abandonSessions (hs : Halted s) : Quiets s (abandonSessions s) := by
  refine quiets_foldl _ fun t ht k hk => ?_
  have habort : Quiets t (abortAdmission t k .unknown) := quiets_abortAdmission .unknown
  have hover := ((ht.trans habort).intake k).intakeAborted (hs k hk)
  exact habort.trans (quiets_closeScheduler hover true)

theorem quiets_closeSessions : Quiets s (closeSessions s) := by
  have hclose : Quiets s (s.sessions.foldl
      (fun s entry => closeSession s entry.2 .noError "Server shutting down") s) :=
    quiets_foldl _ fun _ _ _ _ => .of_eq (fun _ => rfl) rfl rfl
  exact hclose.trans (.of_eq (fun _ => rfl) rfl rfl)

theorem quiets_forceStop (hs : Halted s) (stoppingDuringStart : Bool) :
    Quiets s (forceStop s stoppingDuringStart) := by
  have habandon := quiets_abandonSessions hs
  unfold forceStop
  simp only
  split_ifs
  · exact habandon.trans (.of_eq (fun _ => rfl) rfl rfl)
  · exact habandon.trans quiets_closeSessions

theorem quiets_awaitSession : Quiets s (awaitSession s k) := by
  have hidle : Quiets s (setScheduler s k ((s.plane.scheduler k).onIdle .stop)) :=
    quiets_onIdle .stop
  refine hidle.trans (quiets_update ?_)
  unfold ManagedSession.waitForStreams
  split_ifs
  · rfl
  · rfl

theorem quiets_awaitDrain : Quiets s (awaitDrain s) := by
  have hidle : Quiets s (s.outstandingSessions.foldl awaitSession s) :=
    quiets_foldl _ fun _ _ _ _ => quiets_awaitSession
  exact hidle.trans (.of_eq (fun _ => rfl) rfl rfl)

/-- Another state of a server that is not running. -/
theorem quiets_lifecycle {lifecycle : Lifecycle} (h : s.lifecycle.state ≠ .running) :
    Quiets s { s with lifecycle := lifecycle } :=
  ⟨fun _ => .refl _, fun _ => id, Or.inr (Or.inl h)⟩

theorem quiets_stopSessions (hs : Halted s) (stoppingDuringStart : Bool) :
    Quiets s (stopSessions deps s stoppingDuringStart) := by
  unfold stopSessions
  split_ifs with hdraining
  · exact quiets_awaitDrain
  · have hstopping : Quiets s { s with lifecycle := s.lifecycle.transition .stopping } :=
      quiets_lifecycle (by rw [hdraining]; simp)
    exact hstopping.trans (quiets_forceStop (hstopping.halted hs) stoppingDuringStart)
  · exact quiets_forceStop hs stoppingDuringStart

theorem halted_stopIntakes (xs : List Nat) :
    Quiets s (xs.foldl stopIntake s) ∧
      ∀ k ∈ xs, ((xs.foldl stopIntake s).managed k).intakeAborted = true := by
  induction xs generalizing s with
  | nil => exact ⟨.refl s, fun k hk => by cases hk⟩
  | cons x xs ih =>
    obtain ⟨hrest, hall⟩ := ih (s := stopIntake s x)
    rw [List.foldl_cons]
    generalize xs.foldl stopIntake (stopIntake s x) = t at hrest hall
    refine ⟨quiets_stopIntake.trans hrest, fun k hk => ?_⟩
    rcases List.mem_cons.mp hk with rfl | hk
    · exact (hrest.intake k).intakeAborted stopIntake_aborted
    · exact hall k hk

theorem quiets_performStop : Quiets s (performStop deps s) := by
  unfold performStop
  split_ifs
  · exact .of_eq (fun _ => rfl) rfl rfl
  · obtain ⟨hintake, hall⟩ := halted_stopIntakes (s := releaseStartup s) s.outstandingSessions
    have hhalted : Halted (s.outstandingSessions.foldl stopIntake (releaseStartup s)) :=
      fun k hk => hall k (hintake.outstanding hk)
    have hsessions : Quiets (s.outstandingSessions.foldl stopIntake (releaseStartup s))
        (stopSessions deps (s.outstandingSessions.foldl stopIntake (releaseStartup s))
          (s.lifecycle.state == .starting)) :=
      quiets_stopSessions hhalted (s.lifecycle.state == .starting)
    have hboth := hintake.trans hsessions
    exact ⟨hboth.intake, hboth.outstanding, Or.inr (Or.inr (hsessions.halted hhalted))⟩

theorem quiets_stop : Quiets s (stop deps s) := by
  have hcall : Quiets s { s with stopCalls := s.stopCalls + 1 } := .of_eq (fun _ => rfl) rfl rfl
  unfold stop
  simp only
  split_ifs
  · exact hcall.trans quiets_performStop
  · exact hcall

theorem quiets_handleRuntimeError (error : Failure) :
    Quiets s (handleRuntimeError deps s k error) := by
  unfold handleRuntimeError
  split
  · exact .refl s
  · exact .refl s
  · exact .refl s
  · exact .of_eq (fun _ => rfl) rfl rfl
  · exact quiets_stop
  · exact quiets_stop

theorem quiets_drainEnded (hs : Halted s) (h : s.lifecycle.state ≠ .running) :
    Quiets s (drainEnded s) := by
  have hstopping : Quiets s { s with lifecycle := s.lifecycle.transition .stopping } :=
    quiets_lifecycle h
  exact hstopping.trans (quiets_forceStop (hstopping.halted hs) false)

/-- Every finalized session has ended its intake. -/
def Ends (s : RuntimeState) : Prop :=
  ∀ k < s.plane.managedCount, (s.managed k).finalized = true → (s.managed k).intakeAborted = true

theorem ends_closing (h : Closing options s t) (hs : Ends s) : Ends t := by
  intro k hk hfinal
  rw [h.steady.managedCount] at hk
  rcases (h.managed k).retirement with ⟨heq, -⟩ | ⟨-, -, -, hintake, -⟩
  · exact h.intake k (hs k hk (heq ▸ hfinal))
  · exact hintake

theorem quiets_finalizeSessions (options : NormalizedWebTransportModuleOptions)
    (xs : List (String × Nat)) (hs : Sound s) (hends : Ends s)
    (hxs : ∀ x ∈ xs, x.2 < s.plane.managedCount) :
    Quiets s (xs.foldl (fun s entry => finalizeSession s entry.2 .unknown) s) := by
  induction xs generalizing s with
  | nil => exact .refl s
  | cons x xs ih =>
    have hx := hxs x List.mem_cons_self
    have hclosing : Closing options s (finalizeSession s x.2 .unknown) :=
      closing_finalizeSession hs hx .unknown
    refine (quiets_finalizeSession .unknown (hends x.2 hx)).1.trans
      (ih (hclosing.sound hs) (ends_closing hclosing hends) fun y hy => ?_)
    rw [hclosing.steady.managedCount]
    exact hxs y (List.mem_cons_of_mem x hy)

theorem quiets_driverStopped (options : NormalizedWebTransportModuleOptions) (hs : Sound s)
    (hends : Ends s) (result : DriverStopResult) : Quiets s (driverStopped s result) := by
  have hfinal := quiets_finalizeSessions options s.sessions hs hends hs.sessions
  have hend : Quiets (s.sessions.foldl (fun s entry => finalizeSession s entry.2 .unknown) s)
      (driverStopped s result) := by
    refine ⟨fun _ => .refl _, fun _ => id, ?_⟩
    unfold driverStopped
    simp only
    split_ifs with hstops
    · simp only [Bool.and_eq_true, beq_iff_eq] at hstops
      exact Or.inr (Or.inl (by rw [hstops.2]; simp))
    · exact Or.inl rfl
  exact hfinal.trans hend

/-! ### Admission and work -/

theorem quiets_throwIfAdmissionEnded (h : Quiets s t) : Quiets s (throwIfAdmissionEnded s k t) := by
  unfold throwIfAdmissionEnded
  split_ifs
  · exact quiets_update rfl
  · exact h

theorem quiets_invocationReached (index : Nat) (invocation : Invocation) :
    Quiets s (invocationReached s k index invocation) := by
  unfold invocationReached
  cases invocation
  · exact quiets_update rfl
  · exact quiets_update rfl
  · exact quiets_update rfl

theorem quiets_runSessionHandlers (index : Nat) :
    Quiets s (runSessionHandlers deps s k index) := by
  have hnote : Quiets s (update s k (·.note (.handlerStarted index))) := quiets_update rfl
  unfold runSessionHandlers
  split
  · exact quiets_update rfl
  · exact quiets_throwIfAdmissionEnded (hnote.trans (quiets_invocationReached index _))

theorem quiets_authenticate : Quiets s (authenticateAndRunSessionHandlers deps s k) := by
  apply quiets_throwIfAdmissionEnded
  split_ifs
  · exact quiets_update rfl
  · exact quiets_runSessionHandlers 0

theorem quiets_authenticateSettled (result : Except Failure Principal) :
    Quiets s (authenticateSettled deps s k result) := by
  unfold authenticateSettled
  cases result with
  | error error => exact quiets_update rfl
  | ok principal =>
    have hnote : Quiets s (update s k (·.note (.authenticated principal))) := quiets_update rfl
    apply quiets_throwIfAdmissionEnded
    split_ifs
    · exact quiets_update rfl
    · exact hnote.trans (quiets_runSessionHandlers 0)

theorem quiets_handlerResumed : Quiets s (handlerResumed deps s k) := by
  unfold handlerResumed
  split
  · exact quiets_throwIfAdmissionEnded (quiets_runSessionHandlers _)
  · exact .refl s

/-- Admission work feeds no intake. -/
theorem quiets_pipelineStep (event : PipelineEvent) : Quiets s (pipelineStep deps s k event) := by
  have hnote : ∀ index aborted, Quiets s (update s k (event.note index aborted)) := by
    intro index aborted
    refine quiets_update ?_
    unfold PipelineEvent.note
    split
    · rfl
    · rfl
    · split_ifs
      · rfl
      · rfl
    · rfl
  unfold pipelineStep
  split
  · split
    · exact .refl s
    · split
      · exact .refl s
      · exact (hnote _ _).trans (quiets_invocationReached _ _)
  · exact .refl s

theorem quiets_resumeTask (hs : Sound s) : Quiets s (resumeTask deps s) := by
  unfold resumeTask
  split
  · exact .refl s
  · rename_i w rest hresumes
    have hmoves : Workload.Moves s.plane.toWorkload (s.plane.toWorkload.resumeTask
        (s.managed (s.plane.work w).owner).isContextAborted) :=
      Workload.moves_resumeTask hs.accounted.placement
    have hload := quiets_setLoad (s := s) hmoves.scheduler
    simp only
    split_ifs
    · split
      · exact hload.trans (quiets_update rfl)
      · exact hload.trans quiets_authenticate
    · exact hload

theorem quiets_callTask (hs : Sound s) : Quiets s (callTask s) := by
  unfold callTask
  split
  · exact .refl s
  · rename_i w rest hstarts
    have hmoves : Workload.Moves s.plane.toWorkload (s.plane.toWorkload.callTask
        (s.managed (s.plane.work w).owner).isContextAborted) :=
      Workload.moves_callTask hs.accounted.placement
    exact quiets_setLoad hmoves.scheduler

theorem quiets_errorObserved : Quiets s (errorObserved deps s w) := by
  have hobserved : Quiets s (setLoad s (s.plane.toWorkload.setPhase w .finishing)) :=
    quiets_setLoad rfl
  unfold errorObserved
  simp only
  split
  · split_ifs
    · exact hobserved
    · exact hobserved.trans (quiets_handleRuntimeError _)
  · exact .refl s

theorem settleTask_scheduler (l : Workload) (w : Nat) :
    (l.settleTask w).scheduler =
      Function.update l.scheduler (l.work w).owner
        (l.scheduler (l.work w).owner).leave.promote.2 := by
  have hleave : ((l.setScheduler (l.work w).owner
      (l.scheduler (l.work w).owner).leave).settle w).scheduler (l.work w).owner =
      (l.scheduler (l.work w).owner).leave := by
    simp [Workload.settle, Workload.setScheduler]
  unfold Workload.settleTask Workload.promote
  simp only [hleave]
  generalize (l.scheduler (l.work w).owner).leave.promote = result
  obtain ⟨next, scheduler⟩ := result
  cases next with
  | none => simp [Workload.settle, Workload.setScheduler]
  | some v => simp [Workload.settle, Workload.setScheduler, Workload.setPhase]

/-- Work that settles feeds no intake. -/
theorem quiets_settled : Quiets s (settled s w) := by
  unfold settled
  split_ifs
  · exact quiets_setLoad rfl
  · have hsettled : ∀ j, ({ s with plane := s.plane.settleTask w } : RuntimeState).intake j =
        { s.intake j with
          scheduler := (s.plane.toWorkload.settleTask w).scheduler j } := fun _ => rfl
    have hscheduler := settleTask_scheduler s.plane.toWorkload w
    refine ⟨fun j => ?_, fun _ => id, Or.inl rfl⟩
    rw [hsettled, hscheduler]
    by_cases hj : j = (s.plane.work w).owner
    · subst hj
      rw [Function.update_self]
      have haccepting : ∀ scheduler : BoundedTaskScheduler Nat Waiter,
          scheduler.leave.promote.2.accepting = scheduler.accepting := by
        intro scheduler
        unfold BoundedTaskScheduler.promote
        split
        · rfl
        · rfl
      exact { Intake.Quiet.refl (s.intake (s.plane.work w).owner) with
        calms := BoundedTaskScheduler.calms_leave _
        closes := fun h => Or.inl ((haccepting _).symm.trans h)
        shut := Or.inl }
    · rw [Function.update_of_ne hj]
      exact .refl _

theorem quiets_retired (now : Int) : Quiets s (retired s k now) := by
  have hset : Quiets s (update s k ({ · with retirement := .retired })) := quiets_update rfl
  unfold retired
  simp only
  split_ifs
  · exact ⟨hset.intake, fun j hj => List.mem_of_mem_erase hj, Or.inl rfl⟩
  · exact hset

/-! ### Surfaced sessions -/

/-- The intake of a session that has just become managed. -/
def newIntake (options : NormalizedWebTransportModuleOptions) : Intake where
  scheduler := .new options.execution.maxConcurrentHandlers.value
    options.execution.maxPendingHandlers.value options.execution.overflow
  queue := []
  received := 0
  sessionAborted := false
  intakeAborted := false
  datagramPump := .idle
  drain := .idle
  streamPump := fun _ => .idle

/-- A surfaced session becomes managed and whatever else happens is quiet. -/
structure Admitted (options : NormalizedWebTransportModuleOptions) (s t : RuntimeState) : Prop where
  old : ∀ k, k ≠ s.plane.managedCount → (s.intake k).Quiet (t.intake k)
  fresh : (newIntake options).Quiet (t.intake s.plane.managedCount)
  state : t.lifecycle.state = s.lifecycle.state

theorem intake_manage (session : WebTransportSession) (readers : Bool × Bool × Bool) (now : Int) :
    (manage deps s session readers now).intake j =
      if j = s.plane.managedCount then newIntake deps.options else s.intake j := by
  split_ifs with hj
  · subst hj
    simp [RuntimeState.intake, manage, newIntake, unmanaged, DataPlane.openSession,
      Workload.openSession, DataPlane.queue, DataPlane.newBuffer]
  · refine intake_congr ?_ ?_ ?_ ?_
    · simp [manage, DataPlane.openSession, Workload.openSession, hj]
    · simp [manage, DataPlane.openSession, DataPlane.queue, hj]
    · simp [manage, DataPlane.openSession, hj]
    · simp [manage, hj]

/-- A session that is registered has an empty queue and an open scheduler. -/
theorem admitted_registerSession {offer : SessionOffer} {readers : Bool × Bool × Bool} {r : Nat}
    {budget : HandlerBudget} :
    Admitted deps.options s (registerSession deps s offer readers r budget) := by
  have hmanage : ∀ b j, (manage deps (setLoad s { s.plane.toWorkload with handlerBudget := b })
      offer.session readers offer.now).intake j =
      if j = s.plane.managedCount then newIntake deps.options else s.intake j :=
    fun b j => intake_manage offer.session readers offer.now
  unfold registerSession
  simp only
  split
  · rename_i reason haborted
    have hmanaged := hmanage (budget.release r)
    generalize hm : manage deps (setLoad s
      { s.plane.toWorkload with handlerBudget := budget.release r }) offer.session readers
        offer.now = m at hmanaged
    have hopen : ∀ j, (update m s.plane.managedCount
        ({ · with sessionAborted := true, context := some reason })).intake j =
        if j = s.plane.managedCount then { newIntake deps.options with sessionAborted := true }
        else s.intake j := by
      intro j
      split_ifs with hj
      · have hnew := hmanaged j
        rw [if_pos hj] at hnew
        rw [← hnew, hj]
        simp [RuntimeState.intake, update]
      · rw [intake_update hj, hmanaged, if_neg hj]
    have hunfinal : (m.managed s.plane.managedCount).finalized = false := by
      rw [← hm]
      simp [manage, setLoad, unmanaged]
    have hstate : m.lifecycle = s.lifecycle := by
      rw [← hm]
      rfl
    obtain ⟨hquiet, hover⟩ := quiets_finalizeSession (k := s.plane.managedCount)
      (s := update m s.plane.managedCount
        ({ · with sessionAborted := true, context := some reason })) reason
      (fun h => by simp [update, hunfinal] at h)
    constructor
    · intro j hj
      have := hquiet.intake j
      rwa [hopen, if_neg hj] at this
    · have := hquiet.intake s.plane.managedCount
      rw [hopen, if_pos rfl] at this
      exact this.aborted hover
    · have hcontrol : (finalizeSession (update m s.plane.managedCount
          ({ · with sessionAborted := true, context := some reason })) s.plane.managedCount
            reason).control = m.control := control_finalizeSession reason
      have hkept := congrArg (fun c => c.lifecycle.state) hcontrol
      exact hkept.trans (congrArg Lifecycle.state hstate)
  · have hmanaged := hmanage budget
    generalize hm : manage deps (setLoad s { s.plane.toWorkload with handlerBudget := budget })
      offer.session readers offer.now = m at hmanaged
    have hstate : m.lifecycle = s.lifecycle := by
      rw [← hm]
      rfl
    have hload : Quiets m (setLoad m (m.plane.toWorkload.runAdmission s.plane.managedCount r
        false)) :=
      quiets_setLoad (Workload.moves_runAdmission _ s.plane.managedCount r false).scheduler
    have hstart : Quiets m (startAdmission m s.plane.managedCount r) :=
      hload.trans (quiets_update rfl)
    constructor
    · intro j hj
      have := hstart.intake j
      rwa [hmanaged, if_neg hj] at this
    · have := hstart.intake s.plane.managedCount
      rwa [hmanaged, if_pos rfl] at this
    · exact congrArg Lifecycle.state hstate

/-- A surfaced session is refused or becomes managed. -/
theorem surfaced_cases (deps : RuntimeDependencies) (s : RuntimeState) (offer : SessionOffer) :
    Quiets s (acceptSession deps s offer) ∨
      s.lifecycle.state = .running ∧ Admitted deps.options s (acceptSession deps s offer) := by
  have hrefused : ∀ u : RuntimeState, (∀ k, u.intake k = s.intake k) →
      u.outstandingSessions = s.outstandingSessions → u.lifecycle.state = s.lifecycle.state →
      Quiets s u ∨ s.lifecycle.state = .running ∧ Admitted deps.options s u :=
    fun u hintake houtstanding hstate => Or.inl (.of_eq hintake houtstanding hstate)
  unfold acceptSession
  simp only
  split_ifs with hgate hpath
  · exact hrefused _ (fun _ => rfl) rfl rfl
  · exact hrefused _ (fun _ => rfl) rfl rfl
  · have hrunning : s.lifecycle.state = .running := by
      simpa [Lifecycle.acceptingSessions] using (not_or.mp hgate).1
    split
    · exact hrefused _ (fun _ => rfl) rfl rfl
    · split
      · exact hrefused _ (fun _ => rfl) rfl rfl
      · split
        · exact hrefused _ (fun _ => rfl) rfl rfl
        · split
          · exact hrefused _ (fun _ => rfl) rfl rfl
          · rename_i records _ _ r budget _ _ readers _
            have hadmitted : Admitted deps.options { s with ipRecords := records }
                (registerSession deps { s with ipRecords := records } offer readers r budget) :=
              admitted_registerSession
            exact Or.inr ⟨hrunning, { hadmitted with }⟩

end WebTransportRuntime

end NestWebTransport
