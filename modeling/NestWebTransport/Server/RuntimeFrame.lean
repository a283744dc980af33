import NestWebTransport.Server.PlaneEvolution
import NestWebTransport.Server.WebTransportRuntime

/-! What closing sessions and stopping the server may change. -/
namespace NestWebTransport

namespace ManagedSession

variable {m m' m'' : ManagedSession}

/-- What no closing changes, and what it changes in one direction only. -/
structure Lasts (m m' : ManagedSession) : Prop where
  session : m'.session = m.session
  work : m'.work = m.work
  admission : m'.admission = m.admission
  stage : m'.stage = m.stage
  log : m'.log = m.log
  datagramPump : m'.datagramPump = m.datagramPump
  drain : m'.drain = m.drain
  streamPump : m'.streamPump = m.streamPump
  accept : m'.accept = m.accept ∨ (m.accept = .racing ∧ ∃ e, m'.accept = .raceRejected e)
  sessionAborted : m.sessionAborted = true → m'.sessionAborted = true
  intakeAborted : m.intakeAborted = true → m'.intakeAborted = true
  context : ∀ r, m.context = some r → m'.context = some r

/-- Closing without finalizing. -/
structure Eases (m m' : ManagedSession) : Prop extends Lasts m m' where
  finalized : m'.finalized = m.finalized
  retirement : m'.retirement = m.retirement

/-- Closing, and finalizing at most once: the session then retires. -/
structure Closes (m m' : ManagedSession) : Prop extends Lasts m m' where
  retirement : (m'.finalized = m.finalized ∧ m'.retirement = m.retirement) ∨
    (m.finalized = false ∧ m'.finalized = true ∧ m'.retirement = .awaiting m.awaited ∧
      m'.intakeAborted = true ∧ m'.context.isSome = true)

theorem Lasts.refl (m : ManagedSession) : Lasts m m :=
  ⟨rfl, rfl, rfl, rfl, rfl, rfl, rfl, rfl, Or.inl rfl, id, id, fun _ => id⟩

theorem Lasts.trans (h : Lasts m m') (h' : Lasts m' m'') : Lasts m m'' where
  session := h'.session.trans h.session
  work := h'.work.trans h.work
  admission := h'.admission.trans h.admission
  stage := h'.stage.trans h.stage
  log := h'.log.trans h.log
  datagramPump := h'.datagramPump.trans h.datagramPump
  drain := h'.drain.trans h.drain
  streamPump := h'.streamPump.trans h.streamPump
  accept := by
    rcases h'.accept with heq | ⟨hracing, e, he⟩
    · rw [heq]
      exact h.accept
    · rcases h.accept with heq | ⟨-, e', he'⟩
      · exact Or.inr ⟨heq ▸ hracing, e, he⟩
      · rw [he'] at hracing
        cases hracing
  sessionAborted := fun hs => h'.sessionAborted (h.sessionAborted hs)
  intakeAborted := fun hs => h'.intakeAborted (h.intakeAborted hs)
  context := fun r hr => h'.context r (h.context r hr)

theorem Eases.refl (m : ManagedSession) : Eases m m := ⟨Lasts.refl m, rfl, rfl⟩

theorem Eases.trans (h : Eases m m') (h' : Eases m' m'') : Eases m m'' :=
  ⟨h.toLasts.trans h'.toLasts, h'.finalized.trans h.finalized, h'.retirement.trans h.retirement⟩

theorem Eases.closes (h : Eases m m') : Closes m m' :=
  ⟨h.toLasts, Or.inl ⟨h.finalized, h.retirement⟩⟩

theorem Lasts.awaited (h : Lasts m m') : m'.awaited = m.awaited := by
  unfold ManagedSession.awaited
  rw [h.admission, h.datagramPump, h.drain, h.streamPump]

theorem Lasts.isContextAborted (h : Lasts m m') (hm : m.context.isSome = true) :
    m'.context.isSome = true := by
  obtain ⟨r, hr⟩ := Option.isSome_iff_exists.mp hm
  rw [h.context r hr]
  rfl

theorem Closes.finalized (h : Closes m m') (hm : m.finalized = true) : m'.finalized = true := by
  rcases h.retirement with ⟨heq, -⟩ | ⟨-, hnew, -⟩
  · exact heq.trans hm
  · exact hnew

theorem Closes.trans (h : Closes m m') (h' : Closes m' m'') : Closes m m'' := by
  refine ⟨h.toLasts.trans h'.toLasts, ?_⟩
  rcases h.retirement with ⟨hf, hr⟩ | ⟨hf, hf', hr, hi, hc⟩
  · rcases h'.retirement with ⟨hf', hr'⟩ | ⟨hold, hnew, hr', hi', hc'⟩
    · exact Or.inl ⟨hf'.trans hf, hr'.trans hr⟩
    · exact Or.inr ⟨hf ▸ hold, hnew, h.toLasts.awaited ▸ hr', hi', hc'⟩
  · rcases h'.retirement with ⟨hsame, hr'⟩ | ⟨hold, -⟩
    · exact Or.inr ⟨hf, hsame.trans hf', hr'.trans hr, h'.intakeAborted hi,
        h'.toLasts.isContextAborted hc⟩
    · rw [hf'] at hold
      cases hold

theorem rejectRace_eases (error : Failure) : Eases m (m.rejectRace error) := by
  unfold rejectRace
  split_ifs with hracing
  · exact { Eases.refl m with accept := Or.inr ⟨hracing, error, rfl⟩ }
  · exact Eases.refl m

theorem releaseStream_eases (kind : StreamKind) : Eases m (m.releaseStream kind) := by
  cases kind
  · unfold releaseStream addStreams
    simp only
    split_ifs
    · exact { Eases.refl m with }
    · exact { Eases.refl m with }
  · unfold releaseStream addStreams
    simp only
    split_ifs
    · exact { Eases.refl m with }
    · exact { Eases.refl m with }

theorem waitForStreams_eases : Eases m m.waitForStreams := by
  unfold waitForStreams
  split_ifs
  · exact Eases.refl m
  · exact { Eases.refl m with }

end ManagedSession

namespace WebTransportRuntime

variable {options : NormalizedWebTransportModuleOptions} {deps : RuntimeDependencies}
  {s t u : RuntimeState} {k w : Nat}

/-- The bounds under which the parts of a state fit together. -/
structure Sound (s : RuntimeState) : Prop where
  accounted : Workload.Accounted s.plane.toWorkload
  outstanding : ∀ k ∈ s.outstandingSessions, k < s.plane.managedCount
  sessions : ∀ e ∈ s.sessions, e.2 < s.plane.managedCount
  stopping : s.stopPhase ≠ .idle → 0 < s.stopCalls

/-- What all closing shares. -/
structure Winding (options : NormalizedWebTransportModuleOptions) (s t : RuntimeState) : Prop where
  plane : DataPlane.Evolves options s.plane t.plane
  steady : Workload.Steady s.plane.toWorkload t.plane.toWorkload
  outstanding : t.outstandingSessions = s.outstandingSessions
  ipRecords : t.ipRecords = s.ipRecords
  acceptedSessions : t.acceptedSessions = s.acceptedSessions
  closeCalls : s.closeCalls <+: t.closeCalls
  stopCalls : s.stopCalls ≤ t.stopCalls
  stopPhase : t.stopPhase = s.stopPhase ∨ t.stopPhase = .idle ∨ 0 < t.stopCalls
  intake : ∀ k, (s.managed k).intakeAborted = true → (t.managed k).intakeAborted = true
  accepting : ∀ k, (t.plane.scheduler k).accepting = (s.plane.scheduler k).accepting ∨
    (t.managed k).intakeAborted = true ∨ 0 < t.stopCalls

/-- A stretch that closes without finalizing a session. -/
structure Easing (options : NormalizedWebTransportModuleOptions) (s t : RuntimeState) : Prop
    extends Winding options s t where
  managed : ∀ k, (s.managed k).Eases (t.managed k)
  sessions : t.sessions = s.sessions

/-- The session is finalized on the way from `s` to `t`. -/
def Finalizes (s t : RuntimeState) (k : Nat) : Prop :=
  (s.managed k).finalized = false ∧ (t.managed k).finalized = true

/-- A stretch that closes and may finalize sessions: they leave `sessions` and park. -/
structure Closing (options : NormalizedWebTransportModuleOptions) (s t : RuntimeState) : Prop
    extends Winding options s t where
  managed : ∀ k, (s.managed k).Closes (t.managed k)
  parked : ∀ k, Finalizes s t k → (t.plane.scheduler k).Parked
  sessions : t.sessions.Sublist s.sessions
  left : ∀ k, Finalizes s t k → ∀ e ∈ t.sessions, e.1 ≠ (s.managed k).session.id
  leaves : ∀ e ∈ s.sessions, e ∈ t.sessions ∨ ∃ k, Finalizes s t k ∧ e.1 = (s.managed k).session.id

theorem Winding.refl (s : RuntimeState) : Winding options s s :=
  ⟨.refl, Workload.Steady.refl _, rfl, rfl, rfl, List.prefix_refl _, le_rfl, Or.inl rfl,
    fun _ => id, fun _ => Or.inl rfl⟩

theorem Winding.trans (h : Winding options s t) (h' : Winding options t u) :
    Winding options s u where
  plane := h.plane.trans h'.plane
  steady := h.steady.trans h'.steady
  outstanding := h'.outstanding.trans h.outstanding
  ipRecords := h'.ipRecords.trans h.ipRecords
  acceptedSessions := h'.acceptedSessions.trans h.acceptedSessions
  closeCalls := h.closeCalls.trans h'.closeCalls
  stopCalls := h.stopCalls.trans h'.stopCalls
  stopPhase := by
    rcases h'.stopPhase with heq | hidle | hcalls
    · rcases h.stopPhase with heq' | hidle | hcalls
      · exact Or.inl (heq.trans heq')
      · exact Or.inr (Or.inl (heq.trans hidle))
      · exact Or.inr (Or.inr (hcalls.trans_le h'.stopCalls))
    · exact Or.inr (Or.inl hidle)
    · exact Or.inr (Or.inr hcalls)
  intake := fun k hk => h'.intake k (h.intake k hk)
  accepting := fun k => by
    rcases h'.accepting k with heq | hintake | hcalls
    · rcases h.accepting k with heq' | hintake | hcalls
      · exact Or.inl (heq.trans heq')
      · exact Or.inr (Or.inl (h'.intake k hintake))
      · exact Or.inr (Or.inr (hcalls.trans_le h'.stopCalls))
    · exact Or.inr (Or.inl hintake)
    · exact Or.inr (Or.inr hcalls)

theorem Easing.refl (s : RuntimeState) : Easing options s s :=
  ⟨Winding.refl s, fun _ => .refl _, rfl⟩

theorem Easing.trans (h : Easing options s t) (h' : Easing options t u) : Easing options s u :=
  ⟨h.toWinding.trans h'.toWinding, fun k => (h.managed k).trans (h'.managed k),
    h'.sessions.trans h.sessions⟩

theorem Easing.closing (h : Easing options s t) : Closing options s t := by
  have hnone : ∀ k, ¬ Finalizes s t k := by
    intro k ⟨hold, hnew⟩
    rw [(h.managed k).finalized, hold] at hnew
    cases hnew
  constructor
  · exact h.toWinding
  · exact fun k => (h.managed k).closes
  · exact fun k hk => absurd hk (hnone k)
  · rw [h.sessions]
  · exact fun k hk => absurd hk (hnone k)
  · rw [h.sessions]
    exact fun e he => Or.inl he

theorem Closing.refl (s : RuntimeState) : Closing options s s := (Easing.refl s).closing

theorem Finalizes.split (t : RuntimeState) (hk : Finalizes s u k) :
    Finalizes s t k ∨ Finalizes t u k := by
  obtain ⟨hold, hnew⟩ := hk
  cases hf : (t.managed k).finalized with
  | true => exact Or.inl ⟨hold, hf⟩
  | false => exact Or.inr ⟨hf, hnew⟩

theorem Closing.trans (h : Closing options s t) (h' : Closing options t u) :
    Closing options s u := by
  have hfirst : ∀ k, Finalizes s t k → Finalizes s u k :=
    fun k hk => ⟨hk.1, (h'.managed k).finalized hk.2⟩
  have hsecond : ∀ k, Finalizes t u k → Finalizes s u k := by
    intro k hk
    refine ⟨?_, hk.2⟩
    cases hf : (s.managed k).finalized with
    | false => rfl
    | true =>
      rw [← (h.managed k).finalized hf]
      exact hk.1
  constructor
  · exact h.toWinding.trans h'.toWinding
  · exact fun k => (h.managed k).trans (h'.managed k)
  · intro k hk
    rcases hk.split t with hk | hk
    · exact h'.steady.parked k (h.parked k hk)
    · exact h'.parked k hk
  · exact h'.sessions.trans h.sessions
  · intro k hk e he
    rcases hk.split t with hk | hk
    · exact h.left k hk e (h'.sessions.subset he)
    · have := h'.left k hk e he
      rwa [(h.managed k).session] at this
  · intro e he
    rcases h.leaves e he with he | ⟨k, hk, hid⟩
    · rcases h'.leaves e he with he | ⟨k, hk, hid⟩
      · exact Or.inl he
      · exact Or.inr ⟨k, hsecond k hk, by rw [hid, (h.managed k).session]⟩
    · exact Or.inr ⟨k, hfirst k hk, hid⟩

theorem Closing.sound (h : Closing options s t) (hs : Sound s) : Sound t where
  accounted := h.plane.accounted hs.accounted
  outstanding := by
    rw [h.outstanding, h.steady.managedCount]
    exact hs.outstanding
  sessions := by
    rw [h.steady.managedCount]
    exact fun e he => hs.sessions e (h.sessions.subset he)
  stopping := fun hne => by
    rcases h.stopPhase with heq | hidle | hcalls
    · exact (hs.stopping (heq ▸ hne)).trans_le h.stopCalls
    · exact absurd hidle hne
    · exact hcalls

theorem Easing.sound (h : Easing options s t) (hs : Sound s) : Sound t := h.closing.sound hs

/-! ### One operation after another -/

theorem managed_update (f : ManagedSession → ManagedSession) (j : Nat) :
    (update s k f).managed j = if j = k then f (s.managed k) else s.managed j := by
  by_cases hj : j = k
  · subst hj
    simp [update]
  · simp [update, hj]

/-- What an update leaves of session `k`, it leaves of every session. -/
theorem update_field {α : Type*} (g : ManagedSession → α) {f : ManagedSession → ManagedSession}
    (h : g (f (s.managed k)) = g (s.managed k)) (j : Nat) :
    g ((update s k f).managed j) = g (s.managed j) := by
  rw [managed_update]
  split_ifs with he
  · rw [he, h]
  · rfl

theorem field_of_others {α : Type*} (g : ManagedSession → α)
    (hothers : ∀ j, j ≠ k → t.managed j = s.managed j) (h : g (t.managed k) = g (s.managed k))
    (j : Nat) : g (t.managed j) = g (s.managed j) := by
  by_cases he : j = k
  · rw [he, h]
  · rw [hothers j he]

theorem easing_update {f : ManagedSession → ManagedSession}
    (h : (s.managed k).Eases (f (s.managed k))) :
    Easing options s (update s k f) := by
  have hmanaged : ∀ j, (s.managed j).Eases ((update s k f).managed j) := by
    intro j
    rw [managed_update]
    split_ifs with hj
    · rw [hj]
      exact h
    · exact .refl _
  exact ⟨{ (Winding.refl s : Winding options s s) with
    intake := fun j => (hmanaged j).intakeAborted
    accepting := fun _ => Or.inl rfl }, hmanaged, rfl⟩

/-- Only the data plane moves. -/
theorem easing_plane {p : DataPlane} (he : DataPlane.Evolves options s.plane p)
    (hsteady : Workload.Steady s.plane.toWorkload p.toWorkload)
    (haccepting : ∀ k, (p.scheduler k).accepting = (s.plane.scheduler k).accepting ∨
      (s.managed k).intakeAborted = true ∨ 0 < s.stopCalls) :
    Easing options s { s with plane := p } :=
  ⟨{ (Winding.refl s : Winding options s s) with
    plane := he, steady := hsteady, accepting := haccepting }, fun _ => .refl _, rfl⟩

theorem easing_closeSession (closeCode : CloseCode) (reason : String) :
    Easing options s (closeSession s k closeCode reason) :=
  ⟨{ (Winding.refl s : Winding options s s) with closeCalls := List.prefix_append _ _ },
    fun _ => .refl _, rfl⟩

/-- A scheduler is closed only after the intake of its session or because the server stops. -/
theorem easing_closeScheduler (hs : Sound s) (discardPending : Bool)
    (hclosed : (s.managed k).intakeAborted = true ∨ 0 < s.stopCalls) :
    Easing options s (closeScheduler s k discardPending) := by
  refine easing_plane (DataPlane.evolves_closeScheduler discardPending)
    (DataPlane.steady_closeScheduler hs.accounted.placement discardPending) fun j => ?_
  by_cases hj : j = k
  · exact Or.inr (hj ▸ hclosed)
  · left
    rw [DataPlane.closeScheduler_scheduler_of_ne hj]

theorem easing_clearDatagrams (hk : k < s.plane.managedCount) :
    Easing options s (clearDatagrams s k) :=
  easing_plane (.single (.clear hk)) (Workload.Steady.refl _) fun _ => Or.inl rfl

theorem easing_setScheduler {scheduler : BoundedTaskScheduler Nat Waiter}
    (hpending : scheduler.pending = (s.plane.scheduler k).pending)
    (hactive : scheduler.activeCount = (s.plane.scheduler k).activeCount)
    (hconcurrent : scheduler.maxConcurrent = (s.plane.scheduler k).maxConcurrent)
    (hbound : scheduler.maxPending = (s.plane.scheduler k).maxPending)
    (haccepting : scheduler.accepting = (s.plane.scheduler k).accepting)
    (hparked : (s.plane.scheduler k).Parked → scheduler.Parked) :
    Easing options s (setScheduler s k scheduler) := by
  refine easing_plane (DataPlane.evolves_setScheduler hpending hactive hconcurrent hbound)
    (Workload.steady_setScheduler hparked) fun j => Or.inl ?_
  by_cases hj : j = k
  · subst hj
    simpa [Workload.setScheduler] using haccepting
  · simp [Workload.setScheduler, hj]

theorem parked_onIdle {scheduler : BoundedTaskScheduler Nat Waiter} (h : scheduler.Parked)
    (waiter : Waiter) : (scheduler.onIdle waiter).Parked := by
  obtain ⟨hacc, hpend, hidle⟩ := h
  refine ⟨by simp [hacc], by simp [hpend], ?_⟩
  rw [BoundedTaskScheduler.onIdle_activeCount]
  rcases hidle with hzero | hwaiting
  · exact Or.inl hzero
  · right
    unfold BoundedTaskScheduler.onIdle
    split_ifs
    · exact hwaiting
    · exact List.mem_append_left _ hwaiting

theorem easing_onIdle (waiter : Waiter) :
    Easing options s (setScheduler s k ((s.plane.scheduler k).onIdle waiter)) :=
  easing_setScheduler (by simp) (by simp) (by simp) (by simp) (by simp) fun h =>
    parked_onIdle h waiter

theorem easing_contextAborted (hs : Sound s) (reason : Failure) :
    Easing options s (contextAborted s k reason) := by
  obtain ⟨hinternal, hsteady⟩ := Workload.internal_abortWaiters hs.accounted k
  have hload : Easing options s (setLoad s (s.plane.toWorkload.abortWaiters k)) :=
    easing_plane (DataPlane.evolves_internal hinternal) hsteady fun j =>
      Or.inl (by rw [s.plane.toWorkload.abortWaiters_scheduler k])
  exact hload.trans (easing_update (ManagedSession.rejectRace_eases reason))

theorem easing_abortAdmission (hs : Sound s) (reason : Failure) :
    Easing options s (abortAdmission s k reason) := by
  unfold abortAdmission
  split_ifs with haborted
  · exact .refl s
  · have hnone : (s.managed k).context = none := by
      simpa [ManagedSession.isContextAborted] using haborted
    have hset : Easing options s (update s k ({ · with context := some reason })) :=
      easing_update { ManagedSession.Eases.refl (s.managed k) with
        context := fun r hr => by rw [hnone] at hr; cases hr }
    exact hset.trans (easing_contextAborted (hset.sound hs) reason)

theorem easing_stopIntake (hs : Sound s) (hk : k < s.plane.managedCount) :
    Easing options s (stopIntake s k) := by
  have habort : Easing options s (update s k ({ · with intakeAborted := true })) :=
    easing_update { ManagedSession.Eases.refl (s.managed k) with intakeAborted := fun _ => rfl }
  have hover : ((update s k ({ · with intakeAborted := true })).managed k).intakeAborted =
      true := by
    simp [managed_update]
  have hclose := habort.trans
    (easing_closeScheduler (habort.sound hs) (k := k) false (Or.inl hover))
  have hclear := hclose.trans (easing_clearDatagrams (k := k) (hclose.steady.managedCount ▸ hk))
  exact hclear.trans (easing_update { ManagedSession.Eases.refl _ with })

theorem easing_releaseStream (i : Nat) : Easing options s (releaseStream s i) := by
  unfold releaseStream
  split_ifs
  · exact .refl s
  · have hcount : Easing options s { s with
        stream := Function.update s.stream i { s.stream i with released := true }
        activeStreams := s.activeStreams - 1 } :=
      ⟨{ (Winding.refl s : Winding options s s) with }, fun _ => .refl _, rfl⟩
    exact hcount.trans
      (easing_update (ManagedSession.releaseStream_eases (s.stream i).kind))

/-- What eases the state one entry at a time eases it along a list. -/
theorem easing_foldl {α : Type*} {f : RuntimeState → α → RuntimeState} (xs : List α)
    (hf : ∀ t, Easing options s t → ∀ x ∈ xs, Easing options t (f t x)) :
    Easing options s (xs.foldl f s) := by
  have hmain : ∀ t, Easing options s t → ∀ ys : List α, (∀ y ∈ ys, y ∈ xs) →
      Easing options s (ys.foldl f t) := by
    intro t ht ys
    induction ys generalizing t with
    | nil => exact fun _ => ht
    | cons y ys ih =>
      intro hmem
      exact ih (f t y) (ht.trans (hf t ht y (hmem y List.mem_cons_self)))
        fun z hz => hmem z (List.mem_cons_of_mem y hz)
  exact hmain s (.refl s) xs fun _ hx => hx

theorem easing_releaseStreams : Easing options s (releaseStreams s k) :=
  easing_foldl _ fun _ _ i _ => easing_releaseStream i

theorem easing_abandonSessions (hs : Sound s) (hstop : 0 < s.stopCalls) :
    Easing options s (abandonSessions s) := by
  refine easing_foldl _ fun t ht k _ => ?_
  have habort : Easing options t (abortAdmission t k .unknown) :=
    easing_abortAdmission (ht.sound hs) .unknown
  refine habort.trans (easing_closeScheduler (habort.sound (ht.sound hs)) true (Or.inr ?_))
  exact hstop.trans_le (ht.stopCalls.trans habort.stopCalls)

/-- Fields no closing depends on. -/
theorem easing_control {t : RuntimeState} (hplane : t.plane = s.plane)
    (houtstanding : t.outstandingSessions = s.outstandingSessions) (hip : t.ipRecords = s.ipRecords)
    (haccepted : t.acceptedSessions = s.acceptedSessions) (hclose : t.closeCalls = s.closeCalls)
    (hstop : s.stopCalls ≤ t.stopCalls) (hmanaged : t.managed = s.managed)
    (hsessions : t.sessions = s.sessions)
    (hphase : t.stopPhase = s.stopPhase ∨ t.stopPhase = .idle ∨ 0 < t.stopCalls) :
    Easing options s t where
  plane := hplane ▸ .refl
  steady := hplane ▸ .refl _
  outstanding := houtstanding
  ipRecords := hip
  acceptedSessions := haccepted
  closeCalls := by rw [hclose]
  stopCalls := hstop
  stopPhase := hphase
  intake := fun k => by rw [hmanaged]; exact id
  accepting := fun k => by rw [hplane]; exact Or.inl rfl
  managed := fun k => by rw [hmanaged]; exact .refl _
  sessions := hsessions

theorem easing_closeSessions (hstop : 0 < s.stopCalls) : Easing options s (closeSessions s) := by
  have hclose : Easing options s (s.sessions.foldl
      (fun s entry => closeSession s entry.2 .noError "Server shutting down") s) :=
    easing_foldl _ fun _ _ entry _ => easing_closeSession .noError "Server shutting down"
  exact hclose.trans (easing_control rfl rfl rfl rfl rfl le_rfl rfl rfl
    (Or.inr (Or.inr (hstop.trans_le hclose.stopCalls))))

theorem easing_forceStop (hs : Sound s) (hstop : 0 < s.stopCalls) (stoppingDuringStart : Bool) :
    Easing options s (forceStop s stoppingDuringStart) := by
  have habandon : Easing options s (abandonSessions s) := easing_abandonSessions hs hstop
  have hcalls := hstop.trans_le habandon.stopCalls
  unfold forceStop
  simp only
  split_ifs
  · exact habandon.trans
      (easing_control rfl rfl rfl rfl rfl le_rfl rfl rfl (Or.inr (Or.inr hcalls)))
  · exact habandon.trans (easing_closeSessions hcalls)

theorem easing_awaitSession : Easing options s (awaitSession s k) :=
  (easing_onIdle .stop).trans (easing_update ManagedSession.waitForStreams_eases)

theorem easing_awaitDrain (hstop : 0 < s.stopCalls) : Easing options s (awaitDrain s) := by
  have hidle : Easing options s (s.outstandingSessions.foldl awaitSession s) :=
    easing_foldl _ fun _ _ k _ => easing_awaitSession
  exact hidle.trans (easing_control rfl rfl rfl rfl rfl le_rfl rfl rfl
    (Or.inr (Or.inr (hstop.trans_le hidle.stopCalls))))

/-- Another lifecycle. -/
theorem easing_lifecycle (lifecycle : Lifecycle) :
    Easing options s { s with lifecycle := lifecycle } :=
  easing_control rfl rfl rfl rfl rfl le_rfl rfl rfl (Or.inl rfl)

theorem easing_stopSessions (hs : Sound s) (hstop : 0 < s.stopCalls) (stoppingDuringStart : Bool) :
    Easing options s (stopSessions deps s stoppingDuringStart) := by
  unfold stopSessions
  split_ifs
  · exact easing_awaitDrain hstop
  · have hstopping : Easing options s { s with lifecycle := s.lifecycle.transition .stopping } :=
      easing_lifecycle _
    exact hstopping.trans (easing_forceStop (hstopping.sound hs) hstop stoppingDuringStart)
  · exact easing_forceStop hs hstop stoppingDuringStart

theorem easing_performStop (hs : Sound s) (hstop : 0 < s.stopCalls) :
    Easing options s (performStop deps s) := by
  unfold performStop
  split_ifs
  · exact easing_control rfl rfl rfl rfl rfl le_rfl rfl rfl (Or.inr (Or.inr hstop))
  · have hcontrol : Easing options s (releaseStartup s) :=
      easing_control rfl rfl rfl rfl rfl le_rfl rfl rfl (Or.inl rfl)
    have hintake : Easing options s
        (s.outstandingSessions.foldl stopIntake (releaseStartup s)) := by
      refine hcontrol.trans (easing_foldl _ fun t ht k hk =>
        easing_stopIntake (ht.sound (hcontrol.sound hs)) ?_)
      rw [ht.steady.managedCount]
      exact hs.outstanding k hk
    exact hintake.trans
      (easing_stopSessions (hintake.sound hs) (hstop.trans_le hintake.stopCalls) _)

theorem easing_stop (hs : Sound s) : Easing options s (stop deps s) := by
  have hcall : Easing options s { s with stopCalls := s.stopCalls + 1 } :=
    easing_control rfl rfl rfl rfl rfl (Nat.le_succ _) rfl rfl (Or.inl rfl)
  unfold stop
  simp only
  split_ifs
  · exact hcall.trans (easing_performStop (hcall.sound hs) (Nat.succ_pos _))
  · exact hcall

theorem easing_handleRuntimeError (hs : Sound s) (error : Failure) :
    Easing options s (handleRuntimeError deps s k error) := by
  unfold handleRuntimeError
  split
  · exact .refl s
  · exact .refl s
  · exact .refl s
  · exact easing_closeSession .internalError error.code
  · exact easing_stop hs
  · exact easing_stop hs

theorem easing_drainEnded (hs : Sound s) (hphase : s.stopPhase ≠ .idle) :
    Easing options s (drainEnded s) := by
  have hstopping : Easing options s { s with lifecycle := s.lifecycle.transition .stopping } :=
    easing_lifecycle _
  exact hstopping.trans (easing_forceStop (hstopping.sound hs) (hs.stopping hphase) false)

/-! ### Finalizing -/

theorem context_abortAdmission (reason : Failure) :
    ((abortAdmission s k reason).managed k).context.isSome = true := by
  unfold abortAdmission
  split_ifs with haborted
  · exact haborted
  · have hset : ((update s k ({ · with context := some reason })).managed k).context.isSome =
        true := by simp [managed_update]
    have hrace := ManagedSession.rejectRace_eases (m :=
      (update s k ({ · with context := some reason })).managed k) reason
    simp only [contextAborted]
    rw [managed_update, if_pos rfl]
    exact hrace.toLasts.isContextAborted hset

theorem intakeAborted_stopIntake : ((stopIntake s k).managed k).intakeAborted = true := by
  simp [stopIntake, managed_update, closeScheduler, clearDatagrams]

/-- `finalizeSession` between setting the flag and the deletion from `sessions`. -/
theorem easing_finalizing (hs : Sound s) (hk : k < s.plane.managedCount) (reason : Failure) :
    ∃ u, u = update (clearDatagrams
        (closeScheduler (abortAdmission (stopIntake s k) k reason) k true) k) k
          ({ · with streamIdleWaiters := 0 }) ∧
      Easing options s u ∧ (u.managed k).intakeAborted = true ∧
      (u.managed k).context.isSome = true ∧
      ((u.plane.scheduler k).onIdle .retirement).Parked := by
  have hintake : Easing options s (stopIntake s k) := easing_stopIntake hs hk
  have habort : Easing options (stopIntake s k) (abortAdmission (stopIntake s k) k reason) :=
    easing_abortAdmission (hintake.sound hs) reason
  have hover := (habort.managed k).intakeAborted intakeAborted_stopIntake
  have hclose := (hintake.trans habort).trans
    (easing_closeScheduler ((hintake.trans habort).sound hs) (k := k) true (Or.inl hover))
  have hwaiters : ∀ u : RuntimeState,
      Easing options u (update u k ({ · with streamIdleWaiters := 0 })) :=
    fun u => easing_update { ManagedSession.Eases.refl (u.managed k) with }
  refine ⟨_, rfl, ?_, ?_, ?_, ?_⟩
  · exact (hclose.trans (easing_clearDatagrams (hclose.steady.managedCount ▸ hk))).trans
      (hwaiters _)
  · rw [managed_update, if_pos rfl]
    exact hover
  · rw [managed_update, if_pos rfl]
    exact context_abortAdmission reason
  · exact DataPlane.parked_closeScheduler _ rfl

/-- Finalizing a session parks its scheduler and touches no other session. -/
theorem closing_finalizeSession (hs : Sound s) (hk : k < s.plane.managedCount) (reason : Failure) :
    Closing options s (finalizeSession s k reason) := by
  unfold finalizeSession
  cases hfinal : (s.managed k).finalized with
  | true => simpa using Closing.refl s
  | false =>
    simp only [Bool.false_eq_true, if_false]
    have hsound : Sound (update s k ({ · with finalized := true })) := { hs with }
    obtain ⟨u, hu, hease, hintake, hcontext, hparked⟩ :
        ∃ u, _ ∧ Easing options (update s k ({ · with finalized := true })) u ∧ _ :=
      easing_finalizing (k := k) hsound hk reason
    rw [← hu]
    have hidle : Easing options u (setScheduler u k ((u.plane.scheduler k).onIdle .retirement)) :=
      easing_onIdle .retirement
    have hother : ∀ j, j ≠ k → (s.managed j).Eases (u.managed j) := by
      intro j hj
      have := hease.managed j
      rwa [managed_update, if_neg hj] at this
    have hself := hease.managed k
    rw [managed_update, if_pos rfl] at hself
    have hmark : (s.managed k).Lasts { s.managed k with finalized := true } :=
      { ManagedSession.Lasts.refl (s.managed k) with }
    have hlasts : (s.managed k).Lasts (u.managed k) := hmark.trans hself.toLasts
    have hmanaged : ∀ j, (retireSession { u with
        sessions := u.sessions.filter (·.1 ≠ (u.managed k).session.id) } k).managed j =
        if j = k then { u.managed k with retirement := .awaiting (u.managed k).awaited }
        else u.managed j :=
      managed_update (s := { u with
        sessions := u.sessions.filter (·.1 ≠ (u.managed k).session.id) })
        (fun m => { m with retirement := .awaiting m.awaited })
    have honly : ∀ j, Finalizes s (retireSession { u with
        sessions := u.sessions.filter (·.1 ≠ (u.managed k).session.id) } k) j → j = k := by
      intro j ⟨hold, hnew⟩
      by_contra hj
      rw [hmanaged, if_neg hj, (hother j hj).finalized, hold] at hnew
      cases hnew
    have hnow : Finalizes s (retireSession { u with
        sessions := u.sessions.filter (·.1 ≠ (u.managed k).session.id) } k) k := by
      refine ⟨hfinal, ?_⟩
      rw [hmanaged, if_pos rfl]
      exact hself.finalized
    have hintakes : ∀ j, ((retireSession
        { u with sessions := u.sessions.filter (·.1 ≠ (u.managed k).session.id) } k).managed
          j).intakeAborted = (u.managed j).intakeAborted := by
      intro j
      rw [hmanaged]
      split_ifs with hj
      · rw [hj]
      · rfl
    constructor
    · exact { (hease.toWinding.trans hidle.toWinding) with
        intake := fun j hj => by
          rw [hintakes]
          by_cases he : j = k
          · exact he ▸ hintake
          · exact (hother j he).intakeAborted hj
        accepting := fun j => by
          rw [hintakes]
          exact (hease.toWinding.trans hidle.toWinding).accepting j }
    · intro j
      rw [hmanaged]
      split_ifs with hj
      · subst hj
        refine ⟨{ hlasts with }, Or.inr ⟨hfinal, hself.finalized, ?_, hintake, hcontext⟩⟩
        rw [hlasts.awaited]
      · exact (hother j hj).closes
    · intro j hj
      rw [honly j hj]
      simpa [retireSession, setScheduler, setLoad, Workload.setScheduler, update] using hparked
    · have hsub : (u.sessions.filter (·.1 ≠ (u.managed k).session.id)).Sublist u.sessions :=
        List.filter_sublist
      have hsame : u.sessions.Sublist s.sessions := by
        rw [hease.sessions]
        exact List.Sublist.refl _
      exact hsub.trans hsame
    · intro j hj e he
      rw [honly j hj, ← hlasts.session]
      simpa using (List.mem_filter.mp he).2
    · intro e he
      by_cases hid : e.1 = (u.managed k).session.id
      · exact Or.inr ⟨k, hnow, hid.trans (by rw [hlasts.session])⟩
      · left
        refine List.mem_filter.mpr ⟨?_, by simpa using hid⟩
        rw [hease.sessions]
        exact he

/-- What closes the state one entry at a time closes it along a list. -/
theorem closing_foldl {α : Type*} {f : RuntimeState → α → RuntimeState} (xs : List α)
    (hf : ∀ t, Closing options s t → ∀ x ∈ xs, Closing options t (f t x)) :
    Closing options s (xs.foldl f s) := by
  have hmain : ∀ t, Closing options s t → ∀ ys : List α, (∀ y ∈ ys, y ∈ xs) →
      Closing options s (ys.foldl f t) := by
    intro t ht ys
    induction ys generalizing t with
    | nil => exact fun _ => ht
    | cons y ys ih =>
      intro hmem
      exact ih (f t y) (ht.trans (hf t ht y (hmem y List.mem_cons_self)))
        fun z hz => hmem z (List.mem_cons_of_mem y hz)
  exact hmain s (.refl s) xs fun _ hx => hx

theorem closing_driverStopped (hs : Sound s) (hphase : s.stopPhase ≠ .idle)
    (result : DriverStopResult) : Closing options s (driverStopped s result) := by
  have hfinal : Closing options s
      (s.sessions.foldl (fun s entry => finalizeSession s entry.2 .unknown) s) := by
    refine closing_foldl _ fun t ht entry hentry =>
      closing_finalizeSession (ht.sound hs) ?_ .unknown
    rw [ht.steady.managedCount]
    exact hs.sessions entry hentry
  have hcalls := (hs.stopping hphase).trans_le hfinal.stopCalls
  have hend : ∀ (t : RuntimeState) (lifecycle : Lifecycle), 0 < t.stopCalls →
      Easing options t { t with lifecycle := lifecycle, stopPhase := .returned } :=
    fun _ _ ht => easing_control rfl rfl rfl rfl rfl le_rfl rfl rfl (Or.inr (Or.inr ht))
  exact hfinal.trans (hend _ _ hcalls).closing

/-- The abort of a session's signal finalizes it. -/
theorem closing_sessionAborted (hs : Sound s) (hk : k < s.plane.managedCount) (reason : Failure) :
    Closing options s (sessionAborted s k reason) := by
  have habort : Easing options s (update s k fun m =>
      { m with sessionAborted := true, context := some (m.context.getD reason) }) :=
    easing_update { ManagedSession.Eases.refl (s.managed k) with
      sessionAborted := fun _ => rfl
      context := fun r hr => by simp [hr] }
  have hfinal := habort.closing.trans
    (closing_finalizeSession (habort.sound hs) (habort.steady.managedCount ▸ hk) (k := k) reason)
  have hstreams := hfinal.trans (easing_releaseStreams (k := k)).closing
  have hcapacity : ∀ t : RuntimeState, Easing options t
      (setScheduler t k (t.plane.scheduler k).abortCapacityWaiters) :=
    fun t => easing_setScheduler rfl rfl rfl rfl rfl fun h => h
  have hwaiters := hstreams.trans (hcapacity _).closing
  unfold sessionAborted
  simp only
  split_ifs
  · exact hwaiters.trans (easing_contextAborted (hwaiters.sound hs) (k := k) reason).closing
  · exact hwaiters

theorem easing_handshakeTimeout (hs : Sound s) : Easing options s (handshakeTimeout s k) :=
  (easing_abortAdmission hs .timeout).trans
    (easing_update (ManagedSession.rejectRace_eases .timeout))

end WebTransportRuntime

end NestWebTransport
