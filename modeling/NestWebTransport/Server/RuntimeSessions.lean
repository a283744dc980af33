import NestWebTransport.Server.RuntimeBudget

/-! How managed sessions age. -/
namespace NestWebTransport

namespace ManagedSession

variable {m m' : ManagedSession}

/-- What any step does to a session: signals stay aborted, pumps stay settled once the intake is
over, and a finalized session retires. -/
structure Ages (m m' : ManagedSession) : Prop where
  session : m'.session = m.session
  work : m'.work = m.work
  context : ∀ r, m.context = some r → m'.context = some r
  sessionAborted : m.sessionAborted = true → m'.sessionAborted = true
  intakeAborted : m.intakeAborted = true → m'.intakeAborted = true
  finalized : m.finalized = true → m'.finalized = true
  finalizes : m.finalized = false → m'.finalized = true →
    m'.retirement = .awaiting m'.awaited ∧ m'.intakeAborted = true ∧ m'.context.isSome = true
  retirement : m'.finalized = m.finalized → m'.retirement = m.retirement ∨
    (m'.retirement = .retired ∧ ∃ a, m.retirement = .awaiting a)
  datagramPump : m.isIntakeOver = true → m.datagramPump.settled = true →
    m'.datagramPump.settled = true
  drain : m.isIntakeOver = true → m.drain.settled = true → m'.drain.settled = true
  streamPump : ∀ kind, m.isIntakeOver = true → (m.streamPump kind).settled = true →
    (m'.streamPump kind).settled = true

theorem Ages.refl (m : ManagedSession) : Ages m m :=
  ⟨rfl, rfl, fun _ => id, id, id, id, fun hf hf' => (Bool.false_ne_true (hf.symm.trans hf')).elim,
    fun _ => Or.inl rfl, fun _ => id, fun _ => id, fun _ _ => id⟩

theorem Closes.ages (h : Closes m m') : Ages m m' where
  session := h.session
  work := h.work
  context := h.context
  sessionAborted := h.sessionAborted
  intakeAborted := h.intakeAborted
  finalized := h.finalized
  finalizes := fun hf hf' => by
    rcases h.retirement with ⟨hsame, -⟩ | ⟨-, -, hretirement, hintake, hcontext⟩
    · rw [hsame, hf] at hf'
      cases hf'
    · exact ⟨h.toLasts.awaited ▸ hretirement, hintake, hcontext⟩
  retirement := fun hsame => by
    rcases h.retirement with ⟨-, hretirement⟩ | ⟨hf, hf', -⟩
    · exact Or.inl hretirement
    · rw [hf, hf'] at hsame
      cases hsame
  datagramPump := fun _ hm => by rwa [h.datagramPump]
  drain := fun _ hm => by rwa [h.drain]
  streamPump := fun kind _ hm => by rwa [h.streamPump]

theorem Advances.ages (h : WebTransportRuntime.Advances m m') : Ages m m' := by
  unfold WebTransportRuntime.Advances at h
  rw [h]
  exact { Ages.refl m with }

theorem Pumps.ages (h : Pumps m m') : Ages m m' := by
  have hover := h.isIntakeOver
  have hdatagram := h.datagramPump
  have hdrain := h.drain
  have hstream := h.streamPump
  rw [h.kept]
  exact {
    Ages.refl m with
    finalizes := fun hf hf' => (Bool.false_ne_true (hf.symm.trans hf')).elim
    datagramPump := fun _ => hdatagram
    drain := fun hm hsettled => by
      rcases hdrain hsettled with hsettled' | hopen
      · exact hsettled'
      · rw [hm] at hopen
        cases hopen
    streamPump := fun kind _ => hstream kind }

/-- Pumps that start do so while the intake is open. -/
theorem Launches.ages (h : WebTransportRuntime.Launches m m') (hopen : m.isIntakeOver = false) :
    Ages m m' := by
  have hover : m.isIntakeOver ≠ true := by simp [hopen]
  unfold WebTransportRuntime.Launches at h
  rw [h]
  exact {
    Ages.refl m with
    finalizes := fun hf hf' => (Bool.false_ne_true (hf.symm.trans hf')).elim
    datagramPump := fun hm => absurd hm hover
    drain := fun hm => absurd hm hover
    streamPump := fun _ hm => absurd hm hover }

end ManagedSession

namespace WebTransportRuntime

variable {options : NormalizedWebTransportModuleOptions} {deps : RuntimeDependencies}
  {s t u : RuntimeState} {e : RuntimeEvent} {es : List RuntimeEvent} {k w : Nat}

/-! ### Sessions over a step -/

theorem ages_update {f : ManagedSession → ManagedSession}
    (h : (s.managed k).Ages (f (s.managed k))) (j : Nat) :
    (s.managed j).Ages ((update s k f).managed j) := by
  rw [managed_update]
  split_ifs with he
  · rw [he]
    exact h
  · exact .refl _

theorem ages_closing (h : Closing options s t) (j : Nat) : (s.managed j).Ages (t.managed j) :=
  (h.managed j).ages

/-- How far `acceptSession` is does not matter. -/
theorem ages_accept {accept : AcceptPhase} {j : Nat} {m' : ManagedSession}
    (h : ((update s j ({ · with accept := accept })).managed k).Ages m') :
    (s.managed k).Ages m' := by
  rw [managed_update] at h
  split_ifs at h with he
  · subst he
    exact { h with }
  · exact h

theorem ages_touching {R : ManagedSession → ManagedSession → Prop}
    (h : Touching options R k s t) (hR : (s.managed k).Ages (t.managed k)) (j : Nat) :
    (s.managed j).Ages (t.managed j) := by
  by_cases he : j = k
  · rw [he]
    exact hR
  · rw [h.others j he]
    exact .refl _

theorem ages_pumping (h : Pumping options k s t) (j : Nat) : (s.managed j).Ages (t.managed j) := by
  by_cases he : j = k
  · rw [he]
    exact h.pumps.ages
  · rw [h.others j he]
    exact .refl _

theorem isIntakeOver_ages {m m' : ManagedSession} (h : m.Ages m') (hm : m.isIntakeOver = true) :
    m'.isIntakeOver = true := by
  simp only [ManagedSession.isIntakeOver, Bool.or_eq_true] at hm ⊢
  exact hm.imp h.sessionAborted h.intakeAborted

/-- Ageing before and after, where only one of the two stretches finalizes or retires. -/
theorem ages_eases {m m' m'' : ManagedSession} (h : m.Ages m') (h' : m'.Eases m'') :
    m.Ages m'' where
  session := h'.session.trans h.session
  work := h'.work.trans h.work
  context := fun r hr => h'.context r (h.context r hr)
  sessionAborted := fun hm => h'.sessionAborted (h.sessionAborted hm)
  intakeAborted := fun hm => h'.intakeAborted (h.intakeAborted hm)
  finalized := fun hm => h'.finalized.trans (h.finalized hm)
  finalizes := fun hf hf' => by
    obtain ⟨hretirement, hintake, hcontext⟩ := h.finalizes hf (h'.finalized ▸ hf')
    exact ⟨by rw [h'.retirement, h'.toLasts.awaited, hretirement], h'.intakeAborted hintake,
      h'.toLasts.isContextAborted hcontext⟩
  retirement := fun hsame => by
    rw [h'.retirement]
    exact h.retirement (h'.finalized.symm.trans hsame)
  datagramPump := fun hm hsettled => by rw [h'.datagramPump]; exact h.datagramPump hm hsettled
  drain := fun hm hsettled => by rw [h'.drain]; exact h.drain hm hsettled
  streamPump := fun kind hm hsettled => by rw [h'.streamPump]; exact h.streamPump kind hm hsettled

theorem awaiting_of_ready (h : isRetirementReady s k = true) :
    ∃ awaited, (s.managed k).retirement = .awaiting awaited ∧
      (awaited.admission = false ∨ isAdmissionSettled s k = true) ∧
      Waiter.retirement ∉ (s.plane.scheduler k).idleWaiters ∧
      (s.managed k).pumpsSettled awaited = true := by
  unfold isRetirementReady at h
  cases hretirement : (s.managed k).retirement with
  | none => simp [hretirement] at h
  | retired => simp [hretirement] at h
  | awaiting awaited =>
    simp only [hretirement, Bool.and_eq_true, Bool.or_eq_true, Bool.not_eq_true'] at h
    refine ⟨awaited, rfl, h.1.1, ?_, h.2⟩
    simpa using h.1.2

theorem retired_managed (s : RuntimeState) (k : Nat) (now : Int) :
    (retired s k now).managed = (update s k ({ · with retirement := .retired })).managed := by
  unfold retired
  simp only
  split_ifs <;> rfl

/-- Every step lets the sessions there are only grow older. -/
theorem Turn.ages (h : Turn deps s e t) (hk : k < s.plane.managedCount) :
    (s.managed k).Ages (t.managed k) := by
  cases h with
  | closing h => exact (h.managed k).ages
  | refused hrecords h => exact (h.managed k).closes.ages
  | opened hchecks hopen hrecords h =>
    have hsame : _ = _ := congrFun hopen.managed k
    rw [Function.update_of_ne (Nat.ne_of_lt hk)] at hsame
    rw [← hsame]
    exact (h.managed k).ages
  | admitting hj hadmits h hwork => exact ages_touching h (ManagedSession.Advances.ages h.session) k
  | observed hj hadmission hsettled =>
    exact ages_update (s := s) { ManagedSession.Ages.refl _ with } k
  | @returned j t hj hrace h =>
    exact ages_accept (ages_closing h k)
  | @accepted j t hj hrace hopen hrunning h =>
    have hover : ((WebTransportRuntime.accepted s j).managed j).isIntakeOver = false := by
      simpa [WebTransportRuntime.accepted, managed_update, ManagedSession.isIntakeOver] using hopen
    exact ages_accept (ages_touching h (ManagedSession.Launches.ages h.session hover) k)
  | @retired j now hj hready =>
    obtain ⟨awaited, hawaiting, -⟩ := awaiting_of_ready hready
    rw [retired_managed]
    refine ages_update (s := s) ?_ k
    exact { ManagedSession.Ages.refl (s.managed j) with
      finalizes := fun hf hf' => (Bool.false_ne_true (hf.symm.trans hf')).elim
      retirement := fun _ => Or.inr ⟨rfl, awaited, hawaiting⟩ }
  | detached hw hp => exact .refl _
  | ended hw hp hover => exact .refl _
  | pumping hj hactive h =>
    obtain ⟨u, hpump, hease⟩ := h
    exact ages_eases (ages_pumping hpump k) (hease.managed k)

/-- A session that a step adds: it was surfaced, opened and perhaps finalized at once. -/
def Arrives (deps : RuntimeDependencies) (s : RuntimeState) (e : RuntimeEvent) (t : RuntimeState) :
    Prop :=
  ∃ offer readers u, e = .surfaced offer ∧ Surfaces deps s offer ∧
    Opens deps.options offer readers s u ∧ u.ipRecords =
      (s.ipRecords.acquireIpSlot (ipLimits deps) offer.session.ipAddress offer.clock).2 ∧
    Closing deps.options u t

/-- A step adds a session at most, the one that it surfaces. -/
theorem Turn.managedCount (h : Turn deps s e t) (hs : Sound s) :
    t.plane.managedCount = s.plane.managedCount ∨
      (t.plane.managedCount = s.plane.managedCount + 1 ∧ Arrives deps s e t) := by
  cases h with
  | closing h => exact Or.inl h.steady.managedCount
  | refused hrecords h => exact Or.inl h.steady.managedCount
  | opened hchecks hopen hrecords h =>
    refine Or.inr ⟨h.steady.managedCount.trans hopen.managedCount, ?_⟩
    exact ⟨_, _, _, rfl, hchecks, hopen, hrecords, h⟩
  | admitting hk hadmits h hwork => exact Or.inl h.steady.managedCount
  | observed hk hadmission hsettled => exact Or.inl rfl
  | returned hk hrace h => exact Or.inl h.steady.managedCount
  | accepted hk hrace hopen hrunning h => exact Or.inl h.steady.managedCount
  | retired hk hready =>
    rw [retired_plane]
    exact Or.inl rfl
  | detached hw hp => exact Or.inl rfl
  | @ended w failure hw hp hover => exact Or.inl (moves_runEnded hs hp failure).managedCount
  | pumping hk hactive h =>
    obtain ⟨u, hpump, hease⟩ := h
    exact Or.inl (hease.steady.managedCount.trans hpump.managedCount)

theorem Opens.newcomer {offer : SessionOffer} {readers : Bool × Bool × Bool}
    (h : Opens options offer readers s t) :
    t.managed s.plane.managedCount =
      WebTransportRuntime.newcomer offer readers s.plane.workCount := by
  rw [h.managed, Function.update_self]

/-- A property of single sessions that newcomers have and ageing keeps. -/
theorem sessions_step {P : ManagedSession → Prop}
    (hnew : ∀ offer readers w, P (newcomer offer readers w))
    (hages : ∀ m m' : ManagedSession, m.Ages m' → P m → P m') (hs : Sound s)
    (h : (machine deps).Step s e t) (hold : ∀ k < s.plane.managedCount, P (s.managed k)) :
    ∀ k < t.plane.managedCount, P (t.managed k) := by
  have hturn := turn_of_step hs h
  intro k hk
  by_cases hlt : k < s.plane.managedCount
  · exact hages _ _ (hturn.ages hlt) (hold k hlt)
  · rcases hturn.managedCount hs with heq | ⟨heq, offer, readers, u, -, -, hopen, -, hclose⟩
    · omega
    · obtain rfl : k = s.plane.managedCount := by omega
      refine hages _ _ (ages_closing hclose _) ?_
      rw [hopen.newcomer]
      exact hnew _ _ _

/-! ### Retirement -/

/-- Each pump whose promise is not awaited has settled. -/
def Unawaited (awaited : Awaited) (m : ManagedSession) : Prop :=
  (awaited.datagramPump = false → m.datagramPump.settled = true) ∧
  (awaited.drain = false → m.drain.settled = true) ∧
  (awaited.bidirectionalPump = false → (m.streamPump .bidirectional).settled = true) ∧
  (awaited.unidirectionalPump = false → (m.streamPump .unidirectional).settled = true)

/-- A session retires once it is finalized, and awaits every pump that runs by then. -/
structure Retires (m : ManagedSession) : Prop where
  finalized : m.finalized = true ↔ m.retirement ≠ .none
  intakeAborted : m.finalized = true → m.intakeAborted = true
  context : m.finalized = true → m.context.isSome = true
  awaits : ∀ awaited, m.retirement = .awaiting awaited → Unawaited awaited m

theorem unawaited_awaited (m : ManagedSession) : Unawaited m.awaited m := by
  simp [Unawaited, ManagedSession.awaited]

theorem retires_newcomer (offer : SessionOffer) (readers : Bool × Bool × Bool) (w : Nat) :
    Retires (newcomer offer readers w) := by
  unfold newcomer
  cases offer.aborted <;> constructor <;> simp [unmanaged]

/-- A session goes on to its retirement and not back. -/
theorem retires_ages {m m' : ManagedSession} (h : m.Ages m') (hm : Retires m) : Retires m' := by
  cases hf : m.finalized with
  | true =>
    have hf' := h.finalized hf
    have hover : m.isIntakeOver = true := by
      simp [ManagedSession.isIntakeOver, hm.intakeAborted hf]
    have hretirement := h.retirement (hf'.trans hf.symm)
    refine ⟨⟨fun _ => ?_, fun _ => hf'⟩, fun _ => h.intakeAborted (hm.intakeAborted hf),
      fun _ => ?_, fun awaited hawaiting => ?_⟩
    · rcases hretirement with heq | ⟨heq, -⟩
      · rw [heq]
        exact hm.finalized.mp hf
      · simp [heq]
    · obtain ⟨r, hr⟩ := Option.isSome_iff_exists.mp (hm.context hf)
      rw [h.context r hr]
      rfl
    · rcases hretirement with heq | ⟨heq, -⟩
      · obtain ⟨hdatagram, hdrain, hbidirectional, hunidirectional⟩ :=
          hm.awaits awaited (heq ▸ hawaiting)
        exact ⟨fun ha => h.datagramPump hover (hdatagram ha), fun ha => h.drain hover (hdrain ha),
          fun ha => h.streamPump _ hover (hbidirectional ha),
          fun ha => h.streamPump _ hover (hunidirectional ha)⟩
      · rw [heq] at hawaiting
        cases hawaiting
  | false =>
    have hnone : m.retirement = .none := by
      by_contra hne
      simp [hm.finalized.mpr hne] at hf
    cases hf' : m'.finalized with
    | true =>
      obtain ⟨hawaiting, hintake, hcontext⟩ := h.finalizes hf hf'
      refine ⟨⟨fun _ => by simp [hawaiting], fun _ => hf'⟩, fun _ => hintake, fun _ => hcontext,
        fun awaited ha => ?_⟩
      rw [hawaiting] at ha
      cases ha
      exact unawaited_awaited m'
    | false =>
      have hnone' : m'.retirement = .none := by
        rcases h.retirement (hf'.trans hf.symm) with heq | ⟨-, a, ha⟩
        · rw [heq, hnone]
        · rw [hnone] at ha
          cases ha
      exact ⟨by simp [hf', hnone'], by simp [hf'], by simp [hf'], by simp [hnone']⟩

/-! ### What a retiring session awaits -/

/-- Every finalized session has a parked scheduler. -/
def FinalizedParked (s : RuntimeState) : Prop :=
  ∀ k < s.plane.managedCount, (s.managed k).finalized = true → (s.plane.scheduler k).Parked

theorem parked_closing (h : Closing options s t) (hs : FinalizedParked s) : FinalizedParked t := by
  intro k hk hf'
  cases hf : (s.managed k).finalized with
  | true => exact h.steady.parked k (hs k (h.steady.managedCount ▸ hk) hf)
  | false => exact h.parked k ⟨hf, hf'⟩

theorem parked_keeps (h : FinalizedParked s)
    (hcount : t.plane.managedCount = s.plane.managedCount)
    (hfinalized : ∀ k, (t.managed k).finalized = (s.managed k).finalized)
    (hparked : ∀ k, (s.plane.scheduler k).Parked → (t.plane.scheduler k).Parked) :
    FinalizedParked t := by
  intro k hk hf
  rw [hfinalized] at hf
  exact hparked k (h k (hcount ▸ hk) hf)

theorem parked_update {f : ManagedSession → ManagedSession} (h : FinalizedParked s)
    (hf : (f (s.managed k)).finalized = (s.managed k).finalized) :
    FinalizedParked (update s k f) := by
  refine parked_keeps h rfl (fun j => ?_) fun _ => id
  rw [managed_update]
  split_ifs with he
  · rw [he, hf]
  · rfl

/-- The scheduler of a finalized session stays parked. -/
theorem parked_step (hs : Sound s) (h : (machine deps).Step s e t) (hp : FinalizedParked s) :
    FinalizedParked t := by
  cases turn_of_step hs h with
  | closing h => exact parked_closing h hp
  | refused hrecords h => exact parked_closing h.closing hp
  | @opened offer readers u t hchecks hopen hrecords h =>
    refine parked_closing h fun k hk hf => ?_
    rw [hopen.managedCount] at hk
    rcases Nat.lt_succ_iff_lt_or_eq.mp hk with hlt | rfl
    · rw [hopen.managed, Function.update_of_ne (Nat.ne_of_lt hlt)] at hf
      rw [hopen.scheduler k (Nat.ne_of_lt hlt)]
      exact hp k hlt hf
    · rw [hopen.newcomer] at hf
      exact absurd hf (by unfold newcomer; cases offer.aborted <;> simp [unmanaged])
  | @admitting e j t hj hadmits h hwork =>
    refine parked_keeps hp h.steady.managedCount (fun k => ?_) h.steady.parked
    by_cases he : k = j
    · rw [he, h.session]
    · rw [h.others k he]
  | observed hk hadmission hsettled => exact parked_update hp rfl
  | returned hk hrace h => exact parked_closing h (parked_update hp rfl)
  | @accepted j t hj hrace hopen hrunning h =>
    have haccepted : FinalizedParked (accepted s j) :=
      parked_update (s := { s with acceptedSessions := s.acceptedSessions + 1 }) hp rfl
    refine parked_keeps haccepted h.steady.managedCount (fun k => ?_) h.steady.parked
    by_cases he : k = j
    · rw [he, h.session]
    · rw [h.others k he]
  | @retired j now hj hready =>
    have hupdate : FinalizedParked (update s j ({ · with retirement := .retired })) :=
      parked_update hp rfl
    unfold FinalizedParked
    rw [retired_managed, retired_plane]
    exact hupdate
  | detached hw hp' => exact parked_keeps hp rfl (fun _ => rfl) fun _ => id
  | @ended w failure hw hp' hover =>
    have hmoves := moves_runEnded hs hp' failure
    refine parked_keeps hp hmoves.managedCount (fun _ => rfl) fun k hk => ?_
    rwa [hmoves.scheduler]
  | @pumping e j t hj hactive h =>
    obtain ⟨u, hpump, hease⟩ := h
    refine parked_closing hease.closing (parked_keeps hp hpump.managedCount (fun k => ?_)
      hpump.parked)
    by_cases he : k = j
    · rw [he, hpump.pumps.kept]
    · rw [hpump.others k he]

/-- The admission work of the session has settled, where it has any. -/
def AdmissionSettled (s : RuntimeState) (k : Nat) : Prop :=
  ∀ w, (s.managed k).work = some w → (s.plane.work w).phase = .settled

/-- An admission that is no longer awaited has settled. -/
structure AdmissionAwaited (s : RuntimeState) (k : Nat) : Prop where
  admission : (s.managed k).admission = false → AdmissionSettled s k
  awaits : ∀ awaited, (s.managed k).retirement = .awaiting awaited → awaited.admission = false →
    AdmissionSettled s k

theorem admissionSettled_iff (h : isAdmissionSettled s k = true) : AdmissionSettled s k := by
  intro w hw
  simpa [isAdmissionSettled, hw] using h

/-- An admission is awaited until its work has settled. -/
theorem Turn.admission (h : Turn deps s e t) (hk : k < s.plane.managedCount) :
    (t.managed k).admission = (s.managed k).admission ∨ AdmissionSettled s k := by
  cases h with
  | closing h => exact Or.inl (h.managed k).admission
  | refused hrecords h => exact Or.inl (h.managed k).admission
  | opened hchecks hopen hrecords h =>
    left
    rw [(h.managed k).admission, hopen.managed, Function.update_of_ne (Nat.ne_of_lt hk)]
  | @admitting e j t hj hadmits h hwork =>
    left
    by_cases he : k = j
    · rw [he, h.session]
    · rw [h.others k he]
  | @observed j hj hadmission hsettled =>
    by_cases he : k = j
    · rw [he]
      exact Or.inr (admissionSettled_iff hsettled)
    · left
      rw [admissionObserved, managed_update, if_neg he]
  | @returned j t hj hrace h =>
    left
    rw [(h.managed k).admission, managed_update]
    split_ifs with he
    · rw [he]
    · rfl
  | @accepted j t hj hrace hopen hrunning h =>
    have hsame : ((WebTransportRuntime.accepted s j).managed k).admission =
        (s.managed k).admission := by
      rw [WebTransportRuntime.accepted, managed_update]
      split_ifs with he
      · rw [he]
      · rfl
    left
    by_cases he : k = j
    · rw [← hsame, he, h.session]
    · rw [h.others k he, hsame]
  | @retired j now hj hready =>
    left
    rw [retired_managed, managed_update]
    split_ifs with he
    · rw [he]
    · rfl
  | detached hw hp => exact Or.inl rfl
  | ended hw hp hover => exact Or.inl rfl
  | @pumping e j t hj hactive h =>
    obtain ⟨u, hpump, hease⟩ := h
    left
    rw [(hease.managed k).admission]
    by_cases he : k = j
    · rw [he, hpump.pumps.kept]
    · rw [hpump.others k he]

theorem Turn.admissionSettled (h : Turn deps s e t) (hs : Sound s) (hemployed : Employed s)
    (hk : k < s.plane.managedCount) (hsettled : AdmissionSettled s k) : AdmissionSettled t k := by
  intro w hw
  rw [(h.ages hk).work] at hw
  exact (h.continues hs (hemployed.work k hk w hw).1).settled (hsettled w hw)

/-- An admission is awaited until it has settled. -/
theorem awaited_step (hs : Sound s) (hemployed : Employed s)
    (hretires : ∀ k < s.plane.managedCount, Retires (s.managed k))
    (h : (machine deps).Step s e t) (ha : ∀ k < s.plane.managedCount, AdmissionAwaited s k) :
    ∀ k < t.plane.managedCount, AdmissionAwaited t k := by
  have hturn := turn_of_step hs h
  intro k hk
  by_cases hlt : k < s.plane.managedCount
  · have hkeep := hturn.admissionSettled hs hemployed hlt
    have hages := hturn.ages hlt
    have hadmission : (t.managed k).admission = false → AdmissionSettled t k := by
      intro hfalse
      rcases hturn.admission hlt with hsame | hsettled
      · exact hkeep ((ha k hlt).admission (hsame ▸ hfalse))
      · exact hkeep hsettled
    refine ⟨hadmission, fun awaited hawaiting hfalse => ?_⟩
    cases hf : (s.managed k).finalized with
    | true =>
      have hf' := hages.finalized hf
      rcases hages.retirement (hf'.trans hf.symm) with heq | ⟨heq, -⟩
      · exact hkeep ((ha k hlt).awaits awaited (heq ▸ hawaiting) hfalse)
      · rw [heq] at hawaiting
        cases hawaiting
    | false =>
      have hf' : (t.managed k).finalized = true := by
        have hretires' := retires_ages hages (hretires k hlt)
        exact hretires'.finalized.mpr (by simp [hawaiting])
      obtain ⟨hnew, -⟩ := hages.finalizes hf hf'
      rw [hawaiting] at hnew
      cases hnew
      exact hadmission hfalse
  · rcases hturn.managedCount hs with heq | ⟨heq, offer, readers, u, -, -, hopen, -, hclose⟩
    · omega
    · obtain rfl : k = s.plane.managedCount := by omega
      have hclosed := hclose.managed s.plane.managedCount
      rw [hopen.newcomer] at hclosed
      have hadmission : (t.managed s.plane.managedCount).admission = false →
          AdmissionSettled t s.plane.managedCount := by
        intro hfalse w hw
        rw [hclosed.admission] at hfalse
        rw [hclosed.work] at hw
        unfold newcomer at hfalse hw
        cases hoffer : offer.aborted with
        | none => simp [hoffer] at hfalse
        | some reason => simp [hoffer, unmanaged] at hw
      refine ⟨hadmission, fun awaited hawaiting hfalse => ?_⟩
      rcases hclosed.retirement with ⟨-, heq⟩ | ⟨-, -, heq, -⟩
      · rw [hawaiting] at heq
        unfold newcomer at heq
        cases hoffer : offer.aborted <;> simp [hoffer, unmanaged] at heq
      · rw [← hclosed.toLasts.awaited] at heq
        rw [hawaiting] at heq
        cases heq
        exact hadmission hfalse

/-- The facts about retirement that hold in every state of a run. -/
structure Winds (s : RuntimeState) : Prop where
  sound : Sound s
  employed : Employed s
  retires : ∀ k < s.plane.managedCount, Retires (s.managed k)
  parked : FinalizedParked s
  awaited : ∀ k < s.plane.managedCount, AdmissionAwaited s k

/-- The facts about winding sessions down are kept together. -/
theorem winds_step (h : (machine deps).Step s e t) (hs : Winds s) : Winds t where
  sound := sound_step hs.sound h
  employed := employed_step hs.sound hs.employed h
  retires := sessions_step retires_newcomer (fun _ _ => retires_ages) hs.sound h hs.retires
  parked := parked_step hs.sound h hs.parked
  awaited := awaited_step hs.sound hs.employed hs.retires h hs.awaited

theorem winds_new (deps : RuntimeDependencies) : Winds (new deps) where
  sound := sound_new deps
  employed := employed_new deps
  retires := fun k hk => absurd hk (Nat.not_lt_zero k)
  parked := fun k hk => absurd hk (Nat.not_lt_zero k)
  awaited := fun k hk => absurd hk (Nat.not_lt_zero k)

end WebTransportRuntime

end NestWebTransport
