import NestWebTransport.Server.RuntimeSessions

/-! The slots sessions hold, over every run of the runtime. -/
namespace NestWebTransport.WebTransportRuntime

variable {options : NormalizedWebTransportModuleOptions} {deps : RuntimeDependencies}
  {s t u : RuntimeState} {e : RuntimeEvent} {es : List RuntimeEvent} {k w : Nat}

/-! ### Settled sessions -/

/-- Every promise of the four pumps of a session has settled. -/
def PumpsSettled (m : ManagedSession) : Prop :=
  m.datagramPump.settled = true ∧ m.drain.settled = true ∧
    ∀ kind, (m.streamPump kind).settled = true

/-- Every task a scheduler of session `k` accepted has settled. -/
def TasksSettled (s : RuntimeState) (k : Nat) : Prop :=
  ∀ w < s.plane.workCount, (s.plane.work w).owner = k → (s.plane.work w).kind ≠ .admission →
    (s.plane.work w).phase = .settled

theorem pumpsSettled_unawaited {m : ManagedSession} {awaited : Awaited} (h : Unawaited awaited m)
    (hsettled : m.pumpsSettled awaited = true) : PumpsSettled m := by
  obtain ⟨hdatagram, hdrain, hbidirectional, hunidirectional⟩ := h
  simp only [ManagedSession.pumpsSettled, Bool.and_eq_true, Bool.or_eq_true,
    Bool.not_eq_true'] at hsettled
  obtain ⟨⟨⟨hd, hr⟩, hb⟩, hu⟩ := hsettled
  refine ⟨hd.elim hdatagram id, hr.elim hdrain id, fun kind => ?_⟩
  cases kind with
  | bidirectional => exact hb.elim hbidirectional id
  | unidirectional => exact hu.elim hunidirectional id

/-- A parked scheduler nobody waits for has no task left. -/
theorem tasksSettled_parked (h : Workload.Accounted s.plane.toWorkload)
    (hparked : (s.plane.scheduler k).Parked)
    (hidle : Waiter.retirement ∉ (s.plane.scheduler k).idleWaiters) : TasksSettled s k := by
  intro w hw howner hkind
  obtain ⟨-, hpending, hactive⟩ := hparked
  have hzero : tally s.plane.workCount (Workload.activeIn k) s.plane.work = 0 := by
    rw [← h.scheduled.active k]
    rcases hactive with hactive | hwaiting
    · exact hactive
    · exact absurd hwaiting hidle
  have hnonneg : ∀ v < s.plane.workCount, 0 ≤ Workload.activeIn k (s.plane.work v) := by
    intro v _
    unfold Workload.activeIn
    split <;> simp
  have hone := (tally_eq_zero_iff hnonneg).mp hzero w hw
  have hheld : (s.plane.work w).phase ≠ .pending := by
    intro hp
    have hmem := ((h.placement.pending k).2 w).mpr ⟨hw, hp, howner, hkind⟩
    rw [hpending] at hmem
    cases hmem
  by_contra hp
  simp [Workload.activeIn, howner, hkind, hheld, hp] at hone

/-- A session retires only once everything of it has settled. -/
theorem settled_of_ready (h : Winds s) (hk : k < s.plane.managedCount)
    (hready : isRetirementReady s k = true) :
    (s.managed k).finalized = true ∧ AdmissionSettled s k ∧ TasksSettled s k ∧
      PumpsSettled (s.managed k) := by
  obtain ⟨awaited, hawaiting, hadmission, hidle, hpumps⟩ := awaiting_of_ready hready
  have hf : (s.managed k).finalized = true :=
    (h.retires k hk).finalized.mpr (by simp [hawaiting])
  refine ⟨hf, ?_, tasksSettled_parked h.sound.accounted (h.parked k hk hf) hidle,
    pumpsSettled_unawaited ((h.retires k hk).awaits awaited hawaiting) hpumps⟩
  rcases hadmission with hfalse | hsettled
  · exact (h.awaited k hk).awaits awaited hawaiting hfalse
  · exact admissionSettled_iff hsettled

/-! ### Outstanding sessions -/

/-- The outstanding sessions of one address. -/
def sessionsOf (s : RuntimeState) (ip : String) : Nat :=
  s.outstandingSessions.countP fun k => decide ((s.managed k).session.ipAddress = ip)

/-- The sessions that have not retired are outstanding and hold the slots of their addresses;
those in `sessions` are not even finalized. -/
structure Slots (deps : RuntimeDependencies) (s : RuntimeState) : Prop where
  nodup : s.outstandingSessions.Nodup
  mem : ∀ k < s.plane.managedCount, k ∈ s.outstandingSessions ↔ (s.managed k).retirement ≠ .retired
  entered : ∀ entry ∈ s.sessions, (s.managed entry.2).finalized = false ∧
    (s.managed entry.2).session.id = entry.1
  ids : (s.sessions.map Prod.fst).Nodup
  active : ∀ ip, s.ipRecords.active ip = sessionsOf s ip
  ipLimit : ∀ ip, s.ipRecords.active ip ≤ deps.options.limits.ip.maxSessions.value
  limit : s.outstandingSessions.length ≤ deps.options.limits.server.maxSessions.value

/-- Nothing a slot depends on differs. -/
structure Rests (s t : RuntimeState) : Prop where
  managedCount : t.plane.managedCount = s.plane.managedCount
  outstanding : t.outstandingSessions = s.outstandingSessions
  sessions : t.sessions = s.sessions
  ipRecords : t.ipRecords = s.ipRecords
  managed : ∀ k, (t.managed k).session = (s.managed k).session ∧
    (t.managed k).finalized = (s.managed k).finalized ∧
    (t.managed k).retirement = (s.managed k).retirement

theorem Rests.refl (s : RuntimeState) : Rests s s := ⟨rfl, rfl, rfl, rfl, fun _ => ⟨rfl, rfl, rfl⟩⟩

theorem Rests.trans (h : Rests s t) (h' : Rests t u) : Rests s u where
  managedCount := h'.managedCount.trans h.managedCount
  outstanding := h'.outstanding.trans h.outstanding
  sessions := h'.sessions.trans h.sessions
  ipRecords := h'.ipRecords.trans h.ipRecords
  managed := fun k => ⟨(h'.managed k).1.trans (h.managed k).1,
    (h'.managed k).2.1.trans (h.managed k).2.1, (h'.managed k).2.2.trans (h.managed k).2.2⟩

theorem rests_update {f : ManagedSession → ManagedSession}
    (h : (f (s.managed k)).session = (s.managed k).session ∧
      (f (s.managed k)).finalized = (s.managed k).finalized ∧
      (f (s.managed k)).retirement = (s.managed k).retirement) : Rests s (update s k f) := by
  refine { Rests.refl s with managed := fun j => ?_ }
  rw [managed_update]
  split_ifs with he
  · rw [he]
    exact h
  · exact ⟨rfl, rfl, rfl⟩

theorem rests_others (hcount : t.plane.managedCount = s.plane.managedCount)
    (houtstanding : t.outstandingSessions = s.outstandingSessions)
    (hsessions : t.sessions = s.sessions)
    (hrecords : t.ipRecords = s.ipRecords) (hothers : ∀ j, j ≠ k → t.managed j = s.managed j)
    (h : (t.managed k).session = (s.managed k).session ∧
      (t.managed k).finalized = (s.managed k).finalized ∧
      (t.managed k).retirement = (s.managed k).retirement) : Rests s t := by
  refine ⟨hcount, houtstanding, hsessions, hrecords, fun j => ?_⟩
  by_cases he : j = k
  · rw [he]
    exact h
  · rw [hothers j he]
    exact ⟨rfl, rfl, rfl⟩

/-- What a step does to the slots: it leaves them to what it closes, gives one to a newcomer or
retires a session. -/
theorem Turn.slots (h : Turn deps s e t) (hs : Sound s) :
    (∃ u records, Undone s records ∧ Rests { s with ipRecords := records } u ∧
      Closing deps.options u t) ∨
    Arrives deps s e t ∨
    ∃ j now, j < s.plane.managedCount ∧ isRetirementReady s j = true ∧ e = .retired j now ∧
      t = WebTransportRuntime.retired s j now := by
  have hsame : Undone s s.ipRecords := fun _ _ => rfl
  cases h with
  | closing h => exact Or.inl ⟨s, _, hsame, .refl s, h⟩
  | @refused offer records t hrecords h =>
    exact Or.inl ⟨{ s with ipRecords := records }, _, hrecords, .refl _, h.closing⟩
  | opened hchecks hopen hrecords h =>
    exact Or.inr (Or.inl ⟨_, _, _, rfl, hchecks, hopen, hrecords, h⟩)
  | @admitting e j t hj hadmits h hwork =>
    refine Or.inl ⟨t, _, hsame, ?_, .refl t⟩
    exact rests_others h.steady.managedCount (by rw [h.state]) (by rw [h.state]) (by rw [h.state])
      h.others (by rw [h.session]; exact ⟨rfl, rfl, rfl⟩)
  | observed hj hadmission hsettled =>
    exact Or.inl ⟨_, _, hsame, rests_update ⟨rfl, rfl, rfl⟩, .refl _⟩
  | returned hj hrace h =>
    exact Or.inl ⟨_, _, hsame, rests_update ⟨rfl, rfl, rfl⟩, h⟩
  | @accepted j t hj hrace hopen hrunning h =>
    have haccepted : Rests { s with acceptedSessions := s.acceptedSessions + 1 }
        (WebTransportRuntime.accepted s j) := rests_update ⟨rfl, rfl, rfl⟩
    have hlaunched : Rests (WebTransportRuntime.accepted s j) t :=
      rests_others h.steady.managedCount (by rw [h.state]) (by rw [h.state]) (by rw [h.state])
        h.others (by rw [h.session]; exact ⟨rfl, rfl, rfl⟩)
    exact Or.inl ⟨t, _, hsame, { haccepted.trans hlaunched with }, .refl t⟩
  | @retired j now hj hready => exact Or.inr (Or.inr ⟨j, now, hj, hready, rfl, rfl⟩)
  | @detached w hw hp =>
    refine Or.inl ⟨setLoad s (s.plane.toWorkload.detach w), _, hsame, ?_, .refl _⟩
    exact ⟨rfl, rfl, rfl, rfl, fun _ => ⟨rfl, rfl, rfl⟩⟩
  | @ended w failure hw hp hover =>
    refine Or.inl ⟨_, _, hsame, ?_, .refl _⟩
    exact { Rests.refl s with managedCount := (moves_runEnded hs hp failure).managedCount }
  | @pumping e j t hj hactive h =>
    obtain ⟨u, hpump, hease⟩ := h
    refine Or.inl ⟨u, _, hsame, ?_, hease.closing⟩
    exact rests_others hpump.managedCount hpump.outstanding hpump.sessions hpump.ipRecords
      hpump.others (by rw [hpump.pumps.kept]; exact ⟨rfl, rfl, rfl⟩)

theorem sessionsOf_congr {ip : String}
    (houtstanding : t.outstandingSessions = s.outstandingSessions)
    (hsession : ∀ k ∈ s.outstandingSessions, (t.managed k).session = (s.managed k).session) :
    sessionsOf t ip = sessionsOf s ip := by
  unfold sessionsOf
  rw [houtstanding]
  exact List.countP_congr fun k hk => by rw [hsession k hk]

/-- A step that leaves the sessions alone leaves their slots. -/
theorem slots_rests {records : IpRecords} (hrecords : Undone s records)
    (h : Rests { s with ipRecords := records } t) (hs : Slots deps s) : Slots deps t := by
  have hactive : ∀ ip, t.ipRecords.active ip = s.ipRecords.active ip := by
    intro ip
    rw [h.ipRecords]
    exact hrecords (fun ip => by rw [hs.active]; exact Int.natCast_nonneg _) ip
  constructor
  · rw [h.outstanding]
    exact hs.nodup
  · intro k hk
    rw [h.outstanding, (h.managed k).2.2]
    exact hs.mem k (h.managedCount ▸ hk)
  · intro entry hentry
    rw [(h.managed entry.2).1, (h.managed entry.2).2.1]
    rw [h.sessions] at hentry
    exact hs.entered entry hentry
  · rw [h.sessions]
    exact hs.ids
  · intro ip
    rw [hactive, hs.active, sessionsOf_congr h.outstanding fun k _ => (h.managed k).1]
    rfl
  · intro ip
    rw [hactive]
    exact hs.ipLimit ip
  · rw [h.outstanding]
    exact hs.limit

/-- A session that is finalized leaves the map and keeps its slots. -/
theorem slots_closing (h : Closing options s t)
    (hretires : ∀ k < s.plane.managedCount, (s.managed k).finalized = false →
      (s.managed k).retirement = .none) (hs : Slots deps s) : Slots deps t := by
  constructor
  · rw [h.outstanding]
    exact hs.nodup
  · intro k hk
    rw [h.steady.managedCount] at hk
    rw [h.outstanding, hs.mem k hk]
    rcases (h.managed k).retirement with ⟨-, heq⟩ | ⟨hf, -, heq, -⟩
    · rw [heq]
    · simp [hretires k hk hf, heq]
  · intro entry hentry
    obtain ⟨hf, hid⟩ := hs.entered entry (h.sessions.subset hentry)
    rw [(h.managed entry.2).session]
    refine ⟨?_, hid⟩
    by_contra hf'
    exact h.left entry.2 ⟨hf, by simpa using hf'⟩ entry hentry hid.symm
  · exact (h.sessions.map Prod.fst).nodup hs.ids
  · intro ip
    rw [h.ipRecords, hs.active, sessionsOf_congr h.outstanding fun k _ => (h.managed k).session]
  · rw [h.ipRecords]
    exact hs.ipLimit
  · rw [h.outstanding]
    exact hs.limit

/-- A session that passed its checks takes its slots within the limits. -/
theorem slots_opens {offer : SessionOffer} {readers : Bool × Bool × Bool} (hsound : Sound s)
    (hchecks : Surfaces deps s offer) (h : Opens deps.options offer readers s t)
    (hrecords : t.ipRecords =
      (s.ipRecords.acquireIpSlot (ipLimits deps) offer.session.ipAddress offer.clock).2)
    (hs : Slots deps s) : Slots deps t := by
  obtain ⟨hlimit, hid, -⟩ :=
    (offer.session.validateSession_eq_none deps.options deps.parseURL).mp hchecks.valid
  have hacquired : ((s.ipRecords.acquireIpSlot (ipLimits deps) offer.session.ipAddress
        offer.clock).1 = true →
      s.ipRecords.active offer.session.ipAddress < (ipLimits deps).maxSessions) ∧ _ :=
    IpRecords.active_acquireIpSlot (ipLimits deps) offer.clock
  obtain ⟨hslot, hactive⟩ := hacquired
  have hold : ∀ k ∈ s.outstandingSessions, t.managed k = s.managed k := fun k hk => by
    rw [h.managed, Function.update_of_ne (Nat.ne_of_lt (hsound.outstanding k hk))]
  have hnew : (newcomer offer readers s.plane.workCount).session = offer.session ∧
      (newcomer offer readers s.plane.workCount).finalized = false ∧
      (newcomer offer readers s.plane.workCount).retirement = .none := by
    unfold newcomer
    cases offer.aborted <;> simp [unmanaged]
  rw [← h.newcomer] at hnew
  have hgranted : ∀ ip, t.ipRecords.active ip =
      s.ipRecords.active ip + if ip = offer.session.ipAddress then 1 else 0 := by
    intro ip
    rw [hrecords, hactive ip]
    simp [hchecks.slot]
  have hcount : ∀ ip, t.ipRecords.active ip = sessionsOf t ip := by
    intro ip
    have hrest : (s.outstandingSessions.countP fun k =>
        decide ((t.managed k).session.ipAddress = ip)) = sessionsOf s ip :=
      List.countP_congr fun k hk => by rw [hold k hk]
    rw [hgranted, hs.active]
    unfold sessionsOf at hrest ⊢
    rw [h.outstanding, List.countP_append, hrest, List.countP_singleton, hnew.1]
    by_cases hip : ip = offer.session.ipAddress
    · simp [hip]
    · simp [hip, Ne.symm hip]
  constructor
  · rw [h.outstanding, List.nodup_append]
    refine ⟨hs.nodup, List.nodup_singleton _, fun a ha b hb => ?_⟩
    rw [List.mem_singleton.mp hb]
    exact Nat.ne_of_lt (hsound.outstanding a ha)
  · intro k hk
    rw [h.managedCount] at hk
    rw [h.outstanding, List.mem_append, List.mem_singleton]
    rcases Nat.lt_succ_iff_lt_or_eq.mp hk with hlt | rfl
    · rw [h.managed, Function.update_of_ne (Nat.ne_of_lt hlt), ← hs.mem k hlt]
      exact or_iff_left (Nat.ne_of_lt hlt)
    · simp [hnew.2.2]
  · intro entry hentry
    rw [h.sessions, List.mem_append, List.mem_singleton] at hentry
    rcases hentry with hentry | rfl
    · rw [h.managed, Function.update_of_ne (Nat.ne_of_lt (hsound.sessions entry hentry))]
      exact hs.entered entry hentry
    · exact ⟨hnew.2.1, by rw [hnew.1]⟩
  · rw [h.sessions, List.map_append, List.nodup_append]
    refine ⟨hs.ids, List.nodup_singleton _, fun a ha b hb => ?_⟩
    rw [List.mem_singleton.mp hb]
    rintro rfl
    exact hid ha
  · exact hcount
  · intro ip
    have hlimit := hslot hchecks.slot
    have hbefore := hs.ipLimit ip
    rw [hgranted]
    split_ifs with hip
    · rw [hip]
      simp only [ipLimits] at hlimit
      omega
    · omega
  · rw [h.outstanding, List.length_append]
    exact hlimit

/-- A session that retires gives its slots back. -/
theorem slots_retired {now : Int} (hready : isRetirementReady s k = true)
    (hk : k < s.plane.managedCount) (hs : Slots deps s) : Slots deps (retired s k now) := by
  obtain ⟨awaited, hawaiting, -⟩ := awaiting_of_ready hready
  have hmem : k ∈ s.outstandingSessions := (hs.mem k hk).mpr (by simp [hawaiting])
  have hsession : ∀ j, ((update s k ({ · with retirement := .retired })).managed j).session =
      (s.managed j).session ∧
        ((update s k ({ · with retirement := .retired })).managed j).finalized =
        (s.managed j).finalized := by
    intro j
    rw [managed_update]
    split_ifs with he
    · rw [he]
      exact ⟨rfl, rfl⟩
    · exact ⟨rfl, rfl⟩
  have hlength : (s.outstandingSessions.erase k).length ≤ s.outstandingSessions.length :=
    List.length_erase_le
  unfold retired
  simp only [if_pos hmem]
  have hactive : ∀ ip, ((s.ipRecords.releaseIpSlot (s.managed k).session.ipAddress now).active ip) =
      ((s.outstandingSessions.erase k).countP fun j =>
        decide ((s.managed j).session.ipAddress = ip) : Nat) := by
    intro ip
    have hone := (List.perm_cons_erase hmem).countP_eq
      (fun j => decide ((s.managed j).session.ipAddress = ip))
    have hbefore := hs.active ip
    unfold sessionsOf at hbefore
    rw [List.countP_cons] at hone
    rw [IpRecords.active_releaseIpSlot]
    split_ifs with hip
    · subst hip
      simp only [decide_true, if_true] at hone
      omega
    · have hne : ¬ (s.managed k).session.ipAddress = ip := fun he => hip he.symm
      simp only [hne, decide_false, Bool.false_eq_true, if_false] at hone
      omega
  constructor
  · exact hs.nodup.erase k
  · intro j hj
    rw [hs.nodup.mem_erase_iff]
    by_cases he : j = k
    · subst he
      simp [update]
    · simpa [update, he] using hs.mem j hj
  · intro entry hentry
    obtain ⟨hf, hid⟩ := hs.entered entry hentry
    exact ⟨(hsession entry.2).2.trans hf, (congrArg _ (hsession entry.2).1).trans hid⟩
  · exact hs.ids
  · intro ip
    refine (hactive ip).trans ?_
    unfold sessionsOf
    exact congrArg _ (List.countP_congr fun j _ => by rw [(hsession j).1])
  · intro ip
    have hbefore := hs.ipLimit ip
    refine (hactive ip).le.trans (le_trans ?_ hbefore)
    rw [hs.active]
    exact Int.ofNat_le.mpr (List.erase_sublist.countP_le)
  · exact hlength.trans hs.limit

/-- Each step keeps the slots those of the outstanding sessions. -/
theorem slots_step (h : (machine deps).Step s e t) (hw : Winds s) (hs : Slots deps s) :
    Slots deps t := by
  have hnone : ∀ k < s.plane.managedCount, (s.managed k).finalized = false →
      (s.managed k).retirement = .none := by
    intro k hk hf
    by_contra hne
    simp [(hw.retires k hk).finalized.mpr hne] at hf
  rcases (turn_of_step hw.sound h).slots hw.sound with ⟨u, records, hrecords, hrest, hclose⟩ |
    ⟨offer, readers, u, -, hchecks, hopen, hrecords, hclose⟩ | ⟨j, now, hj, hready, -, rfl⟩
  · refine slots_closing hclose (fun k hk hf => ?_) (slots_rests hrecords hrest hs)
    rw [(hrest.managed k).2.2]
    exact hnone k (hrest.managedCount ▸ hk) ((hrest.managed k).2.1 ▸ hf)
  · refine slots_closing hclose (fun k hk hf => ?_) (slots_opens hw.sound hchecks hopen hrecords hs)
    rw [hopen.managedCount] at hk
    rcases Nat.lt_succ_iff_lt_or_eq.mp hk with hlt | rfl
    · rw [hopen.managed, Function.update_of_ne (Nat.ne_of_lt hlt)] at hf ⊢
      exact hnone k hlt hf
    · rw [hopen.newcomer]
      unfold newcomer
      cases offer.aborted <;> rfl
  · exact slots_retired hready hj hs

theorem slots_new (deps : RuntimeDependencies) : Slots deps (new deps) := by
  constructor <;> simp [new, DataPlane.new, sessionsOf, IpRecords.active]

/-- The slots are in order in every run. -/
theorem slots_run (h : (machine deps).Run (new deps) es t) : Winds t ∧ Slots deps t := by
  have hkeep : ∀ s e t, (machine deps).Step s e t → Winds s ∧ Slots deps s →
      Winds t ∧ Slots deps t :=
    fun s e t hst hs => ⟨winds_step hst hs.1, slots_step hst hs.1 hs.2⟩
  exact h.invariant (P := fun s => Winds s ∧ Slots deps s) hkeep ⟨winds_new deps, slots_new deps⟩

/-! ### Leaving -/

/-- `retireSession` of session `k` continues after its `await`. -/
def isRetirement (k : Nat) : RuntimeEvent → Bool
  | .retired j _ => decide (j = k)
  | _ => false

/-- A session leaves its slots only when it is retired, with all its work settled. -/
theorem leaves_step (h : (machine deps).Step s e t) (hw : Winds s)
    (hk : k ∈ s.outstandingSessions) (hleft : k ∉ t.outstandingSessions) :
    isRetirement k e = true ∧ (s.managed k).finalized = true ∧ AdmissionSettled s k ∧
      TasksSettled s k ∧ PumpsSettled (s.managed k) := by
  rcases (turn_of_step hw.sound h).slots hw.sound with ⟨u, records, -, hrest, hclose⟩ |
    ⟨offer, readers, u, -, -, hopen, -, hclose⟩ | ⟨j, now, hj, hready, rfl, rfl⟩
  · rw [hclose.outstanding, hrest.outstanding] at hleft
    exact absurd hk hleft
  · rw [hclose.outstanding, hopen.outstanding] at hleft
    exact absurd (List.mem_append_left _ hk) hleft
  · have he : j = k := by
      by_contra hne
      unfold retired at hleft
      simp only at hleft
      split_ifs at hleft
      · exact hleft ((List.mem_erase_of_ne (Ne.symm hne)).mpr hk)
      · exact hleft hk
    subst he
    exact ⟨by simp [isRetirement], settled_of_ready hw hj hready⟩

/-- A retirement takes out a session that was outstanding. -/
theorem retirement_step (h : (machine deps).Step s e t) (hs : Slots deps s)
    (he : isRetirement k e = true) : k ∈ s.outstandingSessions ∧ k < t.plane.managedCount ∧
      k ∉ t.outstandingSessions := by
  obtain ⟨henabled, rfl⟩ := h
  cases e <;> simp only [isRetirement, Bool.false_eq_true, decide_eq_true_eq] at he
  rename_i j now
  subst he
  simp only [enabled, Bool.and_eq_true, decide_eq_true_eq] at henabled
  obtain ⟨awaited, hawaiting, -⟩ := awaiting_of_ready henabled.2
  have hmem : j ∈ s.outstandingSessions := (hs.mem j henabled.1).mpr (by simp [hawaiting])
  refine ⟨hmem, ?_, ?_⟩
  · simp only [next, retired_plane]
    exact henabled.1
  · simp only [next, retired, if_pos hmem]
    rw [hs.nodup.mem_erase_iff]
    simp

/-- A managed session that is not outstanding stays so, and another stays outstanding until it
retires. -/
theorem outstanding_keeps (h : (machine deps).Step s e t) (hw : Winds s)
    (hk : k < s.plane.managedCount) (hout : k ∉ s.outstandingSessions) :
    k < t.plane.managedCount ∧ k ∉ t.outstandingSessions := by
  rcases (turn_of_step hw.sound h).slots hw.sound with ⟨u, records, -, hrest, hclose⟩ |
    ⟨offer, readers, u, -, -, hopen, -, hclose⟩ | ⟨j, now, hj, hready, rfl, rfl⟩
  · rw [hclose.steady.managedCount, hrest.managedCount, hclose.outstanding, hrest.outstanding]
    exact ⟨hk, hout⟩
  · rw [hclose.steady.managedCount, hopen.managedCount, hclose.outstanding, hopen.outstanding,
      List.mem_append, List.mem_singleton]
    exact ⟨by omega, by simp [hout]; omega⟩
  · rw [retired_plane]
    refine ⟨hk, fun hmem => hout ?_⟩
    unfold retired at hmem
    simp only at hmem
    split_ifs at hmem
    · exact List.mem_of_mem_erase hmem
    · exact hmem

/-- A session that is not retired stays outstanding, and a new one becomes so. -/
theorem arrived_step (h : (machine deps).Step s e t) (hw : Winds s)
    (he : isRetirement k e = false)
    (hs : k < s.plane.managedCount → k ∈ s.outstandingSessions) (hk : k < t.plane.managedCount) :
    k ∈ t.outstandingSessions := by
  by_cases hlt : k < s.plane.managedCount
  · by_contra hleft
    rw [(leaves_step h hw (hs hlt) hleft).1] at he
    cases he
  · rcases (turn_of_step hw.sound h).managedCount hw.sound with
      heq | ⟨heq, offer, readers, u, -, -, hopen, -, hclose⟩
    · omega
    · rw [hclose.outstanding, hopen.outstanding, List.mem_append, List.mem_singleton]
      exact Or.inr (by omega)

/-- A session is outstanding from its registration until it retires, which happens once. -/
theorem retirements_run (h : (machine deps).Run (new deps) es t) (k : Nat) :
    es.countP (isRetirement k) ≤ 1 ∧
      (k < t.plane.managedCount →
        (k ∈ t.outstandingSessions ↔ es.countP (isRetirement k) = 0)) := by
  have hkeep : ∀ s e t, (machine deps).Step s e t → Winds s ∧ Slots deps s →
      Winds t ∧ Slots deps t :=
    fun s e t hst hs => ⟨winds_step hst hs.1, slots_step hst hs.1 hs.2⟩
  have hfire : ∀ s e t, (machine deps).Step s e t → Winds s ∧ Slots deps s →
      isRetirement k e = true →
      ¬ (k < s.plane.managedCount ∧ k ∉ s.outstandingSessions) ∧
        (k < t.plane.managedCount ∧ k ∉ t.outstandingSessions) := by
    intro s e t hst hs he
    obtain ⟨hmem, hlt, hleft⟩ := retirement_step hst hs.2 he
    exact ⟨fun hout => hout.2 hmem, hlt, hleft⟩
  have hstable : ∀ s e t, (machine deps).Step s e t → Winds s ∧ Slots deps s →
      (k < s.plane.managedCount ∧ k ∉ s.outstandingSessions) →
      k < t.plane.managedCount ∧ k ∉ t.outstandingSessions :=
    fun s e t hst hs hout => outstanding_keeps hst hs.1 hout.1 hout.2
  have hstart : Winds (new deps) ∧ Slots deps (new deps) := ⟨winds_new deps, slots_new deps⟩
  refine ⟨(h.countP_le_one hkeep hstable hfire hstart).1, fun hk =>
    ⟨fun hmem => ?_, fun hzero => ?_⟩⟩
  · rw [List.countP_eq_zero]
    intro e he hretires
    exact (h.holds_after hkeep (fun s t hst hs => (hfire s e t hst hs hretires).2) hstable hstart
      he).2 hmem
  · have hnone : ∀ e ∈ es, isRetirement k e = false := by
      intro e he
      simpa using List.countP_eq_zero.mp hzero e he
    have harrived : ∀ s e t, isRetirement k e = false → (machine deps).Step s e t →
        (Winds s ∧ (k < s.plane.managedCount → k ∈ s.outstandingSessions)) →
        Winds t ∧ (k < t.plane.managedCount → k ∈ t.outstandingSessions) :=
      fun s e t he hst hs => ⟨winds_step hst hs.1, arrived_step hst hs.1 he hs.2⟩
    exact (h.invariant_of_events (P := fun s => Winds s ∧
      (k < s.plane.managedCount → k ∈ s.outstandingSessions)) _ harrived hnone
      ⟨winds_new deps, fun hlt => absurd hlt (Nat.not_lt_zero k)⟩).2 hk

/-- Each address holds as many slots as it has outstanding sessions, within both limits; a session
leaves them once, when it is finalized and its admission work, tasks and pumps have settled. -/
theorem sessionSlots_run (h : (machine deps).Run (new deps) es t) :
    (∀ ip, t.ipRecords.active ip = sessionsOf t ip ∧
      t.ipRecords.active ip ≤ deps.options.limits.ip.maxSessions.value) ∧
    t.outstandingSessions.Nodup ∧
    t.outstandingSessions.length ≤ deps.options.limits.server.maxSessions.value ∧
    (∀ entry ∈ t.sessions, entry.2 ∈ t.outstandingSessions ∧
      (t.managed entry.2).session.id = entry.1) ∧
    (t.sessions.map Prod.fst).Nodup ∧
    (∀ k, es.countP (isRetirement k) ≤ 1 ∧ (k < t.plane.managedCount →
      (k ∈ t.outstandingSessions ↔ es.countP (isRetirement k) = 0))) ∧
    ∀ e u, (machine deps).Step t e u → ∀ k ∈ t.outstandingSessions, k ∉ u.outstandingSessions →
      isRetirement k e = true ∧ (t.managed k).finalized = true ∧ AdmissionSettled t k ∧
        TasksSettled t k ∧ PumpsSettled (t.managed k) := by
  obtain ⟨hw, hs⟩ := slots_run h
  refine ⟨fun ip => ⟨hs.active ip, hs.ipLimit ip⟩, hs.nodup, hs.limit,
    fun entry hentry => ?_, hs.ids,
    retirements_run h, fun e u hst k => leaves_step hst hw⟩
  obtain ⟨hf, hid⟩ := hs.entered entry hentry
  have hk := hw.sound.sessions entry hentry
  refine ⟨(hs.mem entry.2 hk).mpr fun hretired => ?_, hid⟩
  rw [(hw.retires entry.2 hk).finalized.mpr (by simp [hretired])] at hf
  cases hf

/-- The client of session `0` goes away and the session retires. -/
def smallRetirement : List RuntimeEvent :=
  smallAdmission ++ [RuntimeEvent.sessionAborted 0 .abort, .datagramsDone 0, .retired 0 0]

theorem sessionSlots_run_small :
    ∃ t : RuntimeState, t.plane.managedCount = 1 ∧ t.outstandingSessions = [] ∧
      (∀ ip, t.ipRecords.active ip = sessionsOf t ip ∧
        t.ipRecords.active ip ≤ datagramServer.options.limits.ip.maxSessions.value) ∧
      (0 < t.plane.managedCount → (0 ∈ t.outstandingSessions ↔
        smallRetirement.countP (isRetirement 0) = 0)) := by
  obtain ⟨t, hrun, hcount, hout⟩ := exists_run datagramServer (new datagramServer) smallRetirement
    (fun t => t.plane.managedCount = 1 ∧ t.outstandingSessions = []) (by decide)
  have hslots := sessionSlots_run hrun
  exact ⟨t, hcount, hout, hslots.1, (hslots.2.2.2.2.2.1 0).2⟩

end NestWebTransport.WebTransportRuntime
