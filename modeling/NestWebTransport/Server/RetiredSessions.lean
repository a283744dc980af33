import NestWebTransport.Server.IntakeEnd
import NestWebTransport.Server.RuntimeLedgers
import NestWebTransport.Server.SessionSlots

/-! What is left in the runtime of a session that has retired. -/
namespace NestWebTransport

/-- The bytes a settled datagram keeps charged: what its array has lost since it was enqueued. -/
def Work.lost (a : Work) : Int := if a.kind.isDatagram then a.charged - a.byteLength else 0

namespace WebTransportRuntime

variable {deps : RuntimeDependencies} {s t u : RuntimeState} {e : RuntimeEvent}
  {es fs : List RuntimeEvent} {k w : Nat}

/-! ### Settled sessions -/

/-- All work of session `k` and every promise of its pumps have settled. -/
structure Settled (s : RuntimeState) (k : Nat) : Prop where
  work : ∀ w < s.plane.workCount, (s.plane.work w).owner = k → (s.plane.work w).phase = .settled
  pumps : PumpsSettled (s.managed k)

/-- The admission of a session and its tasks are all its work. -/
theorem settled_of_parts (hemployed : Employed s) (hadmission : AdmissionSettled s k)
    (htasks : TasksSettled s k) (hpumps : PumpsSettled (s.managed k)) : Settled s k := by
  refine ⟨?_, hpumps⟩
  intro w hw howner
  by_cases hkind : (s.plane.work w).kind = .admission
  · apply hadmission w
    rw [← howner]
    exact hemployed.admission w hw hkind
  · exact htasks w hw howner hkind

theorem pumpsSettled_ages {m m' : ManagedSession} (h : m.Ages m') (hover : m.isIntakeOver = true)
    (hm : PumpsSettled m) : PumpsSettled m' := by
  obtain ⟨hdatagram, hdrain, hstream⟩ := hm
  refine ⟨h.datagramPump hover hdatagram, h.drain hover hdrain, ?_⟩
  intro kind
  exact h.streamPump kind hover (hstream kind)

/-- What has settled stays settled once no more work can come in. -/
theorem settled_step (h : (machine deps).Step s e t) (hs : Stands s) (hkept : StreamsKept deps s)
    (hk : k < s.plane.managedCount) (hended : (s.managed k).intakeAborted = true)
    (hsettled : Settled s k) : Settled t k := by
  have hturn := turn_of_step hs.winds.sound h
  refine ⟨?_, pumpsSettled_ages (hturn.ages hk) (isIntakeOver_of_aborted hended) hsettled.pumps⟩
  intro w hw howner
  by_cases hold : w < s.plane.workCount
  · have hcontinues := hturn.continues hs.winds.sound hold
    exact hcontinues.settled (hsettled.work w hold (hcontinues.owner ▸ howner))
  · have hnew := (intakeEnded_step h hs hkept hk hended).work w (Nat.not_lt.mp hold) hw
    exact absurd howner hnew

/-! ### Retired sessions -/

/-- The invariant: a managed session that is no longer outstanding has settled. -/
def Retired (s : RuntimeState) : Prop :=
  ∀ k < s.plane.managedCount, k ∉ s.outstandingSessions → Settled s k

/-- What the argument carries along. -/
structure Kept (deps : RuntimeDependencies) (s : RuntimeState) : Prop where
  stands : Stands s
  slots : Slots deps s
  streams : StreamsKept deps s

/-- What the accounts of a server rest on holds in every run. -/
theorem kept_of_run (h : (machine deps).Run (new deps) es s) : Kept deps s :=
  ⟨stands_run h, (slots_run h).2, streamsKept_run h⟩

/-- The kept facts go through a step together. -/
theorem Kept.step (hs : Kept deps s) (h : (machine deps).Step s e t) : Kept deps t :=
  ⟨stands_step h hs.stands, slots_step h hs.stands.winds hs.slots, streamsKept_step h hs.streams⟩

/-- A session that is no longer outstanding was finalized, so its intake has ended. -/
theorem Kept.finalized (hs : Kept deps s) (hk : k < s.plane.managedCount)
    (hout : k ∉ s.outstandingSessions) :
    (s.managed k).retirement = .retired ∧ (s.managed k).finalized = true ∧
      (s.managed k).intakeAborted = true := by
  have hretired : (s.managed k).retirement = .retired := by
    by_contra hne
    exact hout ((hs.slots.mem k hk).mpr hne)
  have hretires := hs.stands.winds.retires k hk
  have hfinalized : (s.managed k).finalized = true := by
    apply hretires.finalized.mpr
    rw [hretired]
    exact nofun
  exact ⟨hretired, hfinalized, hretires.intakeAborted hfinalized⟩

/-- A session that has left the outstanding ones stays settled. -/
theorem retired_step (h : (machine deps).Step s e t) (hs : Kept deps s) (hr : Retired s) :
    Retired t := by
  intro k hk hout
  have hwinds := hs.stands.winds
  by_cases hlt : k < s.plane.managedCount
  · by_cases hmem : k ∈ s.outstandingSessions
    · -- The session retires in this step.
      obtain ⟨-, hfinalized, hadmission, htasks, hpumps⟩ := leaves_step h hwinds hmem hout
      exact settled_step h hs.stands hs.streams hlt
        ((hwinds.retires k hlt).intakeAborted hfinalized)
        (settled_of_parts hwinds.employed hadmission htasks hpumps)
    · exact settled_step h hs.stands hs.streams hlt (hs.finalized hlt hmem).2.2 (hr k hlt hmem)
  · -- A newcomer is outstanding.
    rcases (turn_of_step hwinds.sound h).managedCount hwinds.sound with
      heq | ⟨heq, offer, readers, u, -, -, hopen, -, hclose⟩
    · omega
    · exfalso
      apply hout
      rw [hclose.outstanding, hopen.outstanding]
      simp only [List.mem_append, List.mem_singleton]
      omega

/-- In every run the sessions that are not outstanding have settled. -/
theorem retired_run (h : (machine deps).Run (new deps) es s) : Retired s := by
  have hkeep : ∀ s e t, (machine deps).Step s e t → Kept deps s ∧ Retired s →
      Kept deps t ∧ Retired t := by
    intro s e t hst hs
    exact ⟨hs.1.step hst, retired_step hst hs.1 hs.2⟩
  have hnew : Retired (new deps) := by
    intro k hk
    exact absurd hk (Nat.not_lt_zero k)
  exact (h.invariant (P := fun s => Kept deps s ∧ Retired s) hkeep ⟨kept_of_run .refl, hnew⟩).2

/-! ### What is left -/

/-- Nothing of session `k` is left: it is not held, no work or pump of it goes on, and its
scheduler and its queue are shut and empty. -/
structure Gone (s : RuntimeState) (k : Nat) : Prop where
  outstanding : k ∉ s.outstandingSessions
  entered : ∀ entry ∈ s.sessions, entry.2 ≠ k
  settled : Settled s k
  accepting : (s.plane.scheduler k).accepting = false
  pending : (s.plane.scheduler k).pending = []
  active : (s.plane.scheduler k).activeCount = 0
  queue : s.plane.queue k = []

/-- A session that has settled has nothing queued, running, waiting or tracked. -/
theorem gone_of_retired (hs : Kept deps s) (hr : Retired s) (hk : k < s.plane.managedCount)
    (hout : k ∉ s.outstandingSessions) : Gone s k := by
  obtain ⟨-, hfinalized, hended⟩ := hs.finalized hk hout
  have hsettled := hr k hk hout
  obtain ⟨haccepting, hqueue⟩ := (hs.stands.standing k).shut hended
  have hpending := (hs.stands.winds.parked k hk hfinalized).2.1
  refine ⟨hout, ?_, hsettled, haccepting, hpending, ?_, hqueue⟩
  · rintro entry hentry rfl
    have hopen := (hs.slots.entered entry hentry).1
    rw [hfinalized] at hopen
    cases hopen
  · rw [hs.stands.winds.sound.accounted.scheduled.active k]
    apply (tally_eq_zero_iff ?_).mpr
    · intro w hw
      unfold Workload.activeIn
      rw [if_neg]
      rintro ⟨howner, -, -, hunsettled⟩
      exact hunsettled (hsettled.work w hw howner)
    · intro w hw
      unfold Workload.activeIn
      split_ifs <;> omega

/-- A run adds no work, no stream and no datagram for session `k`. -/
structure AddsNothing (k : Nat) (s t : RuntimeState) : Prop where
  work : ∀ w, s.plane.workCount ≤ w → w < t.plane.workCount → (t.plane.work w).owner ≠ k
  streams : ∀ i, s.streamCount ≤ i → i < t.streamCount → (t.stream i).owner ≠ k
  received : (t.plane.history k).received = (s.plane.history k).received

theorem AddsNothing.refl (s : RuntimeState) : AddsNothing k s s := by
  refine ⟨?_, ?_, rfl⟩
  · intro w hle hlt
    omega
  · intro i hle hlt
    omega

theorem AddsNothing.snoc (h : AddsNothing k s t) (ht : Kept deps t)
    (hk : k < t.plane.managedCount) (hout : k ∉ t.outstandingSessions)
    (hst : (machine deps).Step t e u) : AddsNothing k s u := by
  have hended := intakeEnded_step hst ht.stands ht.streams hk (ht.finalized hk hout).2.2
  have hturn := turn_of_step ht.stands.winds.sound hst
  refine ⟨?_, ?_, hended.received.trans h.received⟩
  · intro w hle hlt
    by_cases hold : w < t.plane.workCount
    · rw [(hturn.continues ht.stands.winds.sound hold).owner]
      exact h.work w hle hold
    · exact hended.work w (Nat.not_lt.mp hold) hlt
  · intro i hle hlt
    by_cases hold : i < t.streamCount
    · rw [(kept_step hst ht.streams hold).1]
      exact h.streams i hle hold
    · exact hended.streams i (Nat.not_lt.mp hold) hlt

/-- Once a session has retired nothing of it is left, and whatever happens next nothing of it comes
back. -/
theorem retired_leaves_nothing (h : (machine deps).Run (new deps) es s)
    (hk : k < s.plane.managedCount) (hout : k ∉ s.outstandingSessions) :
    Gone s k ∧ ∀ fs t, (machine deps).Run s fs t → Gone t k ∧ AddsNothing k s t := by
  have hs := kept_of_run h
  refine ⟨gone_of_retired hs (retired_run h) hk hout, ?_⟩
  intro fs t hrun
  have hkeep : ∀ t e u, (machine deps).Step t e u →
      (Kept deps t ∧ (k < t.plane.managedCount ∧ k ∉ t.outstandingSessions) ∧ AddsNothing k s t) →
      Kept deps u ∧ (k < u.plane.managedCount ∧ k ∉ u.outstandingSessions) ∧ AddsNothing k s u := by
    rintro t e u hst ⟨ht, ⟨hlt, hleft⟩, hadds⟩
    exact ⟨ht.step hst, outstanding_keeps hst ht.stands.winds hlt hleft,
      hadds.snoc ht hlt hleft hst⟩
  obtain ⟨ht, ⟨hlt, hleft⟩, hadds⟩ := hrun.invariant (P := fun t => Kept deps t ∧
    (k < t.plane.managedCount ∧ k ∉ t.outstandingSessions) ∧ AddsNothing k s t) hkeep
    ⟨hs, ⟨hk, hout⟩, .refl s⟩
  exact ⟨gone_of_retired ht (retired_run (h.append hrun)) hlt hleft, hadds⟩

/-- A second session comes after session `0` has retired. -/
theorem retired_leaves_nothing_small :
    ∃ s t, (machine datagramServer).Run s [.surfaced (smallOffer "b")] t ∧
      t.outstandingSessions = [1] ∧ Gone t 0 ∧ AddsNothing 0 s t := by
  obtain ⟨s, hrun, hcount, hout, hnext⟩ := exists_run datagramServer (new datagramServer)
    smallRetirement (fun s => s.plane.managedCount = 1 ∧ 0 ∉ s.outstandingSessions ∧
      (next datagramServer s (.surfaced (smallOffer "b"))).outstandingSessions = [1])
    (by decide +kernel)
  have hsurfaced : (machine datagramServer).Run s [.surfaced (smallOffer "b")]
      (next datagramServer s (.surfaced (smallOffer "b"))) := .single ⟨rfl, rfl⟩
  have hleft := retired_leaves_nothing hrun (k := 0) (by omega) hout
  exact ⟨s, _, hsurfaced, hnext, hleft.2 _ _ hsurfaced⟩

/-! ### When no session is outstanding -/

/-- Every bound of the server that sessions share is free again. -/
structure Restored (s : RuntimeState) : Prop where
  sessions : s.sessions = []
  slots : ∀ ip, s.ipRecords.active ip = 0
  reserved : s.plane.handlerBudget.reserved = 0
  running : s.plane.handlerBudget.running = 0
  waiters : s.plane.handlerBudget.waiters = []
  starts : s.plane.starts = []
  resumes : s.plane.resumes = []

/-- A list that holds just the work in one phase is empty once all work has settled. -/
theorem enumerates_nil {xs : List Nat} {p : Work → Prop} {n : Nat} {work : Nat → Work}
    (h : Enumerates xs n p work) (hp : ∀ a : Work, a.phase = .settled → ¬ p a)
    (hsettled : ∀ w < n, (work w).phase = .settled) : xs = [] := by
  apply List.eq_nil_iff_forall_not_mem.mpr
  intro w hw
  obtain ⟨hlt, hphase⟩ := (h.2 w).mp hw
  exact hp _ (hsettled w hlt) hphase

/-- Where every session is gone, the shared bounds are as at the start. -/
theorem restored_of_settled (hs : Kept deps s) (hnone : s.outstandingSessions = [])
    (hgone : ∀ k < s.plane.managedCount, Gone s k) : Restored s := by
  have haccounted := hs.stands.winds.sound.accounted
  have hsettled : ∀ w < s.plane.workCount, (s.plane.work w).phase = .settled := by
    intro w hw
    exact (hgone _ (haccounted.placement.owned w hw)).settled.work w hw rfl
  have hplacement := haccounted.placement
  refine ⟨?_, ?_, ?_, ?_, ?_, ?_, ?_⟩
  · apply List.eq_nil_iff_forall_not_mem.mpr
    intro entry hentry
    exact (hgone entry.2 (hs.stands.winds.sound.sessions entry hentry)).entered entry hentry rfl
  · intro ip
    rw [hs.slots.active, sessionsOf, hnone]
    rfl
  · rw [haccounted.reservations.reserved]
    apply (tally_eq_zero_iff ?_).mpr
    · intro w hw
      simp [Work.unsettled, hsettled w hw]
    · intro w hw
      unfold Work.unsettled
      split_ifs <;> omega
  · have hrunning := haccounted.running
    unfold Workload.Running at hrunning
    rw [hrunning, (tally_eq_zero_iff ?_).mpr ?_]
    · rfl
    · intro w hw
      unfold Work.permits
      split_ifs <;> omega
    · intro w hw
      simp [Work.permits, hsettled w hw]
  · exact enumerates_nil hplacement.waiting (by simp +contextual) hsettled
  · exact enumerates_nil hplacement.starting (by simp +contextual) hsettled
  · exact enumerates_nil hplacement.granted (by simp +contextual) hsettled

/-- With every queue empty and all work settled, only what was transferred away stays charged. -/
theorem queuedDatagramBytes_of_settled (hledger : DataPlane.ByteLedger
      deps.options.limits.server.maxQueuedDatagramBytes.value s.plane)
    (hempty : ∀ k < s.plane.managedCount, s.plane.queue k = [])
    (hsettled : ∀ w < s.plane.workCount, (s.plane.work w).phase = .settled) :
    s.plane.queuedDatagramBytes = tally s.plane.workCount Work.lost s.plane.work := by
  have hqueued : s.plane.queuedBytes = 0 := by
    apply (tally_eq_zero_iff ?_).mpr
    · intro k hk
      have hnil : (s.plane.buffer k).datagrams.toArray = [] := hempty k hk
      rw [hnil, bytes_nil]
    · intro k hk
      exact bytes_nonneg _
  have howed : tally s.plane.workCount Work.owed s.plane.work =
      tally s.plane.workCount Work.lost s.plane.work := by
    apply tally_congr
    intro w hw
    unfold Work.lost
    split_ifs with hkind
    · exact ((hledger.balanced w hw).owed_settled hkind (hsettled w hw)).1
    · unfold Work.owed
      cases ha : (s.plane.work w).kind with
      | admission => rfl
      | stream id => rfl
      | datagram arrival =>
        rw [ha] at hkind
        exact absurd rfl hkind
  have htotal := hledger.total
  omega

/-- When no session is outstanding the server is as free as it was at first: every shared bound is
restored and a reservation is to be had; what stays charged is what handlers transferred away, and
the streams whose sessions have aborted have all been released. -/
theorem server_restored (h : (machine deps).Run (new deps) es s)
    (hnone : s.outstandingSessions = []) :
    Restored s ∧ (∀ k < s.plane.managedCount, Gone s k) ∧
      s.plane.handlerBudget.reserve.isSome = true ∧
      s.plane.queuedDatagramBytes = tally s.plane.workCount Work.lost s.plane.work ∧
      ((∀ w, .detached w ∉ es) → s.plane.queuedDatagramBytes = 0) ∧
      ((∀ k < s.plane.managedCount, (s.managed k).sessionAborted = true) →
        s.activeStreams = 0) := by
  have hs := kept_of_run h
  have hgone : ∀ k < s.plane.managedCount, Gone s k := by
    intro k hk
    apply gone_of_retired hs (retired_run h) hk
    rw [hnone]
    exact List.not_mem_nil
  have hrestored := restored_of_settled hs hnone hgone
  have hsettled : ∀ w < s.plane.workCount, (s.plane.work w).phase = .settled := by
    intro w hw
    exact (hgone _ (hs.stands.winds.sound.accounted.placement.owned w hw)).settled.work w hw rfl
  have hbytes := queuedDatagramBytes_of_settled (ledger_run h) (fun k hk => (hgone k hk).queue)
    hsettled
  refine ⟨hrestored, hgone, ?_, hbytes, ?_, ?_⟩
  · have hsize : s.plane.handlerBudget.size = (new deps).plane.handlerBudget.size :=
      DataPlane.size_evolves (evolves_run h (sound_new deps)) (sound_new deps).accounted
    have hconcurrency : s.plane.handlerBudget.concurrency =
        deps.options.limits.server.maxConcurrentHandlers.value := congrArg Prod.fst hsize
    have hpositive := deps.options.limits.server.maxConcurrentHandlers.positive
    unfold HandlerBudget.reserve
    rw [if_neg]
    · rfl
    · rw [hrestored.reserved, hconcurrency]
      omega
  · intro hwhole
    have hzero : ∀ w < s.plane.workCount, (s.plane.work w).lost = 0 := by
      intro w hw
      have hread := byteLength_run h hw (hwhole w)
      unfold Work.lost
      split_ifs
      · omega
      · rfl
    rw [hbytes]
    exact (tally_eq_zero_iff fun w hw => (hzero w hw).ge).mpr hzero
  · intro haborted
    rw [hs.streams.ledger.active]
    apply (tally_eq_zero_iff ?_).mpr
    · intro i hi
      have hreleased := hs.streams.released i hi (haborted _ (hs.streams.owned i hi))
      unfold TrackedStream.live
      rw [if_pos hreleased]
    · intro i hi
      exact (s.stream i).live_nonneg

/-- Session `0` was sent a datagram, went away and has retired. -/
theorem server_restored_small :
    ∃ s : RuntimeState, s.plane.managedCount = 1 ∧ s.plane.handlerBudget.reserved = 0 ∧
      s.plane.queuedDatagramBytes = 0 ∧ s.activeStreams = 0 := by
  obtain ⟨s, hrun, hcount, hnone, haborted⟩ := exists_run datagramServer (new datagramServer)
    (smallDatagram ++ [.sessionAborted 0 .abort, .runEnded 1 none, .settled 1, .drainContinued 0,
      .datagramsDone 0, .retired 0 0])
    (fun s => s.plane.managedCount = 1 ∧ s.outstandingSessions = [] ∧
      ∀ k < s.plane.managedCount, (s.managed k).sessionAborted = true) (by decide +kernel)
  obtain ⟨hrestored, -, -, -, hbytes, hstreams⟩ := server_restored hrun hnone
  exact ⟨s, hcount, hrestored.reserved,
    hbytes (by simp [smallDatagram, smallAdmission]), hstreams haborted⟩

end WebTransportRuntime

end NestWebTransport
