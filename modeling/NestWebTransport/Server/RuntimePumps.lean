import NestWebTransport.Server.RuntimeFrame

/-! What the pumps of one session may change. -/
namespace NestWebTransport

namespace ManagedSession

variable {m m' m'' : ManagedSession}

/-- Only pumps, readers and stream counts differ; a pump that has settled stays so, except that
an open intake may start another drain loop. -/
structure Pumps (m m' : ManagedSession) : Prop where
  kept : m' = { m with
    datagramReader := m'.datagramReader
    bidirectionalReader := m'.bidirectionalReader
    unidirectionalReader := m'.unidirectionalReader
    bidirectionalStreams := m'.bidirectionalStreams
    unidirectionalStreams := m'.unidirectionalStreams
    streamIdleWaiters := m'.streamIdleWaiters
    datagramPump := m'.datagramPump
    drain := m'.drain
    streamPump := m'.streamPump }
  datagramPump : m.datagramPump.settled = true → m'.datagramPump.settled = true
  drain : m.drain.settled = true → m'.drain.settled = true ∨ m.isIntakeOver = false
  streamPump : ∀ kind, (m.streamPump kind).settled = true → (m'.streamPump kind).settled = true

theorem Pumps.refl (m : ManagedSession) : Pumps m m := ⟨rfl, id, Or.inl, fun _ => id⟩

theorem Pumps.isIntakeOver (h : Pumps m m') : m'.isIntakeOver = m.isIntakeOver := by
  rw [h.kept]
  rfl

theorem Pumps.trans (h : Pumps m m') (h' : Pumps m' m'') : Pumps m m'' where
  kept := by
    have hkept := h'.kept
    rw [h.kept] at hkept
    exact hkept
  datagramPump := fun hm => h'.datagramPump (h.datagramPump hm)
  drain := fun hm => by
    rcases h.drain hm with hm' | hopen
    · rw [← h.isIntakeOver]
      exact h'.drain hm'
    · exact Or.inr hopen
  streamPump := fun kind hm => h'.streamPump kind (h.streamPump kind hm)

end ManagedSession

namespace Workload

variable {l : Workload} {k n : Nat} {kind : WorkKind} {overflow : HandlerOverflowPolicy}

/-- What a submission to session `k` leaves of the earlier work and of the schedulers. -/
structure Submits (k : Nat) (l l' : Workload) : Prop where
  managedCount : l'.managedCount = l.managedCount
  workCount : l.workCount ≤ l'.workCount
  old : ∀ w < l.workCount, l'.work w = l.work w
  fresh : ∀ w, l.workCount ≤ w → w < l'.workCount →
    (l'.work w).owner = k ∧ (l'.work w).kind ≠ .admission ∧
      (l'.work w).byteLength = (l'.work w).charged
  parked : ∀ j, (l.scheduler j).Parked → (l'.scheduler j).Parked
  accepting : ∀ j, (l'.scheduler j).accepting = (l.scheduler j).accepting

theorem Submits.refl (k : Nat) (l : Workload) : Submits k l l :=
  ⟨rfl, le_rfl, fun _ _ => rfl, fun w hle hlt => by omega, fun _ => id, fun _ => rfl⟩

/-- An open scheduler takes new work of its session. -/
theorem submits_new {l' : Workload} {a : Work} {scheduler : BoundedTaskScheduler Nat Waiter}
    (hcount : l'.managedCount = l.managedCount) (hwork : l'.workCount = l.workCount + 1)
    (htable : l'.work = Function.update l.work l.workCount a)
    (ha : a.owner = k ∧ a.kind ≠ .admission ∧ a.byteLength = a.charged)
    (hscheduler : l'.scheduler = Function.update l.scheduler k scheduler)
    (hopen : (l.scheduler k).accepting = true)
    (hsame : scheduler.accepting = (l.scheduler k).accepting) : Submits k l l' where
  managedCount := hcount
  workCount := by omega
  old := fun w hw => by rw [htable, Function.update_of_ne (Nat.ne_of_lt hw)]
  fresh := fun w hle hlt => by
    have heq : w = l.workCount := by omega
    rwa [htable, heq, Function.update_self]
  parked := fun j hj => by
    by_cases he : j = k
    · rw [he] at hj
      rw [hj.1] at hopen
      cases hopen
    · rwa [hscheduler, Function.update_of_ne he]
  accepting := fun j => by
    by_cases he : j = k
    · rw [he, hscheduler, Function.update_self, hsame]
    · rw [hscheduler, Function.update_of_ne he]

theorem submits_submit (hkind : kind ≠ .admission) :
    Submits k l (l.submit k overflow kind n).2 := by
  obtain ⟨-, heq⟩ | ⟨r, budget, hr, ⟨heq, hopen, -⟩ | ⟨heq, hopen, -⟩ | ⟨refusal, -, -, heq⟩⟩ :=
    l.submit_cases k overflow kind n <;> rw [heq]
  · exact .refl k l
  · exact submits_new (a := ⟨k, kind, r, .starting, n, n, []⟩) rfl rfl rfl ⟨rfl, hkind, rfl⟩ rfl
      hopen rfl
  · exact submits_new (a := ⟨k, kind, r, .pending, n, n, []⟩) rfl rfl rfl ⟨rfl, hkind, rfl⟩ rfl
      hopen rfl
  · exact { Submits.refl k l with }

end Workload

namespace DataPlane

variable {options : NormalizedWebTransportModuleOptions} {p q : DataPlane} {k n limit : Nat}

theorem Offer.load (h : Offer p k n limit q) : q.toWorkload = p.toWorkload := by
  cases h <;> rfl

theorem Drain.submits (h : Drain options p k q) : Workload.Submits k p.toWorkload q.toWorkload := by
  have hsubmit : ∀ d : Datagram, Workload.Submits k p.toWorkload
      (p.toWorkload.submit k options.execution.overflow (.datagram d.arrival) d.byteLength).2 :=
    fun d => Workload.submits_submit (by simp)
  cases h with
  | empty => exact .refl k _
  | @accepted buffer d rest load outcome hold hqueue hbytes heq hout =>
    have := hsubmit d
    rw [heq] at this
    exact this
  | @refused buffer d rest load outcome hold hqueue hbytes heq hout =>
    have := hsubmit d
    rw [heq] at this
    exact this

end DataPlane

namespace WebTransportRuntime

variable {options : NormalizedWebTransportModuleOptions} {deps : RuntimeDependencies}
  {s t u : RuntimeState} {k w : Nat} {kind : StreamKind}

/-- A stretch of the pumps of session `k`: it may submit tasks of that session. -/
structure Pumping (options : NormalizedWebTransportModuleOptions) (k : Nat) (s t : RuntimeState) :
    Prop where
  plane : DataPlane.Evolves options s.plane t.plane
  managedCount : t.plane.managedCount = s.plane.managedCount
  workCount : s.plane.workCount ≤ t.plane.workCount
  old : ∀ w < s.plane.workCount, t.plane.work w = s.plane.work w
  fresh : ∀ w, s.plane.workCount ≤ w → w < t.plane.workCount →
    (t.plane.work w).owner = k ∧ (t.plane.work w).kind ≠ .admission ∧
      (t.plane.work w).byteLength = (t.plane.work w).charged
  parked : ∀ j, (s.plane.scheduler j).Parked → (t.plane.scheduler j).Parked
  accepting : ∀ j, (t.plane.scheduler j).accepting = (s.plane.scheduler j).accepting
  others : ∀ j, j ≠ k → t.managed j = s.managed j
  pumps : (s.managed k).Pumps (t.managed k)
  outstanding : t.outstandingSessions = s.outstandingSessions
  sessions : t.sessions = s.sessions
  ipRecords : t.ipRecords = s.ipRecords
  acceptedSessions : t.acceptedSessions = s.acceptedSessions
  closeCalls : s.closeCalls <+: t.closeCalls
  stopCalls : t.stopCalls = s.stopCalls
  stopPhase : t.stopPhase = s.stopPhase

theorem Pumping.refl (k : Nat) (s : RuntimeState) : Pumping options k s s where
  plane := .refl
  managedCount := rfl
  workCount := le_rfl
  old := fun _ _ => rfl
  fresh := fun w hle hlt => by omega
  parked := fun _ => id
  accepting := fun _ => rfl
  others := fun _ _ => rfl
  pumps := .refl _
  outstanding := rfl
  sessions := rfl
  ipRecords := rfl
  acceptedSessions := rfl
  closeCalls := List.prefix_refl _
  stopCalls := rfl
  stopPhase := rfl

theorem Pumping.trans (h : Pumping options k s t) (h' : Pumping options k t u) :
    Pumping options k s u where
  plane := h.plane.trans h'.plane
  managedCount := h'.managedCount.trans h.managedCount
  workCount := h.workCount.trans h'.workCount
  old := fun w hw => (h'.old w (hw.trans_le h.workCount)).trans (h.old w hw)
  fresh := fun w hle hlt => by
    by_cases hw : w < t.plane.workCount
    · rw [h'.old w hw]
      exact h.fresh w hle hw
    · exact h'.fresh w (by omega) hlt
  parked := fun j hj => h'.parked j (h.parked j hj)
  accepting := fun j => (h'.accepting j).trans (h.accepting j)
  others := fun j hj => (h'.others j hj).trans (h.others j hj)
  pumps := h.pumps.trans h'.pumps
  outstanding := h'.outstanding.trans h.outstanding
  sessions := h'.sessions.trans h.sessions
  ipRecords := h'.ipRecords.trans h.ipRecords
  acceptedSessions := h'.acceptedSessions.trans h.acceptedSessions
  closeCalls := h.closeCalls.trans h'.closeCalls
  stopCalls := h'.stopCalls.trans h.stopCalls
  stopPhase := h'.stopPhase.trans h.stopPhase

theorem Pumping.sound (h : Pumping options k s t) (hs : Sound s) : Sound t where
  accounted := h.plane.accounted hs.accounted
  outstanding := by
    rw [h.outstanding, h.managedCount]
    exact hs.outstanding
  sessions := by
    rw [h.sessions, h.managedCount]
    exact hs.sessions
  stopping := by
    rw [h.stopPhase, h.stopCalls]
    exact hs.stopping

theorem pumping_update {f : ManagedSession → ManagedSession}
    (h : (s.managed k).Pumps (f (s.managed k))) :
    Pumping options k s (update s k f) :=
  { (Pumping.refl k s : Pumping options k s s) with
    others := fun j hj => by rw [managed_update, if_neg hj]
    pumps := by
      rw [managed_update, if_pos rfl]
      exact h }

theorem pumping_closeSession (closeCode : CloseCode) (reason : String) :
    Pumping options k s (closeSession s k closeCode reason) :=
  { (Pumping.refl k s : Pumping options k s s) with closeCalls := List.prefix_append _ _ }

theorem easing_awaitCapacity (waiter : Waiter) : Easing options s (awaitCapacity s k waiter) := by
  refine easing_setScheduler (by simp) (by simp) (by simp) (by simp) (by simp) fun h => ?_
  obtain ⟨hacc, hpend, hidle⟩ := h
  exact ⟨by simp [hacc], by simp [hpend], by simpa using hidle⟩

theorem pumping_awaitCapacity (waiter : Waiter) :
    Pumping options k s (awaitCapacity s k waiter) := by
  have hset : Easing options s (awaitCapacity s k waiter) := easing_awaitCapacity waiter
  refine { (Pumping.refl k s : Pumping options k s s) with
    plane := hset.plane
    old := fun _ _ => rfl
    parked := hset.steady.parked
    accepting := fun j => ?_ }
  by_cases hj : j = k
  · subst hj
    simp [awaitCapacity, setScheduler, setLoad, Workload.setScheduler]
  · simp [awaitCapacity, setScheduler, setLoad, Workload.setScheduler, hj]

/-- The data plane takes a step that at most submits a task of session `k`. -/
theorem pumping_plane {p : DataPlane} (he : DataPlane.Evolves options s.plane p)
    (hsubmits : Workload.Submits k s.plane.toWorkload p.toWorkload) :
    Pumping options k s { s with plane := p } :=
  { (Pumping.refl k s : Pumping options k s s) with
    plane := he
    managedCount := hsubmits.managedCount
    workCount := hsubmits.workCount
    old := hsubmits.old
    fresh := hsubmits.fresh
    parked := hsubmits.parked
    accepting := hsubmits.accepting }

/-! ### The datagram pump and the drain loop -/

theorem pumping_endDatagramPump : Pumping options k s (endDatagramPump s k) :=
  pumping_update { ManagedSession.Pumps.refl (s.managed k) with
    kept := rfl
    datagramPump := fun _ => rfl }

/-- The drain goes on with the next datagram, waits or ends. -/
theorem pumping_drainLoop (hdrain : (s.managed k).drain.settled = false ∨
    (s.managed k).isIntakeOver = false) : Pumping options k s (drainLoop s k) := by
  unfold drainLoop
  split_ifs
  · exact pumping_update { ManagedSession.Pumps.refl (s.managed k) with
      kept := rfl
      drain := fun _ => Or.inl rfl }
  · have hset : Pumping options k s (update s k ({ · with drain := .awaitingCapacity })) :=
      pumping_update { ManagedSession.Pumps.refl (s.managed k) with
        kept := rfl
        drain := fun hsettled => by
          rcases hdrain with hbusy | hopen
          · rw [hbusy] at hsettled
            cases hsettled
          · exact Or.inr hopen }
    exact hset.trans (pumping_awaitCapacity .drain)

theorem pumping_startDrain (hopen : (s.managed k).isIntakeOver = false) :
    Pumping options k s (startDrain s k) := by
  unfold startDrain
  split_ifs
  · exact pumping_drainLoop (Or.inr hopen)
  · exact .refl k s

theorem pumping_idleDrain : Pumping options k s (update s k ({ · with drain := .idle })) :=
  pumping_update { ManagedSession.Pumps.refl (s.managed k) with
    kept := rfl
    drain := fun _ => Or.inl rfl }

/-- A drain that has waited takes its datagram, or ends with the intake. -/
theorem pumping_drainResumed (hk : k < s.plane.managedCount)
    (hdrain : (s.managed k).drain = .awaitingCapacity) :
    Pumping deps.options k s (drainResumed deps s k) := by
  unfold drainResumed
  split_ifs with hcapacity hclosed
  · exact pumping_idleDrain
  · exact pumping_drainLoop (Or.inl (by rw [hdrain]; rfl))
  · have hstep := s.plane.drainDatagram_drain deps.options k
    have hplane : Pumping deps.options k s
        { s with plane := (s.plane.drainDatagram deps.options k).2 } :=
      pumping_plane (.single (.drain hk (by simpa using hcapacity) hstep)) hstep.submits
    simp only
    split
    · exact hplane.trans pumping_idleDrain
    · have hset : Pumping deps.options k s
          (update { s with plane := (s.plane.drainDatagram deps.options k).2 } k
            ({ · with drain := .submitted })) := by
        refine hplane.trans (pumping_update { ManagedSession.Pumps.refl (s.managed k) with
          kept := rfl
          drain := fun hsettled => ?_ })
        rw [hdrain] at hsettled
        cases hsettled
      split_ifs
      · exact hset.trans (pumping_closeSession .resourceLimit "Handler queue limit exceeded")
      · exact hset

/-- A datagram that is read is offered to the queue, and the drain is started for it. -/
theorem pumping_datagramRead (hk : k < s.plane.managedCount)
    (hreading : (s.managed k).datagramPump = .reading) (n : Nat) (now : Int) :
    Pumping deps.options k s (datagramRead deps s k n now) := by
  unfold datagramRead
  split_ifs with hover
  · exact pumping_endDatagramPump
  · have hopen : (s.managed k).isIntakeOver = false := by simpa using hover
    have hstep := s.plane.offerDatagram_offer deps.options k n (s.managed k).session.maxDatagramSize
      now
    generalize s.plane.offerDatagram deps.options k n (s.managed k).session.maxDatagramSize now =
      result at hstep
    have hplane : Pumping deps.options k s { s with plane := result.2 } :=
      pumping_plane (.single (.offer hk hstep)) (hstep.load ▸ .refl k _)
    simp only
    split
    · exact hplane
    · refine (hplane.trans (pumping_update ?_)).trans
        (pumping_closeSession .resourceLimit "Datagram queue limit exceeded")
      exact { ManagedSession.Pumps.refl (s.managed k) with
        kept := rfl
        datagramPump := fun hsettled => by
          rw [hreading] at hsettled
          cases hsettled }
    · exact hplane.trans (pumping_startDrain hopen)

/-! ### The stream pumps -/

theorem pumps_setStreamPump {m : ManagedSession} {pump : StreamPump}
    (h : (m.streamPump kind).settled = true → pump.settled = true) :
    m.Pumps (m.setStreamPump kind pump) where
  kept := rfl
  datagramPump := id
  drain := Or.inl
  streamPump := fun other hm => by
    by_cases he : other = kind
    · subst he
      simpa [ManagedSession.setStreamPump] using h hm
    · simpa [ManagedSession.setStreamPump, he] using hm

theorem pumps_dropReader {m : ManagedSession} : m.Pumps (m.dropReader kind) := by
  cases kind
  · exact { ManagedSession.Pumps.refl m with kept := rfl }
  · exact { ManagedSession.Pumps.refl m with kept := rfl }

theorem pumps_addStreams {m : ManagedSession} {n : Int} : m.Pumps (m.addStreams kind n) := by
  cases kind
  · exact { ManagedSession.Pumps.refl m with kept := rfl }
  · exact { ManagedSession.Pumps.refl m with kept := rfl }

theorem pumps_releaseStream {m : ManagedSession} : m.Pumps (m.releaseStream kind) := by
  unfold ManagedSession.releaseStream
  simp only
  split_ifs
  · exact pumps_addStreams.trans
      { ManagedSession.Pumps.refl (m.addStreams kind (-1)) with kept := rfl }
  · exact pumps_addStreams

theorem pumping_endStreamPump (done : Bool) : Pumping options k s (endStreamPump s k kind done) :=
  pumping_update ((pumps_setStreamPump fun _ => rfl).trans pumps_dropReader)

/-- A stream pump that has not settled goes on to another `await`. -/
theorem pumping_setStreamPump {pump : StreamPump}
    (h : ((s.managed k).streamPump kind).settled = false) :
    Pumping options k s (update s k (·.setStreamPump kind pump)) :=
  pumping_update (pumps_setStreamPump fun hsettled => by
    rw [h] at hsettled
    cases hsettled)

theorem pumping_streamLoop (h : ((s.managed k).streamPump kind).settled = false) :
    Pumping options k s (streamLoop s k kind) := by
  unfold streamLoop
  split_ifs
  · exact pumping_endStreamPump false
  · exact (pumping_setStreamPump h).trans (pumping_awaitCapacity (.pump kind))

theorem pumping_streamResumed (h : (s.managed k).streamPump kind = .awaitingCapacity) :
    Pumping options k s (streamResumed s k kind) := by
  have hbusy : ((s.managed k).streamPump kind).settled = false := by rw [h]; rfl
  unfold streamResumed
  split_ifs
  · exact pumping_endStreamPump false
  · exact pumping_streamLoop hbusy
  · exact pumping_setStreamPump hbusy

theorem pumping_releaseStream (i : Nat) (howner : (s.stream i).owner = k) :
    Pumping options k s (releaseStream s i) := by
  unfold releaseStream
  split_ifs
  · exact .refl k s
  · have hcount : Pumping options k s { s with
        stream := Function.update s.stream i { s.stream i with released := true }
        activeStreams := s.activeStreams - 1 } :=
      { (Pumping.refl k s : Pumping options k s s) with }
    rw [howner]
    exact hcount.trans
      (pumping_update (f := (·.releaseStream (s.stream i).kind)) pumps_releaseStream)

theorem pumping_trackStream (aborted : Bool) :
    Pumping options k s (trackStream s k kind aborted) := by
  have hcount : Pumping options k s { s with
      stream := Function.update s.stream s.streamCount ⟨k, kind, false⟩
      streamCount := s.streamCount + 1
      activeStreams := s.activeStreams + 1 } := { (Pumping.refl k s : Pumping options k s s) with }
  have htracked := hcount.trans (pumping_update (f := (·.addStreams kind 1)) pumps_addStreams)
  unfold trackStream
  simp only
  split_ifs
  · refine htracked.trans (pumping_releaseStream _ ?_)
    simp [update]
  · exact htracked

theorem trackStream_streamPump (aborted : Bool) :
    ((trackStream s k kind aborted).managed k).streamPump = (s.managed k).streamPump := by
  have hadd : ∀ (m : ManagedSession) (n : Int),
      (m.addStreams kind n).streamPump = m.streamPump := by
    intro m n
    cases kind <;> rfl
  have hrelease : ∀ m : ManagedSession, (m.releaseStream kind).streamPump = m.streamPump := by
    intro m
    unfold ManagedSession.releaseStream
    simp only
    split_ifs <;> exact hadd m (-1)
  unfold trackStream releaseStream
  simp only [update, Function.update_self]
  split_ifs <;> simp [hadd, hrelease]

/-- A stream that is read is discarded, refused or tracked and submitted. -/
theorem pumping_streamRead (hk : k < s.plane.managedCount)
    (h : (s.managed k).streamPump kind = .reading) (aborted : Bool) :
    Pumping deps.options k s (streamRead deps s k kind aborted) := by
  have hbusy : ((s.managed k).streamPump kind).settled = false := by rw [h]; rfl
  unfold streamRead
  split_ifs
  · exact pumping_setStreamPump hbusy
  · exact pumping_setStreamPump hbusy
  · have htrack : Pumping deps.options k s (trackStream s k kind aborted) :=
      pumping_trackStream aborted
    have hpump : (((trackStream s k kind aborted).managed k).streamPump kind).settled = false := by
      rw [trackStream_streamPump, h]
      rfl
    generalize trackStream s k kind aborted = t at htrack hpump
    have hsubmit : Workload.Submits k t.plane.toWorkload
        (t.plane.submit deps.options k (.stream s.streamCount) 0).2.toWorkload := by
      rw [DataPlane.submit_toWorkload]
      exact Workload.submits_submit (by simp)
    have hplane : Pumping deps.options k t
        { t with plane := (t.plane.submit deps.options k (.stream s.streamCount) 0).2 } :=
      pumping_plane (.single (.stream (htrack.managedCount ▸ hk))) hsubmit
    have hpumped : Pumping deps.options k _ (update
        { t with plane := (t.plane.submit deps.options k (.stream s.streamCount) 0).2 } k
        (·.setStreamPump kind .submitted)) := pumping_setStreamPump hpump
    have hset := (htrack.trans hplane).trans hpumped
    simp only
    split_ifs
    · exact hset.trans (pumping_closeSession .resourceLimit "Handler queue limit exceeded")
    · exact hset

/-! ### Pumps that fail -/

/-- A stretch of the pumps of session `k`, then what an error of theirs closes. -/
def Faltering (options : NormalizedWebTransportModuleOptions) (k : Nat) (s t : RuntimeState) :
    Prop :=
  ∃ u, Pumping options k s u ∧ Easing options u t

theorem Pumping.faltering (h : Pumping options k s t) : Faltering options k s t := ⟨t, h, .refl t⟩

theorem easing_pumpFailed (hs : Sound s) (error : Failure) :
    Easing options s (pumpFailed deps s k error) := by
  unfold pumpFailed
  split_ifs
  · exact .refl s
  · exact easing_handleRuntimeError hs error

theorem faltering_datagramReadFailed (hs : Sound s)
    (hreading : (s.managed k).datagramPump = .reading) (error : Failure) :
    Faltering deps.options k s (datagramReadFailed deps s k error) := by
  have hset : Pumping deps.options k s (update s k ({ · with datagramPump := .closing })) :=
    pumping_update { ManagedSession.Pumps.refl (s.managed k) with
      kept := rfl
      datagramPump := fun hsettled => by
        rw [hreading] at hsettled
        cases hsettled }
  exact ⟨_, hset, easing_pumpFailed (hset.sound hs) error⟩

theorem faltering_streamPumpFailed (hs : Sound s)
    (h : ((s.managed k).streamPump kind).settled = false) (error : Failure) :
    Faltering deps.options k s (streamPumpFailed deps s k kind error) := by
  have hset : Pumping deps.options k s (update s k (·.setStreamPump kind .closing)) :=
    pumping_setStreamPump h
  exact ⟨_, hset, easing_pumpFailed (hset.sound hs) error⟩

theorem faltering_streamRefused (hs : Sound s) (h : (s.managed k).streamPump kind = .refusing)
    (failure : Option Failure) :
    Faltering deps.options k s (streamRefused deps s k kind failure) := by
  have hbusy : ((s.managed k).streamPump kind).settled = false := by rw [h]; rfl
  unfold streamRefused
  cases failure with
  | none => exact (pumping_streamLoop hbusy).faltering
  | some error => exact faltering_streamPumpFailed hs hbusy error

theorem faltering_streamDiscarded (hs : Sound s) (h : (s.managed k).streamPump kind = .discarding)
    (failure : Option Failure) :
    Faltering deps.options k s (streamDiscarded deps s k kind failure) := by
  have hbusy : ((s.managed k).streamPump kind).settled = false := by rw [h]; rfl
  unfold streamDiscarded
  cases failure with
  | none => exact (pumping_endStreamPump false).faltering
  | some error => exact faltering_streamPumpFailed hs hbusy error

end WebTransportRuntime

end NestWebTransport
