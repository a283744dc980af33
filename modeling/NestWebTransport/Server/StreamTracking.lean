import NestWebTransport.Server.StreamCapacity
import NestWebTransport.Server.StreamLedger

/-! Every tracked stream is counted until it is released, and released once. -/
namespace NestWebTransport.WebTransportRuntime

variable {deps : RuntimeDependencies} {s t u : RuntimeState} {e : RuntimeEvent}
  {es : List RuntimeEvent} {k w i j : Nat} {kind : StreamKind}

/-! ### Tracking and releasing -/

theorem streams_addStreams (m : ManagedSession) (kind kind' : StreamKind) (n : Int) :
    (m.addStreams kind n).streams kind' =
      m.streams kind' + if kind' = kind then n else 0 := by
  cases kind with
  | bidirectional =>
    cases kind' with
    | bidirectional => rfl
    | unidirectional => exact (Int.add_zero _).symm
  | unidirectional =>
    cases kind' with
    | bidirectional => exact (Int.add_zero _).symm
    | unidirectional => rfl

theorem streams_releaseStream (m : ManagedSession) (kind kind' : StreamKind) :
    (m.releaseStream kind).streams kind' = m.streams kind' - if kind' = kind then 1 else 0 := by
  have hadd := streams_addStreams m kind kind' (-1)
  have hkept : (m.releaseStream kind).streams kind' = (m.addStreams kind (-1)).streams kind' := by
    unfold ManagedSession.releaseStream
    simp only
    split_ifs
    · cases kind' <;> rfl
    · rfl
  rw [hkept, hadd]
  split_ifs <;> omega

theorem waiters_releaseStream (m : ManagedSession) (kind : StreamKind)
    (h : 0 < (m.releaseStream kind).streamIdleWaiters) :
    ¬ ((m.releaseStream kind).bidirectionalStreams = 0 ∧
      (m.releaseStream kind).unidirectionalStreams = 0) := by
  unfold ManagedSession.releaseStream at h ⊢
  simp only at h ⊢
  split_ifs at h ⊢ with hnone
  · cases h
  · exact hnone

theorem liveOf_released (stream : TrackedStream) :
    TrackedStream.liveOf k kind { stream with released := true } = 0 := by
  simp [TrackedStream.liveOf, TrackedStream.live]

/-- A stream that is released leaves every count it was part of. -/
theorem ledger_releaseStream (hs : StreamLedger deps s) (hi : i < s.streamCount) :
    StreamLedger deps (releaseStream s i) := by
  unfold releaseStream
  split_ifs with hreleased
  · exact hs
  · have hlive : (s.stream i).live = 1 := by simp [TrackedStream.live, hreleased]
    have hstreams : ∀ k kind, ((update { s with
        stream := Function.update s.stream i { s.stream i with released := true }
        activeStreams := s.activeStreams - 1 } (s.stream i).owner
          (·.releaseStream (s.stream i).kind)).managed k).streams kind =
        (s.managed k).streams kind - (s.stream i).liveOf k kind := by
      intro k kind
      rw [managed_update]
      unfold TrackedStream.liveOf
      rw [hlive]
      split_ifs with hk hof hof
      · rw [streams_releaseStream, if_pos hof.2.symm, hk]
      · rw [streams_releaseStream, if_neg fun h => hof ⟨hk.symm, h.symm⟩, hk]
      · exact absurd hof.1.symm hk
      · exact (Int.sub_zero _).symm
    constructor
    · intro k kind
      rw [hstreams, hs.counts k kind]
      change _ = tally s.streamCount _ (Function.update s.stream i _)
      rw [tally_update hi, liveOf_released]
      omega
    · change s.activeStreams - 1 = tally s.streamCount _ (Function.update s.stream i _)
      rw [tally_update hi, hlive, hs.active]
      simp [TrackedStream.live]
    · intro k
      rw [managed_update]
      split_ifs with hk
      · exact waiters_releaseStream _ _
      · exact hs.waiters k
    · intro k kind
      rw [hstreams]
      have hlimit := hs.limit k kind
      have hnonneg := (s.stream i).liveOf_nonneg k kind
      omega
    · have hbound := hs.bound
      change s.activeStreams - 1 ≤ _
      omega

theorem count_nonneg (hs : StreamLedger deps s) (k : Nat) (kind : StreamKind) :
    0 ≤ (s.managed k).streams kind := by
  rw [hs.counts k kind]
  exact tally_nonneg fun i _ => (s.stream i).liveOf_nonneg k kind

/-- The stream table and its counters once a stream of session `k` is tracked. -/
def tracked (s : RuntimeState) (k : Nat) (kind : StreamKind) : RuntimeState :=
  update
    { s with
      stream := Function.update s.stream s.streamCount ⟨k, kind, false⟩
      streamCount := s.streamCount + 1
      activeStreams := s.activeStreams + 1 }
    k (·.addStreams kind 1)

/-- A stream below the limit is counted as it is tracked. -/
theorem ledger_tracked (hs : StreamLedger deps s)
    (hroom : isOverStreamLimit deps s k kind = false) :
    StreamLedger deps (tracked s k kind) := by
  unfold isOverStreamLimit at hroom
  simp only [Bool.or_eq_false_iff, decide_eq_false_iff_not, not_le] at hroom
  obtain ⟨hserver, hsession⟩ := hroom
  have hlive : TrackedStream.live ⟨k, kind, false⟩ = 1 := rfl
  have hstreams : ∀ j kind', ((tracked s k kind).managed j).streams kind' =
      (s.managed j).streams kind' + if j = k ∧ kind' = kind then 1 else 0 := by
    intro j kind'
    unfold tracked
    rw [managed_update]
    split_ifs with hj hof hof
    · rw [streams_addStreams, if_pos hof.2, hj]
    · rw [streams_addStreams, if_neg fun h => hof ⟨hj, h⟩, hj]
    · exact absurd hof.1 hj
    · exact (Int.add_zero _).symm
  constructor
  · intro j kind'
    rw [hstreams, hs.counts j kind']
    change _ = tally (s.streamCount + 1) _ (Function.update s.stream _ _)
    rw [tally_push]
    unfold TrackedStream.liveOf
    rw [hlive]
    simp only [eq_comm]
  · change s.activeStreams + 1 = tally (s.streamCount + 1) _ (Function.update s.stream _ _)
    rw [tally_push, hs.active, hlive]
  · intro j hwaiting hnone
    have hbi := hstreams j .bidirectional
    have huni := hstreams j .unidirectional
    have hbi' := count_nonneg hs j .bidirectional
    have huni' := count_nonneg hs j .unidirectional
    change ((tracked s k kind).managed j).bidirectionalStreams = _ at hbi
    change ((tracked s k kind).managed j).unidirectionalStreams = _ at huni
    by_cases hj : j = k
    · cases kind
      · rw [if_pos ⟨hj, rfl⟩] at hbi
        omega
      · rw [if_pos ⟨hj, rfl⟩] at huni
        omega
    · have hkept : (tracked s k kind).managed j = s.managed j := by
        unfold tracked
        rw [managed_update, if_neg hj]
      rw [hkept] at hwaiting hnone
      exact hs.waiters j hwaiting hnone
  · intro j kind'
    rw [hstreams]
    have hlimit := hs.limit j kind'
    split_ifs with hof
    · rw [hof.1, hof.2]
      omega
    · omega
  · change s.activeStreams + 1 ≤ _
    omega

theorem trackStream_tracked (aborted : Bool) :
    trackStream s k kind aborted =
      if aborted || (s.managed k).sessionAborted then releaseStream (tracked s k kind) s.streamCount
      else tracked s k kind := rfl

theorem releaseStream_stream : (releaseStream s i).stream =
    Function.update s.stream i { s.stream i with released := true } := by
  unfold releaseStream
  split_ifs with hreleased
  · have hsame : ({ s.stream i with released := true } : TrackedStream) = s.stream i := by
      rw [← hreleased]
    rw [hsame, Function.update_eq_self]
  · rfl

theorem releaseStream_streamCount : (releaseStream s i).streamCount = s.streamCount := by
  unfold releaseStream
  split_ifs
  · rfl
  · rfl

theorem releaseStream_aborted (j : Nat) :
    ((releaseStream s i).managed j).sessionAborted = (s.managed j).sessionAborted := by
  have hkept : ∀ (m : ManagedSession) (kind : StreamKind),
      (m.releaseStream kind).sessionAborted = m.sessionAborted := by
    intro m kind
    unfold ManagedSession.releaseStream
    simp only
    split_ifs
    · cases kind <;> rfl
    · cases kind <;> rfl
  unfold releaseStream
  split_ifs
  · rfl
  · exact update_field ManagedSession.sessionAborted (hkept _ _) j

/-- What one stretch does to the table of tracked streams: it releases some of them. -/
structure Releases (s t : RuntimeState) : Prop where
  streamCount : t.streamCount = s.streamCount
  kept : ∀ i, (t.stream i).owner = (s.stream i).owner ∧ (t.stream i).kind = (s.stream i).kind
  released : ∀ i, (s.stream i).released = true → (t.stream i).released = true
  aborted : ∀ k, (t.managed k).sessionAborted = (s.managed k).sessionAborted

theorem releases_releaseStream : Releases s (releaseStream s i) where
  streamCount := releaseStream_streamCount
  kept := fun j => by
    rw [releaseStream_stream]
    by_cases hj : j = i
    · rw [hj, Function.update_self]
      exact ⟨rfl, rfl⟩
    · rw [Function.update_of_ne hj]
      exact ⟨rfl, rfl⟩
  released := fun j hj => by
    rw [releaseStream_stream]
    by_cases he : j = i
    · rw [he, Function.update_self]
    · rwa [Function.update_of_ne he]
  aborted := releaseStream_aborted

/-- The streams released one after another are released, the others are as they were. -/
theorem releaseStream_foldl (xs : List Nat) (hs : StreamLedger deps s)
    (hxs : ∀ i ∈ xs, i < s.streamCount) :
    StreamLedger deps (xs.foldl releaseStream s) ∧ Releases s (xs.foldl releaseStream s) ∧
      (∀ i ∈ xs, ((xs.foldl releaseStream s).stream i).released = true) ∧
      ∀ i, i ∉ xs → (xs.foldl releaseStream s).stream i = s.stream i := by
  induction xs generalizing s with
  | nil =>
    exact ⟨hs, ⟨rfl, fun _ => ⟨rfl, rfl⟩, fun _ => id, fun _ => rfl⟩, by simp, fun _ _ => rfl⟩
  | cons x xs ih =>
    have hx := hxs x List.mem_cons_self
    have hfirst := releases_releaseStream (s := s) (i := x)
    obtain ⟨hledger, hrest, hall, hothers⟩ := ih (ledger_releaseStream hs hx) fun i hi => by
      rw [releaseStream_streamCount]
      exact hxs i (List.mem_cons_of_mem x hi)
    refine ⟨hledger, ⟨hrest.streamCount.trans hfirst.streamCount, fun i => ?_, fun i hi =>
      hrest.released i (hfirst.released i hi), fun k => (hrest.aborted k).trans (hfirst.aborted k)⟩,
      fun i hi => ?_, fun i hi => ?_⟩
    · obtain ⟨howner, hkind⟩ := hrest.kept i
      obtain ⟨howner', hkind'⟩ := hfirst.kept i
      exact ⟨howner.trans howner', hkind.trans hkind'⟩
    · rcases List.mem_cons.mp hi with rfl | hi
      · refine hrest.released i ?_
        rw [releaseStream_stream, Function.update_self]
      · exact hall i hi
    · rw [List.foldl_cons, hothers i fun h => hi (List.mem_cons_of_mem x h), releaseStream_stream]
      refine Function.update_of_ne ?_ _ _
      rintro rfl
      exact hi List.mem_cons_self

theorem mem_releaseStreams :
    i ∈ (List.range s.streamCount).filter (fun i => (s.stream i).owner = k) ↔
    i < s.streamCount ∧ (s.stream i).owner = k := by simp

/-- The session's signal aborts: its streams are released, the others are as they were. -/
structure Aborts (deps : RuntimeDependencies) (k : Nat) (s t : RuntimeState) : Prop where
  ledger : StreamLedger deps s → StreamLedger deps t
  streamCount : t.streamCount = s.streamCount
  kept : ∀ i, (t.stream i).owner = (s.stream i).owner ∧ (t.stream i).kind = (s.stream i).kind
  released : ∀ i, (s.stream i).released = true → (t.stream i).released = true
  own : ∀ i < s.streamCount, (s.stream i).owner = k → (t.stream i).released = true
  others : ∀ i, (s.stream i).owner ≠ k → t.stream i = s.stream i
  aborted : ∀ j, (t.managed j).sessionAborted = true → j = k ∨ (s.managed j).sessionAborted = true

theorem ledger_abort (f : ManagedSession → ManagedSession)
    (h : ∀ m, (f m).bidirectionalStreams = m.bidirectionalStreams ∧
      (f m).unidirectionalStreams = m.unidirectionalStreams ∧
      (f m).streamIdleWaiters = m.streamIdleWaiters) (hs : StreamLedger deps s) :
    StreamLedger deps (update s k f) := by
  refine ledger_congr (s := s) (fun j => ?_) rfl rfl rfl hs
  rw [managed_update]
  split_ifs with hj
  · rw [hj]
    exact h _
  · exact ⟨rfl, rfl, rfl⟩

/-- The abort of a session's signal releases the streams it tracks. -/
theorem aborts_sessionAborted (reason : Failure) (hs : StreamLedger deps s) :
    Aborts deps k s (sessionAborted s k reason) := by
  have hmark : StreamLedger deps (update s k fun m =>
      { m with sessionAborted := true, context := some (m.context.getD reason) }) :=
    ledger_abort _ (fun _ => ⟨rfl, rfl, rfl⟩) hs
  have hflag : ∀ j, ((update s k fun m =>
      { m with sessionAborted := true, context := some (m.context.getD reason) }).managed
        j).sessionAborted = true → j = k ∨ (s.managed j).sessionAborted = true := by
    intro j hj
    rw [managed_update] at hj
    split_ifs at hj with he
    · exact Or.inl he
    · exact Or.inr hj
  have htable : (update s k fun m =>
      { m with sessionAborted := true, context := some (m.context.getD reason) }).stream =
        s.stream ∧
      (update s k fun m =>
        { m with sessionAborted := true, context := some (m.context.getD reason) }).streamCount =
        s.streamCount := ⟨rfl, rfl⟩
  unfold sessionAborted
  simp only
  generalize (update s k fun m =>
    { m with sessionAborted := true, context := some (m.context.getD reason) }) = v
    at hmark hflag htable ⊢
  have hfinal : Still deps v (finalizeSession v k reason) := still_finalizeSession reason
  generalize finalizeSession v k reason = w at hfinal ⊢
  obtain ⟨hledger, hreleases, hown, hothers⟩ := releaseStream_foldl
    ((List.range w.streamCount).filter fun i => (w.stream i).owner = k) (hfinal.ledger hmark)
    fun i hi => (mem_releaseStreams.mp hi).1
  have hfold : releaseStreams w k =
      ((List.range w.streamCount).filter fun i => (w.stream i).owner = k).foldl releaseStream w :=
        rfl
  rw [← hfold] at hledger hreleases hown hothers
  generalize releaseStreams w k = x at hledger hreleases hown hothers ⊢
  have hwaiters : Still deps x (setScheduler x k (x.plane.scheduler k).abortCapacityWaiters) :=
    still_plane _
  have hlast : Still deps x (if (!(s.managed k).isContextAborted) = true then
      contextAborted (setScheduler x k (x.plane.scheduler k).abortCapacityWaiters) k reason
      else setScheduler x k (x.plane.scheduler k).abortCapacityWaiters) := by
    split_ifs
    · exact hwaiters.trans (still_contextAborted reason)
    · exact hwaiters
  obtain ⟨hstream, hcount⟩ := htable
  have hwstream : w.stream = s.stream := hfinal.stream.trans hstream
  have hwcount : w.streamCount = s.streamCount := hfinal.streamCount.trans hcount
  refine ⟨fun _ => hlast.ledger hledger, ?_, fun i => ?_, fun i hi => ?_, fun i hi howner => ?_,
    fun i howner => ?_, fun j hj => ?_⟩
  · rw [hlast.streamCount, hreleases.streamCount, hwcount]
  · rw [hlast.stream, ← hwstream]
    exact hreleases.kept i
  · rw [hlast.stream]
    rw [← hwstream] at hi
    exact hreleases.released i hi
  · rw [hlast.stream]
    refine hown i (mem_releaseStreams.mpr ?_)
    rw [hwcount, hwstream]
    exact ⟨hi, howner⟩
  · rw [hlast.stream, ← hwstream]
    refine hothers i fun hi => howner ?_
    rw [← hwstream]
    exact (mem_releaseStreams.mp hi).2
  · rw [hlast.aborted, hreleases.aborted, hfinal.aborted] at hj
    exact hflag j hj

/-- Every tracked stream belongs to a managed session. -/
def StreamsOwned (s : RuntimeState) : Prop :=
  ∀ i < s.streamCount, (s.stream i).owner < s.plane.managedCount

/-- A surfaced session leaves the tracked streams alone and brings none. -/
structure Welcomes (deps : RuntimeDependencies) (s t : RuntimeState) : Prop where
  stream : t.stream = s.stream
  streamCount : t.streamCount = s.streamCount
  aborted : ∀ k < s.plane.managedCount, (t.managed k).sessionAborted = (s.managed k).sessionAborted
  ledger : StreamsOwned s → StreamLedger deps s → StreamLedger deps t

theorem Still.welcomes (h : Still deps s t) : Welcomes deps s t :=
  ⟨h.stream, h.streamCount, fun k _ => h.aborted k, fun _ => h.ledger⟩

theorem Welcomes.still (h : Welcomes deps s t) (h' : Still deps t u) : Welcomes deps s u :=
  ⟨h'.stream.trans h.stream, h'.streamCount.trans h.streamCount,
    fun k hk => (h'.aborted k).trans (h.aborted k hk), fun ho hs => h'.ledger (h.ledger ho hs)⟩

/-- A new session has no streams, and no stream has it for an owner. -/
theorem welcomes_manage (session : WebTransportSession) (readers : Bool × Bool × Bool) (now : Int) :
    Welcomes deps s (manage deps s session readers now) := by
  have hold : ∀ k, k ≠ s.plane.managedCount →
      (manage deps s session readers now).managed k = s.managed k := fun k hk => by
    simp [manage, hk]
  have hnew : (manage deps s session readers now).managed s.plane.managedCount =
      { unmanaged with
        session := session
        datagramReader := readers.1
        bidirectionalReader := readers.2.1
        unidirectionalReader := readers.2.2 } := by
    simp [manage]
  refine ⟨rfl, rfl, fun k hk => by rw [hold k (Nat.ne_of_lt hk)], fun ho hs => ?_⟩
  have hnone : ∀ kind, tally s.streamCount
      (TrackedStream.liveOf s.plane.managedCount kind) s.stream = 0 := by
    intro kind
    refine (tally_eq_zero_iff fun i _ => (s.stream i).liveOf_nonneg _ _).mpr fun i hi => ?_
    unfold TrackedStream.liveOf
    rw [if_neg fun h => (Nat.ne_of_lt (ho i hi)) h.1]
  have hzero : ∀ kind, ((manage deps s session readers now).managed
      s.plane.managedCount).streams kind = 0 := by
    intro kind
    rw [hnew]
    cases kind <;> rfl
  constructor
  · intro k kind
    by_cases hk : k = s.plane.managedCount
    · rw [hk, hzero]
      exact (hnone kind).symm
    · rw [hold k hk]
      exact hs.counts k kind
  · exact hs.active
  · intro k hwaiting
    by_cases hk : k = s.plane.managedCount
    · rw [hk, hnew] at hwaiting
      cases hwaiting
    · rw [hold k hk] at hwaiting ⊢
      exact hs.waiters k hwaiting
  · intro k kind
    by_cases hk : k = s.plane.managedCount
    · rw [hk, hzero]
      exact Int.natCast_nonneg _
    · rw [hold k hk]
      exact hs.limit k kind
  · exact hs.bound

/-- A new session has no streams. -/
theorem welcomes_registerSession {offer : SessionOffer} {readers : Bool × Bool × Bool} {r : Nat}
    {budget : HandlerBudget} : Welcomes deps s (registerSession deps s offer readers r budget) := by
  have hmanage : ∀ b, Welcomes deps s
      (manage deps (setLoad s { s.plane.toWorkload with handlerBudget := b }) offer.session
        readers offer.now) := by
    intro b
    have hload : Still deps s (setLoad s { s.plane.toWorkload with handlerBudget := b }) :=
      still_plane _
    have hwelcomes : Welcomes deps (setLoad s { s.plane.toWorkload with handlerBudget := b })
        (manage deps (setLoad s { s.plane.toWorkload with handlerBudget := b }) offer.session
          readers offer.now) := welcomes_manage offer.session readers offer.now
    exact ⟨hwelcomes.stream, hwelcomes.streamCount, hwelcomes.aborted,
      fun ho hs => hwelcomes.ledger ho (hload.ledger hs)⟩
  unfold registerSession
  simp only
  split
  · rename_i reason haborted
    have hmanaged := hmanage (budget.release r)
    generalize manage deps (setLoad s
      { s.plane.toWorkload with handlerBudget := budget.release r }) offer.session readers
        offer.now = m at hmanaged ⊢
    have hmarked : Welcomes deps s (update m s.plane.managedCount
        ({ · with sessionAborted := true, context := some reason })) := by
      refine ⟨hmanaged.stream, hmanaged.streamCount, fun k hk => ?_, fun ho hs =>
        ledger_abort _ (fun _ => ⟨rfl, rfl, rfl⟩) (hmanaged.ledger ho hs)⟩
      rw [managed_update, if_neg (Nat.ne_of_lt hk)]
      exact hmanaged.aborted k hk
    exact hmarked.still (still_finalizeSession reason)
  · have hmanaged := hmanage budget
    generalize manage deps (setLoad s { s.plane.toWorkload with handlerBudget := budget })
      offer.session readers offer.now = m at hmanaged ⊢
    have hload : Still deps m
        (setLoad m (m.plane.toWorkload.runAdmission s.plane.managedCount r false)) := still_plane _
    exact hmanaged.still (hload.trans (still_update rfl))

/-- A surfaced session enters without streams, or not at all. -/
theorem welcomes_acceptSession (offer : SessionOffer) :
    Welcomes deps s (acceptSession deps s offer) := by
  have hrefused : ∀ t : RuntimeState, t.managed = s.managed → t.activeStreams = s.activeStreams →
      t.streamCount = s.streamCount → t.stream = s.stream → Welcomes deps s t :=
    fun t hmanaged hactive hcount hstream =>
      (Still.of_view (fun _ => by rw [hmanaged]) hactive hcount hstream).welcomes
  unfold acceptSession
  simp only
  split_ifs
  · exact hrefused _ rfl rfl rfl rfl
  · exact hrefused _ rfl rfl rfl rfl
  · split
    · exact hrefused _ rfl rfl rfl rfl
    · split
      · exact hrefused _ rfl rfl rfl rfl
      · split
        · exact hrefused _ rfl rfl rfl rfl
        · split
          · exact hrefused _ rfl rfl rfl rfl
          · rename_i records _ _ r budget _ _ readers _
            have hwelcomes : Welcomes deps { s with ipRecords := records }
                (registerSession deps { s with ipRecords := records } offer readers r budget) :=
              welcomes_registerSession
            exact ⟨hwelcomes.stream, hwelcomes.streamCount, hwelcomes.aborted,
              fun ho hs => hwelcomes.ledger ho
                (ledger_congr (s := s) (fun _ => ⟨rfl, rfl, rfl⟩) rfl rfl rfl hs)⟩

/-! ### Steps -/

/-- The pump tracks a stream of a session whose signal has not aborted. -/
structure TracksStream (deps : RuntimeDependencies) (k : Nat) (kind : StreamKind)
    (s t : RuntimeState) : Prop where
  ledger : StreamLedger deps s → StreamLedger deps t
  streamCount : t.streamCount = s.streamCount + 1
  old : ∀ i < s.streamCount, t.stream i = s.stream i
  new : (t.stream s.streamCount).owner = k ∧ (t.stream s.streamCount).kind = kind
  unaborted : (s.managed k).sessionAborted = false
  aborted : ∀ j, (t.managed j).sessionAborted = (s.managed j).sessionAborted

theorem TracksStream.still (h : TracksStream deps k kind s t) (h' : Still deps t u) :
    TracksStream deps k kind s u where
  ledger := fun hs => h'.ledger (h.ledger hs)
  streamCount := h'.streamCount.trans h.streamCount
  old := fun i hi => by
    rw [h'.stream]
    exact h.old i hi
  new := by
    rw [h'.stream]
    exact h.new
  unaborted := h.unaborted
  aborted := fun j => (h'.aborted j).trans (h.aborted j)

/-- A stream is tracked with its session, and released at once where it is aborted already. -/
theorem tracks_trackStream (hroom : isOverStreamLimit deps s k kind = false)
    (hopen : (s.managed k).sessionAborted = false) (aborted : Bool) :
    TracksStream deps k kind s (trackStream s k kind aborted) := by
  have haborted : ∀ j, ((tracked s k kind).managed j).sessionAborted =
      (s.managed j).sessionAborted := by
    refine update_field ManagedSession.sessionAborted ?_
    cases kind <;> rfl
  have hnew : (tracked s k kind).stream s.streamCount = ⟨k, kind, false⟩ := Function.update_self ..
  rw [trackStream_tracked]
  split_ifs
  · have hreleases := releases_releaseStream (s := tracked s k kind) (i := s.streamCount)
    refine ⟨fun hs => ledger_releaseStream (ledger_tracked hs hroom) (Nat.lt_succ_self _),
      hreleases.streamCount, fun i hi => ?_, ?_, hopen,
      fun j => (hreleases.aborted j).trans (haborted j)⟩
    · rw [releaseStream_stream, Function.update_of_ne (Nat.ne_of_lt hi)]
      exact Function.update_of_ne (Nat.ne_of_lt hi) _ _
    · obtain ⟨howner, hkind⟩ := hreleases.kept s.streamCount
      rw [howner, hkind, hnew]
      exact ⟨rfl, rfl⟩
  · refine ⟨fun hs => ledger_tracked hs hroom, rfl, fun i hi => ?_, ?_, hopen, haborted⟩
    · exact Function.update_of_ne (Nat.ne_of_lt hi) _ _
    · rw [hnew]
      exact ⟨rfl, rfl⟩

/-- A stream that is read is tracked unless it is discarded or refused. -/
theorem tracks_streamRead (deps : RuntimeDependencies) (s : RuntimeState) (k : Nat)
    (kind : StreamKind) (aborted : Bool) : Still deps s (streamRead deps s k kind aborted) ∨
    TracksStream deps k kind s (streamRead deps s k kind aborted) := by
  unfold streamRead
  split_ifs with hover hroom
  · exact Or.inl (still_setStreamPump .discarding)
  · exact Or.inl (still_setStreamPump .refusing)
  · right
    have hopen : (s.managed k).sessionAborted = false := by
      simp only [ManagedSession.isIntakeOver, Bool.or_eq_true, not_or] at hover
      simpa using hover.1
    have htrack : TracksStream deps k kind s (trackStream s k kind aborted) :=
      tracks_trackStream (by simpa using hroom) hopen aborted
    have hplane : Still deps (trackStream s k kind aborted) { trackStream s k kind aborted with
        plane := ((trackStream s k kind aborted).plane.submit deps.options k
          (.stream s.streamCount) 0).2 } := still_plane _
    have hset : TracksStream deps k kind s (update { trackStream s k kind aborted with
        plane := ((trackStream s k kind aborted).plane.submit deps.options k
          (.stream s.streamCount) 0).2 } k (·.setStreamPump kind .submitted)) :=
      (htrack.still hplane).still (still_setStreamPump .submitted)
    simp only
    split_ifs
    · exact hset.still (still_closeSession .resourceLimit "Handler queue limit exceeded")
    · exact hset

/-- What one step does to the tracked streams. -/
inductive StreamTurn (deps : RuntimeDependencies) (s : RuntimeState) :
    RuntimeEvent → RuntimeState → Prop
  | still {e : RuntimeEvent} {t : RuntimeState} (h : Still deps s t)
      (hstream : ∀ i, e ≠ .streamAborted i) (hsession : ∀ k reason, e ≠ .sessionAborted k reason) :
      StreamTurn deps s e t
  | welcomes {offer : SessionOffer} {t : RuntimeState} (h : Welcomes deps s t) :
      StreamTurn deps s (.surfaced offer) t
  | tracks {k : Nat} {kind : StreamKind} {aborted : Bool} {t : RuntimeState}
      (hk : k < s.plane.managedCount) (h : TracksStream deps k kind s t) :
      StreamTurn deps s (.streamRead k kind aborted) t
  | aborts {k : Nat} {reason : Failure} {t : RuntimeState}
      (h : StreamLedger deps s → Aborts deps k s t) :
      StreamTurn deps s (.sessionAborted k reason) t
  | releases {i : Nat} (hi : i < s.streamCount) :
      StreamTurn deps s (.streamAborted i) (releaseStream s i)

/-- What a step may do to the tracked streams, one case per event. -/
theorem streamTurn_of_step (h : (machine deps).Step s e t) : StreamTurn deps s e t := by
  obtain ⟨henabled, rfl⟩ := h
  have hstill : ∀ {e : RuntimeEvent} {u : RuntimeState}, Still deps s u →
      (∀ i, e ≠ .streamAborted i) → (∀ k reason, e ≠ .sessionAborted k reason) →
      StreamTurn deps s e u := fun h hstream hsession => .still h hstream hsession
  cases e with
  | surfaced offer => exact .welcomes (welcomes_acceptSession offer)
  | sessionAborted k reason => exact .aborts (aborts_sessionAborted reason)
  | streamAborted i =>
    simp only [enabled, Bool.and_eq_true, decide_eq_true_eq] at henabled
    exact .releases henabled.1
  | streamRead k kind aborted =>
    simp only [enabled, Bool.and_eq_true, decide_eq_true_eq] at henabled
    rcases tracks_streamRead deps s k kind aborted with h | h
    · exact .still h (by simp) (by simp)
    · exact .tracks henabled.1 h
  | bootstrap => exact hstill still_bootstrap (by simp) (by simp)
  | driverStarted i succeeded => exact hstill (still_driverStarted i succeeded) (by simp) (by simp)
  | startCleared i => exact hstill (.of_view (fun _ => rfl) rfl rfl rfl) (by simp) (by simp)
  | stop => exact hstill still_stop (by simp) (by simp)
  | drainEnded => exact hstill still_drainEnded (by simp) (by simp)
  | startCancelled => exact hstill still_closeSessions (by simp) (by simp)
  | sessionsClosed => exact hstill (.of_view (fun _ => rfl) rfl rfl rfl) (by simp) (by simp)
  | driverStopped result => exact hstill (still_driverStopped result) (by simp) (by simp)
  | stopCleared => exact hstill (.of_view (fun _ => rfl) rfl rfl rfl) (by simp) (by simp)
  | idleTimeout k => exact hstill (still_closeSession .timeout _) (by simp) (by simp)
  | handshakeTimeout k => exact hstill still_handshakeTimeout (by simp) (by simp)
  | continueAdmission k => exact hstill still_continueAdmission (by simp) (by simp)
  | authenticateSettled k result =>
    exact hstill (still_authenticateSettled result) (by simp) (by simp)
  | pipeline k event => exact hstill (still_pipelineStep event) (by simp) (by simp)
  | handlerReturned k => exact hstill still_handlerResumed (by simp) (by simp)
  | admissionObserved k => exact hstill still_admissionObserved (by simp) (by simp)
  | retired k now => exact hstill (still_retired now) (by simp) (by simp)
  | callTask => exact hstill still_callTask (by simp) (by simp)
  | resumeTask => exact hstill still_resumeTask (by simp) (by simp)
  | taskError w error => exact hstill (still_handleRuntimeError error) (by simp) (by simp)
  | runEnded w failure => exact hstill (still_plane _) (by simp) (by simp)
  | errorObserved w => exact hstill still_errorObserved (by simp) (by simp)
  | settled w => exact hstill still_settled (by simp) (by simp)
  | detached w => exact hstill (still_plane _) (by simp) (by simp)
  | datagramRead k n now => exact hstill (still_datagramRead n now) (by simp) (by simp)
  | datagramsDone k => exact hstill still_endDatagramPump (by simp) (by simp)
  | datagramReadFailed k error => exact hstill (still_datagramReadFailed error) (by simp) (by simp)
  | datagramPumpClosed k => exact hstill still_endDatagramPump (by simp) (by simp)
  | drainResumed k => exact hstill still_drainResumed (by simp) (by simp)
  | drainContinued k => exact hstill still_drainLoop (by simp) (by simp)
  | streamResumed k kind => exact hstill still_streamResumed (by simp) (by simp)
  | streamsDone k kind => exact hstill (still_endStreamPump true) (by simp) (by simp)
  | streamReadFailed k kind error => exact hstill (still_streamPumpFailed error) (by simp) (by simp)
  | streamRefused k kind failure => exact hstill (still_streamRefused failure) (by simp) (by simp)
  | streamDiscarded k kind failure =>
    exact hstill (still_streamDiscarded failure) (by simp) (by simp)
  | streamSubmitted k kind => exact hstill still_streamLoop (by simp) (by simp)
  | streamPumpClosed k kind => exact hstill (still_endStreamPump false) (by simp) (by simp)

/-! ### Over runs -/

/-- The ledger is right and an aborted session has no stream left. -/
structure StreamsKept (deps : RuntimeDependencies) (s : RuntimeState) : Prop where
  sound : Sound s
  ledger : StreamLedger deps s
  owned : StreamsOwned s
  released : ∀ i < s.streamCount, (s.managed (s.stream i).owner).sessionAborted = true →
    (s.stream i).released = true

/-- Sessions are only added. -/
theorem managedCount_step (hs : Sound s) (h : (machine deps).Step s e t) :
    s.plane.managedCount ≤ t.plane.managedCount := by
  rcases (turn_of_step hs h).managedCount hs with heq | ⟨heq, -⟩
  · omega
  · omega

/-- Each step keeps the ledger of the streams, and one that aborts a session releases its
streams. -/
theorem streamsKept_step (h : (machine deps).Step s e t) (hs : StreamsKept deps s) :
    StreamsKept deps t := by
  have hcount := managedCount_step hs.sound h
  have hsound := sound_step hs.sound h
  have howned : ∀ i < s.streamCount, (s.stream i).owner < t.plane.managedCount :=
    fun i hi => (hs.owned i hi).trans_le hcount
  cases streamTurn_of_step h with
  | still h =>
    refine ⟨hsound, h.ledger hs.ledger, fun i hi => ?_, fun i hi haborted => ?_⟩
    · rw [h.streamCount] at hi
      rw [h.stream]
      exact howned i hi
    · rw [h.streamCount] at hi
      rw [h.stream, h.aborted] at haborted
      rw [h.stream]
      exact hs.released i hi haborted
  | welcomes h =>
    refine ⟨hsound, h.ledger hs.owned hs.ledger, fun i hi => ?_, fun i hi haborted => ?_⟩
    · rw [h.streamCount] at hi
      rw [h.stream]
      exact howned i hi
    · rw [h.streamCount] at hi
      rw [h.stream, h.aborted _ (hs.owned i hi)] at haborted
      rw [h.stream]
      exact hs.released i hi haborted
  | @tracks k _ _ _ hk h =>
    refine ⟨hsound, h.ledger hs.ledger, fun i hi => ?_, fun i hi haborted => ?_⟩
    · rw [h.streamCount] at hi
      by_cases hold : i < s.streamCount
      · rw [h.old i hold]
        exact howned i hold
      · obtain rfl : i = s.streamCount := by omega
        rw [h.new.1]
        exact hk.trans_le hcount
    · rw [h.streamCount] at hi
      rw [h.aborted] at haborted
      by_cases hold : i < s.streamCount
      · rw [h.old i hold] at haborted ⊢
        exact hs.released i hold haborted
      · obtain rfl : i = s.streamCount := by omega
        rw [h.new.1, h.unaborted] at haborted
        cases haborted
  | @aborts k _ _ h =>
    have h := h hs.ledger
    refine ⟨hsound, h.ledger hs.ledger, fun i hi => ?_, fun i hi haborted => ?_⟩
    · rw [h.streamCount] at hi
      rw [(h.kept i).1]
      exact howned i hi
    · rw [h.streamCount] at hi
      rw [(h.kept i).1] at haborted
      rcases h.aborted _ haborted with hk | hold
      · exact h.own i hi hk
      · exact h.released i (hs.released i hi hold)
  | @releases i hi =>
    have h := releases_releaseStream (s := s) (i := i)
    refine ⟨hsound, ledger_releaseStream hs.ledger hi, fun j hj => ?_, fun j hj haborted => ?_⟩
    · rw [h.streamCount] at hj
      rw [(h.kept j).1]
      exact howned j hj
    · rw [h.streamCount] at hj
      rw [(h.kept j).1, h.aborted] at haborted
      exact h.released j (hs.released j hj haborted)

theorem streamsKept_new (deps : RuntimeDependencies) : StreamsKept deps (new deps) where
  sound := sound_new deps
  ledger :=
    { counts := fun k kind => by cases kind <;> rfl
      active := rfl
      waiters := fun k h => by cases h
      limit := fun k kind => by cases kind <;> exact Int.natCast_nonneg _
      bound := Int.natCast_nonneg _ }
  owned := fun i hi => by cases hi
  released := fun i hi => by cases hi

/-- The ledger of the streams is right in every run. -/
theorem streamsKept_run (h : (machine deps).Run (new deps) es s) : StreamsKept deps s :=
  h.invariant (fun _ _ _ => streamsKept_step) (streamsKept_new deps)

/-- The tracked streams of one kind of session `k` whose release has not run. -/
def unreleased (s : RuntimeState) (k : Nat) (kind : StreamKind) : Finset Nat :=
  (Finset.range s.streamCount).filter fun i =>
    (s.stream i).owner = k ∧ (s.stream i).kind = kind ∧ (s.stream i).released = false

theorem card_unreleased (s : RuntimeState) (k : Nat) (kind : StreamKind) :
    ((unreleased s k kind).card : Int) =
      tally s.streamCount (TrackedStream.liveOf k kind) s.stream := by
  unfold unreleased tally
  rw [Finset.card_filter, Nat.cast_sum]
  refine Finset.sum_congr rfl fun i _ => ?_
  unfold TrackedStream.liveOf TrackedStream.live
  by_cases hof : (s.stream i).owner = k ∧ (s.stream i).kind = kind
  · cases hreleased : (s.stream i).released with
    | false => simp [hof]
    | true => simp [hof]
  · rw [if_neg hof, if_neg fun h => hof ⟨h.1, h.2.1⟩]
    rfl

/-- A stream counts once, in the session that owns it. -/
theorem sum_liveOf {n : Nat} (stream : TrackedStream) (h : stream.owner < n) :
    ∑ k ∈ Finset.range n, (stream.liveOf k .bidirectional + stream.liveOf k .unidirectional) =
      stream.live := by
  rw [Finset.sum_eq_single stream.owner]
  · unfold TrackedStream.liveOf
    cases hkind : stream.kind with
    | bidirectional => simp
    | unidirectional => simp
  · intro k _ hk
    unfold TrackedStream.liveOf
    rw [if_neg fun h => hk h.1.symm, if_neg fun h => hk h.1.symm]
    rfl
  · intro hnot
    exact absurd (Finset.mem_range.mpr h) hnot

/-- The server's counter is the sum of the sessions' counters. -/
theorem activeStreams_eq (hs : StreamsKept deps s) :
    s.activeStreams = tally s.plane.managedCount
      (fun m => m.bidirectionalStreams + m.unidirectionalStreams) s.managed := by
  have hsession : ∀ k, (s.managed k).bidirectionalStreams + (s.managed k).unidirectionalStreams =
      ∑ i ∈ Finset.range s.streamCount, ((s.stream i).liveOf k .bidirectional +
        (s.stream i).liveOf k .unidirectional) := by
    intro k
    rw [Finset.sum_add_distrib]
    exact congrArg₂ (· + ·) (hs.ledger.counts k .bidirectional) (hs.ledger.counts k .unidirectional)
  calc s.activeStreams
      = ∑ i ∈ Finset.range s.streamCount, (s.stream i).live := hs.ledger.active
    _ = ∑ i ∈ Finset.range s.streamCount, ∑ k ∈ Finset.range s.plane.managedCount,
          ((s.stream i).liveOf k .bidirectional + (s.stream i).liveOf k .unidirectional) :=
        Finset.sum_congr rfl fun i hi =>
          (sum_liveOf _ (hs.owned i (Finset.mem_range.mp hi))).symm
    _ = ∑ k ∈ Finset.range s.plane.managedCount, ∑ i ∈ Finset.range s.streamCount,
          ((s.stream i).liveOf k .bidirectional + (s.stream i).liveOf k .unidirectional) :=
        Finset.sum_comm
    _ = tally s.plane.managedCount
          (fun m => m.bidirectionalStreams + m.unidirectionalStreams) s.managed :=
        Finset.sum_congr rfl fun k _ => (hsession k).symm

/-- A step releases a tracked stream just where its signal or that of its session aborts. -/
theorem release_step (h : (machine deps).Step s e t) (hs : StreamsKept deps s)
    (hi : i < s.streamCount) :
    ((s.stream i).released = true → (t.stream i).released = true) ∧
      ((s.stream i).released = false → ((t.stream i).released = true ↔
        e = .streamAborted i ∨ ∃ reason, e = .sessionAborted (s.stream i).owner reason)) := by
  -- a step that is no such abort and leaves the stream as it was
  have hkept : t.stream i = s.stream i →
      ¬ (e = .streamAborted i ∨ ∃ reason, e = .sessionAborted (s.stream i).owner reason) →
      ((s.stream i).released = true → (t.stream i).released = true) ∧
        ((s.stream i).released = false → ((t.stream i).released = true ↔
          e = .streamAborted i ∨ ∃ reason, e = .sessionAborted (s.stream i).owner reason)) := by
    intro heq hnot
    rw [heq]
    refine ⟨id, fun hlive => ⟨fun hreleased => ?_, fun h => absurd h hnot⟩⟩
    rw [hlive] at hreleased
    cases hreleased
  cases streamTurn_of_step h with
  | still h hstream hsession =>
    refine hkept (by rw [h.stream]) ?_
    rintro (he | ⟨reason, he⟩)
    · exact hstream i he
    · exact hsession _ reason he
  | welcomes h => exact hkept (by rw [h.stream]) (by simp)
  | tracks hk h => exact hkept (h.old i hi) (by simp)
  | @aborts k reason _ h =>
    have h := h hs.ledger
    by_cases howner : (s.stream i).owner = k
    · have hreleased := h.own i hi howner
      exact ⟨fun _ => hreleased, fun _ => ⟨fun _ => Or.inr ⟨reason, by rw [howner]⟩,
        fun _ => hreleased⟩⟩
    · refine hkept (h.others i howner) ?_
      rintro (he | ⟨reason', he⟩)
      · cases he
      · cases he
        exact howner rfl
  | @releases j hj =>
    by_cases hij : i = j
    · subst hij
      have hreleased : ((releaseStream s i).stream i).released = true := by
        rw [releaseStream_stream, Function.update_self]
      exact ⟨fun _ => hreleased, fun _ => ⟨fun _ => Or.inl rfl, fun _ => hreleased⟩⟩
    · refine hkept (by rw [releaseStream_stream, Function.update_of_ne hij]) ?_
      rintro (he | ⟨reason, he⟩)
      · cases he
        exact hij rfl
      · cases he

/-- A tracked stream stays the stream it is. -/
theorem kept_step (h : (machine deps).Step s e t) (hs : StreamsKept deps s)
    (hi : i < s.streamCount) :
    (t.stream i).owner = (s.stream i).owner ∧ (t.stream i).kind = (s.stream i).kind := by
  cases streamTurn_of_step h with
  | still h =>
    rw [h.stream]
    exact ⟨rfl, rfl⟩
  | welcomes h =>
    rw [h.stream]
    exact ⟨rfl, rfl⟩
  | tracks hk h =>
    rw [h.old i hi]
    exact ⟨rfl, rfl⟩
  | aborts h => exact (h hs.ledger).kept i
  | releases hj => exact releases_releaseStream.kept i

/-- Whoever waits for the streams of a session waits for one that is still tracked. -/
theorem waiters_unreleased (hs : StreamLedger deps s) (k : Nat)
    (hwaiting : 0 < (s.managed k).streamIdleWaiters) :
    ∃ kind, (unreleased s k kind).Nonempty := by
  have hcount : ∀ kind, (s.managed k).streams kind = ((unreleased s k kind).card : Int) :=
    fun kind => (hs.counts k kind).trans (card_unreleased s k kind).symm
  by_contra hnone
  push Not at hnone
  refine hs.waiters k hwaiting ⟨?_, ?_⟩
  · have := hcount .bidirectional
    rw [hnone .bidirectional] at this
    exact this
  · have := hcount .unidirectional
    rw [hnone .unidirectional] at this
    exact this

/-- The counters of every reachable state are those of the streams tracked and not released; each
is released once, when its signal or that of its session aborts. -/
theorem managedStreams_run (h : (machine deps).Run (new deps) es s) :
    (s.activeStreams = tally s.plane.managedCount
        (fun m => m.bidirectionalStreams + m.unidirectionalStreams) s.managed ∧
      ∀ k kind, (s.managed k).streams kind = (unreleased s k kind).card) ∧
    (0 ≤ s.activeStreams ∧ s.activeStreams ≤ deps.options.limits.server.maxStreams.value ∧
      ∀ k kind, 0 ≤ (s.managed k).streams kind ∧
        (s.managed k).streams kind ≤ maxStreamsOf deps kind) ∧
    (∀ e t i, (machine deps).Step s e t → i < s.streamCount →
      ((t.stream i).owner = (s.stream i).owner ∧ (t.stream i).kind = (s.stream i).kind) ∧
      ((s.stream i).released = true → (t.stream i).released = true) ∧
      ((s.stream i).released = false → ((t.stream i).released = true ↔
        e = .streamAborted i ∨ ∃ reason, e = .sessionAborted (s.stream i).owner reason))) ∧
    (∀ i < s.streamCount, (s.managed (s.stream i).owner).sessionAborted = true →
      (s.stream i).released = true) ∧
    ∀ k, 0 < (s.managed k).streamIdleWaiters → ∃ kind, (unreleased s k kind).Nonempty := by
  have hs : StreamsKept deps s := streamsKept_run h
  refine ⟨⟨activeStreams_eq hs, fun k kind => ?_⟩, ⟨?_, hs.ledger.bound, fun k kind => ?_⟩,
    fun e t i hst hi => ⟨kept_step hst hs hi, release_step hst hs hi⟩, hs.released,
    waiters_unreleased hs.ledger⟩
  · exact (hs.ledger.counts k kind).trans (card_unreleased s k kind).symm
  · rw [hs.ledger.active]
    exact tally_nonneg fun i _ => (s.stream i).live_nonneg
  · exact ⟨count_nonneg hs.ledger k kind, hs.ledger.limit k kind⟩

/-- Session `0` has one stream of each kind; the bidirectional one then aborts. -/
theorem managedStreams_run_small :
    ∃ t, (machine streamServer).Run (new streamServer)
        (contendedStreams ++ [.streamRead 0 .unidirectional false, .streamAborted 0]) t ∧
      t.activeStreams = 1 ∧ ((unreleased t 0 .bidirectional).card : Int) = 0 := by
  obtain ⟨t, hrun, hactive, hcount⟩ := exists_run streamServer (new streamServer)
    (contendedStreams ++ [.streamRead 0 .unidirectional false, .streamAborted 0])
    (fun t => t.activeStreams = 1 ∧ (t.managed 0).streams .bidirectional = 0) (by decide)
  have hcards := (managedStreams_run hrun).1.2 0 .bidirectional
  exact ⟨t, hrun, hactive, hcards.symm.trans hcount⟩

end NestWebTransport.WebTransportRuntime
