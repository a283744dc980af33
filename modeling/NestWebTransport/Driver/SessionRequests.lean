import NestWebTransport.Driver.SessionCore

/-! Every promise of a session core settles once, and none is left open when the session closes. -/
namespace NestWebTransport

/-- The event answers a request of this kind and id with this outcome. -/
inductive NativeEvent.Answers : NativeEvent → RequestKind → Nat → RequestOutcome → Prop
  | streamOpened {id streamId : Nat} :
      Answers (.streamOpened id streamId) .opens id (.opened streamId)
  | writeAck {id : Nat} : Answers (.writeAck id) .writes id .written
  | datagramAck {id : Nat} {sent : Bool} :
      Answers (.datagramAck id sent) .datagramAcks id (.sent sent)
  | stats {id dropped : Nat} {report : List Nat} :
      Answers (.stats id report) .statsRequests id (.stats ⟨report, 0, dropped, 0, 0⟩)
  | keyingMaterial {id : Nat} {ok : Bool} {data : Option (List UInt8)} :
      Answers (.keyingMaterial id ok data) .keyingMaterialRequests id
        (SessionCore.keyingMaterialOutcome ok data)

/-- How the end of the session settles a request. -/
def RequestKind.closing (message : String) : RequestKind → RequestOutcome
  | .datagramAcks => .sent false
  | _ => .rejected message

namespace SessionCore

variable {s t u : SessionCore} {e : SessionCoreEvent} {es fs : List SessionCoreEvent}
  {kind : RequestKind} {id : Nat}

/-- The requests the transport was handed, in order. -/
def requests (s : SessionCore) : List (RequestKind × Nat) :=
  s.commands.filterMap TransportCommand.request?

/-- The ids of one map. -/
def requestsOf (s : SessionCore) (kind : RequestKind) : List Nat :=
  (s.requests.filter (·.1 = kind)).map Prod.snd

/-- What an event does to the requests. -/
inductive RequestMove (s : SessionCore) : SessionCoreEvent → SessionCore → Prop
  | quiet {e : SessionCoreEvent} {t : SessionCore} (htables : ∀ kind, t.table kind = s.table kind)
      (hnext : t.nextRequestId = s.nextRequestId) (hrequests : t.requests = s.requests)
      (hclosed : t.closedState = s.closedState) : RequestMove s e t
  | issues {e : SessionCoreEvent} {t : SessionCore} (kind : RequestKind)
      (hopen : s.closedState = false) (hclosed : t.closedState = false)
      (htable : t.table kind = (s.table kind).issue s.nextRequestId)
      (hothers : ∀ other ≠ kind, t.table other = s.table other)
      (hnext : t.nextRequestId = s.nextRequestId + 1)
      (hrequests : t.requests = s.requests ++ [(kind, s.nextRequestId)]) : RequestMove s e t
  | settles {t : SessionCore} (ev : NativeEvent) (kind : RequestKind) (id : Nat)
      (outcome : RequestOutcome) (hanswers : ev.Answers kind id outcome)
      (htable : t.table kind = (s.table kind).settle id outcome)
      (hothers : ∀ other ≠ kind, t.table other = s.table other)
      (hnext : t.nextRequestId = s.nextRequestId) (hrequests : t.requests = s.requests)
      (hclosed : t.closedState = s.closedState) : RequestMove s (.dispatch ev) t
  | finishes {e : SessionCoreEvent} {t : SessionCore} (message : String)
      (hopen : s.closedState = false) (hclosed : t.closedState = true)
      (htables : ∀ kind, t.table kind = (s.table kind).settleAll (kind.closing message))
      (hnext : t.nextRequestId = s.nextRequestId) (hrequests : t.requests = s.requests) :
      RequestMove s e t

theorem RequestMove.refl : RequestMove s e s := .quiet (fun _ => rfl) rfl rfl rfl

theorem table_command (c : TransportCommand) (kind : RequestKind) :
    (s.command c).table kind = s.table kind := by
  unfold command
  split <;> rfl

theorem requests_command (c : TransportCommand) (hc : c.request? = none) :
    (s.command c).requests = s.requests := by
  unfold command
  split
  · simp [requests, hc]
  · rfl

theorem command_closedState (c : TransportCommand) :
    (s.command c).closedState = s.closedState := by
  unfold command
  split <;> rfl

theorem command_nextRequestId (c : TransportCommand) :
    (s.command c).nextRequestId = s.nextRequestId := by
  unfold command
  split <;> rfl

theorem moves_command (c : TransportCommand) (hc : c.request? = none) :
    RequestMove s e (s.command c) :=
  .quiet (table_command c) (command_nextRequestId c) (requests_command c hc) (command_closedState c)

theorem table_setTable (kind : RequestKind) (t : RequestTable RequestOutcome) :
    (s.setTable kind t).table kind = t := by
  cases kind <;> rfl

theorem table_setTable_of_ne {other : RequestKind} (h : other ≠ kind)
    (t : RequestTable RequestOutcome) : (s.setTable kind t).table other = s.table other := by
  cases kind <;> cases other <;> first | rfl | exact absurd rfl h

theorem setTable_others (kind : RequestKind) (t : RequestTable RequestOutcome) :
    (s.setTable kind t).nextRequestId = s.nextRequestId ∧
      (s.setTable kind t).commands = s.commands ∧
      (s.setTable kind t).attached = s.attached ∧
      (s.setTable kind t).closedState = s.closedState := by
  cases kind <;> exact ⟨rfl, rfl, rfl, rfl⟩

theorem usable_iff : s.usable = true ↔ s.attached = true ∧ s.closedState = false := by
  simp [usable]

/-- A request enters the table of its kind under a new id, with its command. -/
theorem moves_request (h : s.usable = true) (kind : RequestKind) (c : Nat → TransportCommand)
    (hc : (c s.nextRequestId).request? = some (kind, s.nextRequestId)) :
    RequestMove s e (s.request kind c).2 := by
  obtain ⟨hattached, hopen⟩ := usable_iff.mp h
  unfold request
  extract_lets id s'
  have hs' : s'.attached = true := hattached
  obtain ⟨hnext, hcommands, hkept, hclosed⟩ := s'.setTable_others kind ((s'.table kind).issue id)
  refine .issues kind hopen ?_ ?_ ?_ ?_ ?_
  · exact (command_closedState _).trans (hclosed.trans hopen)
  · exact (table_command _ _).trans (table_setTable _ _)
  · intro other hother
    exact (table_command _ _).trans (table_setTable_of_ne hother _)
  · exact (command_nextRequestId _).trans hnext
  · unfold command
    rw [if_pos (hkept.trans hs')]
    unfold requests
    change List.filterMap _ (_ ++ [c id]) = _
    rw [hcommands, List.filterMap_append]
    simp only [List.filterMap_cons, List.filterMap_nil, hc, id, s']

theorem moves_settle (ev : NativeEvent) {outcome : RequestOutcome}
    (h : ev.Answers kind id outcome) : RequestMove s (.dispatch ev) (s.settle kind id outcome) := by
  obtain ⟨hnext, hcommands, -, hclosed⟩ :=
    s.setTable_others kind ((s.table kind).settle id outcome)
  refine .settles ev kind id outcome h (table_setTable _ _) ?_ hnext ?_ hclosed
  · intro other hother
    exact table_setTable_of_ne hother _
  · unfold settle requests
    rw [hcommands]

theorem moves_finish (info : Option SessionCloseReport) (error : Option String) :
    RequestMove s e (s.finish info error) := by
  unfold finish
  split
  · exact .refl
  · rename_i hopen
    refine .finishes (finishMessage error) (Bool.eq_false_iff.mpr hopen) ?_ ?_ ?_ ?_
    · exact command_closedState _
    · intro kind
      refine (table_command _ _).trans ?_
      cases kind <;> rfl
    · exact command_nextRequestId _
    · exact requests_command _ rfl

/-- A sink hears of something, which concerns no request. -/
theorem moves_notifyReceive (streamId : Nat) (event : SinkEvent) :
    RequestMove s e (s.notifyReceive streamId event) := by
  unfold notifyReceive
  split
  · exact .refl
  · simp only
    split <;> exact .quiet (fun kind => by cases kind <;> rfl) rfl rfl rfl

theorem moves_notifySend (streamId : Nat) (event : SinkEvent) :
    RequestMove s e (s.notifySend streamId event) := by
  unfold notifySend
  split
  · exact .refl
  · exact .quiet (fun kind => by cases kind <;> rfl) rfl rfl rfl

/-- A move depends on the tables, the ids, the commands and the closed state alone. -/
theorem RequestMove.of_table (h : RequestMove s e t) (htables : ∀ kind, s.table kind = u.table kind)
    (hnext : s.nextRequestId = u.nextRequestId) (hcommands : s.commands = u.commands)
    (hclosed : s.closedState = u.closedState) : RequestMove u e t := by
  have hrequests : s.requests = u.requests :=
    congrArg (List.filterMap TransportCommand.request?) hcommands
  cases h with
  | quiet ht hn hr hc =>
    exact .quiet (fun kind => (ht kind).trans (htables kind)) (hn.trans hnext)
      (hr.trans hrequests) (hc.trans hclosed)
  | issues kind ho hc ht hothers hn hr =>
    rw [htables] at ht
    rw [hnext] at ht hn hr
    rw [hrequests] at hr
    exact .issues kind (hclosed ▸ ho) hc ht (fun other h => (hothers other h).trans (htables other))
      hn hr
  | settles ev kind id outcome ha ht hothers hn hr hc =>
    rw [htables] at ht
    exact .settles ev kind id outcome ha ht
      (fun other h => (hothers other h).trans (htables other)) (hn.trans hnext)
      (hr.trans hrequests) (hc.trans hclosed)
  | finishes message ho hc ht hn hr =>
    refine .finishes message (hclosed ▸ ho) hc ?_ (hn.trans hnext) (hr.trans hrequests)
    intro kind
    rw [ht, htables]

/-- A native event settles one request, ends all of them or is none of their business. -/
theorem moves_dispatch (ev : NativeEvent) : RequestMove s (.dispatch ev) (s.dispatch ev) := by
  cases ev with
  | ready | serverReady | draining => exact .quiet (fun kind => by cases kind <;> rfl) rfl rfl rfl
  | closed code reason => exact moves_finish (some ⟨code, reason⟩) none
  | error message => exact moves_finish none (some message)
  | datagram data =>
    change RequestMove s _ (if s.datagramSink = true then _ else s)
    split
    · exact .quiet (fun kind => by cases kind <;> rfl) rfl rfl rfl
    · exact .refl
  | stream streamId bidi =>
    change RequestMove s _ (if s.incoming = true then _ else s)
    split
    · exact .quiet (fun kind => by cases kind <;> rfl) rfl rfl rfl
    · exact .refl
  | streamData | streamFin | streamReset => exact moves_notifyReceive _ _
  | streamStopSending => exact moves_notifySend _ _
  | streamOpened => exact moves_settle _ .streamOpened
  | writeAck => exact moves_settle _ .writeAck
  | datagramAck => exact moves_settle _ .datagramAck
  | stats requestId report =>
    have hanswers : (NativeEvent.stats requestId report).Answers .statsRequests requestId
        (.stats (s.statsOf report)) := .stats
    have hmoves := moves_settle (s := { s with lastStats := some (s.statsOf report) }) _ hanswers
    exact hmoves.of_table (fun kind => by cases kind <;> rfl) rfl rfl rfl
  | keyingMaterial => exact moves_settle _ .keyingMaterial

/-- Each event moves the tables of requests in one of the ways of `RequestMove`, or not at all. -/
theorem moves_next (s : SessionCore) (e : SessionCoreEvent) : RequestMove s e (s.next e) := by
  cases e with
  | attach | failSetup | registerReceive | unregisterReceive | registerSend | unregisterSend
  | setIncomingHandler | setDatagramSink | recordDroppedIncomingDatagram =>
    exact .quiet (fun kind => by cases kind <;> rfl) rfl rfl rfl
  | setupFailed =>
    have hmoves := moves_finish (s := { s with setupFailures := s.setupFailures.tail })
      (e := .setupFailed) none s.setupFailures.head?
    exact hmoves.of_table (fun kind => by cases kind <;> rfl) rfl rfl rfl
  | openStream bidi =>
    change RequestMove s _ (s.openStream bidi).2
    unfold openStream
    split
    · exact moves_request ‹_› _ _ rfl
    · exact .refl
  | write streamId chunk =>
    change RequestMove s _ (s.write streamId chunk).2
    unfold write
    split
    · exact moves_request ‹_› _ _ rfl
    · exact .refl
  | sendDatagram chunk =>
    change RequestMove s _ (s.sendDatagram chunk).2
    unfold sendDatagram
    split
    · exact moves_request ‹_› _ _ rfl
    · exact .refl
  | getStats =>
    change RequestMove s _ s.getStats.2
    unfold getStats
    split
    · exact moves_request ‹_› _ _ rfl
    · split <;> exact .refl
  | exportKeyingMaterial label context length =>
    change RequestMove s _ (s.exportKeyingMaterial label context length).2
    unfold exportKeyingMaterial
    split
    · exact moves_request ‹_› _ _ rfl
    · exact .refl
  | finStream | resetStream | stopSending | setPaused | drain | shutdown =>
    exact moves_command _ rfl
  | close code reason =>
    change RequestMove s _ (s.close code reason)
    unfold close
    split
    · exact .refl
    · have hmoves := moves_command (s := { s with localCloseRequested := true })
        (e := .close code reason) (.closeSession (toUint32 code) reason) rfl
      exact hmoves.of_table (fun kind => by cases kind <;> rfl) rfl rfl rfl
  | dispatch ev => exact moves_dispatch ev

/-- The maps hold just the requests the transport was handed, and a closed core none that waits. -/
structure Requested (s : SessionCore) : Prop where
  ordered : (s.requests.map Prod.snd).Pairwise (· < ·)
  fresh : ∀ id ∈ s.requests.map Prod.snd, id < s.nextRequestId
  held : ∀ kind, (s.table kind).ids.Perm (s.requestsOf kind)
  closed : s.closedState = true → ∀ kind, (s.table kind).pending = []

theorem requested_new : Requested new where
  ordered := List.Pairwise.nil
  fresh _ hid := absurd hid List.not_mem_nil
  held kind := by cases kind <;> exact List.Perm.refl _
  closed h := by cases h

theorem requestsOf_append (h : t.requests = s.requests ++ [(kind, id)]) :
    t.requestsOf kind = s.requestsOf kind ++ [id] ∧
      ∀ other ≠ kind, t.requestsOf other = s.requestsOf other := by
  unfold requestsOf
  rw [h]
  refine ⟨by simp, ?_⟩
  intro other hother
  simp [hother.symm]

/-- Each move keeps the ids distinct and every request in its table or settled. -/
theorem Requested.step (h : Requested s) (hm : RequestMove s e t) : Requested t := by
  cases hm with
  | quiet htables hnext hrequests hclosed =>
    have hof : ∀ kind, t.requestsOf kind = s.requestsOf kind := by
      intro kind
      unfold requestsOf
      rw [hrequests]
    refine ⟨hrequests ▸ h.ordered, ?_, ?_, ?_⟩
    · rw [hrequests, hnext]
      exact h.fresh
    · intro kind
      rw [htables, hof]
      exact h.held kind
    · intro hc kind
      rw [htables]
      exact h.closed (hclosed ▸ hc) kind
  | issues kind hopen hclosed htable hothers hnext hrequests =>
    obtain ⟨hof, hrest⟩ := requestsOf_append hrequests
    refine ⟨?_, ?_, ?_, fun hc => absurd (hclosed.symm.trans hc) nofun⟩
    · rw [hrequests, List.map_append, List.pairwise_append]
      refine ⟨h.ordered, List.pairwise_singleton _ _, ?_⟩
      intro a ha b hb
      cases List.mem_singleton.mp hb
      exact h.fresh a ha
    · rw [hrequests, hnext, List.map_append]
      intro a ha
      rcases List.mem_append.mp ha with hold | hlast
      · exact Nat.lt_succ_of_lt (h.fresh a hold)
      · cases List.mem_singleton.mp hlast
        exact Nat.lt_succ_self _
    · intro other
      by_cases hother : other = kind
      · subst hother
        rw [htable, hof]
        exact RequestTable.ids_issue.trans ((h.held other).append_right _)
      · rw [hothers other hother, hrest other hother]
        exact h.held other
  | settles ev kind id outcome hanswers htable hothers hnext hrequests hclosed =>
    have hof : ∀ kind, t.requestsOf kind = s.requestsOf kind := by
      intro kind
      unfold requestsOf
      rw [hrequests]
    refine ⟨hrequests ▸ h.ordered, ?_, ?_, ?_⟩
    · rw [hrequests, hnext]
      exact h.fresh
    · intro other
      rw [hof]
      by_cases hother : other = kind
      · subst hother
        rw [htable]
        exact RequestTable.ids_settle.trans (h.held other)
      · rw [hothers other hother]
        exact h.held other
    · intro hc other
      by_cases hother : other = kind
      · subst hother
        have hnone := h.closed (hclosed ▸ hc) other
        rw [htable]
        unfold RequestTable.settle
        rw [if_neg (hnone ▸ List.not_mem_nil)]
        exact hnone
      · rw [hothers other hother]
        exact h.closed (hclosed ▸ hc) other
  | finishes message hopen hclosed htables hnext hrequests =>
    refine ⟨hrequests ▸ h.ordered, ?_, ?_, ?_⟩
    · rw [hrequests, hnext]
      exact h.fresh
    · intro kind
      have hof : t.requestsOf kind = s.requestsOf kind := by
        unfold requestsOf
        rw [hrequests]
      rw [htables, hof]
      exact RequestTable.ids_settleAll.trans (h.held kind)
    · intro _ kind
      rw [htables]
      rfl

/-- The tables of requests are in order throughout a run. -/
theorem requested_run (hr : machine.Run s es t) (h : Requested s) : Requested t := by
  apply hr.invariant ?_ h
  rintro s e t ⟨-, rfl⟩ hs
  exact hs.step (moves_next s e)

/-- A closed core stays closed. -/
theorem RequestMove.closedState (hm : RequestMove s e t) (h : s.closedState = true) :
    t.closedState = true := by
  cases hm with
  | quiet _ _ _ hclosed => exact hclosed.trans h
  | issues _ hopen => exact absurd (hopen.symm.trans h) nofun
  | settles _ _ _ _ _ _ _ _ _ hclosed => exact hclosed.trans h
  | finishes _ _ hclosed => exact hclosed

/-- Each settlement is the answer of an event with that id, or the end of the session. -/
def Justified (es : List SessionCoreEvent) (s : SessionCore) : Prop :=
  ∀ kind, ∀ x ∈ (s.table kind).settled,
    (∃ ev, .dispatch ev ∈ es ∧ ev.Answers kind x.1 x.2) ∨
      s.closedState = true ∧ ∃ message, x.2 = kind.closing message

/-- What a move settles is settled by the event at hand. -/
theorem Justified.step (h : Justified es s) (hm : RequestMove s e t) :
    Justified (es ++ [e]) t := by
  have hkept : ∀ kind, ∀ x ∈ (s.table kind).settled,
      (∃ ev, .dispatch ev ∈ es ++ [e] ∧ ev.Answers kind x.1 x.2) ∨
        t.closedState = true ∧ ∃ message, x.2 = kind.closing message := by
    intro kind x hx
    rcases h kind x hx with ⟨ev, hmem, hanswers⟩ | ⟨hclosed, hclosing⟩
    · exact .inl ⟨ev, List.mem_append_left _ hmem, hanswers⟩
    · exact .inr ⟨hm.closedState hclosed, hclosing⟩
  intro kind x hx
  cases hm with
  | quiet htables =>
    rw [htables] at hx
    exact hkept kind x hx
  | issues issued _ _ htable hothers =>
    by_cases hkind : kind = issued
    · subst hkind
      rw [htable] at hx
      exact hkept kind x hx
    · rw [hothers kind hkind] at hx
      exact hkept kind x hx
  | settles ev settled id outcome hanswers htable hothers =>
    by_cases hkind : kind = settled
    · subst hkind
      rw [htable] at hx
      rcases RequestTable.mem_settle hx with hold | rfl
      · exact hkept kind x hold
      · exact .inl ⟨ev, List.mem_append_right _ List.mem_cons_self, hanswers⟩
    · rw [hothers kind hkind] at hx
      exact hkept kind x hx
  | finishes message _ hclosed htables =>
    rw [htables] at hx
    rcases RequestTable.mem_settleAll hx with hold | hnew
    · exact hkept kind x hold
    · exact .inr ⟨hclosed, message, hnew⟩

/-- Every settled request has the event that settled it in the run. -/
theorem justified_run (hr : machine.Run s es t) (h : Justified fs s) : Justified (fs ++ es) t := by
  induction hr generalizing fs with
  | refl => simpa using h
  | @stepL s u t e es hst _ ih =>
    obtain ⟨-, rfl⟩ := hst
    have hnext := ih (h.step (moves_next s e))
    rwa [List.append_assoc, List.singleton_append] at hnext

/-- What has settled stays as it is, and a closed core takes no more requests. -/
def Extends (s t : SessionCore) : Prop :=
  (∀ kind, (s.table kind).settled <+: (t.table kind).settled) ∧
    (s.closedState = true → t.requests = s.requests ∧ ∀ kind, t.table kind = s.table kind)

theorem Extends.refl (s : SessionCore) : Extends s s :=
  ⟨fun _ => List.prefix_refl _, fun _ => ⟨rfl, fun _ => rfl⟩⟩

/-- No move takes back an outcome or forgets a request. -/
theorem extends_step (h : Requested s) (hm : RequestMove s e t) : Extends s t := by
  cases hm with
  | quiet htables _ hrequests =>
    refine ⟨fun kind => ?_, fun _ => ⟨hrequests, htables⟩⟩
    exact congrArg RequestTable.settled (htables kind) ▸ List.prefix_refl _
  | issues kind hopen _ htable hothers =>
    refine ⟨fun other => ?_, fun hc => absurd (hopen.symm.trans hc) nofun⟩
    by_cases hother : other = kind
    · subst hother
      rw [htable]
      exact List.prefix_refl _
    · exact congrArg RequestTable.settled (hothers other hother) ▸ List.prefix_refl _
  | settles ev kind id outcome _ htable hothers _ hrequests =>
    refine ⟨fun other => ?_, fun hc => ⟨hrequests, fun other => ?_⟩⟩
    · by_cases hother : other = kind
      · subst hother
        rw [htable]
        exact RequestTable.settled_prefix_settle
      · exact congrArg RequestTable.settled (hothers other hother) ▸ List.prefix_refl _
    · by_cases hother : other = kind
      · subst hother
        rw [htable]
        unfold RequestTable.settle
        rw [if_neg (h.closed hc other ▸ List.not_mem_nil)]
      · exact hothers other hother
  | finishes message hopen _ htables =>
    refine ⟨fun kind => ?_, fun hc => absurd (hopen.symm.trans hc) nofun⟩
    rw [htables]
    exact List.prefix_append _ _

/-- Later states know all that earlier ones did. -/
theorem extends_run (hr : machine.Run s es t) (h : Requested s) : Extends s t := by
  induction hr with
  | refl => exact .refl _
  | @stepL s u t e es hst hrest ih =>
    obtain ⟨-, rfl⟩ := hst
    have hm := moves_next s e
    obtain ⟨hsettled, hfinal⟩ := extends_step h hm
    obtain ⟨hsettled', hfinal'⟩ := ih (h.step hm)
    refine ⟨fun kind => (hsettled kind).trans (hsettled' kind), fun hc => ?_⟩
    obtain ⟨hrequests, htables⟩ := hfinal hc
    obtain ⟨hrequests', htables'⟩ := hfinal' (hm.closedState hc)
    exact ⟨hrequests'.trans hrequests, fun kind => (htables' kind).trans (htables kind)⟩

/-- Each request handed to the transport settles once, by an answer of its own kind or by the end of
the session, which leaves none waiting; and a promise that has settled stays so. -/
theorem requests_settle (h : machine.Run new es s) :
    (s.requests.map Prod.snd).Pairwise (· < ·) ∧
      (∀ kind id, (kind, id) ∈ s.requests ↔ id ∈ (s.table kind).ids) ∧
      (∀ kind id, (kind, id) ∈ s.requests →
        ((s.table kind).settled.map Prod.fst).count id =
          if id ∈ (s.table kind).pending then 0 else 1) ∧
      Justified es s ∧
      (s.closedState = true → ∀ kind, (s.table kind).pending = []) ∧
      ∀ fs t, machine.Run s fs t → Extends s t := by
  have hs := requested_run h requested_new
  have hmem : ∀ kind id, (kind, id) ∈ s.requests ↔ id ∈ (s.table kind).ids := by
    intro kind id
    rw [(hs.held kind).mem_iff]
    simp [requestsOf]
  have hdistinct : ∀ kind, (s.table kind).ids.Nodup := by
    intro kind
    have hall : (s.requests.map Prod.snd).Nodup := hs.ordered.imp Nat.ne_of_lt
    exact (hs.held kind).nodup_iff.mpr ((List.filter_sublist.map _).nodup hall)
  have hnew : Justified [] new := by
    intro kind x hx
    cases kind <;> exact absurd hx List.not_mem_nil
  refine ⟨hs.ordered, hmem, ?_, ?_, hs.closed, fun fs t hr => extends_run hr hs⟩
  · intro kind id hid
    exact RequestTable.count_settled (hdistinct kind) ((hmem kind id).mp hid)
  · simpa using justified_run h hnew

/-- The session closes with a datagram and a report of its numbers still asked for. -/
theorem requests_settle_at_close : ∃ s, machine.Run new
    [.attach, .openStream true, .sendDatagram [7], .getStats, .dispatch (.streamOpened 1 0),
      .dispatch (.streamOpened 1 4), .dispatch (.closed 0 [])] s ∧
    s.opens.settled = [(1, .opened 0)] ∧ s.datagramAcks.settled = [(2, .sent false)] ∧
    s.statsRequests.settled = [(3, .rejected "session closed")] ∧
    ∀ kind, (s.table kind).pending = [] := by
  obtain ⟨s, hrun, hclosed, hopens, hacks, hstats⟩ := program.exists_run
    [.attach, .openStream true, .sendDatagram [7], .getStats, .dispatch (.streamOpened 1 0),
      .dispatch (.streamOpened 1 4), .dispatch (.closed 0 [])] new
    (fun s => s.closedState = true ∧ s.opens.settled = [(1, .opened 0)] ∧
      s.datagramAcks.settled = [(2, .sent false)] ∧
      s.statsRequests.settled = [(3, .rejected "session closed")]) (by decide +kernel)
  obtain ⟨-, -, -, -, hnone, -⟩ := requests_settle hrun
  exact ⟨s, hrun, hopens, hacks, hstats, hnone hclosed⟩

end SessionCore

end NestWebTransport
