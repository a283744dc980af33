import NestWebTransport.Driver.SessionRequests
import NestWebTransport.Foundation.History

/-! What the sinks of a session core hear, and how its own promises end. -/
namespace NestWebTransport

inductive SinkSide
  | receive
  | send
  deriving DecidableEq, Repr

namespace SinkSide

def registers (streamId : Nat) : SinkSide → SessionCoreEvent
  | .receive => .registerReceive streamId
  | .send => .registerSend streamId

def unregisters (streamId : Nat) : SinkSide → SessionCoreEvent
  | .receive => .unregisterReceive streamId
  | .send => .unregisterSend streamId

end SinkSide

namespace SessionCore

variable {s t u : SessionCore} {e : SessionCoreEvent} {es fs : List SessionCoreEvent}
  {side other : SinkSide} {id sink : Nat}

/-- The sinks of one side, under the ids of their streams. -/
def registry (s : SessionCore) : SinkSide → OrderedMap Nat Nat
  | .receive => s.receives
  | .send => s.sends

def sinks (s : SessionCore) : List Nat := s.receives.values ++ s.sends.values

/-- What an event does to the sinks. -/
inductive SinkMove (s : SessionCore) : SessionCoreEvent → SessionCore → Prop
  | quiet {e : SessionCoreEvent} {t : SessionCore}
      (hregistry : ∀ side, t.registry side = s.registry side) (hcount : t.sinkCount = s.sinkCount)
      (hnotified : t.notified = s.notified) (hclosed : t.closedState = s.closedState) :
      SinkMove s e t
  | registers {t : SessionCore} (side : SinkSide) (id : Nat)
      (hregistry : t.registry side = (s.registry side).set id s.sinkCount)
      (hothers : ∀ other ≠ side, t.registry other = s.registry other)
      (hcount : t.sinkCount = s.sinkCount + 1) (hnotified : t.notified = s.notified)
      (hclosed : t.closedState = s.closedState) : SinkMove s (side.registers id) t
  | unregisters {t : SessionCore} (side : SinkSide) (id : Nat)
      (hregistry : t.registry side = (s.registry side).remove id)
      (hothers : ∀ other ≠ side, t.registry other = s.registry other)
      (hcount : t.sinkCount = s.sinkCount) (hnotified : t.notified = s.notified)
      (hclosed : t.closedState = s.closedState) : SinkMove s (side.unregisters id) t
  | tells {e : SessionCoreEvent} {t : SessionCore} (side : SinkSide) (id sink : Nat)
      (event : SinkEvent) (hget : (s.registry side).get id = some sink)
      (hregistry : t.registry side =
        if event.unregisters then (s.registry side).remove id else s.registry side)
      (hothers : ∀ other ≠ side, t.registry other = s.registry other)
      (hcount : t.sinkCount = s.sinkCount) (hnotified : t.notified = s.notified ++ [(sink, event)])
      (hclosed : t.closedState = s.closedState) : SinkMove s e t
  | ends {e : SessionCoreEvent} {t : SessionCore} (message : String) (clean : Bool)
      (hregistry : ∀ side, t.registry side = .empty) (hcount : t.sinkCount = s.sinkCount)
      (hnotified : t.notified = s.notified ++ s.sinks.map (·, .sessionClose message clean))
      (hclosed : t.closedState = true) : SinkMove s e t

theorem SinkMove.refl : SinkMove s e s := .quiet (fun _ => rfl) rfl rfl rfl

theorem sinks_command (c : TransportCommand) (side : SinkSide) :
    (s.command c).registry side = s.registry side ∧ (s.command c).sinkCount = s.sinkCount ∧
      (s.command c).notified = s.notified := by
  unfold command
  split <;> exact ⟨rfl, rfl, rfl⟩

theorem tells_command (c : TransportCommand) : SinkMove s e (s.command c) :=
  .quiet (fun side => (sinks_command c side).1) (sinks_command c .receive).2.1
    (sinks_command c .receive).2.2 (command_closedState c)

/-- A move depends on the registries, the count, the notices and the closed state alone. -/
theorem SinkMove.of_sinks (h : SinkMove s e t)
    (hregistry : ∀ side, s.registry side = u.registry side)
    (hcount : s.sinkCount = u.sinkCount) (hnotified : s.notified = u.notified)
    (hclosed : s.closedState = u.closedState) : SinkMove u e t := by
  have hsinks : s.sinks = u.sinks := by
    have hreceives : s.receives = u.receives := hregistry .receive
    have hsends : s.sends = u.sends := hregistry .send
    unfold sinks
    rw [hreceives, hsends]
  cases h with
  | quiet hr hc hn hcl =>
    exact .quiet (fun side => (hr side).trans (hregistry side)) (hc.trans hcount)
      (hn.trans hnotified) (hcl.trans hclosed)
  | registers side id hr ho hc hn hcl =>
    rw [hregistry, hcount] at hr
    exact .registers side id hr (fun other h => (ho other h).trans (hregistry other))
      (hcount ▸ hc) (hn.trans hnotified) (hcl.trans hclosed)
  | unregisters side id hr ho hc hn hcl =>
    rw [hregistry] at hr
    exact .unregisters side id hr (fun other h => (ho other h).trans (hregistry other))
      (hc.trans hcount) (hn.trans hnotified) (hcl.trans hclosed)
  | tells side id sink event hg hr ho hc hn hcl =>
    rw [hregistry] at hg hr
    exact .tells side id sink event hg hr (fun other h => (ho other h).trans (hregistry other))
      (hc.trans hcount) (hnotified ▸ hn) (hcl.trans hclosed)
  | ends message clean hr hc hn hcl =>
    exact .ends message clean hr (hc.trans hcount) (hsinks ▸ hnotified ▸ hn) hcl

theorem tells_setTable (kind : RequestKind) (table : RequestTable RequestOutcome) :
    SinkMove s e (s.setTable kind table) := by
  cases kind <;> exact .quiet (fun side => by cases side <;> rfl) rfl rfl rfl

theorem tells_settle (kind : RequestKind) (id : Nat) (outcome : RequestOutcome) :
    SinkMove s e (s.settle kind id outcome) := tells_setTable _ _

theorem tells_request (kind : RequestKind) (c : Nat → TransportCommand) :
    SinkMove s e (s.request kind c).2 := by
  have hcommand : SinkMove (setTable { s with nextRequestId := s.nextRequestId + 1 } kind
      ((s.table kind).issue s.nextRequestId)) e _ := tells_command (c s.nextRequestId)
  cases kind <;> exact hcommand.of_sinks (fun side => by cases side <;> rfl) rfl rfl rfl

theorem tells_finish (info : Option SessionCloseReport) (error : Option String) :
    SinkMove s e (s.finish info error) := by
  unfold finish
  split
  · exact .refl
  · refine .ends (finishMessage error) error.isNone ?_ ?_ ?_ (command_closedState _)
    · intro side
      refine (sinks_command _ side).1.trans ?_
      cases side <;> rfl
    · exact (sinks_command _ .receive).2.1
    · exact (sinks_command _ .receive).2.2

/-- A receive sink is told by its id and taken out at its end. -/
theorem tells_notifyReceive (streamId : Nat) (event : SinkEvent) :
    SinkMove s e (s.notifyReceive streamId event) := by
  unfold notifyReceive
  split
  · exact .refl
  · rename_i sink hget
    refine .tells .receive streamId sink event hget ?_ ?_ ?_ ?_ ?_
    · simp only
      split <;> rfl
    · intro other hother
      cases other with
      | receive => exact absurd rfl hother
      | send =>
        simp only
        split <;> rfl
    all_goals
      simp only
      split <;> rfl

theorem tells_notifySend (streamId : Nat) (event : SinkEvent) (hevent : event.unregisters = true) :
    SinkMove s e (s.notifySend streamId event) := by
  unfold notifySend
  split
  · exact .refl
  · rename_i sink hget
    refine .tells .send streamId sink event hget ?_ ?_ rfl rfl rfl
    · rw [if_pos hevent]
      rfl
    · intro other hother
      cases other with
      | receive => rfl
      | send => exact absurd rfl hother

/-- A native event tells one sink, tells all of them the end or is none of their business. -/
theorem tells_dispatch (ev : NativeEvent) : SinkMove s e (s.dispatch ev) := by
  cases ev with
  | ready | serverReady | draining => exact .quiet (fun side => by cases side <;> rfl) rfl rfl rfl
  | closed code reason => exact tells_finish (some ⟨code, reason⟩) none
  | error message => exact tells_finish none (some message)
  | datagram data =>
    change SinkMove s _ (if s.datagramSink = true then _ else s)
    split
    · exact .quiet (fun side => by cases side <;> rfl) rfl rfl rfl
    · exact .refl
  | stream streamId bidi =>
    change SinkMove s _ (if s.incoming = true then _ else s)
    split
    · exact .quiet (fun side => by cases side <;> rfl) rfl rfl rfl
    · exact .refl
  | streamData | streamFin | streamReset => exact tells_notifyReceive _ _
  | streamStopSending => exact tells_notifySend _ _ rfl
  | streamOpened | writeAck | datagramAck | keyingMaterial => exact tells_settle _ _ _
  | stats requestId report =>
    have htells : SinkMove { s with lastStats := some (s.statsOf report) } e _ :=
      tells_settle .statsRequests requestId (.stats (s.statsOf report))
    exact htells.of_sinks (fun side => by cases side <;> rfl) rfl rfl rfl

/-- Each event moves the registries in one of the ways of `SinkMove`. -/
theorem tells_next (s : SessionCore) (e : SessionCoreEvent) : SinkMove s e (s.next e) := by
  cases e with
  | attach | failSetup | setIncomingHandler | setDatagramSink | recordDroppedIncomingDatagram =>
    exact .quiet (fun side => by cases side <;> rfl) rfl rfl rfl
  | registerReceive id =>
    refine .registers .receive id rfl ?_ rfl rfl rfl
    intro other hother
    cases other with
    | receive => exact absurd rfl hother
    | send => rfl
  | registerSend id =>
    refine .registers .send id rfl ?_ rfl rfl rfl
    intro other hother
    cases other with
    | receive => rfl
    | send => exact absurd rfl hother
  | unregisterReceive id =>
    refine .unregisters .receive id rfl ?_ rfl rfl rfl
    intro other hother
    cases other with
    | receive => exact absurd rfl hother
    | send => rfl
  | unregisterSend id =>
    refine .unregisters .send id rfl ?_ rfl rfl rfl
    intro other hother
    cases other with
    | receive => rfl
    | send => exact absurd rfl hother
  | setupFailed =>
    have htells := tells_finish (s := { s with setupFailures := s.setupFailures.tail })
      (e := .setupFailed) none s.setupFailures.head?
    exact htells.of_sinks (fun side => by cases side <;> rfl) rfl rfl rfl
  | openStream bidi =>
    change SinkMove s _ (s.openStream bidi).2
    unfold openStream
    split
    · exact tells_request _ _
    · exact .refl
  | write streamId chunk =>
    change SinkMove s _ (s.write streamId chunk).2
    unfold write
    split
    · exact tells_request _ _
    · exact .refl
  | sendDatagram chunk =>
    change SinkMove s _ (s.sendDatagram chunk).2
    unfold sendDatagram
    split
    · exact tells_request _ _
    · exact .refl
  | getStats =>
    change SinkMove s _ s.getStats.2
    unfold getStats
    split
    · exact tells_request _ _
    · split <;> exact .refl
  | exportKeyingMaterial label context length =>
    change SinkMove s _ (s.exportKeyingMaterial label context length).2
    unfold exportKeyingMaterial
    split
    · exact tells_request _ _
    · exact .refl
  | finStream | resetStream | stopSending | setPaused | drain | shutdown => exact tells_command _
  | close code reason =>
    change SinkMove s _ (s.close code reason)
    unfold close
    split
    · exact .refl
    · have htells := tells_command (s := { s with localCloseRequested := true })
        (e := .close code reason) (.closeSession (toUint32 code) reason)
      exact htells.of_sinks (fun side => by cases side <;> rfl) rfl rfl rfl
  | dispatch ev => exact tells_dispatch ev

/-! ### What a sink hears -/

/-- The sinks that are registered are all different, and none of them has been ended. -/
structure Heard (s : SessionCore) : Prop where
  distinct : s.sinks.Nodup
  below : ∀ sink ∈ s.sinks, sink < s.sinkCount
  known : ∀ x ∈ s.notified, x.1 < s.sinkCount
  live : ∀ sink ∈ s.sinks, ∀ x ∈ s.notified, x.1 = sink → x.2.unregisters = false
  last : Always (fun pre x => ∀ y ∈ pre, y.1 = x.1 → y.2.unregisters = false) s.notified

theorem heard_new : Heard new where
  distinct := List.nodup_nil
  below _ hsink := absurd hsink List.not_mem_nil
  known _ hx := absurd hx List.not_mem_nil
  live _ hsink := absurd hsink List.not_mem_nil
  last := .nil

theorem mem_sinks : sink ∈ s.sinks ↔ ∃ side id, (id, sink) ∈ (s.registry side).entries := by
  unfold sinks OrderedMap.values
  rw [List.mem_append, List.mem_map, List.mem_map]
  constructor
  · rintro (⟨⟨id, k⟩, hmem, rfl⟩ | ⟨⟨id, k⟩, hmem, rfl⟩)
    · exact ⟨.receive, id, hmem⟩
    · exact ⟨.send, id, hmem⟩
  · rintro ⟨side, id, hmem⟩
    cases side with
    | receive => exact .inl ⟨(id, sink), hmem, rfl⟩
    | send => exact .inr ⟨(id, sink), hmem, rfl⟩

/-- One side of the sinks gives way to another map. -/
theorem sinks_perm (side : SinkSide) : ∃ rest : List Nat,
    s.sinks.Perm ((s.registry side).values ++ rest) ∧
      ∀ t : SessionCore, (∀ other ≠ side, t.registry other = s.registry other) →
        t.sinks.Perm ((t.registry side).values ++ rest) := by
  cases side with
  | receive =>
    refine ⟨s.sends.values, List.Perm.refl _, fun t h => ?_⟩
    have hsends : t.sends = s.sends := h .send nofun
    unfold sinks
    rw [hsends]
    exact List.Perm.refl _
  | send =>
    refine ⟨s.receives.values, List.perm_append_comm, fun t h => ?_⟩
    have hreceives : t.receives = s.receives := h .receive nofun
    unfold sinks
    rw [hreceives]
    exact List.perm_append_comm

/-- A new sink has heard nothing yet; the one it replaces hears nothing more. -/
theorem Heard.registers (h : Heard s)
    (hregistry : t.registry side = (s.registry side).set id s.sinkCount)
    (hothers : ∀ other ≠ side, t.registry other = s.registry other)
    (hcount : t.sinkCount = s.sinkCount + 1) (hnotified : t.notified = s.notified) : Heard t := by
  obtain ⟨rest, hs, ht⟩ := s.sinks_perm side
  have ht := ht t hothers
  rw [hregistry] at ht
  have hdistinct : ((s.registry side).values ++ rest).Nodup := hs.nodup_iff.mp h.distinct
  have hbelow : ∀ k ∈ (s.registry side).values ++ rest, k < s.sinkCount := by
    intro k hk
    exact h.below k (hs.mem_iff.mpr hk)
  have hmem : ∀ k ∈ t.sinks, k = s.sinkCount ∨ k ∈ s.sinks := by
    intro k hk
    rcases List.mem_append.mp (ht.mem_iff.mp hk) with hset | hrest
    · obtain ⟨⟨j, v⟩, hentry, rfl⟩ := List.mem_map.mp hset
      rcases OrderedMap.mem_set _ hentry with heq | hold
      · cases heq
        exact .inl rfl
      · exact .inr (hs.mem_iff.mpr (List.mem_append_left _ (List.mem_map_of_mem hold)))
    · exact .inr (hs.mem_iff.mpr (List.mem_append_right _ hrest))
  refine ⟨?_, ?_, ?_, ?_, hnotified ▸ h.last⟩
  · rw [ht.nodup_iff]
    rw [List.nodup_append] at hdistinct ⊢
    obtain ⟨hvalues, hrest, hapart⟩ := hdistinct
    refine ⟨OrderedMap.nodup_values_set hvalues ?_, hrest, ?_⟩
    · intro hin
      exact Nat.lt_irrefl _ (hbelow _ (List.mem_append_left _ hin))
    · intro a ha b hb hab
      obtain ⟨⟨j, v⟩, hentry, rfl⟩ := List.mem_map.mp ha
      rcases OrderedMap.mem_set _ hentry with heq | hold
      · cases heq
        exact Nat.lt_irrefl _ (hab ▸ hbelow b (List.mem_append_right _ hb))
      · exact hapart v (List.mem_map_of_mem hold) b hb hab
  · intro k hk
    rw [hcount]
    rcases hmem k hk with rfl | hold
    · exact Nat.lt_succ_self _
    · exact Nat.lt_succ_of_lt (h.below k hold)
  · rw [hnotified, hcount]
    intro x hx
    exact Nat.lt_succ_of_lt (h.known x hx)
  · rw [hnotified]
    intro k hk x hx hxk
    rcases hmem k hk with rfl | hold
    · exact absurd (h.known x hx) (hxk ▸ Nat.lt_irrefl _)
    · exact h.live k hold x hx hxk

theorem nodup_of_subperm {xs ys : List Nat} (h : xs.Subperm ys) (hys : ys.Nodup) : xs.Nodup := by
  obtain ⟨zs, hperm, hsub⟩ := h
  exact hperm.nodup_iff.mp (hsub.nodup hys)

/-- Sinks that go away harm none that stay. -/
theorem Heard.shrinks (h : Heard s) (hsinks : t.sinks.Subperm s.sinks)
    (hcount : t.sinkCount = s.sinkCount) (hnotified : t.notified = s.notified) : Heard t := by
  refine ⟨nodup_of_subperm hsinks h.distinct, ?_, ?_, ?_, hnotified ▸ h.last⟩
  · intro k hk
    exact hcount ▸ h.below k (hsinks.subset hk)
  · rw [hnotified, hcount]
    exact h.known
  · rw [hnotified]
    intro k hk
    exact h.live k (hsinks.subset hk)

theorem subperm_remove (hregistry : t.registry side = (s.registry side).remove id)
    (hothers : ∀ other ≠ side, t.registry other = s.registry other) :
    t.sinks.Subperm s.sinks := by
  obtain ⟨rest, hs, ht⟩ := s.sinks_perm side
  have ht := ht t hothers
  rw [hregistry] at ht
  have hsub : (((s.registry side).remove id).values ++ rest).Sublist
      ((s.registry side).values ++ rest) := (List.filter_sublist.map _).append_right _
  exact (ht.subperm_right.mpr hsub.subperm).trans hs.symm.subperm

/-- A sink that is told its end is taken out with it. -/
theorem Heard.tells (h : Heard s) {event : SinkEvent}
    (hget : (s.registry side).get id = some sink)
    (hregistry : t.registry side =
      if event.unregisters then (s.registry side).remove id else s.registry side)
    (hothers : ∀ other ≠ side, t.registry other = s.registry other)
    (hcount : t.sinkCount = s.sinkCount) (hnotified : t.notified = s.notified ++ [(sink, event)]) :
    Heard t := by
  have hmem : sink ∈ s.sinks := mem_sinks.mpr ⟨side, id, OrderedMap.mem_of_get hget⟩
  have hsub : t.sinks.Subperm s.sinks := by
    split at hregistry
    · exact subperm_remove hregistry hothers
    · obtain ⟨rest, hs, ht⟩ := s.sinks_perm side
      have ht := ht t hothers
      rw [hregistry] at ht
      exact (ht.trans hs.symm).subperm
  refine ⟨nodup_of_subperm hsub h.distinct, ?_, ?_, ?_, ?_⟩
  · intro k hk
    exact hcount ▸ h.below k (hsub.subset hk)
  · rw [hnotified, hcount]
    intro x hx
    rcases List.mem_append.mp hx with hold | hnew
    · exact h.known x hold
    · cases List.mem_singleton.mp hnew
      exact h.below sink hmem
  · rw [hnotified]
    intro k hk x hx hxk
    rcases List.mem_append.mp hx with hold | hnew
    · exact h.live k (hsub.subset hk) x hold hxk
    · cases List.mem_singleton.mp hnew
      cases hevent : event.unregisters with
      | false => rfl
      | true =>
        -- The sink has left the map, which held it once only.
        exfalso
        rw [hevent, if_pos rfl] at hregistry
        obtain ⟨rest, hs, ht⟩ := s.sinks_perm side
        have ht := ht t hothers
        rw [hregistry] at ht
        have hdistinct := hs.nodup_iff.mp h.distinct
        rw [List.nodup_append] at hdistinct
        rcases List.mem_append.mp (ht.mem_iff.mp (hxk ▸ hk)) with hkept | hrest
        · exact OrderedMap.not_mem_values_remove hdistinct.1 hget hkept
        · have hheld : sink ∈ (s.registry side).values :=
            List.mem_map_of_mem (OrderedMap.mem_of_get hget)
          exact hdistinct.2.2 sink hheld sink hrest rfl
  · rw [hnotified]
    apply h.last.snoc
    intro y hy hysink
    exact h.live sink hmem y hy hysink

/-- The end of the session is told to every sink that is left, and empties the registries. -/
theorem Heard.ends (h : Heard s) {message : String} {clean : Bool}
    (hregistry : ∀ side, t.registry side = .empty) (hcount : t.sinkCount = s.sinkCount)
    (hnotified : t.notified = s.notified ++ s.sinks.map (·, .sessionClose message clean)) :
    Heard t := by
  have hnone : t.sinks = [] := by
    have hreceives : t.receives = .empty := hregistry .receive
    have hsends : t.sends = .empty := hregistry .send
    unfold sinks
    rw [hreceives, hsends]
    rfl
  refine ⟨hnone ▸ List.nodup_nil, ?_, ?_, ?_, ?_⟩
  · rw [hnone]
    exact fun k hk => absurd hk List.not_mem_nil
  · rw [hnotified, hcount]
    intro x hx
    rcases List.mem_append.mp hx with hold | hnew
    · exact h.known x hold
    · obtain ⟨k, hk, rfl⟩ := List.mem_map.mp hnew
      exact h.below k hk
  · rw [hnone]
    exact fun k hk => absurd hk List.not_mem_nil
  · rw [hnotified]
    refine h.last.append_map (Q := fun event : SinkEvent => event.unregisters = false) h.distinct ?_
    exact h.live

/-- No move tells a sink anything behind its end. -/
theorem Heard.step (h : Heard s) (hm : SinkMove s e t) : Heard t := by
  cases hm with
  | quiet hregistry hcount hnotified =>
    refine h.shrinks ?_ hcount hnotified
    have hreceives : t.receives = s.receives := hregistry .receive
    have hsends : t.sends = s.sends := hregistry .send
    unfold sinks
    rw [hreceives, hsends]
  | registers side id hregistry hothers hcount hnotified =>
    exact h.registers hregistry hothers hcount hnotified
  | unregisters side id hregistry hothers hcount hnotified =>
    exact h.shrinks (subperm_remove hregistry hothers) hcount hnotified
  | tells side id sink event hget hregistry hothers hcount hnotified =>
    exact h.tells hget hregistry hothers hcount hnotified
  | ends message clean hregistry hcount hnotified => exact h.ends hregistry hcount hnotified

/-- Throughout a run no sink hears anything behind its end. -/
theorem heard_run (hr : machine.Run s es t) (h : Heard s) : Heard t := by
  apply hr.invariant ?_ h
  rintro s e t ⟨-, rfl⟩ hs
  exact hs.step (tells_next s e)

/-- The sink has been told that its stream is over for it. -/
def Ended (s : SessionCore) (sink : Nat) : Prop :=
  ∃ x ∈ s.notified, x.1 = sink ∧ x.2.unregisters = true

/-- The sink waits for the end of the session, has heard of its own, or was replaced or taken
out. -/
def Followed (side : SinkSide) (id sink : Nat) (es : List SessionCoreEvent) (s : SessionCore) :
    Prop :=
  (s.closedState = false ∧ (s.registry side).get id = some sink) ∨ Ended s sink ∨
    side.registers id ∈ es ∨ side.unregisters id ∈ es

theorem SinkMove.notified_prefix (hm : SinkMove s e t) : s.notified <+: t.notified := by
  cases hm with
  | quiet _ _ hnotified | registers _ _ _ _ _ hnotified | unregisters _ _ _ _ _ hnotified =>
    exact hnotified ▸ List.prefix_refl _
  | tells _ _ _ _ _ _ _ _ hnotified => exact ⟨_, hnotified.symm⟩
  | ends _ _ _ _ hnotified => exact ⟨_, hnotified.symm⟩

/-- What one move may do to a registered sink. -/
theorem SinkMove.follows (hm : SinkMove s e t) (h : (s.registry side).get id = some sink)
    (hopen : s.closedState = false) : Followed side id sink [e] t := by
  cases hm with
  | quiet hregistry _ _ hclosed => exact .inl ⟨hclosed.trans hopen, hregistry side ▸ h⟩
  | registers other j hregistry hothers _ _ hclosed =>
    by_cases hside : side = other
    · subst hside
      by_cases hid : id = j
      · subst hid
        exact .inr (.inr (.inl List.mem_cons_self))
      · refine .inl ⟨hclosed.trans hopen, ?_⟩
        rw [hregistry]
        exact (OrderedMap.get_set_of_ne _ hid).trans h
    · exact .inl ⟨hclosed.trans hopen, hothers side hside ▸ h⟩
  | unregisters other j hregistry hothers _ _ hclosed =>
    by_cases hside : side = other
    · subst hside
      by_cases hid : id = j
      · subst hid
        exact .inr (.inr (.inr List.mem_cons_self))
      · refine .inl ⟨hclosed.trans hopen, ?_⟩
        rw [hregistry]
        exact (OrderedMap.get_remove_of_ne hid).trans h
    · exact .inl ⟨hclosed.trans hopen, hothers side hside ▸ h⟩
  | tells other j told event hget hregistry hothers _ hnotified hclosed =>
    by_cases hside : side = other
    · subst hside
      cases hevent : event.unregisters with
      | false =>
        rw [hevent, if_neg nofun] at hregistry
        exact .inl ⟨hclosed.trans hopen, hregistry ▸ h⟩
      | true =>
        rw [hevent, if_pos rfl] at hregistry
        by_cases hid : id = j
        · subst hid
          have htold : told = sink := Option.some.inj (hget.symm.trans h)
          refine .inr (.inl ⟨(told, event), ?_, htold, hevent⟩)
          rw [hnotified]
          exact List.mem_append_right _ List.mem_cons_self
        · refine .inl ⟨hclosed.trans hopen, ?_⟩
          rw [hregistry]
          exact (OrderedMap.get_remove_of_ne hid).trans h
    · exact .inl ⟨hclosed.trans hopen, hothers side hside ▸ h⟩
  | ends message clean _ _ hnotified =>
    refine .inr (.inl ⟨(sink, .sessionClose message clean), ?_, rfl, rfl⟩)
    rw [hnotified]
    have hmem : sink ∈ s.sinks := mem_sinks.mpr ⟨side, id, OrderedMap.mem_of_get h⟩
    exact List.mem_append_right _ (List.mem_map_of_mem hmem)

/-- Over a whole run a registered sink waits, has heard of its end, or was replaced or taken out. -/
theorem followed_run (hr : machine.Run s es t) (h : Followed side id sink fs s) :
    Followed side id sink (fs ++ es) t := by
  induction hr generalizing fs with
  | refl => simpa using h
  | @stepL s u t e es hst _ ih =>
    obtain ⟨-, rfl⟩ := hst
    have hm := tells_next s e
    have hnext : Followed side id sink (fs ++ [e]) (s.next e) := by
      rcases h with ⟨hopen, hget⟩ | ⟨x, hx, hsink⟩ | hreplaced | htaken
      · rcases hm.follows hget hopen with hwaits | hended | hreplaced | htaken
        · exact .inl hwaits
        · exact .inr (.inl hended)
        · exact .inr (.inr (.inl (List.mem_append_right _ hreplaced)))
        · exact .inr (.inr (.inr (List.mem_append_right _ htaken)))
      · exact .inr (.inl ⟨x, hm.notified_prefix.subset hx, hsink⟩)
      · exact .inr (.inr (.inl (List.mem_append_left _ hreplaced)))
      · exact .inr (.inr (.inr (List.mem_append_left _ htaken)))
    have hrest := ih hnext
    rwa [List.append_assoc, List.singleton_append] at hrest

/-- No sink hears anything behind the event that ends it, and none that is registered has been
ended; once the session is closed each of them has been, unless its owner replaced it or took it
out. -/
theorem sinks_end_once (h : machine.Run new es s) :
    (∀ pre x post, s.notified = pre ++ x :: post → x.2.unregisters = true →
      ∀ y ∈ post, y.1 ≠ x.1) ∧
      ∀ side id sink, (s.registry side).get id = some sink →
        ¬ Ended s sink ∧
          (s.closedState = false → ∀ fs t, machine.Run s fs t → t.closedState = true →
            Ended t sink ∨ side.registers id ∈ fs ∨ side.unregisters id ∈ fs) := by
  have hs := heard_run h heard_new
  refine ⟨?_, ?_⟩
  · intro pre x post hlog hends y hy hyx
    obtain ⟨mid, last, rfl⟩ := List.append_of_mem hy
    have hbehind := hs.last (pre ++ x :: mid) y last (by simp [hlog])
    have hlive := hbehind x (List.mem_append_right _ List.mem_cons_self) hyx.symm
    exact absurd (hlive.symm.trans hends) nofun
  · intro side id sink hget
    have hmem : sink ∈ s.sinks := mem_sinks.mpr ⟨side, id, OrderedMap.mem_of_get hget⟩
    refine ⟨?_, ?_⟩
    · rintro ⟨x, hx, hxk, hends⟩
      exact absurd ((hs.live sink hmem x hx hxk).symm.trans hends) nofun
    · intro hopen fs t hr hclosed
      have hfollowed : Followed side id sink ([] ++ fs) t := followed_run hr (.inl ⟨hopen, hget⟩)
      rcases hfollowed with ⟨hstill, -⟩ | hdone
      · exact absurd (hstill.symm.trans hclosed) nofun
      · exact hdone

/-- The one stream has ended with data, the other one ends with the session. -/
theorem sinks_end_once_at_close : ∃ s t,
    machine.Run new [.attach, .registerReceive 0, .registerSend 4,
      .dispatch (.streamData 0 [7]), .dispatch (.streamFin 0)] s ∧
    machine.Run s [.dispatch (.streamData 0 [8]), .dispatch (.error "lost")] t ∧
    t.notified = [(0, .data [7]), (0, .fin), (1, .sessionClose "lost" false)] ∧ Ended t 1 := by
  obtain ⟨s, hrun, hget, hopen, hnext⟩ := program.exists_run
    [.attach, .registerReceive 0, .registerSend 4, .dispatch (.streamData 0 [7]),
      .dispatch (.streamFin 0)] new
    (fun s => (s.registry .send).get 4 = some 1 ∧ s.closedState = false ∧
      (program.execute [.dispatch (.streamData 0 [8]), .dispatch (.error "lost")] s).any
        (fun t => decide (t.closedState = true ∧
          t.notified = [(0, .data [7]), (0, .fin), (1, .sessionClose "lost" false)])) = true)
    (by decide +kernel)
  obtain ⟨t, hrest, hclosed, hnotified⟩ := program.exists_run _ s _ hnext
  obtain ⟨-, hsinks⟩ := sinks_end_once hrun
  rcases (hsinks .send 4 1 hget).2 hopen _ t hrest hclosed with hended | hmem | hmem
  · exact ⟨s, t, hrun, hrest, hnotified, hended⟩
  · simp [SinkSide.registers] at hmem
  · simp [SinkSide.unregisters] at hmem

end SessionCore

end NestWebTransport
