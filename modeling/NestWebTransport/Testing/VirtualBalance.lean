import NestWebTransport.Foundation.Table
import NestWebTransport.Foundation.Tally
import NestWebTransport.Testing.SessionCloseInfo
import NestWebTransport.Testing.VirtualDriver
import Mathlib.Data.List.Nodup
import Mathlib.Tactic.Tauto

/-! The counters of the virtual driver balance, and `stop` brings them back to zero. -/
namespace NestWebTransport

namespace MockSessionConnection

variable {size : PositiveInteger} {c d : MockSessionConnection} {id : Nat}
  {moved : LifecycleNotice × MockStreamLifecycle} {info : MockSessionCloseInfo}

/-- The hooks that were called stay called. -/
structure Grows (c d : MockSessionConnection) : Prop where
  opened : c.opened <+: d.opened
  ended : c.ended <+: d.ended
  onClosed : c.onClosed <+: d.onClosed

theorem Grows.refl (c : MockSessionConnection) : Grows c c :=
  ⟨List.prefix_rfl, List.prefix_rfl, List.prefix_rfl⟩

theorem grows_finishStream (h : Grows c d) (id : Nat) : Grows c (d.finishStream id) := by
  unfold finishStream
  split
  · exact ⟨h.opened, h.ended.trans (List.prefix_append ..), h.onClosed⟩
  · exact h

theorem grows_act (h : Grows c d) (id : Nat) (moved : LifecycleNotice × MockStreamLifecycle) :
    Grows c (d.act id moved) := by
  obtain ⟨n, t⟩ := moved
  have hstreams : Grows c { d with streams := Function.update d.streams id t } :=
    ⟨h.opened, h.ended, h.onClosed⟩
  cases n with
  | nothing => exact hstreams
  | resetting => exact ⟨h.opened, h.ended, h.onClosed⟩
  | aborting => exact ⟨h.opened, h.ended, h.onClosed⟩
  | terminal => exact grows_finishStream hstreams id

theorem grows_createStream (owner : SessionEndpoint) (bidi : Bool) :
    Grows c (c.createStream size owner bidi) := by
  rcases createStream_cases size c owner bidi with hcreate | ⟨-, started, queue, rfl, hcreate⟩
  · rw [hcreate]
    exact .refl c
  · have hstarted : Grows c ((c.startStream bidi).setIncoming owner.peer bidi queue) :=
      ⟨List.prefix_append .., List.prefix_rfl, List.prefix_rfl⟩
    have hrefused : Grows c { (c.startStream bidi).setIncoming owner.peer bidi queue with
        agenda := .refused c.nextStreamId :: c.agenda } :=
      ⟨hstarted.opened, hstarted.ended, hstarted.onClosed⟩
    rcases hcreate with hcreate | hcreate | hcreate
    · rw [hcreate]
      exact hstarted
    · rw [hcreate]
      exact grows_act hrefused _ _
    · rw [hcreate]
      exact grows_act hstarted _ _

theorem grows_beginTermination : Grows c (c.beginTermination info) := by
  unfold beginTermination terminate
  simp only
  split_ifs <;> exact ⟨List.prefix_rfl, List.prefix_rfl, List.prefix_rfl⟩

theorem grows_proceed : Grows c c.proceed := by
  unfold proceed
  cases c.agenda with
  | nil => exact .refl c
  | cons f rest =>
    have hrest : ∀ agenda, Grows c { c with agenda := agenda } := fun agenda =>
      ⟨List.prefix_rfl, List.prefix_rfl, List.prefix_rfl⟩
    cases f with
    | finishReset id => exact grows_act (hrest rest) _ _
    | onTerminal id => exact grows_finishStream (hrest rest) _
    | refused id => exact grows_act (hrest rest) _ _
    | snapshot info => exact hrest _
    | resets info ids =>
      cases ids with
      | nil => exact ⟨List.prefix_rfl, List.prefix_rfl, List.prefix_rfl⟩
      | cons id ids => exact grows_act (hrest _) _ _

theorem grows_settle : Grows c c.settle := by
  unfold settle
  split
  · exact .refl c
  · exact ⟨List.prefix_rfl, List.prefix_rfl, List.prefix_append ..⟩

/-- The hooks that were called stay called. -/
theorem grows_next (e : MockSessionEvent) : Grows c (c.next size e) := by
  cases e with
  | create owner bidi => exact grows_createStream owner bidi
  | endPipe id pipe abort => exact grows_act (.refl c) _ _
  | reset id => exact grows_act (.refl c) _ _
  | request info => exact grows_beginTermination
  | consume endpoint bidi event => exact ⟨List.prefix_rfl, List.prefix_rfl, List.prefix_rfl⟩
  | proceed => exact grows_proceed
  | settle => exact grows_settle

theorem Sound.length_opened (h : Sound c) :
    c.opened.length = c.ended.length + c.tracked.length := by
  rw [h.paired.length_eq, List.length_append]

end MockSessionConnection

namespace VirtualWebTransportDriver

open MockSessionConnection (Decided Grows)

variable {o : VirtualDriverOptions} {d : VirtualWebTransportDriver} {id call : Nat}
  {after : MockSessionConnection} {e : VirtualDriverEvent} {stops : List VirtualStop}

/-- How many streams of a session are active. -/
def activeStreams (c : MockSessionConnection) : Int := c.tracked.length

structure Sound (d : VirtualWebTransportDriver) : Prop where
  connections : ∀ id < d.nextSessionId, (d.connections id).Sound
  nodup : d.sessions.Nodup
  sessions : ∀ id, id ∈ d.sessions ↔ id < d.nextSessionId ∧ (d.connections id).state ≠ .closed
  active : d.sessionsActive = d.sessions.length
  streams : (d.streamsActive : Int) = tally d.nextSessionId activeStreams d.connections
  stops : ∀ call ∈ d.stops, call.restarted = false →
    d.state ≠ .running ∧ ∀ id ∈ d.sessions, id ∈ call.waiting
  todo : ∀ call ∈ d.stops, ∀ id ∈ call.todo, id < d.nextSessionId
  returned : ∀ call ∈ d.returned, call.restarted = false →
    call.sessionsActive = 0 ∧ call.streamsActive = 0

theorem sound_new : Sound new where
  connections _ h := absurd h (Nat.not_lt_zero _)
  nodup := List.nodup_nil
  sessions _ := iff_of_false List.not_mem_nil fun h => Nat.not_lt_zero _ h.1
  active := rfl
  streams := rfl
  stops _ h := absurd h List.not_mem_nil
  todo _ h := absurd h List.not_mem_nil
  returned _ h := absurd h List.not_mem_nil

theorem Sound.start (h : Sound d) : Sound d.start := by
  unfold VirtualWebTransportDriver.start
  split
  · exact h
  · refine ⟨h.connections, h.nodup, h.sessions, h.active, h.streams, ?_, ?_, h.returned⟩
    · intro call hcall hrestarted
      obtain ⟨before, -, rfl⟩ := List.mem_map.mp hcall
      cases hrestarted
    · intro call hcall
      obtain ⟨before, hbefore, rfl⟩ := List.mem_map.mp hcall
      exact h.todo before hbefore

theorem Sound.connect (h : Sound d) : Sound (d.connect o) := by
  unfold VirtualWebTransportDriver.connect
  split
  · exact ⟨h.connections, h.nodup, h.sessions, h.active, h.streams, h.stops, h.todo, h.returned⟩
  · rename_i hopen
    have hrunning : d.state = .running := by
      by_contra hne
      exact hopen (.inl hne)
    have hout : d.nextSessionId ∉ d.sessions := fun hin =>
      Nat.lt_irrefl _ ((h.sessions _).mp hin).1
    refine ⟨fun id hid => ?_, ?_, fun id => ?_, ?_, ?_, ?_, ?_, h.returned⟩
    · change (Function.update d.connections d.nextSessionId .new id).Sound
      by_cases hnew : id = d.nextSessionId
      · rw [hnew, Function.update_self]
        exact MockSessionConnection.sound_new
      · rw [Function.update_of_ne hnew]
        refine h.connections id ?_
        have hlt : id < d.nextSessionId + 1 := hid
        omega
    · change (d.sessions ++ [d.nextSessionId]).Nodup
      rw [← List.concat_eq_append]
      exact h.nodup.concat hout
    · change id ∈ d.sessions ++ [d.nextSessionId] ↔ id < d.nextSessionId + 1 ∧
        (Function.update d.connections d.nextSessionId .new id).state ≠ .closed
      rw [table_push_iff (P := fun c : MockSessionConnection => c.state ≠ .closed),
        List.mem_append, List.mem_singleton, h.sessions id]
      have hnew : MockSessionConnection.new.state ≠ .closed := nofun
      tauto
    · change d.sessionsActive + 1 = (d.sessions ++ [d.nextSessionId]).length
      rw [List.length_append, List.length_singleton, h.active]
    · change (d.streamsActive : Int) = tally (d.nextSessionId + 1) activeStreams
        (Function.update d.connections d.nextSessionId .new)
      rw [tally_push, ← h.streams]
      exact (add_zero _).symm
    · intro call hcall hrestarted
      exact absurd hrunning (h.stops call hcall hrestarted).1
    · intro call hcall id hid
      exact (h.todo call hcall id hid).trans (Nat.lt_succ_self _)

/-- The hooks that a session calls in a step keep the counters in balance with the sessions. -/
theorem Sound.updateSession (h : Sound d) (hid : id < d.nextSessionId) (hafter : after.Sound)
    (hgrows : Grows (d.connections id) after) : Sound (d.updateSession id after) := by
  have hbefore := h.connections id hid
  have hopened := hgrows.opened.length_le
  have hended := hgrows.ended.length_le
  have hlength := hbefore.length_opened
  have hlength' := hafter.length_opened
  have hsum : tally d.nextSessionId activeStreams (Function.update d.connections id after) =
      tally d.nextSessionId activeStreams d.connections - (d.connections id).tracked.length +
        after.tracked.length := tally_update hid
  have hle : ((d.connections id).tracked.length : Int) ≤
      tally d.nextSessionId activeStreams d.connections :=
    le_tally (g := activeStreams) hid fun _ _ => Int.natCast_nonneg _
  have hstreams : ((d.streamsActive + (after.opened.length - (d.connections id).opened.length) -
      (after.ended.length - (d.connections id).ended.length) : Nat) : Int) =
        tally d.nextSessionId activeStreams (Function.update d.connections id after) := by
    have hactive := h.streams
    omega
  have hconnections : ∀ j < d.nextSessionId, (Function.update d.connections id after j).Sound := by
    intro j hj
    by_cases hne : j = id
    · rw [hne, Function.update_self]
      exact hafter
    · rw [Function.update_of_ne hne]
      exact h.connections j hj
  have hmem : id ∈ d.sessions ↔ (d.connections id).onClosed = [] := by
    rw [h.sessions id, hbefore.onClosed]
    exact and_iff_right hid
  have hothers : ∀ j, j ≠ id → (j ∈ d.sessions ↔
      j < d.nextSessionId ∧ (Function.update d.connections id after j).state ≠ .closed) := by
    intro j hne
    rw [Function.update_of_ne hne]
    exact h.sessions j
  unfold VirtualWebTransportDriver.updateSession countClosed
  simp only
  split
  · rename_i hcloses
    obtain ⟨hopen, hclosed⟩ := hcloses
    have hin := hmem.mpr hopen
    have hover : after.state = .closed := by
      by_contra hne
      exact hclosed (hafter.onClosed.mpr hne)
    refine ⟨hconnections, h.nodup.erase id, fun j => ?_, ?_, hstreams, ?_, h.todo, h.returned⟩
    · change j ∈ d.sessions.erase id ↔ j < d.nextSessionId ∧
        (Function.update d.connections id after j).state ≠ .closed
      by_cases hne : j = id
      · rw [hne, Function.update_self]
        exact iff_of_false h.nodup.not_mem_erase fun hj => hj.2 hover
      · rw [List.mem_erase_of_ne hne]
        exact hothers j hne
    · change d.sessionsActive - 1 = (d.sessions.erase id).length
      rw [List.length_erase_of_mem hin, h.active]
    · intro call hcall hrestarted
      obtain ⟨hstate, hwaiting⟩ := h.stops call hcall hrestarted
      exact ⟨hstate, fun j hj => hwaiting j (List.mem_of_mem_erase hj)⟩
  · rename_i hkeeps
    have hsame : (d.connections id).onClosed = [] ↔ after.onClosed = [] := by
      constructor
      · intro hopen
        by_contra hclosed
        exact hkeeps ⟨hopen, hclosed⟩
      · intro hopen
        have hnone := hgrows.onClosed
        rw [hopen] at hnone
        exact List.prefix_nil.mp hnone
    refine ⟨hconnections, h.nodup, fun j => ?_, h.active, hstreams, h.stops, h.todo, h.returned⟩
    change j ∈ d.sessions ↔ j < d.nextSessionId ∧
      (Function.update d.connections id after j).state ≠ .closed
    by_cases hne : j = id
    · rw [hne, Function.update_self, hmem, hsame, hafter.onClosed]
      exact (and_iff_right hid).symm
    · exact hothers j hne

theorem Sound.stop (h : Sound d) (graceful : Bool) (abortedWith : Option Thrown) :
    Sound (d.stop graceful abortedWith) := by
  unfold VirtualWebTransportDriver.stop
  split
  · exact h
  · have hstate : (if graceful = true then ServerState.draining else .stopping) ≠ .running := by
      cases graceful <;> nofun
    refine ⟨h.connections, h.nodup, h.sessions, h.active, h.streams, ?_, ?_, h.returned⟩
    · intro call hcall hrestarted
      rcases List.mem_append.mp hcall with hcall | hcall
      · exact ⟨hstate, (h.stops call hcall hrestarted).2⟩
      · rw [List.mem_singleton.mp hcall]
        exact ⟨hstate, fun id hid => hid⟩
    · intro call hcall
      rcases List.mem_append.mp hcall with hcall | hcall
      · exact h.todo call hcall
      · rw [List.mem_singleton.mp hcall]
        exact fun id hid => ((h.sessions id).mp hid).1

theorem nextClose_eq {stop : VirtualStop} {todo : List Nat}
    (h : d.nextClose call = some (stop, id, todo)) :
    d.stops[call]? = some stop ∧ stop.todo = id :: todo := by
  unfold nextClose at h
  split at h
  · rename_i stop' hstop
    split at h
    · rename_i id' todo' htodo
      cases h
      exact ⟨hstop, htodo⟩
    · cases h
  · cases h

/-- The calls of `stop` may go on, with what they wait for unchanged. -/
theorem Sound.withStops (h : Sound d)
    (hstops : ∀ call ∈ stops, ∃ before ∈ d.stops, before.restarted = call.restarted ∧
      before.waiting = call.waiting ∧ ∀ id ∈ call.todo, id ∈ before.todo) :
    Sound { d with stops := stops } := by
  refine ⟨h.connections, h.nodup, h.sessions, h.active, h.streams, ?_, ?_, h.returned⟩
  · intro call hcall hrestarted
    obtain ⟨before, hbefore, hsame, hwaiting, -⟩ := hstops call hcall
    rw [← hwaiting]
    exact h.stops before hbefore (hsame.trans hrestarted)
  · intro call hcall id hid
    obtain ⟨before, hbefore, -, -, htodo⟩ := hstops call hcall
    exact h.todo before hbefore id (htodo id hid)

theorem Sound.closeNext (h : Sound d) : Sound (d.closeNext call) := by
  unfold VirtualWebTransportDriver.closeNext
  split
  · rename_i stop id todo hclose
    obtain ⟨hstop, htodo⟩ := nextClose_eq hclose
    have hmem := List.mem_of_getElem? hstop
    have hid : id < d.nextSessionId := by
      refine h.todo stop hmem id ?_
      rw [htodo]
      exact List.mem_cons_self
    have hstops : Sound { d with stops := d.stops.set call { stop with todo := todo } } := by
      refine h.withStops fun other hother => ?_
      rcases List.mem_or_eq_of_mem_set hother with hother | rfl
      · exact ⟨other, hother, rfl, rfl, fun _ hin => hin⟩
      · refine ⟨stop, hmem, rfl, rfl, fun j hj => ?_⟩
        rw [htodo]
        exact List.mem_cons_of_mem _ hj
    exact hstops.updateSession hid (h.connections id hid).beginTermination
      MockSessionConnection.grows_beginTermination
  · exact h

/-- A call of `stop` that returns has seen every session of the driver close. -/
theorem Sound.stopped (h : Sound d) (hreturns : d.canReturn call = true) :
    Sound (d.stopped call) := by
  unfold VirtualWebTransportDriver.stopped
  unfold canReturn at hreturns
  cases hstop : d.stops[call]? with
  | none => exact h
  | some stop =>
    have hmem := List.mem_of_getElem? hstop
    rw [hstop] at hreturns
    simp only [Option.any_some, Bool.and_eq_true, List.all_eq_true, beq_iff_eq] at hreturns
    refine ⟨h.connections, h.nodup, h.sessions, h.active, h.streams, ?_, ?_, ?_⟩
    · intro other hother hrestarted
      exact ⟨nofun, (h.stops other (List.mem_of_mem_eraseIdx hother) hrestarted).2⟩
    · exact fun other hother => h.todo other (List.mem_of_mem_eraseIdx hother)
    · intro entry hentry hrestarted
      rcases List.mem_append.mp hentry with hentry | hentry
      · exact h.returned entry hentry hrestarted
      · rw [List.mem_singleton.mp hentry] at hrestarted ⊢
        have hnone : d.sessions = [] := by
          rw [List.eq_nil_iff_forall_not_mem]
          intro id hid
          have hclosed := hreturns.2 id ((h.stops stop hmem hrestarted).2 id hid)
          exact ((h.sessions id).mp hid).2 hclosed
        refine ⟨?_, ?_⟩
        · change d.sessionsActive = 0
          rw [h.active, hnone]
          rfl
        · change d.streamsActive = 0
          have hzero : tally d.nextSessionId activeStreams d.connections = 0 := by
            refine (tally_eq_zero_iff fun _ _ => Int.natCast_nonneg _).mpr fun id hid => ?_
            have hclosed : (d.connections id).state = .closed := by
              by_contra hopen
              have hin := (h.sessions id).mpr ⟨hid, hopen⟩
              rw [hnone] at hin
              cases hin
            change ((d.connections id).tracked.length : Int) = 0
            rw [(h.connections id hid).finished hclosed]
            rfl
          have hstreams := h.streams
          omega

/-- Each event of the driver keeps the counts equal to the open sessions and streams. -/
theorem Sound.next (h : Sound d) (he : d.enabled e = true) : Sound (d.next o e) := by
  cases e with
  | start => exact h.start
  | connect => exact h.connect
  | session id event =>
    obtain ⟨hid, hevent⟩ := Bool.and_eq_true_iff.mp he
    have hid := of_decide_eq_true hid
    exact h.updateSession hid ((h.connections id hid).next hevent)
      (MockSessionConnection.grows_next event)
  | stop graceful abortedWith => exact h.stop graceful abortedWith
  | closeNext call => exact h.closeNext
  | stopped call => exact h.stopped he

/-! ### Requests that overtake others -/

/-- Every session closes as its first request asks. -/
def AllDecided (d : VirtualWebTransportDriver) : Prop :=
  ∀ id < d.nextSessionId, (d.connections id).Decided

theorem updateSession_connections :
    (d.updateSession id after).connections = Function.update d.connections id after ∧
      (d.updateSession id after).nextSessionId = d.nextSessionId := by
  unfold updateSession countClosed
  simp only
  split <;> exact ⟨rfl, rfl⟩

theorem AllDecided.updateSession (h : AllDecided d) (hafter : Decided after) :
    AllDecided (d.updateSession id after) := by
  intro j hj
  rw [updateSession_connections.2] at hj
  rw [updateSession_connections.1]
  by_cases hne : j = id
  · rw [hne, Function.update_self]
    exact hafter
  · rw [Function.update_of_ne hne]
    exact h j hj

/-- Unless a termination overtakes another, every session's close stays decided. -/
theorem AllDecided.next (h : AllDecided d) (hsound : Sound d) (he : d.enabled e = true)
    (hok : ¬ d.Overtakes e) : AllDecided (d.next o e) := by
  cases e with
  | start =>
    change AllDecided d.start
    unfold VirtualWebTransportDriver.start
    split <;> exact h
  | connect =>
    change AllDecided (d.connect o)
    unfold VirtualWebTransportDriver.connect
    split
    · exact h
    · intro id hid
      change Decided (Function.update d.connections d.nextSessionId .new id)
      by_cases hnew : id = d.nextSessionId
      · rw [hnew, Function.update_self]
        exact MockSessionConnection.decided_new
      · rw [Function.update_of_ne hnew]
        refine h id ?_
        have hlt : id < d.nextSessionId + 1 := hid
        omega
  | session id event =>
    have hid := of_decide_eq_true (Bool.and_eq_true_iff.mp he).1
    exact h.updateSession ((h id hid).next (hsound.connections id hid) hok)
  | stop graceful abortedWith =>
    change AllDecided (d.stop graceful abortedWith)
    unfold VirtualWebTransportDriver.stop
    split <;> exact h
  | closeNext call =>
    change AllDecided (d.closeNext call)
    unfold VirtualWebTransportDriver.closeNext
    split
    · rename_i stop id todo hclose
      obtain ⟨hstop, htodo⟩ := nextClose_eq hclose
      have hid : id < d.nextSessionId := by
        refine hsound.todo stop (List.mem_of_getElem? hstop) id ?_
        rw [htodo]
        exact List.mem_cons_self
      have hnot : ¬ (d.connections id).Overtakes (.request stop.info) := by
        intro hover
        refine hok ?_
        change d.OvertakesNext (d.nextClose call)
        rw [hclose]
        exact hover
      have hstops : AllDecided { d with stops := d.stops.set call { stop with todo := todo } } := h
      exact hstops.updateSession ((h id hid).beginTermination (hsound.connections id hid) hnot)
    · exact h
  | stopped call =>
    change AllDecided (d.stopped call)
    unfold VirtualWebTransportDriver.stopped
    split <;> exact h

theorem kept (hsound : Sound d) (h : AllDecided d) : d.Kept o where
  sessions id hid := MockSessionConnection.kept (hsound.connections id hid) (h id hid)
  returned := hsound.returned

/-- A request that overtakes the first one shows in its session. -/
theorem not_kept_updateSession {info : MockSessionCloseInfo} (hid : id < d.nextSessionId)
    (h : (d.connections id).Decided) (hover : (d.connections id).Overtakes (.request info)) :
    ¬ (d.updateSession id ((d.connections id).beginTermination info)).Kept o := by
  intro hkept
  have hsession := hkept.sessions id (by rw [updateSession_connections.2]; exact hid)
  rw [updateSession_connections.1, Function.update_self] at hsession
  exact MockSessionConnection.not_kept_of_overtakes h hover hsession

/-- Streams, close infos and counters are in order in every state of a run exactly if no request to
close a session overtakes the one before it. -/
theorem balanced_iff (o : VirtualDriverOptions) (es : List VirtualDriverEvent)
    (d : VirtualWebTransportDriver) :
    ((machine o).restrict fun d e => ¬ d.Overtakes e).Run new es d ↔
      ((machine o).restrict fun d _ => d.Kept o).Run new es d ∧ d.Kept o := by
  refine Machine.Run.restrict_iff_good (I := fun d => Sound d ∧ AllDecided d) ?_ ?_ ?_
    ⟨sound_new, fun id hid => absurd hid (Nat.not_lt_zero id)⟩
  · rintro d e t ⟨he, rfl⟩ ⟨hsound, hdecided⟩ hok
    exact ⟨hsound.next he, hdecided.next hsound he hok⟩
  · rintro d ⟨hsound, hdecided⟩
    exact kept hsound hdecided
  · rintro d e t ⟨he, rfl⟩ ⟨hsound, hdecided⟩ hover
    have hover := not_not.mp hover
    cases e with
    | session id event =>
      have hid := of_decide_eq_true (Bool.and_eq_true_iff.mp he).1
      cases event with
      | request info => exact not_kept_updateSession hid (hdecided id hid) hover
      | create _ _ | endPipe _ _ _ | reset _ | consume _ _ _ | proceed | settle =>
        exact hover.elim
    | closeNext call =>
      change ¬ (d.closeNext call).Kept o
      change d.OvertakesNext (d.nextClose call) at hover
      unfold VirtualWebTransportDriver.closeNext
      cases hclose : d.nextClose call with
      | none =>
        rw [hclose] at hover
        exact hover.elim
      | some close =>
        obtain ⟨stop, id, todo⟩ := close
        rw [hclose] at hover
        obtain ⟨hstop, htodo⟩ := nextClose_eq hclose
        have hid : id < d.nextSessionId := by
          refine hsound.todo stop (List.mem_of_getElem? hstop) id ?_
          rw [htodo]
          exact List.mem_cons_self
        exact not_kept_updateSession
          (d := { d with stops := d.stops.set call { stop with todo := todo } }) hid
          (hdecided id hid) hover
    | start => exact hover.elim
    | connect => exact hover.elim
    | stop graceful abortedWith => exact hover.elim
    | stopped call => exact hover.elim

def oneSession : VirtualDriverOptions := ⟨.one, .one⟩

/-- The second stream finds the queue of the peer full, the first one is closed by its pipes, and
the driver stops while the session awaits the reset of the third. -/
def balancedRun : List VirtualDriverEvent :=
  [.start, .connect, .session 0 (.create .first true), .session 0 (.create .first true),
    .session 0 .proceed, .session 0 .proceed, .session 0 (.create .second false),
    .session 0 (.endPipe 0 0 false), .session 0 (.endPipe 0 1 true), .session 0 .proceed,
    .session 0 (.request (.ofClose (some 4) none)), .session 0 .proceed, .session 0 .proceed,
    .session 0 .proceed, .session 0 .proceed, .stop true none, .closeNext 0, .session 0 .settle,
    .stopped 0]

theorem balanced_iff_one :
    ∃ d, (machine oneSession).Run new balancedRun d ∧ d.Kept oneSession ∧ d.streamsTotal = 3 ∧
      d.returned = [⟨false, 0, 0⟩] := by
  obtain ⟨d, hrun, hends⟩ := ((program oneSession).restrict fun d e => ¬ d.Overtakes e).exists_run
    balancedRun new (fun d => d.streamsTotal = 3 ∧ d.returned = [⟨false, 0, 0⟩]) (by decide +kernel)
  have hok := (Program.restrict_run _ _).mp hrun
  have hkept := (balanced_iff oneSession balancedRun d).mp hok
  exact ⟨d, hok.unrestrict, hkept.2, hends⟩

/-- A session is closed with code 1, and a listener of its signal closes it with code 2. -/
def overtakenRun : List VirtualDriverEvent :=
  [.start, .connect, .session 0 (.request (.ofClose (some 1) none)),
    .session 0 (.request (.ofClose (some 2) none)), .session 0 .proceed, .session 0 .proceed,
    .session 0 .proceed, .session 0 .proceed, .session 0 .settle, .session 0 .settle]

theorem closeInfo_overtaken :
    ∃ d, (machine oneSession).Run new overtakenRun d ∧
      (d.connections 0).requests.head? = some (.ofClose (some 1) none) ∧
      (d.connections 0).closeInfo = some (.ofClose (some 2) none) ∧
      (d.connections 0).closed = some (.ofClose (some 2) none) ∧ ¬ d.Kept oneSession := by
  obtain ⟨d, hrun, hid, hfirst, hinfo, hclosed⟩ := (program oneSession).exists_run overtakenRun new
    (fun d => 0 < d.nextSessionId ∧
      (d.connections 0).requests.head? = some (.ofClose (some 1) none) ∧
      (d.connections 0).closeInfo = some (.ofClose (some 2) none) ∧
      (d.connections 0).closed = some (.ofClose (some 2) none)) (by decide +kernel)
  refine ⟨d, hrun, hfirst, hinfo, hclosed, fun hkept => ?_⟩
  have hdecided := (hkept.sessions 0 hid).closeInfo
  rw [hfirst, hinfo] at hdecided
  exact absurd hdecided (by decide)

end VirtualWebTransportDriver

end NestWebTransport
