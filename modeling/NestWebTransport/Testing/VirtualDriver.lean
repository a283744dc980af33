import NestWebTransport.Testing.MockSession

/-! `VirtualWebTransportDriver`: its sessions, its calls of `stop`, and its counters. -/
namespace NestWebTransport

structure VirtualDriverOptions where
  maxSessions : PositiveInteger
  incomingStreamQueueSize : PositiveInteger

/-- A call of `stop` that has not returned: the sessions it has still to close, those it waits for,
and whether the driver has been started since it was called. -/
structure VirtualStop where
  info : MockSessionCloseInfo
  todo : List Nat
  waiting : List Nat
  restarted : Bool

/-- What the counters read when a call of `stop` returned. -/
structure VirtualStopReturn where
  restarted : Bool
  sessionsActive : Nat
  streamsActive : Nat
  deriving DecidableEq

/-- The driver with all connections it ever made, of which `sessions` are in its map, and the calls
of `stop` that are pending or have returned. -/
structure VirtualWebTransportDriver where
  state : ServerState
  connections : Nat → MockSessionConnection
  nextSessionId : Nat
  sessions : List Nat
  sessionsActive : Nat
  sessionsTotal : Nat
  sessionsRejected : Nat
  streamsActive : Nat
  streamsTotal : Nat
  stops : List VirtualStop
  returned : List VirtualStopReturn

/-- Something happens in a session, a call of `stop` closes the next of its sessions, or it returns.
A session whose callback fails is aborted, as any other may be. -/
inductive VirtualDriverEvent
  | start
  | connect
  | session (id : Nat) (event : MockSessionEvent)
  | stop (graceful : Bool) (abortedWith : Option Thrown)
  | closeNext (call : Nat)
  | stopped (call : Nat)

/-- The reason of an immediate stop that was given none. -/
def driverStopped : Thrown :=
  .core (.new .driver "The virtual driver stopped immediately"
    ⟨"TEST_DRIVER_STOPPED", some true, some .server⟩)

namespace VirtualWebTransportDriver

def new : VirtualWebTransportDriver where
  state := .stopped
  connections _ := .new
  nextSessionId := 0
  sessions := []
  sessionsActive := 0
  sessionsTotal := 0
  sessionsRejected := 0
  streamsActive := 0
  streamsTotal := 0
  stops := []
  returned := []

variable (o : VirtualDriverOptions) (d : VirtualWebTransportDriver)

def start : VirtualWebTransportDriver :=
  if d.state ≠ .stopped then d
  else
    { d with
      state := .running
      stops := d.stops.map fun call => { call with restarted := true } }

def connect : VirtualWebTransportDriver :=
  if d.state ≠ .running ∨ o.maxSessions.value ≤ d.sessions.length then
    { d with sessionsRejected := d.sessionsRejected + 1 }
  else
    { d with
      connections := Function.update d.connections d.nextSessionId .new
      nextSessionId := d.nextSessionId + 1
      sessions := d.sessions ++ [d.nextSessionId]
      sessionsActive := d.sessionsActive + 1
      sessionsTotal := d.sessionsTotal + 1 }

/-- The hooks of a session count the streams that it opened and closed in a step. -/
def countStreams (before after : MockSessionConnection) : VirtualWebTransportDriver :=
  let opened := after.opened.length - before.opened.length
  let ended := after.ended.length - before.ended.length
  { d with
    streamsActive := d.streamsActive + opened - ended
    streamsTotal := d.streamsTotal + opened }

/-- `onClosed`, which takes effect once. -/
def countClosed (id : Nat) (before after : MockSessionConnection) : VirtualWebTransportDriver :=
  if before.onClosed = [] ∧ after.onClosed ≠ [] then
    { d with sessions := d.sessions.erase id, sessionsActive := d.sessionsActive - 1 }
  else d

def updateSession (id : Nat) (after : MockSessionConnection) : VirtualWebTransportDriver :=
  let before := d.connections id
  ({ d with connections := Function.update d.connections id after }.countStreams
    before after).countClosed id before after

def stop (graceful : Bool) (abortedWith : Option Thrown) : VirtualWebTransportDriver :=
  if d.state = .stopped then d
  else
    let info :=
      if graceful && abortedWith.isNone then MockSessionCloseInfo.ofClose none none
      else MockSessionCloseInfo.ofAbort (abortedWith.getD driverStopped)
    { d with
      state := if graceful then .draining else .stopping
      stops := d.stops ++ [⟨info, d.sessions, d.sessions, false⟩] }

/-- The next session that a call of `stop` closes, with what it asks for. -/
def nextClose (call : Nat) : Option (VirtualStop × Nat × List Nat) :=
  match d.stops[call]? with
  | some stop =>
    match stop.todo with
    | id :: todo => some (stop, id, todo)
    | [] => none
  | none => none

def closeNext (call : Nat) : VirtualWebTransportDriver :=
  match d.nextClose call with
  | some (stop, id, todo) =>
    { d with stops := d.stops.set call { stop with todo := todo } }.updateSession id
      ((d.connections id).beginTermination stop.info)
  | none => d

/-- Every session the call has asked to close is closed. -/
def canReturn (call : Nat) : Bool :=
  d.stops[call]?.any fun stop =>
    stop.todo.isEmpty && stop.waiting.all fun id => (d.connections id).state == .closed

def stopped (call : Nat) : VirtualWebTransportDriver :=
  match d.stops[call]? with
  | some stop =>
    { d with
      state := .stopped
      stops := d.stops.eraseIdx call
      returned := d.returned ++ [⟨stop.restarted, d.sessionsActive, d.streamsActive⟩] }
  | none => d

def enabled : VirtualDriverEvent → Bool
  | .start | .connect | .stop _ _ => true
  | .session id event => decide (id < d.nextSessionId) && (d.connections id).enabled event
  | .closeNext call => (d.nextClose call).isSome
  | .stopped call => d.canReturn call

def next : VirtualDriverEvent → VirtualWebTransportDriver
  | .start => d.start
  | .connect => d.connect o
  | .session id event =>
    d.updateSession id ((d.connections id).next o.incomingStreamQueueSize event)
  | .stop graceful abortedWith => d.stop graceful abortedWith
  | .closeNext call => d.closeNext call
  | .stopped call => d.stopped call

def program : Program VirtualWebTransportDriver VirtualDriverEvent := ⟨new, enabled, next o⟩

def machine : Machine VirtualWebTransportDriver VirtualDriverEvent := (program o).machine

/-- The sessions keep what they promise, and a call of `stop` leaves no session and no stream
active, unless the driver has been started again. -/
structure Kept : Prop where
  sessions : ∀ id < d.nextSessionId, (d.connections id).Kept o.incomingStreamQueueSize
  returned : ∀ call ∈ d.returned, call.restarted = false →
    call.sessionsActive = 0 ∧ call.streamsActive = 0

/-- The request of a `stop` overtakes one before it. -/
def OvertakesNext : Option (VirtualStop × Nat × List Nat) → Prop
  | some (stop, id, _) => (d.connections id).Overtakes (.request stop.info)
  | none => False

instance : DecidablePred d.OvertakesNext
  | some (stop, id, _) =>
    inferInstanceAs (Decidable ((d.connections id).Overtakes (.request stop.info)))
  | none => inferInstanceAs (Decidable False)

/-- A session is asked to close otherwise than before, while it begins to. -/
def Overtakes : VirtualDriverEvent → Prop
  | .session id event => (d.connections id).Overtakes event
  | .closeNext call => d.OvertakesNext (d.nextClose call)
  | _ => False

instance : DecidablePred d.Overtakes
  | .session id event => inferInstanceAs (Decidable ((d.connections id).Overtakes event))
  | .closeNext call => inferInstanceAs (Decidable (d.OvertakesNext (d.nextClose call)))
  | .start | .connect | .stop _ _ | .stopped _ => inferInstanceAs (Decidable False)

end VirtualWebTransportDriver

end NestWebTransport
