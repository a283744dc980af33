import NestWebTransport.Foundation.OrderedMap
import NestWebTransport.Foundation.Program
import NestWebTransport.Foundation.RequestTable

/-! `SessionCore` of the vendored sessions: the requests it hands to the native transport, the
events that answer them, and the sinks of its streams.

Texts of close reasons are known by their UTF-8 bytes, errors by their messages. -/
namespace NestWebTransport

/-- What the native transport is asked for. -/
inductive TransportCommand
  | openStream (bidi : Bool) (requestId : Nat)
  | write (streamId : Nat) (bytes : List UInt8) (requestId : Nat)
  | fin (streamId : Nat)
  | reset (streamId code : Nat)
  | stopSending (streamId code : Nat)
  | setPaused (streamId : Nat) (paused : Bool)
  | sendDatagram (bytes : List UInt8) (requestId : Nat)
  | closeSession (code : Nat) (reason : List UInt8)
  | drain
  | getStats (requestId : Nat)
  | exportKeyingMaterial (requestId : Nat) (label context : List UInt8) (length : Nat)
  | shutdown
  deriving DecidableEq, Repr

/-- The maps of `SessionCore` that hold requests. -/
inductive RequestKind
  | opens
  | writes
  | datagramAcks
  | statsRequests
  | keyingMaterialRequests
  deriving DecidableEq, Repr

/-- The map a command's request stands in, and its id. -/
def TransportCommand.request? : TransportCommand → Option (RequestKind × Nat)
  | .openStream _ requestId => some (.opens, requestId)
  | .write _ _ requestId => some (.writes, requestId)
  | .sendDatagram _ requestId => some (.datagramAcks, requestId)
  | .getStats requestId => some (.statsRequests, requestId)
  | .exportKeyingMaterial requestId _ _ _ => some (.keyingMaterialRequests, requestId)
  | _ => none

/-- What the native side measures, as it reports it, with the datagram counters of the core. -/
structure SessionStats where
  report : List Nat
  expiredOutgoing : Nat
  droppedIncoming : Nat
  lostOutgoing : Nat
  expiredIncoming : Nat
  deriving DecidableEq, Repr

/-- How the promise of a request settles. -/
inductive RequestOutcome
  | opened (streamId : Nat)
  | written
  | sent (sent : Bool)
  | stats (stats : SessionStats)
  | keyingMaterial (data : List UInt8)
  | rejected (message : String)
  deriving DecidableEq, Repr

/-- What a call returns: the promise of a request, or one that has settled already. -/
inductive CallResult
  | requested (requestId : Nat)
  | settled (outcome : RequestOutcome)
  deriving DecidableEq, Repr

structure SessionCloseReport where
  closeCode : Nat
  reason : List UInt8
  deriving DecidableEq, Repr

inductive NativeEvent
  | ready (protocol : Option String) (responseHeaders : List (String × String))
  | serverReady (protocol : Option String)
  | draining
  | closed (code : Nat) (reason : List UInt8)
  | error (message : String)
  | datagram (data : List UInt8)
  | stream (streamId : Nat) (bidi : Bool)
  | streamData (streamId : Nat) (data : List UInt8)
  | streamFin (streamId : Nat)
  | streamReset (streamId code : Nat)
  | streamStopSending (streamId code : Nat)
  | streamOpened (requestId streamId : Nat)
  | writeAck (requestId : Nat)
  | datagramAck (requestId : Nat) (sent : Bool)
  | stats (requestId : Nat) (report : List Nat)
  | keyingMaterial (requestId : Nat) (ok : Bool) (data : Option (List UInt8))
  deriving DecidableEq, Repr

/-- What the sink of a stream is told. -/
inductive SinkEvent
  | data (data : List UInt8)
  | fin
  | reset (code : Nat)
  | stopSending (code : Nat)
  | sessionClose (message : String) (clean : Bool)
  deriving DecidableEq, Repr

namespace SinkEvent

/-- A sink of the stream classes unregisters itself on every event but data. -/
def unregisters : SinkEvent → Bool
  | .data _ => false
  | _ => true

end SinkEvent

/-- Each sink ever registered has a number; `notified` is what they were told, `datagrams` what the
datagram sink got and `surfaced` the streams the handler was told of. -/
structure SessionCore where
  attached : Bool
  nextRequestId : Nat
  opens : RequestTable RequestOutcome
  writes : RequestTable RequestOutcome
  datagramAcks : RequestTable RequestOutcome
  statsRequests : RequestTable RequestOutcome
  keyingMaterialRequests : RequestTable RequestOutcome
  receives : OrderedMap Nat Nat
  sends : OrderedMap Nat Nat
  incoming : Bool
  datagramSink : Bool
  droppedIncomingDatagrams : Nat
  closedState : Bool
  localCloseRequested : Bool
  readyState : Bool
  failedState : Bool
  lastStats : Option SessionStats
  cachedProtocol : String
  cachedResponseHeaders : List (String × String)
  ready : Option (Except String Unit)
  closed : Option (Except String SessionCloseReport)
  draining : Bool
  setupFailures : List String
  commands : List TransportCommand
  sinkCount : Nat
  notified : List (Nat × SinkEvent)
  datagrams : List (List UInt8)
  surfaced : List (Nat × Bool)

inductive SessionCoreEvent
  | attach
  | failSetup (message : String)
  | setupFailed
  | openStream (bidi : Bool)
  | write (streamId : Nat) (chunk : List UInt8)
  | finStream (streamId : Nat)
  | resetStream (streamId : Nat) (code : Int)
  | stopSending (streamId : Nat) (code : Int)
  | setPaused (streamId : Nat) (paused : Bool)
  | sendDatagram (chunk : List UInt8)
  | close (code : Int) (reason : List UInt8)
  | drain
  | getStats
  | exportKeyingMaterial (label context : List UInt8) (length : Nat)
  | shutdown
  | registerReceive (streamId : Nat)
  | unregisterReceive (streamId : Nat)
  | registerSend (streamId : Nat)
  | unregisterSend (streamId : Nat)
  | setIncomingHandler
  | setDatagramSink
  | recordDroppedIncomingDatagram
  | dispatch (event : NativeEvent)
  deriving DecidableEq, Repr

namespace SessionCore

variable (s : SessionCore)

def new : SessionCore where
  attached := false
  nextRequestId := 1
  opens := .new
  writes := .new
  datagramAcks := .new
  statsRequests := .new
  keyingMaterialRequests := .new
  receives := .empty
  sends := .empty
  incoming := false
  datagramSink := false
  droppedIncomingDatagrams := 0
  closedState := false
  localCloseRequested := false
  readyState := false
  failedState := false
  lastStats := none
  cachedProtocol := ""
  cachedResponseHeaders := []
  ready := none
  closed := none
  draining := false
  setupFailures := []
  commands := []
  sinkCount := 0
  notified := []
  datagrams := []
  surfaced := []

/-- `code >>> 0` -/
def toUint32 (code : Int) : Nat := (code % 0x100000000).toNat

def usable : Bool := s.attached && !s.closedState

def deadError : RequestOutcome := .rejected "session is closed"

/-- `transport?.…` -/
def command (c : TransportCommand) : SessionCore :=
  if s.attached then { s with commands := s.commands ++ [c] } else s

/-! ### Requests -/

def table : RequestKind → RequestTable RequestOutcome
  | .opens => s.opens
  | .writes => s.writes
  | .datagramAcks => s.datagramAcks
  | .statsRequests => s.statsRequests
  | .keyingMaterialRequests => s.keyingMaterialRequests

def setTable (kind : RequestKind) (t : RequestTable RequestOutcome) : SessionCore :=
  match kind with
  | .opens => { s with opens := t }
  | .writes => { s with writes := t }
  | .datagramAcks => { s with datagramAcks := t }
  | .statsRequests => { s with statsRequests := t }
  | .keyingMaterialRequests => { s with keyingMaterialRequests := t }

/-- A request with the next id, which `c` hands to the transport. -/
def request (kind : RequestKind) (c : Nat → TransportCommand) : CallResult × SessionCore :=
  let id := s.nextRequestId
  let s := { s with nextRequestId := id + 1 }
  (.requested id, (s.setTable kind ((s.table kind).issue id)).command (c id))

def openStream (bidi : Bool) : CallResult × SessionCore :=
  if s.usable then s.request .opens (.openStream bidi) else (.settled deadError, s)

def write (streamId : Nat) (chunk : List UInt8) : CallResult × SessionCore :=
  if s.usable then s.request .writes (.write streamId chunk) else (.settled deadError, s)

def sendDatagram (chunk : List UInt8) : CallResult × SessionCore :=
  if s.usable then s.request .datagramAcks (.sendDatagram chunk) else (.settled (.sent false), s)

def getStats : CallResult × SessionCore :=
  if s.usable then s.request .statsRequests .getStats
  else
    match s.failedState, s.lastStats with
    | false, some stats => (.settled (.stats stats), s)
    | _, _ => (.settled deadError, s)

def exportKeyingMaterial (label context : List UInt8) (length : Nat) : CallResult × SessionCore :=
  if s.usable then
    s.request .keyingMaterialRequests fun id => .exportKeyingMaterial id label context length
  else (.settled deadError, s)

def close (code : Int) (reason : List UInt8) : SessionCore :=
  if s.closedState || !s.attached then s
  else command { s with localCloseRequested := true } (.closeSession (toUint32 code) reason)

/-! ### Sinks -/

def registerReceive (streamId : Nat) : SessionCore :=
  { s with receives := s.receives.set streamId s.sinkCount, sinkCount := s.sinkCount + 1 }

def unregisterReceive (streamId : Nat) : SessionCore :=
  { s with receives := s.receives.remove streamId }

def registerSend (streamId : Nat) : SessionCore :=
  { s with sends := s.sends.set streamId s.sinkCount, sinkCount := s.sinkCount + 1 }

def unregisterSend (streamId : Nat) : SessionCore :=
  { s with sends := s.sends.remove streamId }

def notify (sink : Nat) (event : SinkEvent) : SessionCore :=
  { s with notified := s.notified ++ [(sink, event)] }

/-- `receives.get(streamId)?.…` -/
def notifyReceive (streamId : Nat) (event : SinkEvent) : SessionCore :=
  match s.receives.get streamId with
  | none => s
  | some sink =>
    let s := s.notify sink event
    if event.unregisters then s.unregisterReceive streamId else s

/-- `sends.get(streamId)?.…` -/
def notifySend (streamId : Nat) (event : SinkEvent) : SessionCore :=
  match s.sends.get streamId with
  | none => s
  | some sink => (s.notify sink event).unregisterSend streamId

/-! ### Events -/

/-- What `finish` rejects the pending requests with and tells the sinks. -/
def finishMessage (error : Option String) : String := error.getD "session closed"

def finish (info : Option SessionCloseReport) (error : Option String) : SessionCore :=
  if s.closedState then s
  else
    let message := finishMessage error
    let early := error.getD "session closed before it was established"
    let told := (s.receives.values ++ s.sends.values).map (·, .sessionClose message error.isNone)
    command
      { s with
        closedState := true
        failedState := s.failedState || error.isSome
        draining := true
        ready := if s.readyState then s.ready else s.ready.or (some (.error early))
        closed := s.closed.or (some (
          if s.readyState then
            match error with
            | some error => .error error
            | none => .ok (info.getD ⟨0, []⟩)
          else .error early))
        opens := s.opens.settleAll (.rejected message)
        writes := s.writes.settleAll (.rejected message)
        datagramAcks := s.datagramAcks.settleAll (.sent false)
        statsRequests := s.statsRequests.settleAll (.rejected message)
        keyingMaterialRequests := s.keyingMaterialRequests.settleAll (.rejected message)
        notified := s.notified ++ told
        receives := .empty
        sends := .empty } .shutdown

/-- `map.get(requestId)?.…` and `map.delete(requestId)`. -/
def settle (kind : RequestKind) (requestId : Nat) (outcome : RequestOutcome) : SessionCore :=
  s.setTable kind ((s.table kind).settle requestId outcome)

def statsOf (report : List Nat) : SessionStats := ⟨report, 0, s.droppedIncomingDatagrams, 0, 0⟩

def keyingMaterialOutcome (ok : Bool) (data : Option (List UInt8)) : RequestOutcome :=
  match ok, data with
  | true, some data => .keyingMaterial data
  | _, _ => .rejected "keying material export failed"

def dispatch : NativeEvent → SessionCore
  | .ready protocol responseHeaders =>
    { s with
      readyState := true
      cachedProtocol := protocol.getD ""
      cachedResponseHeaders := responseHeaders
      ready := s.ready.or (some (.ok ())) }
  | .serverReady protocol =>
    { s with
      readyState := true
      cachedProtocol := protocol.getD ""
      ready := s.ready.or (some (.ok ())) }
  | .draining => { s with draining := true }
  | .closed code reason => s.finish (some ⟨code, reason⟩) none
  | .error message => s.finish none (some message)
  | .datagram data => if s.datagramSink then { s with datagrams := s.datagrams ++ [data] } else s
  | .stream streamId bidi =>
    if s.incoming then { s with surfaced := s.surfaced ++ [(streamId, bidi)] } else s
  | .streamData streamId data => s.notifyReceive streamId (.data data)
  | .streamFin streamId => s.notifyReceive streamId .fin
  | .streamReset streamId code => s.notifyReceive streamId (.reset code)
  | .streamStopSending streamId code => s.notifySend streamId (.stopSending code)
  | .streamOpened requestId streamId => s.settle .opens requestId (.opened streamId)
  | .writeAck requestId => s.settle .writes requestId .written
  | .datagramAck requestId sent => s.settle .datagramAcks requestId (.sent sent)
  | .stats requestId report =>
    let stats := s.statsOf report
    { s with lastStats := some stats }.settle .statsRequests requestId (.stats stats)
  | .keyingMaterial requestId ok data =>
    s.settle .keyingMaterialRequests requestId (keyingMaterialOutcome ok data)

/-- `failSetup` acts on a microtask of its own. -/
def enabled : SessionCoreEvent → Bool
  | .setupFailed => !s.setupFailures.isEmpty
  | _ => true

def setupFailed : SessionCore :=
  finish { s with setupFailures := s.setupFailures.tail } none s.setupFailures.head?

def next : SessionCoreEvent → SessionCore
  | .attach => { s with attached := true }
  | .failSetup message => { s with setupFailures := s.setupFailures ++ [message] }
  | .setupFailed => s.setupFailed
  | .openStream bidi => (s.openStream bidi).2
  | .write streamId chunk => (s.write streamId chunk).2
  | .finStream streamId => s.command (.fin streamId)
  | .resetStream streamId code => s.command (.reset streamId (toUint32 code))
  | .stopSending streamId code => s.command (.stopSending streamId (toUint32 code))
  | .setPaused streamId paused => s.command (.setPaused streamId paused)
  | .sendDatagram chunk => (s.sendDatagram chunk).2
  | .close code reason => s.close code reason
  | .drain => s.command .drain
  | .getStats => s.getStats.2
  | .exportKeyingMaterial label context length => (s.exportKeyingMaterial label context length).2
  | .shutdown => s.command .shutdown
  | .registerReceive streamId => s.registerReceive streamId
  | .unregisterReceive streamId => s.unregisterReceive streamId
  | .registerSend streamId => s.registerSend streamId
  | .unregisterSend streamId => s.unregisterSend streamId
  | .setIncomingHandler => { s with incoming := true }
  | .setDatagramSink => { s with datagramSink := true }
  | .recordDroppedIncomingDatagram =>
    { s with droppedIncomingDatagrams := s.droppedIncomingDatagrams + 1 }
  | .dispatch event => s.dispatch event

def program : Program SessionCore SessionCoreEvent := ⟨new, enabled, next⟩

def machine : Machine SessionCore SessionCoreEvent := program.machine

end SessionCore

end NestWebTransport
