import NestWebTransport.Driver.ErrorMapper
import NestWebTransport.Foundation.Program
import NestWebTransport.Foundation.ReadableStream
import Mathlib.Logic.Function.Basic

/-! The stream adapters of a driver: a lifecycle for each, and the bridges of its halves.

Code that runs synchronously but not yet stands in `agenda`; the application's listeners run between
its entries and may call anything. An `await` ends an event, and another one resumes behind it. -/
namespace NestWebTransport

inductive StreamHalf
  | readable
  | writable
  deriving DecidableEq, Repr

/-- Why a lifecycle is aborted; the program keeps no such mark. -/
inductive AbortCause
  | finished
  | reset
  | nativeFailed
  | controllerThrew
  | sessionEnded
  deriving DecidableEq, Repr

/-- A promise that is made at most once: `stopPromise`, `resetPromise` and `closePromise`. -/
inductive BridgeCall
  | uncalled
  | running
  | settled
  deriving DecidableEq, Repr

structure StreamLifecycle where
  remainingParts : Nat
  closed : Bool
  aborted : Option (AbortCause × Thrown)

/-- `reading` and `cancelling` tell that `pull` and `cancel` await the native stream. The chunks of
`readable` are known by their lengths. -/
structure ReadableBridge where
  readable : ReadableStream Nat
  finished : Bool
  reading : Bool
  cancelling : Bool
  stopPromise : BridgeCall
  closedSettled : Bool

structure WritableBridge where
  errored : Bool
  finished : Bool
  closing : Bool
  writing : Option Nat
  aborting : Bool
  closePromise : BridgeCall
  resetPromise : BridgeCall
  closedSettled : Bool

inductive AdapterKind
  | receive
  | send
  | bidirectional
  deriving DecidableEq, Repr

/-- A native stream with the ids of its halves. -/
inductive NativeHalves
  | receive (id : Int)
  | send (id : Int)
  | bidirectional (readableId writableId : Int)

/-- An adapter with what was reported of it: its calls of `streamClosed`, the halves that called
`finishPart`, and whether `reset` or `stop` was called. -/
structure StreamAdapter where
  kind : AdapterKind
  session : Nat
  lifecycle : StreamLifecycle
  readable : Option ReadableBridge
  writable : Option WritableBridge
  closings : Nat
  parts : List StreamHalf
  resetCalled : Bool

/-- The part of a session its streams know: `streamAbortListeners` names them by their numbers. -/
structure StreamSession where
  aborted : Option Thrown
  listeners : List Nat

inductive StreamWork
  | abortReadable (stream : Nat)
  | abortWritable (stream : Nat)
  | finishReadable (stream : Nat) (countAsPart : Bool)
  | finishWritable (stream : Nat)
  | streamClosed (stream : Nat)
  | startNotify (session : Nat)
  | notify (session : Nat) (todo : List Nat)
  deriving DecidableEq, Repr

structure StreamState where
  session : Nat → StreamSession
  stream : Nat → StreamAdapter
  streamCount : Nat
  streamsActive : Nat
  streamsTotal : Nat
  bytesReceived : Nat
  bytesSent : Nat
  agenda : List StreamWork

/-! ### Adapters -/

def ReadableBridge.new : ReadableBridge := ⟨.new, false, false, false, .uncalled, false⟩

def WritableBridge.new : WritableBridge :=
  ⟨false, false, false, none, false, .uncalled, .uncalled, false⟩

def StreamAdapter.absent : StreamAdapter :=
  ⟨.receive, 0, ⟨0, false, none⟩, none, none, 0, [], false⟩

def streamId (value : Int) : Option Nat :=
  if value < 0 ∨ 9007199254740991 < value then none else some value.toNat

/-- What a constructor builds before its lifecycle subscribes, unless it throws. -/
def NativeHalves.adapt (session : Nat) : NativeHalves → Option StreamAdapter
  | .receive id => (streamId id).map fun _ =>
    ⟨.receive, session, ⟨1, false, none⟩, some .new, none, 0, [], false⟩
  | .send id => (streamId id).map fun _ =>
    ⟨.send, session, ⟨1, false, none⟩, none, some .new, 0, [], false⟩
  | .bidirectional readableId writableId =>
    if readableId ≠ writableId then none
    else (streamId readableId).map fun _ =>
      ⟨.bidirectional, session, ⟨2, false, none⟩, some .new, some .new, 0, [], false⟩

def AdapterKind.resetMessage : AdapterKind → String
  | .receive => "receive stream stopped by application"
  | .send => "send stream reset by application"
  | .bidirectional => "bidirectional stream reset by application"

def AdapterKind.resetCode : AdapterKind → String
  | .receive => "RWEBTRANSPORT_RECEIVE_STREAM_STOPPED"
  | .send => "RWEBTRANSPORT_SEND_STREAM_RESET"
  | .bidirectional => "RWEBTRANSPORT_BIDI_STREAM_RESET"

/-- The `coreError` of `stop` and `reset`. -/
def AdapterKind.resetError (kind : AdapterKind) : CoreError :=
  .new .stream kind.resetMessage ⟨kind.resetCode, none, none⟩

/-- `/session (?:closed|ended)/i.test(message)`. -/
def mentionsSessionEnd (message : String) : Bool :=
  message.toLower.toList.tails.any fun rest =>
    "session closed".toList.isPrefixOf rest || "session ended".toList.isPrefixOf rest

def isSessionTermination : Thrown → Bool
  | .core error => error.scope == .session
  | .errorObject name message _ => name == "AbortError" || mentionsSessionEnd message
  | .other => false

/-- The reason of a signal that is aborted without one. -/
def defaultAbortReason : Thrown := .errorObject "AbortError" "This operation was aborted" none

def mapStreamError (error : Thrown) (operation : String) : Thrown :=
  .core (mapRWebTransportError error ⟨.stream, some operation, none⟩)

namespace StreamState

variable (s : StreamState) (k : Nat)

def new : StreamState where
  session _ := ⟨none, []⟩
  stream _ := .absent
  streamCount := 0
  streamsActive := 0
  streamsTotal := 0
  bytesReceived := 0
  bytesSent := 0
  agenda := []

def modify (f : StreamAdapter → StreamAdapter) : StreamState :=
  { s with stream := Function.update s.stream k (f (s.stream k)) }

def push (work : List StreamWork) : StreamState := { s with agenda := work ++ s.agenda }

def modifySession (session : Nat) (f : StreamSession → StreamSession) : StreamState :=
  { s with session := Function.update s.session session (f (s.session session)) }

def modifyReadable (f : ReadableBridge → ReadableBridge) : StreamState :=
  s.modify k fun st => { st with readable := st.readable.map f }

def modifyWritable (f : WritableBridge → WritableBridge) : StreamState :=
  s.modify k fun st => { st with writable := st.writable.map f }

def modifyLifecycle (f : StreamLifecycle → StreamLifecycle) : StreamState :=
  s.modify k fun st => { st with lifecycle := f st.lifecycle }

/-! ### Lifecycles -/

/-- `unsubscribeParent()`. -/
def unsubscribe : StreamState :=
  s.modifySession (s.stream k).session fun c => { c with listeners := c.listeners.erase k }

/-- `closed = true` and `controller.abort(reason)`, before its event is dispatched. -/
def markClosed (cause : AbortCause) (reason : Thrown) : StreamState :=
  s.modifyLifecycle k fun l => { l with closed := true, aborted := some (cause, reason) }

/-- The listeners of the bridges come first, then those of the application. -/
def abort (cause : AbortCause) (reason : Option Thrown) : StreamState :=
  if (s.stream k).lifecycle.closed then s
  else ((s.unsubscribe k).markClosed k cause (reason.getD defaultAbortReason)).push
    [.abortReadable k, .abortWritable k, .streamClosed k]

def finishPart (half : StreamHalf) : StreamState :=
  let s := s.modify k fun st => { st with parts := st.parts ++ [half] }
  if (s.stream k).lifecycle.closed then s
  else
    let s := s.modifyLifecycle k fun l => { l with remainingParts := l.remainingParts - 1 }
    if (s.stream k).lifecycle.remainingParts = 0 then s.abort k .finished none else s

/-- `metrics.streamClosed()`. -/
def streamClosed : StreamState :=
  { s.modify k fun st => { st with closings := st.closings + 1 } with
    streamsActive := s.streamsActive - 1 }

/-- A constructor, whose native halves are not locked. The signal of a lifecycle whose parent has
ended has no listeners yet; the bridges look at it when they start. -/
def construct (session : Nat) (native : NativeHalves) : StreamState :=
  match native.adapt session with
  | none => s
  | some st =>
    let k := s.streamCount
    let t := { s with
      stream := Function.update s.stream k st, streamCount := k + 1,
      streamsActive := s.streamsActive + 1, streamsTotal := s.streamsTotal + 1 }
    match (s.session session).aborted with
    | none => t.modifySession session fun c => { c with listeners := c.listeners ++ [k] }
    | some reason => (t.markClosed k .sessionEnded reason).push
        [.streamClosed k, .abortReadable k, .abortWritable k]

/-! ### Readable bridges -/

/-- The private `finish`. -/
def finishReadable (countAsPart : Bool) : StreamState :=
  match (s.stream k).readable with
  | none => s
  | some b =>
    let t := s.modifyReadable k fun b => { b with finished := true }
    if !b.finished && countAsPart then t.finishPart k .readable else t

/-- `errorController`, on a readable half. -/
def errorReadable : StreamState :=
  s.modifyReadable k fun b => { b with readable := b.readable.error }

def stop : StreamState :=
  s.modifyReadable k fun b =>
    match b.stopPromise with
    | .uncalled => { b with stopPromise := if b.finished then .settled else .running }
    | .running | .settled => b

/-- The listener the bridge adds to the lifecycle's signal. -/
def abortReadable : StreamState :=
  match (s.stream k).readable with
  | none => s
  | some b => if b.finished then s else (s.errorReadable k).stop k

/-- The `catch` of `pull`. -/
def pullFailed (cause : AbortCause) (error : Thrown) : StreamState :=
  ((s.errorReadable k).push [.finishReadable k false]).abort k cause
    (some (mapStreamError error "read stream"))

end StreamState

/-- How the native read that `pull` awaits settles. -/
inductive PullResult
  | done
  | value (byteLength : Nat)
  | failed (error : Thrown)

namespace StreamState

variable (s : StreamState) (k : Nat)

/-- The rest of `pull`. What the controller throws goes through the same `catch` as what the native
read throws. -/
def pulled (result : PullResult) : StreamState :=
  match (s.stream k).readable with
  | none => s
  | some b =>
    let s := s.modifyReadable k fun b => { b with reading := false }
    match result with
    | .failed error => s.pullFailed k .nativeFailed error
    | .done =>
      if b.readable.canCloseOrEnqueue then
        (s.modifyReadable k fun b => { b with readable := b.readable.close }).finishReadable k true
      else s.pullFailed k .controllerThrew (.errorObject "TypeError" "Invalid state" none)
    | .value byteLength =>
      let s := { s with bytesReceived := s.bytesReceived + byteLength }
      if b.readable.canCloseOrEnqueue then
        s.modifyReadable k fun b => { b with readable := b.readable.enqueue byteLength }
      else s.pullFailed k .controllerThrew (.errorObject "TypeError" "Invalid state" none)

/-- The application cancels the readable half; only one that is readable calls `cancel`. -/
def cancel : StreamState :=
  s.modifyReadable k fun b =>
    { b with readable := b.readable.cancel,
             cancelling := b.cancelling || b.readable.state == .readable }

def cancelSettled : StreamState :=
  (s.modifyReadable k fun b => { b with cancelling := false }).finishReadable k true

/-- The rejection of `reader.closed`. -/
def readableFailed (error : Thrown) : StreamState :=
  match (s.stream k).readable with
  | none => s
  | some b =>
    let s := s.modifyReadable k fun b => { b with closedSettled := true }
    if b.finished then s
    else ((s.errorReadable k).finishReadable k false).abort k .nativeFailed
      (some (mapStreamError error "receive stream closed"))

def stopSettled : StreamState :=
  (s.modifyReadable k fun b => { b with stopPromise := .settled }).finishReadable k true

/-! ### Writable bridges -/

/-- The private `finish`. -/
def finishWritable : StreamState :=
  match (s.stream k).writable with
  | none => s
  | some b =>
    if b.finished then s
    else (s.modifyWritable k fun b => { b with finished := true }).finishPart k .writable

/-- `errorController`, on a writable half. -/
def errorWritable : StreamState := s.modifyWritable k fun b => { b with errored := true }

def resetWritable : StreamState :=
  s.modifyWritable k fun b =>
    if b.closing then b
    else match b.resetPromise with
      | .uncalled => { b with resetPromise := if b.finished then .settled else .running }
      | .running | .settled => b

/-- The listener the bridge adds to the lifecycle's signal. -/
def abortWritable : StreamState :=
  match (s.stream k).writable with
  | none => s
  | some b =>
    if b.finished || b.closing then s
    else
      let t := s.errorWritable k
      let reason := ((s.stream k).lifecycle.aborted.map Prod.snd).getD defaultAbortReason
      if b.resetPromise != .uncalled || isSessionTermination reason then t.finishWritable k
      else t.resetWritable k

/-- A failed native operation aborts the lifecycle, then finishes the half. -/
def writableFailed (error : Thrown) (operation : String) : StreamState :=
  (s.push [.finishWritable k]).abort k .nativeFailed (some (mapStreamError error operation))

def write (byteLength : Nat) : StreamState :=
  s.modifyWritable k fun b => { b with writing := some byteLength }

def wrote (error : Option Thrown) : StreamState :=
  let written := ((s.stream k).writable.bind (·.writing)).getD 0
  let s := s.modifyWritable k fun b => { b with writing := none }
  match error with
  | none => { s with bytesSent := s.bytesSent + written }
  | some error => s.writableFailed k error "write stream"

def close : StreamState :=
  s.modifyWritable k fun b => { b with closing := true, closePromise := .running }

def closeSettled (error : Option Thrown) : StreamState :=
  let s := s.modifyWritable k fun b => { b with closePromise := .settled }
  match error with
  | none => s.finishWritable k
  | some error => s.writableFailed k error "close send stream"

/-- The application aborts the writable half. While it closes, `abort` awaits that. -/
def abortSink : StreamState :=
  s.modifyWritable k fun b => { b with errored := true, aborting := b.aborting || !b.closing }

def abortSettled : StreamState :=
  (s.modifyWritable k fun b => { b with aborting := false }).finishWritable k

/-- `writer.closed` settles. -/
def writableClosed (error : Option Thrown) : StreamState :=
  match (s.stream k).writable with
  | none => s
  | some b =>
    let s := s.modifyWritable k fun b => { b with closedSettled := true }
    match error with
    | none => s.finishWritable k
    | some error =>
      if b.finished || b.closing then s
      else (s.errorWritable k).writableFailed k error "send stream closed"

def resetSettled : StreamState :=
  (s.modifyWritable k fun b => { b with resetPromise := .settled }).finishWritable k

/-- `stop` or `reset` of an adapter, by its kind. -/
def reset : StreamState :=
  let error := (s.stream k).kind.resetError
  let s := s.modify k fun st => { st with resetCalled := true }
  ((s.stop k).resetWritable k).abort k .reset (some (.core error))

/-! ### Sessions -/

/-- `finish` of a session, up to the dispatch of its signal's event. -/
def endSession (session : Nat) (reason : Thrown) : StreamState :=
  match (s.session session).aborted with
  | some _ => s
  | none =>
    (s.modifySession session fun c => { c with aborted := some reason }).push [.startNotify session]

/-- One turn of the loop over the listeners: a stream that has unsubscribed is passed over. -/
def notify (session : Nat) : List Nat → StreamState
  | [] => s.modifySession session fun c => { c with listeners := [] }
  | l :: todo =>
    let t := s.push [.notify session todo]
    if l ∈ (s.session session).listeners then
      t.abort l .sessionEnded (s.session session).aborted
    else t

def perform : StreamWork → StreamState
  | .abortReadable k => s.abortReadable k
  | .abortWritable k => s.abortWritable k
  | .finishReadable k countAsPart => s.finishReadable k countAsPart
  | .finishWritable k => s.finishWritable k
  | .streamClosed k => s.streamClosed k
  | .startNotify session => s.push [.notify session (s.session session).listeners]
  | .notify session todo => s.notify session todo

def work : StreamState :=
  match s.agenda with
  | [] => s
  | first :: rest => { s with agenda := rest }.perform first

end StreamState

inductive StreamEvent
  | work
  | construct (session : Nat) (native : NativeHalves)
  | endSession (session : Nat) (reason : Thrown)
  | reset (stream : Nat)
  | pull (stream : Nat)
  | pulled (stream : Nat) (result : PullResult)
  | read (stream : Nat)
  | cancel (stream : Nat)
  | cancelSettled (stream : Nat)
  | readableFailed (stream : Nat) (error : Thrown)
  | stopSettled (stream : Nat)
  | write (stream : Nat) (byteLength : Nat)
  | wrote (stream : Nat) (error : Option Thrown)
  | close (stream : Nat)
  | closeSettled (stream : Nat) (error : Option Thrown)
  | abortSink (stream : Nat)
  | abortSettled (stream : Nat)
  | writableClosed (stream : Nat) (error : Option Thrown)
  | resetSettled (stream : Nat)

namespace StreamState

variable (s : StreamState) (k : Nat)

def hasReadable (p : ReadableBridge → Bool) : Bool := (s.stream k).readable.any p

def hasWritable (p : WritableBridge → Bool) : Bool := (s.stream k).writable.any p

/-- A callback is called on a half that is there, and an `await` resumes once. -/
def enabled : StreamEvent → Bool
  | .work => !s.agenda.isEmpty
  | .construct _ _ | .endSession _ _ => true
  | .reset k => decide (k < s.streamCount)
  | .pull k => s.hasReadable k fun b => !b.reading && b.readable.shouldCallPull 1
  | .pulled k _ => s.hasReadable k (·.reading)
  | .read k | .cancel k => s.hasReadable k fun _ => true
  | .cancelSettled k => s.hasReadable k (·.cancelling)
  | .readableFailed k _ => s.hasReadable k (!·.closedSettled)
  | .stopSettled k => s.hasReadable k (·.stopPromise == .running)
  | .write k _ => s.hasWritable k (·.writing.isNone)
  | .wrote k _ => s.hasWritable k (·.writing.isSome)
  | .close k => s.hasWritable k (!·.closing)
  | .closeSettled k _ => s.hasWritable k (·.closePromise == .running)
  | .abortSink k => s.hasWritable k fun _ => true
  | .abortSettled k => s.hasWritable k (·.aborting)
  | .writableClosed k _ => s.hasWritable k (!·.closedSettled)
  | .resetSettled k => s.hasWritable k (·.resetPromise == .running)

def next : StreamEvent → StreamState
  | .work => s.work
  | .construct session native => s.construct session native
  | .endSession session reason => s.endSession session reason
  | .reset k => s.reset k
  | .pull k => s.modifyReadable k fun b => { b with reading := true }
  | .pulled k result => s.pulled k result
  | .read k => s.modifyReadable k fun b => { b with readable := b.readable.read.2 }
  | .cancel k => s.cancel k
  | .cancelSettled k => s.cancelSettled k
  | .readableFailed k error => s.readableFailed k error
  | .stopSettled k => s.stopSettled k
  | .write k byteLength => s.write k byteLength
  | .wrote k error => s.wrote k error
  | .close k => s.close k
  | .closeSettled k error => s.closeSettled k error
  | .abortSink k => s.abortSink k
  | .abortSettled k => s.abortSettled k
  | .writableClosed k error => s.writableClosed k error
  | .resetSettled k => s.resetSettled k

def program : Program StreamState StreamEvent := ⟨new, enabled, next⟩

def machine : Machine StreamState StreamEvent := program.machine

end StreamState

end NestWebTransport
