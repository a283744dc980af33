import NestWebTransport.Driver.ServerAdapter
import NestWebTransport.Foundation.Program
import NestWebTransport.Module.Options

/-! The native driver: its commands, its servers and the sessions they surface.

Each definition is one synchronous stretch of `RWebTransportDriver`; between two of them the driver
awaits a promise. Callbacks call the driver only after the stretch that called them. -/
namespace NestWebTransport

/-- A call of `start` that was not answered at once: `performStart` waits for a stop, it awaits its
server, or it is over, at first with its `finally` still to run. -/
inductive StartOperation
  | queued (stop : Nat) (signal : StartSignal)
  | performing (adapter : Nat)
  | settled (succeeded : Bool)
  | cleared (succeeded : Bool)
  deriving DecidableEq, Repr

def StartOperation.isCleared : StartOperation → Bool
  | .cleared _ => true
  | _ => false

/-- A call of `stop` that was not answered at once: `performStop` awaits the drain, then the server,
the sessions and the start it has interrupted. -/
inductive StopOperation
  | draining (adapter : Nat)
  | closing (adapter : Nat) (start : Option Nat) (sessions : List Nat)
  | settled (succeeded : Bool)
  | cleared (succeeded : Bool)
  deriving DecidableEq, Repr

def StopOperation.isCleared : StopOperation → Bool
  | .cleared _ => true
  | _ => false

/-- What `start` and `stop` share. -/
structure DriverCommands where
  state : ServerState
  server : Option Nat
  adapterCount : Nat
  startCount : Nat
  start : Nat → StartOperation
  startPromise : Option Nat
  stopCount : Nat
  stop : Nat → StopOperation
  stopPromise : Option Nat

inductive SessionState
  | connected
  | closing
  | closed
  deriving DecidableEq, Repr

/-- The promise of `dispatchSession`: it awaits a callback, then those left, or the `close` of a
session whose callback has failed. -/
inductive DispatchTask
  | uncalled
  | calling (callback : Nat) (rest : List Nat)
  | closing
  | settled
  | cleared
  deriving DecidableEq, Repr

/-- The task is in `dispatchTasks`. -/
def DispatchTask.isOutstanding : DispatchTask → Bool
  | .calling _ _ | .closing | .settled => true
  | .uncalled | .cleared => false

/-- A native session: the id its adapter will have, whether the adapter's constructor returns, and
whether the native `close` throws. -/
structure NativeSession where
  id : String
  adaptable : Bool
  closeThrows : Bool
  deriving DecidableEq, Repr

/-- An adapter the driver has built; `failed` tells whether it ended with a terminal error, and
`called` lists the callbacks it was passed to. -/
structure DriverSession where
  native : NativeSession
  state : SessionState
  failed : Bool
  dispatch : DispatchTask
  called : List Nat
  deriving DecidableEq, Repr

/-- `nativesClosed` lists the native sessions closed because no adapter holds them. -/
structure DriverState extends DriverCommands where
  adapter : Nat → RWebTransportServerAdapter
  startAbortListeners : List Nat
  removeStartAbortListener : Option Nat
  callbacks : List Nat
  sessions : List (String × Nat)
  sessionCount : Nat
  session : Nat → DriverSession
  sessionsTotal : Nat
  sessionsRejected : Nat
  nativesClosed : List NativeSession

structure RWebTransportDriverOptions where
  maxSessions : PositiveInteger
  maxPendingSessionCallbacks : PositiveInteger

namespace RWebTransportDriver

variable (options : RWebTransportDriverOptions) (s : DriverState)

def new : DriverState where
  state := .stopped
  server := none
  adapterCount := 0
  startCount := 0
  start := fun _ => .cleared false
  startPromise := none
  stopCount := 0
  stop := fun _ => .cleared false
  stopPromise := none
  adapter := fun _ => .performStart .aborted ⟨false, false⟩
  startAbortListeners := []
  removeStartAbortListener := none
  callbacks := []
  sessions := []
  sessionCount := 0
  session := fun _ => ⟨⟨"", false, false⟩, .closed, false, .uncalled, []⟩
  sessionsTotal := 0
  sessionsRejected := 0
  nativesClosed := []

def updateAdapter (a : Nat) (f : RWebTransportServerAdapter → RWebTransportServerAdapter) :
    DriverState :=
  { s with adapter := Function.update s.adapter a (f (s.adapter a)) }

def updateSession (n : Nat) (f : DriverSession → DriverSession) : DriverState :=
  { s with session := Function.update s.session n (f (s.session n)) }

def setStart (i : Nat) (operation : StartOperation) : DriverState :=
  { s with start := Function.update s.start i operation }

def setStop (j : Nat) (operation : StopOperation) : DriverState :=
  { s with stop := Function.update s.stop j operation }

/-! ### Sessions -/

/-- `finish` of the adapter, with the `closed` callback of the driver. -/
def finishSession (n : Nat) (failed : Bool) : DriverState :=
  if (s.session n).state = .closed then s
  else
    { updateSession s n ({ · with state := .closed, failed := failed }) with
      sessions := s.sessions.filter (·.1 ≠ (s.session n).native.id) }

/-- `close` of the adapter. -/
def closeSession (n : Nat) : DriverState :=
  if (s.session n).state = .connected then
    if (s.session n).native.closeThrows then finishSession s n true
    else updateSession s n ({ · with state := .closing })
  else s

/-- `dispatchTasks.size`. -/
def dispatchTasks : Nat :=
  ((List.range s.sessionCount).filter fun n => (s.session n).dispatch.isOutstanding).length

/-- `sessions.set(id, session)`. -/
def setSession (id : String) (n : Nat) : List (String × Nat) :=
  if s.sessions.any (·.1 == id) then
    s.sessions.map fun entry => if entry.1 = id then (id, n) else entry
  else s.sessions ++ [(id, n)]

/-- `dispatchSession` calls the next of the callbacks. -/
def dispatchNext (n : Nat) (callbacks : List Nat) : DriverState :=
  match callbacks with
  | [] => updateSession s n ({ · with dispatch := .settled })
  | callback :: rest =>
    updateSession s n fun session =>
      { session with
        dispatch := .calling callback rest
        called := session.called ++ [callback] }

def isAtCapacity : Bool :=
  decide (options.maxSessions.value ≤ s.sessions.length) ||
    decide (options.maxPendingSessionCallbacks.value ≤ dispatchTasks s)

/-- `acceptSession` where the adapter of the native session is built. -/
def registerSession (native : NativeSession) : DriverState :=
  let n := s.sessionCount
  let registered :=
    { s with
      sessionsTotal := s.sessionsTotal + 1
      sessionCount := s.sessionCount + 1
      session := Function.update s.session n ⟨native, .connected, false, .uncalled, []⟩
      sessions := setSession s native.id n }
  if s.state = .draining ∨ s.state = .stopping ∨ s.state = .stopped ∨ s.callbacks = [] then
    closeSession { registered with sessionsRejected := s.sessionsRejected + 1 } n
  else dispatchNext registered n s.callbacks

/-- `acceptSession`, and whether it returns; `native.close` is guarded. -/
def acceptSession (native : NativeSession) : Bool × DriverState :=
  if isAtCapacity options s then
    (true, { s with
      sessionsTotal := s.sessionsTotal + 1
      sessionsRejected := s.sessionsRejected + 1
      nativesClosed := s.nativesClosed ++ [native] })
  else if native.adaptable = false then (false, { s with sessionsTotal := s.sessionsTotal + 1 })
  else (true, registerSession s native)

/-- The promise of a callback has settled. -/
def callbackSettled (n : Nat) (succeeded : Bool) : DriverState :=
  match (s.session n).dispatch with
  | .calling _ rest =>
    if succeeded then dispatchNext s n rest
    else
      closeSession
        { updateSession s n ({ · with dispatch := .closing }) with
          sessionsRejected := s.sessionsRejected + 1 } n
  | _ => s

/-! ### Commands -/

def performStart (i : Nat) (signal : StartSignal) (native : NativeServer) : DriverState :=
  let a := s.adapterCount
  let s :=
    { s with
      state := .starting
      server := some a
      adapterCount := s.adapterCount + 1
      adapter := Function.update s.adapter a (.performStart signal native)
      startAbortListeners :=
        if signal = .absent then s.startAbortListeners else s.startAbortListeners ++ [a]
      removeStartAbortListener :=
        if signal = .absent then s.removeStartAbortListener else some a }
  setStart s i (.performing a)

def start (signal : StartSignal) (native : NativeServer) : DriverState :=
  if s.state = .running then s
  else if s.startPromise.isSome then s
  else
    let i := s.startCount
    let called := { s with startCount := s.startCount + 1, startPromise := some i }
    match s.stopPromise with
    | none => performStart called i signal native
    | some j => setStart called i (.queued j signal)

/-- The stop that a queued start waits for has settled. -/
def startBegins (i : Nat) (native : NativeServer) : DriverState :=
  match s.start i with
  | .queued j signal =>
    match s.stop j with
    | .cleared true => performStart s i signal native
    | .cleared false => setStart s i (.settled false)
    | _ => s
  | _ => s

/-- The call of the stored `removeStartAbortListener`. -/
def dropStartAbortListener : DriverState :=
  match s.removeStartAbortListener with
  | none => s
  | some a =>
    { s with
      startAbortListeners := s.startAbortListeners.erase a
      removeStartAbortListener := none }

/-- `performStart` after `await server.start(...)`. -/
def startSettled (i : Nat) : DriverState :=
  match s.start i with
  | .performing a =>
    if (s.adapter a).startPromise = .fulfilled then
      setStart
        { s with
          state := if s.server = some a ∧ s.state = .starting then .running else s.state }
        i (.settled true)
    else
      let dropped := dropStartAbortListener s
      setStart
        { dropped with
          state := .stopped
          server := if s.server = some a then none else s.server }
        i (.settled false)
  | _ => s

/-- The `finally` of `start`. -/
def startCleared (i : Nat) : DriverState :=
  match s.start i with
  | .settled succeeded => { setStart s i (.cleared succeeded) with startPromise := none }
  | _ => s

/-- `performStop` from the native shutdown on, up to the promises it awaits. -/
def beginClosing (j a : Nat) (starting : Bool) : DriverState :=
  let s := updateAdapter { s with state := .stopping } a (·.stop)
  let held := s.sessions.map Prod.snd
  setStop (held.foldl closeSession s) j
    (.closing a (if starting then s.startPromise else none) held)

/-- `performStop` up to its first `await`; `valid` tells whether `timeoutMs` passes its check. -/
def performStop (j : Nat) (graceful valid : Bool) : DriverState :=
  if valid = false then setStop s j (.settled false)
  else
    match s.server with
    | none => setStop { s with state := .stopped } j (.settled true)
    | some a =>
      if s.state ≠ .starting ∧ s.state ≠ .stopping ∧ graceful = true then
        setStop { s with state := .draining } j (.draining a)
      else beginClosing s j a (s.state == .starting)

def stop (graceful valid : Bool) : DriverState :=
  if s.stopPromise.isSome then s
  else if s.state = .stopped ∧ s.startPromise = none then s
  else
    let j := s.stopCount
    performStop { s with stopCount := s.stopCount + 1, stopPromise := some j } j graceful valid

/-- `waitForDrainWork` has settled: the work is done, the timeout passed or the signal aborted. -/
def drainEnded (j : Nat) : DriverState :=
  match s.stop j with
  | .draining a => beginClosing s j a false
  | _ => s

/-- Everything `performStop` awaits has fulfilled in time. -/
def stopClosed (j : Nat) : DriverState :=
  match s.stop j with
  | .closing _ _ _ =>
    setStop { dropStartAbortListener s with server := none, state := .stopped } j (.settled true)
  | _ => s

/-- `waitForStop` has rejected: a promise it awaits did, the time is over or the signal aborted. -/
def stopFailed (j : Nat) : DriverState :=
  match s.stop j with
  | .closing _ _ _ =>
    setStop { dropStartAbortListener s with state := .stopping } j (.settled false)
  | _ => s

/-- The `finally` of `stop`. -/
def stopCleared (j : Nat) : DriverState :=
  match s.stop j with
  | .settled succeeded => { setStop s j (.cleared succeeded) with stopPromise := none }
  | _ => s

def handleServerError : DriverState :=
  if s.state = .running ∨ s.state = .starting then stop s false true else s

/-! ### Native events -/

/-- The signal of the start that built the adapter `a` aborts: first the driver's listener runs,
then that of the adapter. -/
def startAborted (a : Nat) : DriverState :=
  let aborted := updateAdapter s a ({ · with signal := .aborted })
  let stopped :=
    if a ∈ s.startAbortListeners then
      stop { aborted with startAbortListeners := s.startAbortListeners.erase a } true true
    else aborted
  updateAdapter stopped a (·.handleAbort)

/-- The pump of the adapter has read a session. -/
def surfaced (native : NativeSession) : DriverState :=
  let result := acceptSession options s native
  if result.1 then result.2
  else handleServerError { result.2 with nativesClosed := result.2.nativesClosed ++ [native] }

/-- The pump of the adapter `a` ends: the collection is done, or its `read` has rejected. -/
def pumpEnded (a : Nat) (failed : Bool) : DriverState :=
  let s' := updateAdapter s a ({ · with pumping := false })
  if failed && !(s.adapter a).stopping then handleServerError s' else s'

/-- The native server has closed after it was ready. -/
def closedObserved (a : Nat) : DriverState :=
  let s' := updateAdapter s a ({ · with closedObserved := true })
  if (s.adapter a).stopping then s' else handleServerError s'

end RWebTransportDriver

/-! ### The driver as a machine -/

inductive DriverEvent
  | start (signal : StartSignal) (native : NativeServer)
  | startBegins (i : Nat) (native : NativeServer)
  | startSettled (i : Nat)
  | startCleared (i : Nat)
  | stop (graceful valid : Bool)
  | drainEnded (j : Nat)
  | stopClosed (j : Nat)
  | stopFailed (j : Nat)
  | stopCleared (j : Nat)
  | startAborted (a : Nat)
  | ready (a : Nat)
  | raceLost (a : Nat)
  | raceStopped (a : Nat)
  | nativeClosed (a : Nat) (succeeded : Bool)
  | closedObserved (a : Nat)
  | closedAwaited (a : Nat)
  | released (a : Nat)
  | surfaced (a : Nat) (native : NativeSession)
  | pumpEnded (a : Nat) (failed : Bool)
  | callbackSettled (n : Nat) (succeeded : Bool)
  | dispatchClosed (n : Nat)
  | dispatchCleared (n : Nat)
  | sessionFinished (n : Nat) (failed : Bool)
  | subscribed (callback : Nat)
  | unsubscribed (callback : Nat)

namespace RWebTransportDriver

variable (options : RWebTransportDriverOptions) (s : DriverState)

/-- Every promise that the stop in `closing` awaits has fulfilled. -/
def isClosingOver (a : Nat) (start : Option Nat) (sessions : List Nat) : Bool :=
  decide ((s.adapter a).stopPromise = .settled true) &&
    start.all (fun i => (s.start i).isCleared) &&
    sessions.all fun n =>
      decide ((s.session n).state = .closed) && !(s.session n).failed

/-- When an event can be the next one. -/
def enabled : DriverEvent → Bool
  | .start _ _ | .stop _ _ | .subscribed _ | .unsubscribed _ => true
  | .startBegins i _ =>
    decide (i < s.startCount) &&
      match s.start i with
      | .queued j _ => (s.stop j).isCleared
      | _ => false
  | .startSettled i =>
    decide (i < s.startCount) &&
      match s.start i with
      | .performing a =>
        decide ((s.adapter a).startPromise = .fulfilled) ||
          decide ((s.adapter a).startPromise = .rejected)
      | _ => false
  | .startCleared i =>
    decide (i < s.startCount) &&
      match s.start i with
      | .settled _ => true
      | _ => false
  | .drainEnded j =>
    decide (j < s.stopCount) &&
      match s.stop j with
      | .draining _ => true
      | _ => false
  | .stopClosed j =>
    decide (j < s.stopCount) &&
      match s.stop j with
      | .closing a start sessions => isClosingOver s a start sessions
      | _ => false
  | .stopFailed j =>
    decide (j < s.stopCount) &&
      match s.stop j with
      | .closing _ _ _ => true
      | _ => false
  | .stopCleared j =>
    decide (j < s.stopCount) &&
      match s.stop j with
      | .settled _ => true
      | _ => false
  | .startAborted a => decide (a < s.adapterCount) && decide ((s.adapter a).signal = .pending)
  | .ready a => decide (a < s.adapterCount) && decide ((s.adapter a).startPromise = .racing)
  | .raceLost a =>
    decide (a < s.adapterCount) && decide ((s.adapter a).startPromise = .racing) &&
      ((s.adapter a).closed.isSome || (s.adapter a).raceAborted)
  | .raceStopped a =>
    decide (a < s.adapterCount) && decide ((s.adapter a).startPromise = .stopping) &&
      match (s.adapter a).stopPromise with
      | .settled _ => true
      | _ => false
  | .nativeClosed a _ => decide (a < s.adapterCount) && (s.adapter a).isLive
  | .closedObserved a =>
    decide (a < s.adapterCount) && decide ((s.adapter a).startPromise = .fulfilled) &&
      (s.adapter a).closed.isSome && !(s.adapter a).closedObserved
  | .closedAwaited a =>
    decide (a < s.adapterCount) && decide ((s.adapter a).stopPromise = .awaitingClosed) &&
      (s.adapter a).closed.isSome
  | .released a =>
    decide (a < s.adapterCount) &&
      match (s.adapter a).stopPromise with
      | .releasing _ => true
      | _ => false
  | .surfaced a _ => decide (a < s.adapterCount) && (s.adapter a).pumping
  | .pumpEnded a failed =>
    decide (a < s.adapterCount) && (s.adapter a).pumping &&
      (failed || (s.adapter a).closed.isSome)
  | .callbackSettled n _ =>
    decide (n < s.sessionCount) &&
      match (s.session n).dispatch with
      | .calling _ _ => true
      | _ => false
  | .dispatchClosed n =>
    decide (n < s.sessionCount) && decide ((s.session n).dispatch = .closing) &&
      decide ((s.session n).state = .closed)
  | .dispatchCleared n =>
    decide (n < s.sessionCount) && decide ((s.session n).dispatch = .settled)
  | .sessionFinished n _ =>
    decide (n < s.sessionCount) && decide ((s.session n).state ≠ .closed)

/-- What the event does. -/
def next : DriverEvent → DriverState
  | .start signal native => start s signal native
  | .startBegins i native => startBegins s i native
  | .startSettled i => startSettled s i
  | .startCleared i => startCleared s i
  | .stop graceful valid => stop s graceful valid
  | .drainEnded j => drainEnded s j
  | .stopClosed j => stopClosed s j
  | .stopFailed j => stopFailed s j
  | .stopCleared j => stopCleared s j
  | .startAborted a => startAborted s a
  | .ready a => updateAdapter s a ({ · with startPromise := .fulfilled })
  | .raceLost a => updateAdapter s a (·.raceLost)
  | .raceStopped a => updateAdapter s a ({ · with startPromise := .rejected })
  | .nativeClosed a succeeded => updateAdapter s a ({ · with closed := some succeeded })
  | .closedObserved a => closedObserved s a
  | .closedAwaited a =>
    updateAdapter s a fun adapter =>
      { adapter with stopPromise := .releasing (adapter.closed == some true) }
  | .released a =>
    updateAdapter s a fun adapter =>
      match adapter.stopPromise with
      | .releasing succeeded => adapter.released succeeded
      | _ => adapter
  | .surfaced _ native => surfaced options s native
  | .pumpEnded a failed => pumpEnded s a failed
  | .callbackSettled n succeeded => callbackSettled s n succeeded
  | .dispatchClosed n => updateSession s n ({ · with dispatch := .settled })
  | .dispatchCleared n => updateSession s n ({ · with dispatch := .cleared })
  | .sessionFinished n failed => finishSession s n failed
  | .subscribed callback =>
    { s with
      callbacks := if callback ∈ s.callbacks then s.callbacks else s.callbacks ++ [callback] }
  | .unsubscribed callback => { s with callbacks := s.callbacks.erase callback }

def program : Program DriverState DriverEvent where
  initial := new
  enabled := enabled
  next := next options

/-! ### A small driver -/

def smallOptions : RWebTransportDriverOptions := ⟨.two, .two⟩

def smallNative : NativeServer := ⟨true, false⟩

/-- The driver is started and its first server gets ready. -/
def smallStart : List DriverEvent :=
  [.subscribed 0, .start .absent smallNative, .ready 0, .startSettled 0, .startCleared 0]

end RWebTransportDriver

end NestWebTransport
