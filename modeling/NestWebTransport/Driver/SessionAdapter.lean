import NestWebTransport.Driver.AbortContext
import NestWebTransport.Driver.RWebTransportDriver
import NestWebTransport.Foundation.Program

/-! How a session adapter ends: `close`, `finish` and the promises that lead to it.

One event is one synchronous stretch of the adapter. What the application does while the adapter
calls it comes with the event, in the order it happens. -/
namespace NestWebTransport

/-- What `close` returns: the promise it made when it was called first, or `closedPromise`. -/
inductive ClosePromise
  | own (number : Nat)
  | closed
  deriving DecidableEq, Repr

/-- How the promise of `close` settles. -/
inductive CloseOutcome
  | pending
  | fulfilled
  | rejected (error : CoreError)
  deriving DecidableEq, Repr

/-- A call of `close`, with the state of the adapter before it. -/
structure AdapterClose where
  state : SessionState
  returned : ClosePromise
  deriving DecidableEq, Repr

/-- A call of `events.closed`, with the abort context as the observer finds it. -/
structure ClosedNotice where
  error : Option CoreError
  context : AbortContext
  deriving DecidableEq, Repr

structure SessionAdapter where
  state : SessionState
  context : AbortContext
  closePromise : Option Nat
  closeOutcome : CloseOutcome
  closePromises : Nat
  terminalError : Option CoreError
  closedResolved : Bool
  closedNotified : Bool
  readySettled : Bool
  nativeSettled : Bool
  nativeCloses : Nat
  closeCalls : List AdapterClose
  notices : List ClosedNotice
  deriving DecidableEq, Repr

/-- What code that the adapter calls can do to it. -/
inductive AdapterAction
  | subscribe
  | unsubscribe (listener : Nat)
  | close
  deriving DecidableEq, Repr

/-- What a callback does before it returns or throws. -/
structure Callback where
  actions : List AdapterAction
  throws : Option Thrown
  deriving DecidableEq, Repr

/-- What the callbacks of `finish` do: those of the signal's `abort` event, each stream listener,
and the observer. -/
structure FinishCallbacks where
  dispatch : List AdapterAction
  turn : Nat → Callback
  observer : Callback

namespace SessionAdapter

variable (a : SessionAdapter)

def new : SessionAdapter where
  state := .connected
  context := .new
  closePromise := none
  closeOutcome := .pending
  closePromises := 0
  terminalError := none
  closedResolved := false
  closedNotified := false
  readySettled := false
  nativeSettled := false
  nativeCloses := 0
  closeCalls := []
  notices := []

/-- The promise that `close` returns without closing anything. -/
def earlierClose : Option ClosePromise :=
  match a.closePromise with
  | some number => some (.own number)
  | none => if a.state = .closed then some .closed else none

def recordClose (state : SessionState) (returned : ClosePromise) : SessionAdapter :=
  { a with closeCalls := a.closeCalls ++ [⟨state, returned⟩] }

/-- Callbacks run while the state is `CLOSED`, so a `close` among them returns early. -/
def act : AdapterAction → SessionAdapter
  | .subscribe => { a with context := a.context.subscribe }
  | .unsubscribe listener => { a with context := a.context.unsubscribe listener }
  | .close =>
    match a.earlierClose with
    | some returned => a.recordClose a.state returned
    | none => a

def actAll (actions : List AdapterAction) : SessionAdapter := actions.foldl act a

def call (callback : Callback) : SessionAdapter × Option Thrown :=
  (a.actAll callback.actions, callback.throws)

/-- `try { … } catch {}`. -/
def swallow (call : SessionAdapter × Option Thrown) : SessionAdapter :=
  match call with
  | (a, none) => a
  | (a, some _) => a

/-- The loop over `streamAbortListeners`. A listener that was taken out before its turn is not
called; none is added, because the signal is aborted. -/
def notifyAll (turn : Nat → Callback) : List Nat → SessionAdapter → SessionAdapter
  | [], a => a
  | l :: todo, a =>
    if l ∈ a.context.listeners then
      notifyAll turn todo (swallow (call { a with context := a.context.notify l } (turn l)))
    else notifyAll turn todo a

/-- The signal's `abort` event; what its listeners throw is reported and not thrown on. -/
def dispatchAbort (reason : Thrown) (actions : List AdapterAction) : SessionAdapter :=
  { a with context := a.context.abort reason }.actAll actions

def settleClosed : SessionAdapter :=
  { a with context := a.context.clear, closedResolved := true }

def notifyClosed (error : Option CoreError) (observer : Callback) : SessionAdapter :=
  if a.closedNotified then a
  else swallow (call { a with closedNotified := true,
                              notices := a.notices ++ [⟨error, a.context⟩] } observer)

def finishReason (error : Option CoreError) : Thrown :=
  match error with
  | some error => .core error
  | none => .errorObject "AbortError" "Session closed" none

/-- `finish` up to its loop. -/
def enterClosed (error : Option CoreError) (actions : List AdapterAction) : SessionAdapter :=
  { a with state := .closed, terminalError := error }.dispatchAbort (finishReason error) actions

def finish (error : Option CoreError) (callbacks : FinishCallbacks) : SessionAdapter :=
  if a.state = .closed then a
  else
    let a := a.enterClosed error callbacks.dispatch
    (notifyAll callbacks.turn a.context.listeners a).settleClosed.notifyClosed error
      callbacks.observer

def mapError (error : Thrown) (operation : String) : CoreError :=
  mapRWebTransportError error ⟨.session, some operation, none⟩

/-- The promise of the first `close`, once its body has reached an `await` or its end. -/
def holdClosePromise (state : SessionState) (outcome : CloseOutcome) : SessionAdapter :=
  { a with closePromise := some a.closePromises, closePromises := a.closePromises + 1,
           closeOutcome := outcome }.recordClose state (.own a.closePromises)

/-- `native` is what the native `close` throws. -/
def close (native : Option Thrown) (callbacks : FinishCallbacks) : SessionAdapter :=
  match a.earlierClose with
  | some returned => a.recordClose a.state returned
  | none =>
    let called := { a with state := .closing, nativeCloses := a.nativeCloses + 1 }
    match native with
    | none => called.holdClosePromise a.state .pending
    | some thrown =>
      let mapped := mapError thrown "close session"
      (called.finish (some mapped) callbacks).holdClosePromise a.state (.rejected mapped)

/-- The body of `close` after its `await`: a terminal error goes through its `catch`. -/
def resumeClose (callbacks : FinishCallbacks) : SessionAdapter :=
  match a.terminalError with
  | none => { a with closeOutcome := .fulfilled }
  | some error =>
    let mapped := mapError (.core error) "close session"
    { a.finish (some mapped) callbacks with closeOutcome := .rejected mapped }

end SessionAdapter

inductive AdapterEvent
  | act (action : AdapterAction)
  | close (native : Option Thrown) (callbacks : FinishCallbacks)
  | closeResumed (callbacks : FinishCallbacks)
  | nativeReadyRejected (error : Thrown) (callbacks : FinishCallbacks)
  | nativeClosedFulfilled (callbacks : FinishCallbacks)
  | nativeClosedRejected (error : Thrown) (callbacks : FinishCallbacks)

namespace SessionAdapter

/-- A promise settles once, and a `close` that awaits `closedPromise` resumes once it is
resolved. -/
def enabled (a : SessionAdapter) : AdapterEvent → Bool
  | .act action => action != .close
  | .close _ _ => true
  | .closeResumed _ => a.closePromise.isSome && a.closeOutcome == .pending && a.closedResolved
  | .nativeReadyRejected _ _ => !a.readySettled
  | .nativeClosedFulfilled _ | .nativeClosedRejected _ _ => !a.nativeSettled

def next (a : SessionAdapter) : AdapterEvent → SessionAdapter
  | .act action => a.act action
  | .close native callbacks => a.close native callbacks
  | .closeResumed callbacks => a.resumeClose callbacks
  | .nativeReadyRejected error callbacks =>
    { a with readySettled := true }.finish (some (mapError error "establish session")) callbacks
  | .nativeClosedFulfilled callbacks => { a with nativeSettled := true }.finish none callbacks
  | .nativeClosedRejected error callbacks =>
    { a with nativeSettled := true }.finish (some (mapError error "session closed")) callbacks

def program : Program SessionAdapter AdapterEvent := ⟨new, enabled, next⟩

def machine : Machine SessionAdapter AdapterEvent := program.machine

end SessionAdapter

end NestWebTransport
