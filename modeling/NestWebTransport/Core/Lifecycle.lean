import Mathlib.Data.Nat.Notation

/-! Server states and error scopes. -/
namespace NestWebTransport

inductive ServerState
  | starting
  | running
  | draining
  | stopping
  | stopped
  deriving DecidableEq, Repr

def allowedTransitions : ServerState → List ServerState
  | .starting => [.running, .stopping]
  | .running => [.draining, .stopping]
  | .draining => [.stopping]
  | .stopping => [.stopped]
  | .stopped => [.starting]

def isServerStateTransitionAllowed (source target : ServerState) : Bool :=
  source == target || (allowedTransitions source).contains target

/-- `WebTransportLifecycle`. `threw` records that some call of `transition` was illegal; such a
call throws in the source and leaves the state as it is. -/
structure Lifecycle where
  state : ServerState
  threw : Bool
  deriving DecidableEq, Repr

namespace Lifecycle

def new : Lifecycle := ⟨.stopped, false⟩

def transition (l : Lifecycle) (next : ServerState) : Lifecycle :=
  if isServerStateTransitionAllowed l.state next then { l with state := next }
  else { l with threw := true }

/-- `snapshot.acceptingSessions`. -/
def acceptingSessions (l : Lifecycle) : Bool := l.state == .running

end Lifecycle

inductive ErrorScope
  | handler
  | stream
  | session
  | server
  | fatal
  deriving DecidableEq, Repr

/-- Constructors the program tests errors against; `custom` ones are those of the application. -/
inductive ErrorClass
  | error
  | httpException
  | forbiddenException
  | typeError
  | abortError
  | webTransportError
  | sessionRejectedError
  | webTransportTimeoutError
  | custom (name : Nat)
  deriving DecidableEq, Repr

/-- What a `catch` can tell about a rejection: the constructors it is an instance of and, of a
`WebTransportError`, its scope and code. -/
structure Failure where
  instanceOf : List ErrorClass
  scope : Option ErrorScope
  code : String
  deriving DecidableEq, Repr

namespace Failure

def unknown : Failure := ⟨[], none, ""⟩

/-- `new DOMException(message, 'AbortError')`. -/
def abort : Failure := ⟨[.error, .abortError], none, ""⟩

def typeError : Failure := ⟨[.error, .typeError], none, ""⟩

/-- `new ForbiddenException('WebTransport session or event was rejected by a guard.')`. -/
def forbidden : Failure := ⟨[.error, .httpException, .forbiddenException], none, ""⟩

def timeout : Failure :=
  ⟨[.error, .webTransportError, .webTransportTimeoutError], some .handler,
    "ERR_WEBTRANSPORT_TIMEOUT"⟩

def sessionRejected (code : String) : Failure :=
  ⟨[.error, .webTransportError, .sessionRejectedError], some .session, code⟩

def isTimeout (f : Failure) : Bool := f.instanceOf.contains .webTransportTimeoutError

end Failure

end NestWebTransport
