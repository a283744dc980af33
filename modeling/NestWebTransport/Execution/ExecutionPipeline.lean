import NestWebTransport.Routing.GatewayRegistry

/-! One invocation of a gateway handler through its guards, interceptors and exception filters.

Each definition is one synchronous stretch of `invoke`; between two of them the invocation awaits
the framework or the application, whose answer the next one takes. -/
namespace NestWebTransport

/-- The global enhancers; the request-scoped ones are resolved anew for each session. -/
structure ApplicationConfig where
  globalGuards : List Nat
  globalRequestGuards : List Nat
  globalFilters : List ExceptionFilter
  globalRequestFilters : List ExceptionFilter

/-- What an invocation awaits. `fromGuard` marks the exception a guard's denial raised; the
program keeps no such mark. -/
inductive InvokePhase
  | resolvingGateway
  | resolvingGuards
  | guarding (guards : List Nat)
  | resolvingInterceptors
  | intercepting
  | resolvingFilters (error : Failure) (fromGuard : Bool)
  | catching (error : Failure) (fromGuard : Bool)
  deriving DecidableEq, Repr

inductive Invocation
  | pending (phase : InvokePhase)
  | fulfilled
  | rejected (error : Failure)
  deriving DecidableEq, Repr

/-- What a guard decides: a truthy value, a falsy one, or an exception. -/
inductive GuardDecision
  | allowed
  | denied
  | threw (error : Failure)
  deriving DecidableEq, Repr

namespace WebTransportExecutionPipeline

variable (config : ApplicationConfig) (handler : CompiledWebTransportHandler)
  -- The reason of the session context's signal, once it is aborted.
  (aborted : Option Failure)

/-- The guards of `activateGuards`, in the order they run. -/
def guards : List Nat :=
  config.globalGuards ++ config.globalRequestGuards ++ handler.classGuards ++ handler.methodGuards

/-- The filters of `handleException`, in the order they are tried. -/
def filters : List ExceptionFilter :=
  (config.globalFilters ++ config.globalRequestFilters ++ handler.classFilters ++
    handler.methodFilters).reverse

/-- `signal.throwIfAborted()` before `next`. Inside the `try` the `catch` rethrows the reason,
because the signal is aborted. -/
def throwIfAborted (next : Invocation) : Invocation :=
  match aborted with
  | some reason => .rejected reason
  | none => next

/-- The `catch` of `invoke`. -/
def caught (error : Failure) (fromGuard : Bool) : Invocation :=
  match aborted with
  | some _ => .rejected error
  | none => .pending (.resolvingFilters error fromGuard)

/-- The call of `invoke`. -/
def invoke : Invocation := throwIfAborted aborted (.pending .resolvingGateway)

/-- `resolveGateway` has settled. -/
def gatewayResolved (result : Except Failure Unit) : Invocation :=
  match result with
  | .error error => .rejected error
  | .ok _ =>
    throwIfAborted aborted
      (if handler.callable then .pending .resolvingGuards else .rejected .typeError)

/-- The loop of `activateGuards` reaches its next guard. -/
def nextGuard (guards : List Nat) : Invocation :=
  match guards with
  | [] => .pending .resolvingInterceptors
  | guard :: rest => throwIfAborted aborted (.pending (.guarding (guard :: rest)))

/-- The guards have been resolved. -/
def guardsResolved (result : Except Failure Unit) : Invocation :=
  match result with
  | .error error => caught aborted error false
  | .ok _ => nextGuard aborted (guards config handler)

/-- The first of `remaining` has decided. -/
def guardDecided (remaining : List Nat) (decision : GuardDecision) : Invocation :=
  match decision with
  | .threw error => caught aborted error true
  | .denied => throwIfAborted aborted (caught aborted .forbidden true)
  | .allowed => throwIfAborted aborted (nextGuard aborted remaining.tail)

/-- The interceptors have been resolved. -/
def interceptorsResolved (result : Except Failure Unit) : Invocation :=
  match result with
  | .error error => caught aborted error false
  | .ok _ => throwIfAborted aborted (.pending .intercepting)

/-- `invokeHandler` has its arguments: whether it applies the callback. -/
def appliesCallback : Bool := aborted.isNone

/-- The observable of the interceptors and the callback has ended. -/
def intercepted (result : Except Failure Unit) : Invocation :=
  match result with
  | .error error => caught aborted error false
  | .ok _ => .fulfilled

/-- `handleException` has resolved its filters; it does not look at the signal. -/
def filtersResolved (error : Failure) (fromGuard : Bool) (result : Except Failure Unit) :
    Invocation :=
  match result with
  | .error other => .rejected other
  | .ok _ =>
    if (filters config handler).any fun filter => filter.catches error then
      .pending (.catching error fromGuard)
    else .rejected error

/-- The `catch` method of the first matching filter has returned or thrown. -/
def filterReturned (result : Except Failure Unit) : Invocation :=
  match result with
  | .error other => .rejected other
  | .ok _ => .fulfilled

end WebTransportExecutionPipeline

end NestWebTransport
