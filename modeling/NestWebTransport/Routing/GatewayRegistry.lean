import NestWebTransport.Core.Lifecycle
import Mathlib.Data.List.Basic

/-! Registered gateway handlers and the lookups the runtime makes. -/
namespace NestWebTransport

inductive WebTransportHandlerKind
  | session
  | datagram
  | bidirectionalStream
  | unidirectionalStream
  deriving DecidableEq, Repr

def WebTransportHandlerKind.text : WebTransportHandlerKind → String
  | .session => "session"
  | .datagram => "datagram"
  | .bidirectionalStream => "bidirectional-stream"
  | .unidirectionalStream => "unidirectional-stream"

/-- `@Catch(...)`: the constructors a filter handles, none for all of them. -/
structure ExceptionFilter where
  caughtTypes : List ErrorClass
  deriving DecidableEq, Repr

def ExceptionFilter.catches (filter : ExceptionFilter) (error : Failure) : Bool :=
  filter.caughtTypes.isEmpty || filter.caughtTypes.any error.instanceOf.contains

/-- A handler with the enhancers its gateway class and its method carry; guards are named. -/
structure CompiledWebTransportHandler where
  gatewayPath : String
  kind : WebTransportHandlerKind
  route : Option String
  callable : Bool
  classGuards : List Nat
  methodGuards : List Nat
  classFilters : List ExceptionFilter
  methodFilters : List ExceptionFilter
  deriving DecidableEq, Repr

/-- `handlers` lists what was registered, in that order. `normalizeGatewayPath` rests on the
platform's URL parser. -/
structure GatewayRegistry where
  normalizeGatewayPath : String → String
  handlers : List CompiledWebTransportHandler

namespace GatewayRegistry

variable (r : GatewayRegistry)

def registryKey (path : String) (kind : WebTransportHandlerKind) (route : Option String) : String :=
  r.normalizeGatewayPath path ++ "\u0000" ++ kind.text ++ "\u0000" ++ route.getD ""

def handlerKindKey (path : String) (kind : WebTransportHandlerKind) : String :=
  r.normalizeGatewayPath path ++ "\u0000" ++ kind.text

/-- The handlers registered under one key. -/
def bucket (key : String) : List CompiledWebTransportHandler :=
  r.handlers.filter fun h => r.registryKey h.gatewayPath h.kind h.route == key

def find (path : String) (kind : WebTransportHandlerKind) (route : Option String) :
    List CompiledWebTransportHandler :=
  let normalizedPath := r.normalizeGatewayPath path
  let exact :=
    match route with
    | none => []
    | some name =>
      if name = "" then [] else r.bucket (r.registryKey normalizedPath kind (some name))
  exact ++ r.bucket (r.registryKey normalizedPath kind none)

def hasPath (path : String) : Bool :=
  (r.handlers.map fun h => r.normalizeGatewayPath h.gatewayPath).contains
    (r.normalizeGatewayPath path)

def hasHandlers (path : String) (kind : WebTransportHandlerKind) : Bool :=
  (r.handlers.map fun h => r.handlerKindKey h.gatewayPath h.kind).contains
    (r.handlerKindKey path kind)

end GatewayRegistry

end NestWebTransport
