import NestWebTransport.Execution.ExecutionPipeline
import NestWebTransport.Foundation.Program

/-! One invocation down to its pipes: the interceptors and what they make of `next`, and every run
of the handler they start. -/
namespace NestWebTransport

inductive ParameterKind
  | session
  | stream
  | payload
  | context
  deriving DecidableEq, Repr

structure ParameterMetadata where
  index : Nat
  kind : ParameterKind
  pipes : List Nat
  deriving DecidableEq, Repr

/-- The decorated parameters of a method, at most one for each position. -/
structure ParameterTable where
  list : List ParameterMetadata
  nodup : (list.map ParameterMetadata.index).Nodup

/-- What one more parameter decorator makes of the table: it replaces the parameter at its position
and keeps them sorted. -/
def createParameterDecorator (parameters : ParameterTable) (parameter : ParameterMetadata) :
    ParameterTable where
  list := (parameters.list.filter (fun p => p.index ≠ parameter.index) ++ [parameter]).mergeSort
    fun left right => left.index ≤ right.index
  nodup := by
    have hkept : ((parameters.list.filter fun p => p.index ≠ parameter.index).map
        ParameterMetadata.index).Nodup := (List.filter_sublist.map _).nodup parameters.nodup
    refine (((List.mergeSort_perm _ _).map _).nodup_iff).mpr ?_
    rw [List.map_append, List.nodup_append]
    refine ⟨hkept, by simp, ?_⟩
    rintro _ hmem _ hlast rfl
    obtain ⟨p, hp, hindex⟩ := List.mem_map.mp hmem
    have hne := (List.mem_filter.mp hp).2
    simp only [List.map_singleton, List.mem_singleton] at hlast
    simp [hindex, hlast] at hne

/-- At its position the parameter decorated last is the only one; the others stay. -/
theorem mem_createParameterDecorator {parameters : ParameterTable}
    {parameter other : ParameterMetadata} :
    other ∈ (createParameterDecorator parameters parameter).list ↔
      other = parameter ∨ other ∈ parameters.list ∧ other.index ≠ parameter.index := by
  simp [createParameterDecorator, or_comm]

/-- The table stays sorted by position. -/
theorem createParameterDecorator_sorted (parameters : ParameterTable)
    (parameter : ParameterMetadata) :
    (createParameterDecorator parameters parameter).list.Pairwise
      fun left right => left.index ≤ right.index := by
  have htrans : ∀ a b c : ParameterMetadata, decide (a.index ≤ b.index) = true →
      decide (b.index ≤ c.index) = true → decide (a.index ≤ c.index) = true := by
    intro a b c hab hbc
    simp only [decide_eq_true_eq] at *
    omega
  have htotal : ∀ a b : ParameterMetadata,
      (decide (a.index ≤ b.index) || decide (b.index ≤ a.index)) = true := by
    intro a b
    simp only [Bool.or_eq_true, decide_eq_true_eq]
    omega
  have hsorted := List.pairwise_mergeSort htrans htotal
    (parameters.list.filter (fun p => p.index ≠ parameter.index) ++ [parameter])
  exact hsorted.imp of_decide_eq_true

structure PipelineConfig extends ApplicationConfig where
  globalInterceptors : List Nat
  globalRequestInterceptors : List Nat
  globalPipes : List Nat
  globalRequestPipes : List Nat

structure PipelineHandler extends CompiledWebTransportHandler where
  classInterceptors : List Nat
  methodInterceptors : List Nat
  classPipes : List Nat
  methodPipes : List Nat
  callbackLength : Nat
  parameters : ParameterTable
  parameterTypes : List Nat

structure WebTransportHandlerArguments (β : Type) where
  session : β
  stream : β
  datagram : β
  payload : β
  context : β

def extractParameter {β : Type} (kind : ParameterKind) (args : WebTransportHandlerArguments β) :
    β :=
  match kind with
  | .session => args.session
  | .stream => args.stream
  | .payload => args.payload
  | .context => args.context

/-- Its `type` is always `custom`. -/
structure ArgumentMetadata where
  metatype : Option Nat
  data : ParameterKind
  deriving DecidableEq, Repr

/-- What an invocation calls, and what it is answered. `run` numbers the calls of `invokeHandler`
and `parameter` the decorated parameters. -/
inductive PipelineEntry (β : Type)
  | guard (guard : Nat)
  | decided (guard : Nat) (decision : GuardDecision)
  | aborted
  | interceptor (index : Nat)
  | pipe (run parameter pipe : Nat) (metadata : ArgumentMetadata) (value : β)
  | transformed (run parameter pipe : Nat) (value result : β)
  | callback (run : Nat) (args : List (Option β))
  deriving DecidableEq, Repr

/-- Where a parameter of one run is; `piping` awaits the first of the remaining pipes. -/
inductive ParameterPhase (β : Type)
  | unstarted
  | resolving
  | piping (remaining : List Nat) (value : β)
  | done
  | failed
  deriving DecidableEq, Repr

namespace ParameterPhase

variable {β : Type}

def isResolving : ParameterPhase β → Bool
  | .resolving => true
  | _ => false

def isPiping : ParameterPhase β → Bool
  | .piping _ _ => true
  | _ => false

def isDone : ParameterPhase β → Bool
  | .done => true
  | _ => false

end ParameterPhase

inductive RunPhase
  | resolvingPipes
  | transforming
  | applied
  | failed
  deriving DecidableEq, Repr

structure HandlerRun (β : Type) where
  phase : RunPhase
  args : List (Option β)
  parameter : Nat → ParameterPhase β

/-- `intercepted` holds the interceptors that were called and have `next` in hand, `observables` the
level of each observable that `dispatch` returned. -/
structure PipelineState (β : Type) where
  aborted : Option Failure
  main : Invocation
  intercepted : List Nat
  observables : List Nat
  runCount : Nat
  run : Nat → HandlerRun β
  log : List (PipelineEntry β)

inductive InvocationEvent (β : Type)
  | abort (reason : Failure)
  | gatewayResolved (result : Except Failure Unit)
  | guardsResolved (result : Except Failure Unit)
  | guardDecided (decision : GuardDecision)
  | interceptorsResolved (result : Except Failure Unit)
  | handle (interceptor : Nat)
  | subscribe (observable : Nat)
  | pipesResolved (run : Nat) (result : Except Failure Unit)
  | parameterResolved (run parameter : Nat) (result : Except Failure Unit)
  | pipeSettled (run parameter : Nat) (result : Except Failure β)
  | argumentsReady (run : Nat)
  | interceptedSettled (result : Except Failure Unit)
  | filtersResolved (result : Except Failure Unit)
  | filterReturned (result : Except Failure Unit)

namespace PipelineState

open WebTransportExecutionPipeline

variable {β : Type} (config : PipelineConfig) (handler : PipelineHandler)
  (transportArguments : WebTransportHandlerArguments β) (s : PipelineState β)

def interceptors : List Nat :=
  config.globalInterceptors ++ config.globalRequestInterceptors ++ handler.classInterceptors ++
    handler.methodInterceptors

def sharedPipes : List Nat :=
  config.globalPipes ++ config.globalRequestPipes ++ handler.classPipes ++ handler.methodPipes

/-- The length of the array that `createArguments` allocates. -/
def argumentCount : Nat :=
  max handler.callbackLength (handler.parameters.list.foldl (fun n p => max n (p.index + 1)) 0)

/-- The main thread goes on, which may call the next guard. -/
def proceed (main : Invocation) : PipelineState β :=
  match main with
  | .pending (.guarding (guard :: _)) => { s with main, log := s.log ++ [.guard guard] }
  | _ => { s with main }

/-- `dispatch` throws once the signal is aborted; else it returns an observable. -/
def dispatch (index : Nat) : PipelineState β :=
  if s.aborted.isSome then s else { s with observables := s.observables ++ [index] }

def invokeHandler : PipelineState β :=
  let run : HandlerRun β :=
    { phase := if s.aborted.isSome then .failed else .resolvingPipes
      args := List.replicate (argumentCount handler) none
      parameter := fun _ => .unstarted }
  { s with runCount := s.runCount + 1, run := Function.update s.run s.runCount run }

/-- An observable of `dispatch` is subscribed to. -/
def subscribe (index : Nat) : PipelineState β :=
  if index < (interceptors config handler).length then
    { s with intercepted := s.intercepted ++ [index], log := s.log ++ [.interceptor index] }
  else s.invokeHandler handler

def setRun (r : Nat) (run : HandlerRun β) : PipelineState β :=
  { s with run := Function.update s.run r run }

def setParameter (r p : Nat) (phase : ParameterPhase β) : PipelineState β :=
  s.setRun r { s.run r with parameter := Function.update (s.run r).parameter p phase }

/-- The promise of one parameter rejects, and with it `createArguments`. -/
def rejectParameter (r p : Nat) : PipelineState β :=
  let s := s.setParameter r p .failed
  s.setRun r { s.run r with
    phase := if (s.run r).phase = .transforming then .failed else (s.run r).phase }

/-- The loop over the pipes of one parameter reaches the next one. -/
def nextPipe (r p : Nat) (parameter : ParameterMetadata) (remaining : List Nat) (value : β) :
    PipelineState β :=
  match remaining with
  | [] =>
    let s := s.setParameter r p .done
    s.setRun r { s.run r with args := (s.run r).args.set parameter.index (some value) }
  | pipe :: _ =>
    if s.aborted.isSome then s.rejectParameter r p
    else
      let metadata := ⟨handler.parameterTypes[parameter.index]?, parameter.kind⟩
      { s.setParameter r p (.piping remaining value) with
        log := s.log ++ [.pipe r p pipe metadata value] }

def pipesResolved (r : Nat) (result : Except Failure Unit) : PipelineState β :=
  match result with
  | .error _ => s.setRun r { s.run r with phase := .failed }
  | .ok _ => s.setRun r { s.run r with phase := .transforming, parameter := fun _ => .resolving }

def parameterResolved (r p : Nat) (result : Except Failure Unit) : PipelineState β :=
  match result, handler.parameters.list[p]? with
  | .ok _, some parameter =>
    s.nextPipe handler r p parameter (sharedPipes config handler ++ parameter.pipes)
      (extractParameter parameter.kind transportArguments)
  | _, _ => s.rejectParameter r p

def pipeSettled (r p : Nat) (result : Except Failure β) : PipelineState β :=
  match result, (s.run r).parameter p, handler.parameters.list[p]? with
  | .ok result, .piping (pipe :: remaining) value, some parameter =>
    nextPipe handler { s with log := s.log ++ [.transformed r p pipe value result] } r p parameter
      remaining result
  | _, _, _ => s.rejectParameter r p

/-- `createArguments` has fulfilled. -/
def argumentsReady (r : Nat) : PipelineState β :=
  if appliesCallback s.aborted then
    { s.setRun r { s.run r with phase := .applied } with
      log := s.log ++ [.callback r (s.run r).args] }
  else s.setRun r { s.run r with phase := .failed }

/-- The interceptors are resolved: `lastValueFrom` subscribes to what the first `dispatch` made. -/
def interceptorsResolved (result : Except Failure Unit) : PipelineState β :=
  let s := s.proceed (WebTransportExecutionPipeline.interceptorsResolved s.aborted result)
  if s.main = .pending .intercepting then (s.dispatch 0).subscribe config handler 0 else s

def guardDecided (decision : GuardDecision) : PipelineState β :=
  match s.main with
  | .pending (.guarding (guard :: remaining)) =>
    proceed { s with log := s.log ++ [.decided guard decision] }
      (WebTransportExecutionPipeline.guardDecided s.aborted (guard :: remaining) decision)
  | _ => s

def filtersResolved (result : Except Failure Unit) : PipelineState β :=
  match s.main with
  | .pending (.resolvingFilters error fromGuard) =>
    s.proceed (WebTransportExecutionPipeline.filtersResolved config.toApplicationConfig
      handler.toCompiledWebTransportHandler error fromGuard result)
  | _ => s

def filterReturned (result : Except Failure Unit) : PipelineState β :=
  match s.main with
  | .pending (.catching _ _) => s.proceed (WebTransportExecutionPipeline.filterReturned result)
  | _ => s

/-- An interceptor may call `next.handle` at any time after it was called, and subscribe to what it
got as often and as late as it likes; the pipes of different parameters settle in any order. -/
def enabled : InvocationEvent β → Bool
  | .abort _ => s.aborted.isNone
  | .gatewayResolved _ => s.main = .pending .resolvingGateway
  | .guardsResolved _ => s.main = .pending .resolvingGuards
  | .guardDecided _ => match s.main with
    | .pending (.guarding (_ :: _)) => true
    | _ => false
  | .interceptorsResolved _ => s.main = .pending .resolvingInterceptors
  | .handle interceptor => interceptor ∈ s.intercepted
  | .subscribe observable => observable < s.observables.length
  | .pipesResolved r _ => r < s.runCount ∧ (s.run r).phase = .resolvingPipes
  | .parameterResolved r p _ => r < s.runCount ∧ p < handler.parameters.list.length ∧
      ((s.run r).parameter p).isResolving
  | .pipeSettled r p _ => r < s.runCount ∧ p < handler.parameters.list.length ∧
      ((s.run r).parameter p).isPiping
  | .argumentsReady r => r < s.runCount ∧ (s.run r).phase = .transforming ∧
      ∀ p < handler.parameters.list.length, ((s.run r).parameter p).isDone
  | .interceptedSettled _ => s.main = .pending .intercepting
  | .filtersResolved _ => match s.main with
    | .pending (.resolvingFilters _ _) => true
    | _ => false
  | .filterReturned _ => match s.main with
    | .pending (.catching _ _) => true
    | _ => false

def next : InvocationEvent β → PipelineState β
  | .abort reason => { s with aborted := some reason, log := s.log ++ [.aborted] }
  | .gatewayResolved result =>
    s.proceed (gatewayResolved handler.toCompiledWebTransportHandler s.aborted result)
  | .guardsResolved result =>
    s.proceed (guardsResolved config.toApplicationConfig handler.toCompiledWebTransportHandler
      s.aborted result)
  | .guardDecided decision => s.guardDecided decision
  | .interceptorsResolved result => s.interceptorsResolved config handler result
  | .handle interceptor => s.dispatch (interceptor + 1)
  | .subscribe observable => s.subscribe config handler ((s.observables[observable]?).getD 0)
  | .pipesResolved r result => s.pipesResolved r result
  | .parameterResolved r p result =>
    s.parameterResolved config handler transportArguments r p result
  | .pipeSettled r p result => s.pipeSettled handler r p result
  | .argumentsReady r => s.argumentsReady r
  | .interceptedSettled result =>
      s.proceed (WebTransportExecutionPipeline.intercepted s.aborted result)
  | .filtersResolved result => s.filtersResolved config handler result
  | .filterReturned result => s.filterReturned result

/-- The call of `invoke`. -/
def new (aborted : Option Failure) : PipelineState β where
  aborted
  main := invoke aborted
  intercepted := []
  observables := []
  runCount := 0
  run := fun _ => ⟨.failed, [], fun _ => .unstarted⟩
  log := if aborted.isSome then [.aborted] else []

def program (aborted : Option Failure) : Program (PipelineState β) (InvocationEvent β) :=
  ⟨new aborted, enabled handler, next config handler transportArguments⟩

end PipelineState

end NestWebTransport
