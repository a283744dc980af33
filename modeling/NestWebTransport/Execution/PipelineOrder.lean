import NestWebTransport.Execution.PipelineInvocation
import NestWebTransport.Foundation.History

/-! In which order an invocation calls its guards, its pipes and its callback. -/
namespace NestWebTransport

open WebTransportExecutionPipeline

variable {β : Type} {config : PipelineConfig} {handler : PipelineHandler}
  {transportArguments : WebTransportHandlerArguments β} {log : List (PipelineEntry β)}

namespace PipelineEntry

/-- A denial, by a decision or by an exception, or the abort of the signal. -/
def Ends : PipelineEntry β → Prop
  | .aborted => True
  | .decided _ decision => decision ≠ .allowed
  | _ => False

/-- A call of a guard, of a pipe or of the callback. -/
def Starts : PipelineEntry β → Prop
  | .guard _ | .pipe .. | .callback .. => True
  | _ => False

def decision? : PipelineEntry β → Option (Nat × GuardDecision)
  | .decided g decision => some (g, decision)
  | _ => none

/-- A call of a pipe for one parameter of one run, with its result. -/
def call? (r p : Nat) : PipelineEntry β → Option (Nat × β × β)
  | .transformed run parameter f value result =>
    if run = r ∧ parameter = p then some (f, value, result) else none
  | _ => none

end PipelineEntry

/-- What the guards decided, in order. -/
def decisions (log : List (PipelineEntry β)) : List (Nat × GuardDecision) :=
  log.filterMap PipelineEntry.decision?

/-- The calls of pipes that returned for one parameter of one run, in order. -/
def pipeCalls (log : List (PipelineEntry β)) (r p : Nat) : List (Nat × β × β) :=
  log.filterMap (PipelineEntry.call? r p)

/-- Every guard, in the order they run, and that each allows the invocation. -/
def allAllowed (config : PipelineConfig) (handler : PipelineHandler) : List (Nat × GuardDecision) :=
  (guards config.toApplicationConfig handler.toCompiledWebTransportHandler).map (·, .allowed)

/-- The argument of a decorated parameter went through the shared pipes and then through its own. -/
def Composed (config : PipelineConfig) (handler : PipelineHandler)
    (transportArguments : WebTransportHandlerArguments β) (parameter : ParameterMetadata)
    (calls : List (Nat × β × β)) (value : β) : Prop :=
  Threads (PipelineState.sharedPipes config handler ++ parameter.pipes)
    (extractParameter parameter.kind transportArguments) calls value

/-- What is right about an entry when it is made: nothing starts after a denial or an abort, and the
callback is applied once every guard has allowed it, to arguments that went through their pipes. -/
def Orderly (config : PipelineConfig) (handler : PipelineHandler)
    (transportArguments : WebTransportHandlerArguments β) (before : List (PipelineEntry β))
    (entry : PipelineEntry β) : Prop :=
  (entry.Starts → ∀ e ∈ before, ¬ e.Ends) ∧
    ∀ r args, entry = .callback r args →
      decisions before = allAllowed config handler ∧
      ∀ p parameter, handler.parameters.list[p]? = some parameter →
        ∃ value, args[parameter.index]? = some (some value) ∧
          Composed config handler transportArguments parameter (pipeCalls before r p) value

theorem orderly_idle {entry : PipelineEntry β} (h : ¬ entry.Starts) :
    Orderly config handler transportArguments log entry := by
  refine ⟨fun hstarts => absurd hstarts h, ?_⟩
  rintro r args rfl
  exact absurd trivial h

theorem orderly_call {entry : PipelineEntry β} (hquiet : ∀ e ∈ log, ¬ e.Ends)
    (h : ∀ r args, entry ≠ .callback r args) :
    Orderly config handler transportArguments log entry :=
  ⟨fun _ => hquiet, fun r args heq => absurd heq (h r args)⟩

theorem decisions_append (log added : List (PipelineEntry β)) :
    decisions (log ++ added) = decisions log ++ decisions added := List.filterMap_append ..

theorem pipeCalls_append (log added : List (PipelineEntry β)) (r p : Nat) :
    pipeCalls (log ++ added) r p = pipeCalls log r p ++ pipeCalls added r p :=
  List.filterMap_append ..

theorem quiet_of_allowed (haborted : .aborted ∉ log)
    (hallowed : ∀ d ∈ decisions log, d.2 = .allowed) : ∀ e ∈ log, ¬ e.Ends := by
  intro e he hends
  cases e with
  | aborted => exact haborted he
  | decided guard decision =>
    exact hends (hallowed (guard, decision) (List.mem_filterMap.mpr ⟨_, he, rfl⟩))
  | guard _ => exact hends
  | interceptor _ => exact hends
  | pipe _ _ _ _ _ => exact hends
  | transformed _ _ _ _ _ => exact hends
  | callback _ _ => exact hends

theorem allAllowed_allowed : ∀ d ∈ allAllowed config handler, d.2 = .allowed := by
  intro d hd
  obtain ⟨guard, -, rfl⟩ := List.mem_map.mp hd
  rfl

namespace PipelineState

variable {s t : PipelineState β} {skip : Option (Nat × Nat)} {r p : Nat}
  {parameter : ParameterMetadata} {value : β} {remaining : List Nat}

/-! ### The guards -/

/-- What has been decided when the main thread is where it is. Observables exist only once every
guard has allowed the invocation. -/
def Staged (config : PipelineConfig) (handler : PipelineHandler) (main : Invocation)
    (decided : List (Nat × GuardDecision)) (observables : List Nat) : Prop :=
  match main with
  | .pending .resolvingGateway => decided = [] ∧ observables = []
  | .pending .resolvingGuards => decided = [] ∧ observables = []
  | .pending (.guarding remaining) =>
    (∃ done, guards config.toApplicationConfig handler.toCompiledWebTransportHandler =
        done ++ remaining ∧ decided = done.map (·, .allowed)) ∧ observables = []
  | .pending .resolvingInterceptors => decided = allAllowed config handler ∧ observables = []
  | .pending .intercepting => decided = allAllowed config handler
  | _ => observables = [] ∨ decided = allAllowed config handler

theorem Staged.passed {main : Invocation} {decided : List (Nat × GuardDecision)}
    {observables : List Nat} (h : Staged config handler main decided observables)
    (hsome : observables ≠ []) : decided = allAllowed config handler := by
  unfold Staged at h
  split at h
  · exact absurd h.2 hsome
  · exact absurd h.2 hsome
  · exact absurd h.2 hsome
  · exact h.1
  · exact h
  · exact h.resolve_left hsome

/-- Once every guard has allowed the invocation there may be more observables. -/
theorem Staged.observe {main : Invocation} {decided : List (Nat × GuardDecision)}
    {observables : List Nat} (h : Staged config handler main decided observables)
    (hmain : main = .pending .intercepting ∨ observables ≠ []) (index : Nat) :
    Staged config handler main decided (observables ++ [index]) := by
  rcases hmain with rfl | hsome
  · exact h
  · have hpassed := h.passed hsome
    unfold Staged at h ⊢
    split at h
    · exact absurd h.2 hsome
    · exact absurd h.2 hsome
    · exact absurd h.2 hsome
    · exact absurd h.2 hsome
    · exact hpassed
    · exact Or.inr hpassed

/-- An invocation that is over, or about to be, has nothing more to keep to. -/
def Over : Invocation → Prop
  | .pending (.resolvingFilters ..) | .pending (.catching ..) | .fulfilled | .rejected _ => True
  | _ => False

theorem Staged.over {main : Invocation} {decided : List (Nat × GuardDecision)}
    {observables : List Nat} (h : Over main)
    (hkept : observables = [] ∨ decided = allAllowed config handler) :
    Staged config handler main decided observables := by
  unfold Over at h
  unfold Staged
  split at h
  · exact hkept
  · exact hkept
  · exact hkept
  · exact hkept
  · cases h

theorem over_caught (aborted : Option Failure) (error : Failure) (fromGuard : Bool) :
    Over (caught aborted error fromGuard) := by
  unfold caught
  cases aborted <;> trivial

/-! ### What holds between two events -/

/-- Where one parameter of a run is, against the calls its pipes have returned from. -/
def Progress (config : PipelineConfig) (handler : PipelineHandler)
    (transportArguments : WebTransportHandlerArguments β) (parameter : ParameterMetadata)
    (args : List (Option β)) (calls : List (Nat × β × β)) : ParameterPhase β → Prop
  | .unstarted | .resolving => calls = []
  | .piping remaining value => ∃ done, sharedPipes config handler ++ parameter.pipes =
      done ++ remaining ∧
      Threads done (extractParameter parameter.kind transportArguments) calls value
  | .done => ∃ value, args[parameter.index]? = some (some value) ∧
      Composed config handler transportArguments parameter calls value
  | .failed => True

/-- `skip` is the parameter whose loop is in the middle of a turn. -/
structure Sound (config : PipelineConfig) (handler : PipelineHandler)
    (transportArguments : WebTransportHandlerArguments β) (skip : Option (Nat × Nat))
    (s : PipelineState β) : Prop where
  entries : Always (Orderly config handler transportArguments) s.log
  aborted : .aborted ∈ s.log → s.aborted.isSome
  staged : Staged config handler s.main (decisions s.log) s.observables
  reached : s.intercepted ≠ [] ∨ 0 < s.runCount → s.observables ≠ []
  length : ∀ r < s.runCount, (s.run r).args.length = argumentCount handler
  fresh : ∀ r < s.runCount, (s.run r).phase = .resolvingPipes →
    ∀ p, (s.run r).parameter p = .unstarted
  progress : ∀ r < s.runCount, ∀ p parameter, handler.parameters.list[p]? = some parameter →
    skip ≠ some (r, p) → Progress config handler transportArguments parameter (s.run r).args
      (pipeCalls s.log r p) ((s.run r).parameter p)
  unborn : ∀ r, s.runCount ≤ r → ∀ p, pipeCalls s.log r p = []

theorem Sound.quiet (h : Sound config handler transportArguments skip s)
    (haborted : s.aborted = none)
    (hallowed : ∀ d ∈ decisions s.log, d.2 = .allowed) : ∀ e ∈ s.log, ¬ e.Ends := by
  refine quiet_of_allowed (fun hmem => ?_) hallowed
  have hsome := h.aborted hmem
  rw [haborted] at hsome
  cases hsome

theorem Sound.passed (h : Sound config handler transportArguments skip s) (hr : r < s.runCount) :
    decisions s.log = allAllowed config handler :=
  h.staged.passed (h.reached (Or.inr (Nat.zero_lt_of_lt hr)))

/-- An entry that neither decides nor returns anything leaves what is known of the runs alone. -/
theorem Sound.note (h : Sound config handler transportArguments skip s) {entry : PipelineEntry β}
    (horderly : Orderly config handler transportArguments s.log entry)
    (haborted : entry = .aborted → s.aborted.isSome) (hdecision : entry.decision? = none)
    (hcall : ∀ r p, entry.call? r p = none) :
    Sound config handler transportArguments skip { s with log := s.log ++ [entry] } := by
  have hdecisions : decisions (s.log ++ [entry]) = decisions s.log := by
    simp [decisions, hdecision]
  have hcalls : ∀ r p, pipeCalls (s.log ++ [entry]) r p = pipeCalls s.log r p := by
    intro r p
    simp [pipeCalls, hcall]
  refine { h with entries := h.entries.snoc horderly, aborted := ?_, staged := ?_, progress := ?_,
                  unborn := ?_ }
  · intro hmem
    rcases List.mem_append.mp hmem with hmem | hmem
    · exact h.aborted hmem
    · exact haborted (List.mem_singleton.mp hmem).symm
  · change Staged config handler s.main (decisions (s.log ++ [entry])) s.observables
    rw [hdecisions]
    exact h.staged
  · intro r hr p parameter hp hskip
    change Progress _ _ _ _ _ (pipeCalls (s.log ++ [entry]) r p) _
    rw [hcalls]
    exact h.progress r hr p parameter hp hskip
  · intro r hr p
    change pipeCalls (s.log ++ [entry]) r p = []
    rw [hcalls]
    exact h.unborn r hr p

/-! ### The main thread -/

/-- The main thread goes on to where its decisions allow it, and calls a guard only while the signal
is not aborted. -/
theorem Sound.proceed (h : Sound config handler transportArguments skip s) {main : Invocation}
    (hstaged : Staged config handler main (decisions s.log) s.observables)
    (haborted : ∀ g rest, main = .pending (.guarding (g :: rest)) → s.aborted = none) :
    Sound config handler transportArguments skip (s.proceed main) := by
  have hmain : Sound config handler transportArguments skip { s with main } :=
    { h with staged := hstaged }
  unfold PipelineState.proceed
  split
  · rename_i g rest
    obtain ⟨⟨done, -, hdone⟩, -⟩ := hstaged
    have hquiet : ∀ e ∈ s.log, ¬ e.Ends := by
      refine h.quiet (haborted g rest rfl) fun d hd => ?_
      rw [hdone] at hd
      obtain ⟨g', -, rfl⟩ := List.mem_map.mp hd
      rfl
    exact hmain.note (orderly_call hquiet fun _ _ => nofun) nofun rfl fun _ _ => rfl
  · exact hmain

theorem throwIfAborted_cases (aborted : Option Failure) (next : Invocation) :
    (∃ reason, throwIfAborted aborted next = .rejected reason) ∨
      (aborted = none ∧ throwIfAborted aborted next = next) := by
  cases aborted with
  | none => exact Or.inr ⟨rfl, rfl⟩
  | some reason => exact Or.inl ⟨reason, rfl⟩

/-- A stretch of the main thread that ends the invocation. -/
theorem Sound.over (h : Sound config handler transportArguments skip s) {main : Invocation}
    (hover : Over main)
    (hkept : s.observables = [] ∨ decisions s.log = allAllowed config handler) :
    Sound config handler transportArguments skip (s.proceed main) := by
  refine h.proceed (.over hover hkept) ?_
  rintro g rest rfl
  cases hover

/-- The gateway comes before every guard; one that fails ends the invocation. -/
theorem Sound.resolveGateway (h : Sound config handler transportArguments skip s)
    (hmain : s.main = .pending .resolvingGateway) (result : Except Failure Unit) :
    Sound config handler transportArguments skip
      (s.proceed (gatewayResolved handler.toCompiledWebTransportHandler s.aborted result)) := by
  have hstaged := h.staged
  rw [hmain] at hstaged
  obtain ⟨hnone, hnothing⟩ := hstaged
  cases result with
  | error error => exact h.over trivial (Or.inl hnothing)
  | ok _ =>
    unfold gatewayResolved
    rcases throwIfAborted_cases s.aborted _ with ⟨reason, heq⟩ | ⟨-, heq⟩
    · rw [heq]
      exact h.over trivial (Or.inl hnothing)
    · rw [heq]
      split_ifs
      · exact h.proceed ⟨hnone, hnothing⟩ fun _ _ => nofun
      · exact h.over trivial (Or.inl hnothing)

/-- The loop over the guards goes on with those that are left, all before them having allowed. -/
theorem Sound.nextGuard (h : Sound config handler transportArguments skip s) {done rest : List Nat}
    (hguards : guards config.toApplicationConfig handler.toCompiledWebTransportHandler =
      done ++ rest)
    (hdone : decisions s.log = done.map (·, .allowed)) (hnothing : s.observables = []) :
    Sound config handler transportArguments skip
      (s.proceed (WebTransportExecutionPipeline.nextGuard s.aborted rest)) := by
  cases rest with
  | nil =>
    refine h.proceed ⟨?_, hnothing⟩ fun _ _ => nofun
    rw [hdone, allAllowed, hguards, List.append_nil]
  | cons g rest =>
    unfold WebTransportExecutionPipeline.nextGuard
    simp only
    rcases throwIfAborted_cases s.aborted (.pending (.guarding (g :: rest))) with
      ⟨reason, heq⟩ | ⟨haborted, heq⟩
    · rw [heq]
      exact h.over trivial (Or.inl hnothing)
    · rw [heq]
      exact h.proceed ⟨⟨done, hguards, hdone⟩, hnothing⟩ fun _ _ _ => haborted

theorem Sound.resolveGuards (h : Sound config handler transportArguments skip s)
    (hmain : s.main = .pending .resolvingGuards) (result : Except Failure Unit) :
    Sound config handler transportArguments skip (s.proceed (guardsResolved
      config.toApplicationConfig handler.toCompiledWebTransportHandler s.aborted result)) := by
  have hstaged := h.staged
  rw [hmain] at hstaged
  obtain ⟨hnone, hnothing⟩ := hstaged
  cases result with
  | error error => exact h.over (over_caught _ _ _) (Or.inl hnothing)
  | ok _ => exact h.nextGuard (List.nil_append _).symm hnone hnothing

/-- The decision of a guard is noted; where the main thread goes is another matter. -/
theorem Sound.decided (h : Sound config handler transportArguments skip s) (g : Nat)
    (decision : GuardDecision) (hnothing : s.observables = []) (hover : Over s.main) :
    Sound config handler transportArguments skip
      { s with log := s.log ++ [.decided g decision] } := by
  have hcalls : ∀ r p, pipeCalls (s.log ++ [PipelineEntry.decided g decision]) r p =
      pipeCalls s.log r p := by
    intro r p
    rw [pipeCalls_append]
    exact List.append_nil _
  refine { h with entries := h.entries.snoc (orderly_idle id), aborted := ?_,
                  staged := .over hover (Or.inl hnothing), progress := ?_, unborn := ?_ }
  · intro hmem
    rcases List.mem_append.mp hmem with hmem | hmem
    · exact h.aborted hmem
    · cases List.mem_singleton.mp hmem
  · intro r hr p parameter hp hskip
    change Progress _ _ _ _ _ (pipeCalls (s.log ++ [_]) r p) _
    rw [hcalls]
    exact h.progress r hr p parameter hp hskip
  · intro r hr p
    change pipeCalls (s.log ++ [_]) r p = []
    rw [hcalls]
    exact h.unborn r hr p

/-- A guard that has decided is logged; the next one follows, or the denial. -/
theorem Sound.guardDecided (h : Sound config handler transportArguments skip s)
    (decision : GuardDecision) :
    Sound config handler transportArguments skip (s.guardDecided decision) := by
  unfold PipelineState.guardDecided
  split
  · rename_i g rest hmain
    have hstaged := h.staged
    rw [hmain] at hstaged
    obtain ⟨⟨done, hguards, hdone⟩, hnothing⟩ := hstaged
    -- The state in between, its main thread put aside.
    have hover : Sound config handler transportArguments skip { s with main := .fulfilled } :=
      { h with staged := Or.inl hnothing }
    have hnoted := hover.decided g decision hnothing trivial
    have hsame : PipelineState.proceed { s with log := s.log ++ [.decided g decision] } =
        PipelineState.proceed
          { s with main := .fulfilled, log := s.log ++ [.decided g decision] } := by
      funext main
      unfold PipelineState.proceed
      split <;> rfl
    rw [hsame]
    cases decision with
    | threw error => exact hnoted.over (over_caught _ _ _) (Or.inl hnothing)
    | denied =>
      unfold WebTransportExecutionPipeline.guardDecided
      simp only
      rcases throwIfAborted_cases s.aborted (caught s.aborted .forbidden true) with
        ⟨reason, heq⟩ | ⟨-, heq⟩
      · rw [heq]
        exact hnoted.over trivial (Or.inl hnothing)
      · rw [heq]
        exact hnoted.over (over_caught _ _ _) (Or.inl hnothing)
    | allowed =>
      unfold WebTransportExecutionPipeline.guardDecided
      simp only [List.tail_cons]
      rcases throwIfAborted_cases s.aborted
        (WebTransportExecutionPipeline.nextGuard s.aborted rest) with ⟨reason, heq⟩ | ⟨-, heq⟩
      · rw [heq]
        exact hnoted.over trivial (Or.inl hnothing)
      · rw [heq]
        have hmore : guards config.toApplicationConfig handler.toCompiledWebTransportHandler =
            (done ++ [g]) ++ rest := by
          rw [List.append_assoc]
          exact hguards
        refine hnoted.nextGuard hmore ?_ hnothing
        change decisions (s.log ++ [_]) = _
        rw [decisions_append, hdone, List.map_append]
        rfl
  · exact h

/-! ### The interceptors -/

theorem Sound.dispatch (h : Sound config handler transportArguments skip s)
    (hmain : s.main = .pending .intercepting ∨ s.observables ≠ []) (index : Nat) :
    Sound config handler transportArguments skip (s.dispatch index) := by
  unfold PipelineState.dispatch
  split_ifs
  · exact h
  · exact { h with staged := h.staged.observe hmain index, reached := fun _ => by simp }

/-- A new run starts with nothing asked of its pipes. -/
theorem Sound.invokeHandler (h : Sound config handler transportArguments skip s)
    (hsome : s.observables ≠ []) :
    Sound config handler transportArguments skip (s.invokeHandler handler) := by
  have hold : ∀ r, r < s.runCount → (s.invokeHandler handler).run r = s.run r :=
    fun r hr => Function.update_of_ne (Nat.ne_of_lt hr) _ _
  have hnew : (s.invokeHandler handler).run s.runCount =
      { phase := if s.aborted.isSome then .failed else .resolvingPipes
        args := List.replicate (argumentCount handler) none
        parameter := fun _ => .unstarted } := Function.update_self ..
  refine { h with reached := fun _ => hsome, length := ?_, fresh := ?_, progress := ?_,
                  unborn := fun r hr p => h.unborn r (Nat.le_of_succ_le hr) p }
  · intro r hr
    rcases Nat.lt_succ_iff_lt_or_eq.mp hr with hr | rfl
    · rw [hold r hr]
      exact h.length r hr
    · rw [hnew]
      exact List.length_replicate
  · intro r hr
    rcases Nat.lt_succ_iff_lt_or_eq.mp hr with hr | rfl
    · rw [hold r hr]
      exact h.fresh r hr
    · rw [hnew]
      exact fun _ _ => rfl
  · intro r hr p parameter hp hskip
    rcases Nat.lt_succ_iff_lt_or_eq.mp hr with hr | rfl
    · rw [hold r hr]
      exact h.progress r hr p parameter hp hskip
    · rw [hnew]
      exact h.unborn s.runCount (Nat.le_refl _) p

theorem Sound.subscribe (h : Sound config handler transportArguments skip s)
    (hsome : s.observables ≠ []) (index : Nat) :
    Sound config handler transportArguments skip (s.subscribe config handler index) := by
  unfold PipelineState.subscribe
  split_ifs
  · have hnoted : Sound config handler transportArguments skip
        { s with log := s.log ++ [.interceptor index] } :=
      h.note (orderly_idle id) nofun rfl fun _ _ => rfl
    exact { hnoted with reached := fun _ => hsome }
  · exact h.invokeHandler hsome

/-- The interceptors come behind the guards, all of which have passed. -/
theorem Sound.resolveInterceptors (h : Sound config handler transportArguments skip s)
    (hmain : s.main = .pending .resolvingInterceptors) (result : Except Failure Unit) :
    Sound config handler transportArguments skip
      (s.interceptorsResolved config handler result) := by
  have hstaged := h.staged
  rw [hmain] at hstaged
  obtain ⟨hpassed, hnothing⟩ := hstaged
  have hover : ∀ main, Over main →
      Sound config handler transportArguments skip (s.proceed main) ∧
        (s.proceed main).main ≠ .pending .intercepting := by
    intro main hmain
    refine ⟨h.over hmain (Or.inl hnothing), ?_⟩
    unfold PipelineState.proceed
    split
    · cases hmain
    · rintro rfl
      cases hmain
  unfold PipelineState.interceptorsResolved WebTransportExecutionPipeline.interceptorsResolved
  cases result with
  | error error =>
    obtain ⟨hsound, hne⟩ := hover _ (over_caught s.aborted error false)
    simp only
    rw [if_neg hne]
    exact hsound
  | ok _ =>
    simp only
    rcases throwIfAborted_cases s.aborted (.pending .intercepting) with
      ⟨reason, heq⟩ | ⟨haborted, heq⟩
    · obtain ⟨hsound, hne⟩ := hover (.rejected reason) trivial
      rw [heq, if_neg hne]
      exact hsound
    · have hgoes : Sound config handler transportArguments skip
          (s.proceed (.pending .intercepting)) := h.proceed hpassed fun _ _ => nofun
      have hthere : (s.proceed (.pending .intercepting)).main = .pending .intercepting := rfl
      have hsome : ((s.proceed (.pending .intercepting)).dispatch 0).observables ≠ [] := by
        unfold PipelineState.dispatch
        have hopen : (s.proceed (.pending .intercepting)).aborted = none := haborted
        rw [hopen, if_neg (by decide)]
        simp
      rw [heq, if_pos hthere]
      exact (hgoes.dispatch (Or.inl rfl) 0).subscribe hsome 0

/-! ### The runs of the handler -/

theorem Sound.skipping (h : Sound config handler transportArguments none s) (r p : Nat) :
    Sound config handler transportArguments (some (r, p)) s :=
  { h with progress := fun r' hr p' parameter hp _ => h.progress r' hr p' parameter hp nofun }

theorem setRun_run (s : PipelineState β) (r : Nat) (run : HandlerRun β) :
    (s.setRun r run).run r = run := Function.update_self ..

theorem setRun_run_of_ne {j : Nat} (s : PipelineState β) (run : HandlerRun β) (h : j ≠ r) :
    (s.setRun r run).run j = s.run j := Function.update_of_ne h _ _

theorem setRun_setRun (s : PipelineState β) (r : Nat) (run run' : HandlerRun β) :
    (s.setRun r run).setRun r run' = s.setRun r run' := by
  unfold setRun
  rw [Function.update_idem]

theorem rejectParameter_eq (s : PipelineState β) (r p : Nat) :
    s.rejectParameter r p = s.setRun r { s.run r with
      parameter := Function.update (s.run r).parameter p .failed
      phase := if (s.run r).phase = .transforming then .failed else (s.run r).phase } := by
  unfold rejectParameter setParameter
  simp only
  rw [setRun_setRun, setRun_run]

/-- A change of one run is sound where the run is; every other run is as it was. -/
theorem Sound.setRun (h : Sound config handler transportArguments skip s)
    {skip' : Option (Nat × Nat)} (run : HandlerRun β)
    (hothers : ∀ j q, j ≠ r → skip' ≠ some (j, q) → skip ≠ some (j, q))
    (hlength : run.args.length = argumentCount handler)
    (hfresh : run.phase = .resolvingPipes → ∀ p, run.parameter p = .unstarted)
    (hprogress : ∀ p parameter, handler.parameters.list[p]? = some parameter →
      skip' ≠ some (r, p) → Progress config handler transportArguments parameter run.args
        (pipeCalls s.log r p) (run.parameter p)) :
    Sound config handler transportArguments skip' (s.setRun r run) := by
  refine ⟨h.entries, h.aborted, h.staged, h.reached, ?_, ?_, ?_, h.unborn⟩
  · intro j hj
    by_cases he : j = r
    · rw [he, setRun_run]
      exact hlength
    · rw [setRun_run_of_ne s run he]
      exact h.length j hj
  · intro j hj
    by_cases he : j = r
    · rw [he, setRun_run]
      exact hfresh
    · rw [setRun_run_of_ne s run he]
      exact h.fresh j hj
  · intro j hj q parameter hq hskip
    by_cases he : j = r
    · rw [he, setRun_run]
      exact hprogress q parameter hq (he ▸ hskip)
    · rw [setRun_run_of_ne s run he]
      exact h.progress j hj q parameter hq (hothers j q he hskip)

/-- One parameter of a started run moves on; the other ones keep their arguments. -/
theorem Sound.setParameter (h : Sound config handler transportArguments (some (r, p)) s)
    (hr : r < s.runCount) (hparameter : handler.parameters.list[p]? = some parameter)
    {args : List (Option β)} {phase : RunPhase}
    {step : ParameterPhase β} (hphase : phase ≠ .resolvingPipes)
    (hlength : args.length = argumentCount handler)
    (hargs : ∀ q parameter', handler.parameters.list[q]? = some parameter' → q ≠ p →
      args[parameter'.index]? = (s.run r).args[parameter'.index]?)
    (hstep : Progress config handler transportArguments parameter args (pipeCalls s.log r p) step) :
    Sound config handler transportArguments none
      (s.setRun r ⟨phase, args, Function.update (s.run r).parameter p step⟩) := by
  refine h.setRun _ (fun j q hj _ => ?_) hlength (fun hf => absurd hf hphase) ?_
  · rintro heq
    exact hj (congrArg Prod.fst (Option.some.inj heq)).symm
  · intro q parameter' hq _
    by_cases hqp : q = p
    · subst hqp
      rw [hparameter] at hq
      cases hq
      simp only [Function.update_self]
      exact hstep
    · simp only [Function.update_of_ne hqp]
      have hold := h.progress r hr q parameter' hq fun heq =>
        hqp (congrArg Prod.snd (Option.some.inj heq)).symm
      cases hcase : (s.run r).parameter q with
      | unstarted =>
        rw [hcase] at hold
        exact hold
      | resolving =>
        rw [hcase] at hold
        exact hold
      | piping remaining value =>
        rw [hcase] at hold
        exact hold
      | done =>
        rw [hcase] at hold
        obtain ⟨value, hvalue, hcomposed⟩ := hold
        exact ⟨value, (hargs q parameter' hq hqp).trans hvalue, hcomposed⟩
      | failed => trivial

theorem Sound.rejectParameter (h : Sound config handler transportArguments (some (r, p)) s)
    (hr : r < s.runCount) (hparameter : handler.parameters.list[p]? = some parameter)
    (hstarted : (s.run r).phase ≠ .resolvingPipes) :
    Sound config handler transportArguments none (s.rejectParameter r p) := by
  rw [rejectParameter_eq]
  refine h.setParameter hr hparameter ?_ (h.length r hr) (fun _ _ _ _ => rfl) trivial
  split_ifs
  · nofun
  · exact hstarted

/-- Every decorated parameter has its place among the arguments. -/
theorem index_lt_argumentCount (hparameter : handler.parameters.list[p]? = some parameter) :
    parameter.index < argumentCount handler := by
  have hfold : ∀ (ps : List ParameterMetadata) (n : Nat),
      n ≤ ps.foldl (fun n p => max n (p.index + 1)) n ∧
        ∀ q ∈ ps, q.index < ps.foldl (fun n p => max n (p.index + 1)) n := by
    intro ps
    induction ps with
    | nil => exact fun n => ⟨Nat.le_refl n, nofun⟩
    | cons q ps ih =>
      intro n
      obtain ⟨hle, hlt⟩ := ih (max n (q.index + 1))
      refine ⟨by rw [List.foldl_cons]; omega, fun q' hq' => ?_⟩
      rw [List.foldl_cons]
      rcases List.mem_cons.mp hq' with rfl | hq'
      · omega
      · exact hlt q' hq'
  have hlt := (hfold handler.parameters.list 0).2 parameter (List.mem_of_getElem? hparameter)
  unfold argumentCount
  omega

theorem index_inj {q : Nat} {parameter' : ParameterMetadata}
    (hp : handler.parameters.list[p]? = some parameter)
    (hq : handler.parameters.list[q]? = some parameter')
    (h : parameter'.index = parameter.index) : q = p := by
  have hlt := (List.getElem?_eq_some_iff.mp hq).1
  refine (List.getElem?_inj (by simpa using hlt) handler.parameters.nodup).mp ?_
  rw [List.getElem?_map, List.getElem?_map, hp, hq, Option.map_some, Option.map_some, h]

/-- The loop over the pipes of one parameter goes on from the calls that have returned. -/
theorem Sound.nextPipe (h : Sound config handler transportArguments (some (r, p)) s)
    (hr : r < s.runCount) (hparameter : handler.parameters.list[p]? = some parameter)
    (hstarted : (s.run r).phase ≠ .resolvingPipes) {done : List Nat}
    (hpipes : sharedPipes config handler ++ parameter.pipes = done ++ remaining)
    (hcalls : Threads done (extractParameter parameter.kind transportArguments)
      (pipeCalls s.log r p) value) :
    Sound config handler transportArguments none
      (s.nextPipe handler r p parameter remaining value) := by
  have hindex := index_lt_argumentCount hparameter
  cases remaining with
  | nil =>
    have heq : s.nextPipe handler r p parameter [] value = s.setRun r ⟨(s.run r).phase,
        (s.run r).args.set parameter.index (some value),
        Function.update (s.run r).parameter p .done⟩ := by
      unfold PipelineState.nextPipe PipelineState.setParameter
      simp only
      rw [setRun_setRun, setRun_run]
    rw [heq]
    refine h.setParameter hr hparameter hstarted ?_ ?_ ⟨value, ?_, ?_⟩
    · rw [List.length_set]
      exact h.length r hr
    · intro q parameter' hq hne
      refine List.getElem?_set_ne fun hsame => hne ?_
      exact index_inj hparameter hq hsame.symm
    · refine List.getElem?_set_self ?_
      rw [h.length r hr]
      exact hindex
    · rw [Composed, hpipes, List.append_nil]
      exact hcalls
  | cons f remaining =>
    unfold PipelineState.nextPipe
    simp only
    split_ifs with haborted
    · exact h.rejectParameter hr hparameter hstarted
    · have hmoved : Sound config handler transportArguments none
          (s.setParameter r p (.piping (f :: remaining) value)) :=
        h.setParameter hr hparameter hstarted (h.length r hr) (fun _ _ _ _ => rfl)
          ⟨done, hpipes, hcalls⟩
      have hquiet : ∀ e ∈ s.log, ¬ e.Ends := by
        refine h.quiet (by simpa using haborted) ?_
        rw [h.passed hr]
        exact allAllowed_allowed
      exact hmoved.note (orderly_call hquiet fun _ _ => nofun) nofun rfl fun _ _ => rfl

/-- The shared pipes are resolved before the parameter's own. -/
theorem Sound.pipesResolved (h : Sound config handler transportArguments none s)
    (hr : r < s.runCount) (hphase : (s.run r).phase = .resolvingPipes)
    (result : Except Failure Unit) :
    Sound config handler transportArguments none (s.pipesResolved r result) := by
  have hunstarted := h.fresh r hr hphase
  have hcalls : ∀ p parameter, handler.parameters.list[p]? = some parameter →
      pipeCalls s.log r p = [] := by
    intro p parameter hp
    have hprogress := h.progress r hr p parameter hp nofun
    rw [hunstarted p] at hprogress
    exact hprogress
  cases result with
  | error error =>
    refine h.setRun _ (fun _ _ _ _ => nofun) (h.length r hr) (by rintro ⟨⟩) ?_
    intro p parameter hp _
    simp only [hunstarted p]
    exact hcalls p parameter hp
  | ok _ =>
    exact h.setRun _ (fun _ _ _ _ => nofun) (h.length r hr) (by rintro ⟨⟩)
      fun p parameter hp _ => hcalls p parameter hp

theorem Sound.started (h : Sound config handler transportArguments skip s) (hr : r < s.runCount)
    (hne : (s.run r).parameter p ≠ .unstarted) : (s.run r).phase ≠ .resolvingPipes :=
  fun hphase => hne (h.fresh r hr hphase p)

/-- A parameter whose pipes are there begins with the first of them, or is done without any. -/
theorem Sound.parameterResolved (h : Sound config handler transportArguments none s)
    (hr : r < s.runCount) (hp : p < handler.parameters.list.length)
    (hresolving : ((s.run r).parameter p).isResolving = true) (result : Except Failure Unit) :
    Sound config handler transportArguments none
      (s.parameterResolved config handler transportArguments r p result) := by
  have hparameter := List.getElem?_eq_getElem hp
  have hcase : (s.run r).parameter p = .resolving := by
    cases hcase : (s.run r).parameter p <;> rw [hcase] at hresolving <;> cases hresolving
  have hstarted := h.started (p := p) hr (by rw [hcase]; nofun)
  have hprogress := h.progress r hr p _ hparameter nofun
  rw [hcase] at hprogress
  unfold PipelineState.parameterResolved
  cases result with
  | error error => exact (h.skipping r p).rejectParameter hr hparameter hstarted
  | ok _ =>
    rw [hparameter]
    refine (h.skipping r p).nextPipe hr hparameter hstarted (List.nil_append _).symm ?_
    rw [show pipeCalls s.log r p = [] from hprogress]
    exact .nil

/-- The call of a pipe has returned: one more call of its parameter is known. -/
theorem Sound.transformed (h : Sound config handler transportArguments none s) (hr : r < s.runCount)
    (f : Nat) (value result : β) : Sound config handler transportArguments (some (r, p))
      { s with log := s.log ++ [.transformed r p f value result] } := by
  have hcalls : ∀ j q, (j, q) ≠ (r, p) →
      pipeCalls (s.log ++ [PipelineEntry.transformed r p f value result]) j q =
        pipeCalls s.log j q := by
    intro j q hne
    have hother : ¬ (r = j ∧ p = q) := fun ⟨hj, hq⟩ => hne (by rw [hj, hq])
    rw [pipeCalls_append]
    simp [pipeCalls, PipelineEntry.call?, hother]
  refine { h with entries := h.entries.snoc (orderly_idle id), aborted := ?_, staged := ?_,
                  progress := ?_, unborn := ?_ }
  · intro hmem
    rcases List.mem_append.mp hmem with hmem | hmem
    · exact h.aborted hmem
    · cases List.mem_singleton.mp hmem
  · change Staged config handler s.main (decisions (s.log ++ [_])) s.observables
    rw [decisions_append]
    exact (List.append_nil _).symm ▸ h.staged
  · intro j hj q parameter hq hskip
    change Progress _ _ _ _ _ (pipeCalls (s.log ++ [_]) j q) _
    rw [hcalls j q fun heq => hskip (by rw [heq])]
    exact h.progress j hj q parameter hq nofun
  · intro j hj q
    change pipeCalls (s.log ++ [_]) j q = []
    have hlt : r < j := Nat.lt_of_lt_of_le hr hj
    rw [hcalls j q fun heq => absurd (congrArg Prod.fst heq) (Nat.ne_of_gt hlt)]
    exact h.unborn j hj q

/-- A pipe's value goes to the next one of its parameter, and a failure to the run. -/
theorem Sound.pipeSettled (h : Sound config handler transportArguments none s)
    (hr : r < s.runCount) (hp : p < handler.parameters.list.length)
    (hpiping : ((s.run r).parameter p).isPiping = true) (result : Except Failure β) :
    Sound config handler transportArguments none (s.pipeSettled handler r p result) := by
  have hparameter := List.getElem?_eq_getElem hp
  have hstarted := h.started (p := p) hr fun hcase => by
    rw [hcase] at hpiping
    cases hpiping
  have hreject := (h.skipping r p).rejectParameter hr hparameter hstarted
  unfold PipelineState.pipeSettled
  split
  · rename_i result f remaining value parameter hcase hlist
    have hprogress := h.progress r hr p parameter hlist nofun
    rw [hcase] at hprogress
    obtain ⟨done, hpipes, hcalls⟩ := hprogress
    have hmore : sharedPipes config handler ++ parameter.pipes = (done ++ [f]) ++ remaining := by
      rw [hpipes, List.append_assoc]
      rfl
    refine (h.transformed hr f value result).nextPipe hr hlist hstarted hmore ?_
    change Threads _ _ (pipeCalls (s.log ++ [_]) r p) _
    rw [pipeCalls_append]
    have hlast : pipeCalls [PipelineEntry.transformed r p f value result] r p =
        [(f, value, result)] := by simp [pipeCalls, PipelineEntry.call?]
    rw [hlast]
    exact hcalls.snoc
  · exact hreject

/-- The handler is called once every parameter is done. -/
theorem Sound.argumentsReady (h : Sound config handler transportArguments none s)
    (hr : r < s.runCount)
    (hdone : ∀ p < handler.parameters.list.length, ((s.run r).parameter p).isDone = true) :
    Sound config handler transportArguments none (s.argumentsReady r) := by
  have hmoved : ∀ phase, phase ≠ .resolvingPipes → Sound config handler transportArguments none
      (s.setRun r { s.run r with phase }) := by
    intro phase hne
    refine h.setRun _ (fun _ _ _ _ => nofun) (h.length r hr) (fun heq => absurd heq hne) ?_
    exact fun p parameter hp _ => h.progress r hr p parameter hp nofun
  unfold PipelineState.argumentsReady
  split_ifs with happlies
  · have haborted : s.aborted = none := Option.isNone_iff_eq_none.mp happlies
    have hquiet : ∀ e ∈ s.log, ¬ e.Ends := by
      refine h.quiet haborted ?_
      rw [h.passed hr]
      exact allAllowed_allowed
    refine (hmoved .applied nofun).note ⟨fun _ => hquiet, ?_⟩ nofun rfl fun _ _ => rfl
    intro r' args heq
    cases heq
    refine ⟨h.passed hr, fun p parameter hp => ?_⟩
    have hprogress := h.progress r hr p parameter hp nofun
    have hcase := hdone p (List.getElem?_eq_some_iff.mp hp).1
    cases hat : (s.run r).parameter p <;> rw [hat] at hcase <;> cases hcase
    rw [hat] at hprogress
    exact hprogress
  · exact hmoved .failed nofun

/-! ### Whole invocations -/

theorem sound_new (aborted : Option Failure) :
    Sound config handler transportArguments none (new aborted) := by
  refine ⟨?_, ?_, ?_, ?_, nofun, nofun, nofun, ?_⟩
  · cases aborted with
    | none => exact Always.nil
    | some reason => exact Always.nil.snoc (orderly_idle id)
  · intro hmem
    cases aborted with
    | none => cases hmem
    | some reason => rfl
  · cases aborted with
    | none => exact ⟨rfl, rfl⟩
    | some reason => exact Or.inl rfl
  · rintro (hne | hlt)
    · exact absurd rfl hne
    · exact absurd hlt (Nat.lt_irrefl 0)
  · intro r _ p
    cases aborted <;> rfl

theorem Sound.abort (h : Sound config handler transportArguments none s) (reason : Failure) :
    Sound config handler transportArguments none
      { s with aborted := some reason, log := s.log ++ [.aborted] } := by
  have haborted : Sound config handler transportArguments none { s with aborted := some reason } :=
    { h with aborted := fun _ => rfl }
  exact haborted.note (orderly_idle id) (fun _ => rfl) rfl fun _ _ => rfl

/-- Filters are resolved only for an error. -/
theorem Sound.resolveFilters (h : Sound config handler transportArguments none s)
    (result : Except Failure Unit) : Sound config handler transportArguments none
      (s.filtersResolved config handler result) := by
  unfold PipelineState.filtersResolved
  split
  · rename_i error fromGuard hmain
    have hstaged := h.staged
    rw [hmain] at hstaged
    refine h.over ?_ hstaged
    unfold WebTransportExecutionPipeline.filtersResolved
    split
    · trivial
    · split_ifs <;> trivial
  · exact h

theorem Sound.returnFilter (h : Sound config handler transportArguments none s)
    (result : Except Failure Unit) :
    Sound config handler transportArguments none (s.filterReturned result) := by
  unfold PipelineState.filterReturned
  split
  · rename_i hmain
    have hstaged := h.staged
    rw [hmain] at hstaged
    cases result with
    | error error => exact h.over (show Over (.rejected error) from trivial) hstaged
    | ok _ => exact h.over (show Over .fulfilled from trivial) hstaged
  · exact h

/-- Each event advances one phase of the invocation, and the log grows by what that phase calls. -/
theorem Sound.next (h : Sound config handler transportArguments none s) (e : InvocationEvent β)
    (he : s.enabled handler e = true) :
    Sound config handler transportArguments none (s.next config handler transportArguments e) := by
  cases e with
  | abort reason => exact h.abort reason
  | gatewayResolved result => exact h.resolveGateway (of_decide_eq_true he) result
  | guardsResolved result => exact h.resolveGuards (of_decide_eq_true he) result
  | guardDecided decision => exact h.guardDecided decision
  | interceptorsResolved result => exact h.resolveInterceptors (of_decide_eq_true he) result
  | handle interceptor =>
    have hmem : interceptor ∈ s.intercepted := of_decide_eq_true he
    exact h.dispatch (Or.inr (h.reached (Or.inl (List.ne_nil_of_mem hmem)))) _
  | subscribe observable =>
    have hlt : observable < s.observables.length := of_decide_eq_true he
    exact h.subscribe (List.ne_nil_of_length_pos (Nat.zero_lt_of_lt hlt)) _
  | pipesResolved r result =>
    obtain ⟨hr, hphase⟩ : r < s.runCount ∧ (s.run r).phase = .resolvingPipes :=
      of_decide_eq_true he
    exact h.pipesResolved hr hphase result
  | parameterResolved r p result =>
    obtain ⟨hr, hp, hresolving⟩ : r < s.runCount ∧ p < handler.parameters.list.length ∧
      ((s.run r).parameter p).isResolving = true := of_decide_eq_true he
    exact h.parameterResolved hr hp hresolving result
  | pipeSettled r p result =>
    obtain ⟨hr, hp, hpiping⟩ : r < s.runCount ∧ p < handler.parameters.list.length ∧
      ((s.run r).parameter p).isPiping = true := of_decide_eq_true he
    exact h.pipeSettled hr hp hpiping result
  | argumentsReady r =>
    obtain ⟨hr, -, hdone⟩ : r < s.runCount ∧ (s.run r).phase = .transforming ∧
      ∀ p < handler.parameters.list.length, ((s.run r).parameter p).isDone = true :=
        of_decide_eq_true he
    exact h.argumentsReady hr hdone
  | interceptedSettled result =>
    have hmain : s.main = .pending .intercepting := of_decide_eq_true he
    have hstaged := h.staged
    rw [hmain] at hstaged
    cases result with
    | error error => exact h.over (over_caught _ _ _) (Or.inr hstaged)
    | ok _ => exact h.over (show Over .fulfilled from trivial) (Or.inr hstaged)
  | filtersResolved result => exact h.resolveFilters result
  | filterReturned result => exact h.returnFilter result

/-- In every invocation nothing is called after a denial or an abort, and the callback is applied
only when every guard has allowed it, in the order global, request, class, method, to arguments that
went through the shared pipes, in the same order, and then through their own. -/
theorem invocation_orderly (config : PipelineConfig) (handler : PipelineHandler)
    (transportArguments : WebTransportHandlerArguments β) (aborted : Option Failure)
    (s : PipelineState β)
    (h : (program config handler transportArguments aborted).machine.Reachable s) :
    ∀ before entry after, s.log = before ++ entry :: after →
      (entry.Starts → ∀ e ∈ before, ¬ e.Ends) ∧
        ∀ r args, entry = .callback r args →
          decisions before = (config.globalGuards ++ config.globalRequestGuards ++
            handler.classGuards ++ handler.methodGuards).map (·, .allowed) ∧
          .aborted ∉ before ∧
          ∀ p parameter, handler.parameters.list[p]? = some parameter →
            ∃ value, args[parameter.index]? = some (some value) ∧
              Threads (config.globalPipes ++ config.globalRequestPipes ++ handler.classPipes ++
                  handler.methodPipes ++ parameter.pipes)
                (extractParameter parameter.kind transportArguments) (pipeCalls before r p) value ∧
              ∀ g : Nat → β → β,
                (∀ call ∈ pipeCalls before r p, call.2.2 = g call.1 call.2.1) →
                  value = (config.globalPipes ++ config.globalRequestPipes ++ handler.classPipes ++
                      handler.methodPipes ++ parameter.pipes).foldl
                    (fun value f => g f value)
                    (extractParameter parameter.kind transportArguments) := by
  have hsound : Sound config handler transportArguments none s := by
    refine h.invariant (P := Sound config handler transportArguments none) ?_ ?_
    · rintro _ rfl
      exact sound_new aborted
    · rintro s e _ ⟨he, rfl⟩ hs
      exact hs.next e he
  intro before entry after hlog
  obtain ⟨hquiet, hcallback⟩ := hsound.entries before entry after hlog
  refine ⟨hquiet, fun r args hentry => ?_⟩
  obtain ⟨hallowed, hargs⟩ := hcallback r args hentry
  refine ⟨hallowed, fun hmem => ?_, fun p parameter hp => ?_⟩
  · subst hentry
    exact hquiet trivial .aborted hmem trivial
  · obtain ⟨value, hvalue, hcomposed⟩ := hargs p parameter hp
    exact ⟨value, hvalue, hcomposed, fun g hg => hcomposed.foldl hg⟩

def chatConfig : PipelineConfig where
  globalGuards := [7]
  globalRequestGuards := [8]
  globalFilters := []
  globalRequestFilters := []
  globalInterceptors := [5]
  globalRequestInterceptors := []
  globalPipes := [1]
  globalRequestPipes := [6]

/-- Its second parameter is the payload. -/
def chatHandler : PipelineHandler where
  gatewayPath := "/chat"
  kind := .datagram
  route := none
  callable := true
  classGuards := [9]
  methodGuards := [10]
  classFilters := []
  methodFilters := []
  classInterceptors := []
  methodInterceptors := []
  classPipes := [3]
  methodPipes := [4]
  callbackLength := 2
  parameters := createParameterDecorator ⟨[], List.nodup_nil⟩ ⟨1, .payload, [2]⟩
  parameterTypes := []

theorem chatHandler_parameters : chatHandler.parameters.list = [⟨1, .payload, [2]⟩] := by
  simp [chatHandler, createParameterDecorator]

/-- The interceptor asks for the handler twice; the second run comes after the abort. -/
theorem invocation_orderly_twice : ∃ s : PipelineState Nat,
    (program chatConfig chatHandler ⟨0, 1, 2, 3, 4⟩ none).machine.Reachable s ∧
      .callback 0 [none, some 36] ∈ s.log ∧ .aborted ∈ s.log ∧ s.runCount = 2 ∧
      ∀ before after, s.log = before ++ .callback 0 [none, some 36] :: after →
        decisions before = [(7, .allowed), (8, .allowed), (9, .allowed), (10, .allowed)] ∧
          .aborted ∉ before ∧ Threads [1, 6, 3, 4, 2] 3 (pipeCalls before 0 0) 36 := by
  obtain ⟨s, hrun, hcallback, haborted, hruns⟩ :=
    (program chatConfig chatHandler (⟨0, 1, 2, 3, 4⟩ : WebTransportHandlerArguments Nat)
      none).exists_run
      [.gatewayResolved (.ok ()), .guardsResolved (.ok ()), .guardDecided .allowed,
        .guardDecided .allowed, .guardDecided .allowed, .guardDecided .allowed,
        .interceptorsResolved (.ok ()), .handle 0, .subscribe 1, .subscribe 1,
        .pipesResolved 0 (.ok ()), .parameterResolved 0 0 (.ok ()), .pipeSettled 0 0 (.ok 32),
        .pipeSettled 0 0 (.ok 33), .pipeSettled 0 0 (.ok 34), .pipeSettled 0 0 (.ok 35),
        .pipeSettled 0 0 (.ok 36), .argumentsReady 0, .abort .forbidden,
        .pipesResolved 1 (.ok ()), .parameterResolved 1 0 (.ok ())]
      (new none)
      (fun s => .callback 0 [none, some 36] ∈ s.log ∧ .aborted ∈ s.log ∧ s.runCount = 2)
      (by decide +kernel)
  have hreach : (program chatConfig chatHandler ⟨0, 1, 2, 3, 4⟩ none).machine.Reachable s :=
    ⟨_, _, rfl, hrun⟩
  refine ⟨s, hreach, hcallback, haborted, hruns, fun before after hlog => ?_⟩
  obtain ⟨hallowed, hnot, hargs⟩ :=
    (invocation_orderly chatConfig chatHandler _ none s hreach before _ after hlog).2 0 _ rfl
  obtain ⟨value, hvalue, hcalls, -⟩ := hargs 0 _ (congrArg (·[0]?) chatHandler_parameters)
  cases hvalue
  exact ⟨hallowed, hnot, hcalls⟩

end PipelineState

end NestWebTransport
