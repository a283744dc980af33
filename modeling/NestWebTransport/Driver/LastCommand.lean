import NestWebTransport.Driver.CommandOrder

/-! Where the driver ends up once its commands have settled. -/
namespace NestWebTransport

namespace DriverCommands

variable {c d : DriverCommands} {k : Option Command}

/-- A step rejects no promise. -/
def Fulfils (c d : DriverCommands) : Prop :=
  (∀ i < d.startCount, d.start i = .settled false → c.start i = .settled false) ∧
    ∀ j < d.stopCount, d.stop j = .settled false → c.stop j = .settled false

/-- A start waits for a stop. -/
def Queued (c : DriverCommands) : Prop := ∃ i j signal, c.start i = .queued j signal

/-- Without another command, the driver will be RUNNING. -/
def Bound (c : DriverCommands) : Prop := c.Queued ∨ c.state = .starting ∨ c.state = .running

/-- The command is answered with a promise of an earlier one that does not carry it out. -/
def Lost (c : DriverCommands) : Command → Prop
  | .start => c.startPromise.isSome = true ∧ ¬ c.Bound
  | .stop => c.Queued ∨ (c.stopPromise.isSome = true ∧ (c.state = .starting ∨ c.state = .running))

/-- While every promise fulfils, the state tells which stop is under way. -/
structure Heeds (c : DriverCommands) : Prop where
  ordered : c.Ordered
  draining : ∀ j a, c.stop j = .draining a → c.state = .draining
  closing : ∀ j a start sessions, c.stop j = .closing a start sessions → c.state = .stopping
  pending : c.state = .draining ∨ c.state = .stopping → ∃ j a, (c.stop j).Holds a

namespace Heeds

theorem state_of_holds (h : Heeds c) {j a : Nat} (hj : (c.stop j).Holds a) :
    c.state = .draining ∨ c.state = .stopping := by
  cases hcase : c.stop j with
  | draining b => exact Or.inl (h.draining j b hcase)
  | closing b start sessions => exact Or.inr (h.closing j b start sessions hcase)
  | settled succeeded => rw [hcase] at hj; cases hj
  | cleared succeeded => rw [hcase] at hj; cases hj

/-- The stops are as they were, and the state has nothing to do with a stop. -/
theorem moved (h : Heeds c) (hordered : d.Ordered) (hstop : d.stop = c.stop)
    (hstate : d.state = c.state ∨
      (∀ j a, ¬ (c.stop j).Holds a) ∧ d.state ≠ .draining ∧ d.state ≠ .stopping) : Heeds d := by
  rcases hstate with hsame | ⟨hfree, hdraining, hstopping⟩
  · refine ⟨hordered, ?_, ?_, ?_⟩
    · rw [hstop, hsame]
      exact h.draining
    · rw [hstop, hsame]
      exact h.closing
    · rw [hstop, hsame]
      exact h.pending
  · refine ⟨hordered, fun j a hj => ?_, fun j a start sessions hj => ?_, ?_⟩
    · rw [hstop] at hj
      exact absurd (show (c.stop j).Holds a by rw [hj]; rfl) (hfree j a)
    · rw [hstop] at hj
      exact absurd (show (c.stop j).Holds a by rw [hj]; rfl) (hfree j a)
    · rintro (hs | hs)
      · exact absurd hs hdraining
      · exact absurd hs hstopping

/-- The kept stop is at another point, and every other one is over. -/
theorem of_stop {j : Nat} {operation : StopOperation} (hordered : d.Ordered)
    (hkept : d.stop = Function.update c.stop j operation)
    (hothers : ∀ j', j' ≠ j → (c.stop j').isCleared = true)
    (hdraining : ∀ a, operation = .draining a → d.state = .draining)
    (hclosing : ∀ a start sessions, operation = .closing a start sessions → d.state = .stopping)
    (hpending : d.state = .draining ∨ d.state = .stopping → ∃ a, operation.Holds a) :
    Heeds d := by
  have hstop : ∀ j', d.stop j' = if j' = j then operation else c.stop j' := by
    rw [hkept]
    exact Function.update_apply _ _ _
  refine ⟨hordered, fun j' a hj' => ?_, fun j' a start sessions hj' => ?_, fun hs => ?_⟩
  · rw [hstop] at hj'
    split_ifs at hj' with he
    · exact hdraining a hj'
    · have hcleared := hothers j' he
      rw [hj'] at hcleared
      cases hcleared
  · rw [hstop] at hj'
    split_ifs at hj' with he
    · exact hclosing a start sessions hj'
    · have hcleared := hothers j' he
      rw [hj'] at hcleared
      cases hcleared
  · obtain ⟨a, ha⟩ := hpending hs
    exact ⟨j, a, by rw [hstop, if_pos rfl]; exact ha⟩

end Heeds

/-- A start that has not settled is not rejected. -/
theorem Fulfils.start_unrejected {i : Nat} (h : Fulfils c d) (hi : i < d.startCount)
    (hd : d.start = Function.update c.start i (.settled false)) : c.start i = .settled false :=
  h.1 i hi (by rw [hd, Function.update_self])

theorem Fulfils.stop_unrejected {j : Nat} (h : Fulfils c d) (hj : j < d.stopCount)
    (hd : d.stop = Function.update c.stop j (.settled false)) : c.stop j = .settled false :=
  h.2 j hj (by rw [hd, Function.update_self])

/-- One case per move of the commands. -/
theorem heeds_moves (hm : c.Moves k d) (hf : Fulfils c d) (h : Heeds c) : Heeds d := by
  have hordered := ordered_moves hm h.ordered
  cases hm with
  | rests => exact h
  | startAnswered _ => exact h
  | startPerforms hstate hstart hstop =>
    refine h.moved hordered rfl
      (Or.inr ⟨h.ordered.free fun j hj => ?_, by rintro ⟨⟩, by rintro ⟨⟩⟩)
    rw [hstop] at hj
    cases hj
  | startQueues hstate hstart hstop => exact h.moved hordered rfl (Or.inl rfl)
  | @startBegins i j signal hi hqueued hstop =>
    obtain ⟨-, hfree⟩ := (h.ordered.queued i j signal hqueued).2 (by rw [hstop]; rfl)
    exact h.moved hordered rfl (Or.inr ⟨hfree, by rintro ⟨⟩, by rintro ⟨⟩⟩)
  | startRefused hi hqueued hstop =>
    have hrejected := hf.start_unrejected hi rfl
    rw [hqueued] at hrejected
    cases hrejected
  | @startFulfils i a hi hperforming =>
    refine h.moved hordered rfl ?_
    by_cases hruns : c.server = some a ∧ c.state = .starting
    · refine Or.inr ⟨fun j b hj => ?_, ?_, ?_⟩
      · rcases h.state_of_holds hj with hs | hs <;> rw [hs] at hruns <;> cases hruns.2
      · simp [hruns]
      · simp [hruns]
    · exact Or.inl (if_neg hruns)
  | startRejects hi hperforming =>
    have hrejected := hf.start_unrejected hi rfl
    rw [hperforming] at hrejected
    cases hrejected
  | startClears hi hsettled => exact h.moved hordered rfl (Or.inl rfl)
  | stopAnswered _ => exact h
  | stopInvalid hstop =>
    have hrejected := hf.stop_unrejected (Nat.lt_succ_self _) rfl
    have hcleared := h.ordered.stop_cleared hstop c.stopCount
    rw [hrejected] at hcleared
    cases hcleared
  | stopEmpty hstop hserver =>
    have hothers := h.ordered.stop_cleared hstop
    exact .of_stop hordered rfl (fun j' _ => hothers j') (by rintro _ ⟨⟩)
      (by rintro _ _ _ ⟨⟩) (by simp [callStop])
  | @stopDrains a hstop hserver hstarting =>
    have hothers := h.ordered.stop_cleared hstop
    exact .of_stop hordered rfl (fun j' _ => hothers j') (fun _ _ => rfl)
      (by rintro _ _ _ ⟨⟩) fun _ => ⟨a, rfl⟩
  | @stopCloses a sessions hstop hserver =>
    have hothers := h.ordered.stop_cleared hstop
    exact .of_stop hordered rfl (fun j' _ => hothers j') (by rintro _ ⟨⟩) (fun _ _ _ _ => rfl)
      fun _ => ⟨a, rfl⟩
  | @stopDrained j a sessions hj hdraining =>
    have huncleared : (c.stop j).isCleared = false := by rw [hdraining]; rfl
    exact .of_stop hordered rfl (fun j' hne => h.ordered.stop_others huncleared hne)
      (by rintro _ ⟨⟩) (fun _ _ _ _ => rfl) fun _ => ⟨a, rfl⟩
  | @stopFulfils j a start sessions hj hclosing hstart =>
    have huncleared : (c.stop j).isCleared = false := by rw [hclosing]; rfl
    exact .of_stop hordered rfl (fun j' hne => h.ordered.stop_others huncleared hne)
      (by rintro _ ⟨⟩) (by rintro _ _ _ ⟨⟩) (by simp)
  | stopRejects hj hclosing =>
    have hrejected := hf.stop_unrejected hj rfl
    rw [hclosing] at hrejected
    cases hrejected
  | @stopClears j succeeded hj hsettled =>
    have huncleared : (c.stop j).isCleared = false := by rw [hsettled]; rfl
    refine .of_stop hordered rfl (fun j' hne => h.ordered.stop_others huncleared hne)
      (by rintro _ ⟨⟩) (by rintro _ _ _ ⟨⟩) fun hs => ?_
    obtain ⟨j', a, hj'⟩ := h.pending hs
    rw [← h.ordered.stop_unique huncleared hj'.uncleared, hsettled] at hj'
    cases hj'

/-! ### Where the driver is bound -/

/-- A call that does not wait goes on: the same starts wait. -/
theorem queued_update {i : Nat} {operation : StartOperation}
    (hd : d.start = Function.update c.start i operation)
    (hi : ∀ j signal, c.start i ≠ .queued j signal)
    (hd' : ∀ j signal, operation ≠ .queued j signal) :
    d.Queued ↔ c.Queued := by
  have hstart : ∀ i', d.start i' = if i' = i then operation else c.start i' := by
    rw [hd]
    exact Function.update_apply _ _ _
  constructor
  · rintro ⟨i', j, signal, hqueued⟩
    rw [hstart] at hqueued
    split_ifs at hqueued
    · exact absurd hqueued (hd' j signal)
    · exact ⟨i', j, signal, hqueued⟩
  · rintro ⟨i', j, signal, hqueued⟩
    refine ⟨i', j, signal, ?_⟩
    rw [hstart, if_neg, hqueued]
    rintro rfl
    exact hi j signal hqueued

theorem Ordered.queued_promise (h : Ordered c) (hqueued : c.Queued) :
    c.startPromise.isSome = true := by
  obtain ⟨i, j, signal, hi⟩ := hqueued
  rw [h.starts i (by rw [hi]; rfl)]
  rfl

theorem bound_congr (hqueued : d.Queued ↔ c.Queued)
    (hstate : (d.state = .starting ∨ d.state = .running) ↔
      (c.state = .starting ∨ c.state = .running)) : d.Bound ↔ c.Bound :=
  or_congr hqueued hstate

/-- Only the commands change where the driver is bound. -/
theorem bound_moves (hm : c.Moves none d) (hf : Fulfils c d) (h : Heeds c) :
    d.Bound ↔ c.Bound := by
  cases hm with
  | rests => exact Iff.rfl
  | @startBegins i j signal hi hqueued hstop =>
    exact iff_of_true (Or.inr (Or.inl rfl)) (Or.inl ⟨i, j, signal, hqueued⟩)
  | startRefused hi hqueued hstop =>
    have hrejected := hf.start_unrejected hi rfl
    rw [hqueued] at hrejected
    cases hrejected
  | @startFulfils i a hi hperforming =>
    refine bound_congr (queued_update rfl (by rw [hperforming]; nofun) nofun) ?_
    by_cases hruns : c.server = some a ∧ c.state = .starting
    · simp [hruns]
    · simp [hruns]
  | startRejects hi hperforming =>
    have hrejected := hf.start_unrejected hi rfl
    rw [hperforming] at hrejected
    cases hrejected
  | startClears hi hsettled =>
    exact bound_congr (queued_update rfl (by rw [hsettled]; nofun) nofun) Iff.rfl
  | stopDrained hj hdraining =>
    have hstate := h.draining _ _ hdraining
    exact bound_congr Iff.rfl (by simp [closes, hstate])
  | stopFulfils hj hclosing hstart =>
    have hstate := h.closing _ _ _ _ hclosing
    exact bound_congr Iff.rfl (by simp [hstate])
  | stopRejects hj hclosing =>
    have hrejected := hf.stop_unrejected hj rfl
    rw [hclosing] at hrejected
    cases hrejected
  | stopClears hj hsettled => exact Iff.rfl

theorem bound_start (hm : c.Moves (some .start) d) : d.Bound ↔ ¬ c.Lost .start := by
  cases hm with
  | startAnswered hanswered =>
    rcases hanswered with hrunning | hkept
    · have hbound : c.Bound := Or.inr (Or.inr hrunning)
      exact iff_of_true hbound fun hlost => hlost.2 hbound
    · simp [Lost, hkept]
  | startPerforms hstate hstart hstop =>
    exact iff_of_true (Or.inr (Or.inl rfl)) (by simp [Lost, hstart])
  | @startQueues j signal hstate hstart hstop =>
    refine iff_of_true (Or.inl ⟨c.startCount, j, signal, ?_⟩) (by simp [Lost, hstart])
    exact Function.update_self _ _ _

/-- A stop unbinds the driver unless it is lost. -/
theorem bound_stop (hm : c.Moves (some .stop) d) (hf : Fulfils c d) (h : Heeds c) :
    d.Bound ↔ c.Lost .stop := by
  cases hm with
  | stopAnswered hanswered =>
    rcases hanswered with hkept | ⟨hstopped, hstart⟩
    · simp [Lost, Bound, hkept]
    · have hnone : ¬ c.Queued := fun hqueued => by
        have hkept := h.ordered.queued_promise hqueued
        rw [hstart] at hkept
        cases hkept
      simp [Lost, Bound, hstopped, hnone]
  | stopInvalid hstop =>
    have hrejected := hf.stop_unrejected (Nat.lt_succ_self _) rfl
    have hcleared := h.ordered.stop_cleared hstop c.stopCount
    rw [hrejected] at hcleared
    cases hcleared
  | stopEmpty hstop hserver => simp [Lost, Bound, callStop, Queued, hstop]
  | stopDrains hstop hserver hstarting => simp [Lost, Bound, callStop, Queued, hstop]
  | stopCloses hstop hserver => simp [Lost, Bound, callStop, Queued, hstop]

/-- Once every promise has settled the driver is where it was bound. -/
theorem Heeds.settled (h : Heeds c) (hstart : c.startPromise = none)
    (hstop : c.stopPromise = none) :
    (c.state = .running ↔ c.Bound) ∧ (c.state = .stopped ↔ ¬ c.Bound) := by
  have hqueued : ¬ c.Queued := fun hqueued => by
    have hkept := h.ordered.queued_promise hqueued
    rw [hstart] at hkept
    cases hkept
  have hstarting : c.state ≠ .starting := fun hs => by
    obtain ⟨i, a, hi, -⟩ := h.ordered.starting hs
    have hcleared := h.ordered.start_cleared hstart i
    rw [hi] at hcleared
    cases hcleared
  have hpending : ¬ (c.state = .draining ∨ c.state = .stopping) := fun hs => by
    obtain ⟨j, a, hj⟩ := h.pending hs
    have hcleared := h.ordered.stop_cleared hstop j
    rw [hj.uncleared] at hcleared
    cases hcleared
  unfold Bound
  cases hstate : c.state with
  | starting => exact absurd hstate hstarting
  | running => simp
  | draining => exact absurd (Or.inl hstate) hpending
  | stopping => exact absurd (Or.inr hstate) hpending
  | stopped => simp [hqueued]

end DriverCommands

namespace RWebTransportDriver

variable {options : RWebTransportDriverOptions} {s t u : DriverState} {e : DriverEvent}
  {es fs : List DriverEvent} {k : Command}

/-- The state a command asks for. -/
def asks : Command → ServerState
  | .start => .running
  | .stop => .stopped

/-- The event rejects no promise of `start` or `stop`. -/
def FulfilsPromises (options : RWebTransportDriverOptions) (s : DriverState) (e : DriverEvent) :
    Prop :=
  s.toDriverCommands.Fulfils (next options s e).toDriverCommands

/-- While every promise fulfils, the state tells throughout which stop is under way. -/
theorem heeds_run
    (h : ((program options).machine.restrict (FulfilsPromises options)).Run s es t)
    (hs : s.toDriverCommands.Heeds) : t.toDriverCommands.Heeds := by
  refine h.invariant (P := fun s => s.toDriverCommands.Heeds) ?_ hs
  rintro s e t ⟨hok, hstep⟩ hs
  have hmoves := moves_of_step hstep
  obtain ⟨-, rfl⟩ := hstep
  exact DriverCommands.heeds_moves hmoves hok hs

/-- Without another call what the driver is bound for stays as it is. -/
theorem bound_run
    (h : ((program options).machine.restrict fun s e =>
      FulfilsPromises options s e ∧ command options s e = none).Run s es t)
    (hs : s.toDriverCommands.Heeds) :
    t.toDriverCommands.Heeds ∧ (t.toDriverCommands.Bound ↔ s.toDriverCommands.Bound) := by
  induction h with
  | refl => exact ⟨hs, Iff.rfl⟩
  | stepL hst _ ih =>
    obtain ⟨⟨hok, hnone⟩, hstep⟩ := hst
    have hmoves := moves_of_step hstep
    rw [hnone] at hmoves
    obtain ⟨-, rfl⟩ := hstep
    obtain ⟨hlast, hbound⟩ := ih (DriverCommands.heeds_moves hmoves hok hs)
    exact ⟨hlast, hbound.trans (DriverCommands.bound_moves hmoves hok hs)⟩

theorem heeds_new : new.toDriverCommands.Heeds :=
  ⟨⟨nofun, nofun, nofun, nofun, nofun, nofun, nofun, nofun, fun _ => rfl⟩, nofun, nofun,
    by simp [new]⟩

/-- Where every promise fulfils, the driver ends up where the last command wants it just when that
command is not lost. -/
theorem last_command_iff (options : RWebTransportDriverOptions) (s u t : DriverState)
    (es fs : List DriverEvent) (e : DriverEvent) (k : Command)
    (hbefore : ((program options).machine.restrict (FulfilsPromises options)).Run new es s)
    (hstep : ((program options).machine.restrict (FulfilsPromises options)).Step s e u)
    (hcommand : command options s e = some k)
    (hafter : ((program options).machine.restrict fun s e =>
      FulfilsPromises options s e ∧ command options s e = none).Run u fs t)
    (hstart : t.startPromise = none) (hstop : t.stopPromise = none) :
    t.state = asks k ↔ ¬ s.toDriverCommands.Lost k := by
  have hs := heeds_run hbefore heeds_new
  obtain ⟨hok, hstep⟩ := hstep
  have hmoves := moves_of_step hstep
  rw [hcommand] at hmoves
  obtain ⟨-, rfl⟩ := hstep
  obtain ⟨ht, hbound⟩ := bound_run hafter (DriverCommands.heeds_moves hmoves hok hs)
  obtain ⟨hrunning, hstopped⟩ := ht.settled hstart hstop
  cases k with
  | start => exact (hrunning.trans hbound).trans (DriverCommands.bound_start hmoves)
  | stop =>
    exact (hstopped.trans (not_congr hbound)).trans
      (not_congr (DriverCommands.bound_stop hmoves hok hs))

instance (s : DriverState) (e : DriverEvent) : Decidable (FulfilsPromises options s e) :=
  inferInstanceAs (Decidable (_ ∧ _))

/-- What a run of `fs` in which every promise fulfils and no command is called leads to. -/
def settles (fs : List DriverEvent) (u : DriverState) (state : ServerState) : Bool :=
  (((program smallOptions).restrict fun s e => FulfilsPromises smallOptions s e ∧
    command smallOptions s e = none).execute fs u).any fun t =>
      decide (t.startPromise = none ∧ t.stopPromise = none ∧ t.state = state)

/-- A computed run that settles the commands is a run of the driver that makes no call. -/
theorem settles_run {fs : List DriverEvent} {u : DriverState} {state : ServerState}
    (h : settles fs u state = true) : ∃ t, ((program smallOptions).machine.restrict fun s e =>
      FulfilsPromises smallOptions s e ∧ command smallOptions s e = none).Run u fs t ∧
        t.startPromise = none ∧ t.stopPromise = none ∧ t.state = state := by
  obtain ⟨t, hrun, ht⟩ := Program.exists_run _ fs u
    (fun t => t.startPromise = none ∧ t.stopPromise = none ∧ t.state = state) h
  exact ⟨t, (Program.restrict_run _ _).mp hrun, ht⟩

/-- A stop while a start waits for the stop before it: the driver ends up RUNNING. -/
theorem last_stop_lost : ∃ (s u t : DriverState) (es fs : List DriverEvent),
    ((program smallOptions).machine.restrict (FulfilsPromises smallOptions)).Run new es s ∧
    ((program smallOptions).machine.restrict (FulfilsPromises smallOptions)).Step s
      (.stop false true) u ∧
    ((program smallOptions).machine.restrict fun s e =>
      FulfilsPromises smallOptions s e ∧ command smallOptions s e = none).Run u fs t ∧
    t.startPromise = none ∧ t.stopPromise = none ∧ t.state = .running := by
  obtain ⟨s, hbefore, hok, henabled, hsettles⟩ :=
    ((program smallOptions).restrict (FulfilsPromises smallOptions)).exists_run
      (smallStart ++ [.stop false true, .start .absent smallNative]) new
      (fun s => FulfilsPromises smallOptions s (.stop false true) ∧
        enabled s (.stop false true) = true ∧
        settles [.nativeClosed 0 true, .closedAwaited 0, .released 0, .stopClosed 0, .stopCleared 0,
          .startBegins 1 smallNative, .ready 1, .startSettled 1, .startCleared 1]
          (next smallOptions s (.stop false true)) .running = true)
      (by decide +kernel)
  obtain ⟨t, hafter, ht⟩ := settles_run hsettles
  exact ⟨s, _, t, _, _, (Program.restrict_run _ _).mp hbefore, ⟨hok, henabled, rfl⟩, hafter, ht⟩

/-- A start behind a stop that is under way is carried out. -/
theorem last_command_iff_restarted : ∃ s t : DriverState, t.state = .running ∧
    (t.state = asks .start ↔ ¬ s.toDriverCommands.Lost .start) := by
  obtain ⟨s, hbefore, hok, henabled, hsettles⟩ :=
    ((program smallOptions).restrict (FulfilsPromises smallOptions)).exists_run
      (smallStart ++ [.stop false true]) new
      (fun s => FulfilsPromises smallOptions s (.start .absent smallNative) ∧
        enabled s (.start .absent smallNative) = true ∧
        settles [.nativeClosed 0 true, .closedAwaited 0, .released 0, .stopClosed 0, .stopCleared 0,
          .startBegins 1 smallNative, .ready 1, .startSettled 1, .startCleared 1]
          (next smallOptions s (.start .absent smallNative)) .running = true)
      (by decide +kernel)
  obtain ⟨t, hafter, hstart, hstop, hrunning⟩ := settles_run hsettles
  exact ⟨s, t, hrunning, last_command_iff smallOptions s _ t _ _ (.start .absent smallNative) .start
    ((Program.restrict_run _ _).mp hbefore) ⟨hok, henabled, rfl⟩ rfl hafter hstart hstop⟩

end RWebTransportDriver

end NestWebTransport
