import NestWebTransport.Server.RuntimeControl

/-! What the runtime's lifecycle goes through over whole runs. -/
namespace NestWebTransport

namespace Control

open WebTransportRuntime (cleanedUp stopLifecycle)

variable {deps : RuntimeDependencies} {graceful : Bool} {c d : Control} {e : RuntimeEvent} {i : Nat}

/-! ### The effect of a stop -/

/-- A state that stopping may be in and the phase `performStop` awaits in it. -/
def Winds (lifecycle : Lifecycle) (phase : StopPhase) : Prop :=
  lifecycle.state = .draining ∧ phase = .draining ∨
    lifecycle.state = .stopping ∧ (phase = .cancellingStart ∨ phase = .closingSessions)

/-- What a call of `stop` makes of the control, by what it finds. -/
inductive Stops (c : Control) : Control → Prop
  | joins (hphase : c.stopPhase ≠ .idle) : Stops c { c with stopCalls := c.stopCalls + 1 }
  | stopped (hphase : c.stopPhase = .idle) (hstate : c.lifecycle.state = .stopped) :
      Stops c { c with stopCalls := c.stopCalls + 1, stopPhase := .returned }
  | begins {lifecycle : Lifecycle} {phase : StopPhase} (hphase : c.stopPhase = .idle)
      (hstate : c.lifecycle.state ≠ .stopped) (hthrew : lifecycle.threw = c.lifecycle.threw)
      (hwinds : Winds lifecycle phase) :
      Stops c
        { c.releaseStartup with
          lifecycle := lifecycle, stopPhase := phase, stopCalls := c.stopCalls + 1 }

theorem forceStop_phase (c : Control) (b : Bool) :
    ∃ phase, c.forceStop b = { c with stopPhase := phase } ∧
      (phase = .cancellingStart ∨ phase = .closingSessions) := by
  unfold forceStop
  split_ifs
  · exact ⟨_, rfl, Or.inl rfl⟩
  · exact ⟨_, rfl, Or.inr rfl⟩

theorem transition_draining {l : Lifecycle} (h : l.state = .draining) :
    l.transition .stopping = { l with state := .stopping } := by
  simp [Lifecycle.transition, isServerStateTransitionAllowed, allowedTransitions, h]

theorem stopLifecycle_cases {l : Lifecycle} (h : l.state ≠ .stopped) :
    (stopLifecycle l).threw = l.threw ∧
      ((stopLifecycle l).state = .draining ∨ (stopLifecycle l).state = .stopping) := by
  obtain ⟨state, threw⟩ := l
  cases state with
  | stopped => exact absurd rfl h
  | starting => exact ⟨rfl, Or.inr rfl⟩
  | running => exact ⟨rfl, Or.inl rfl⟩
  | draining => exact ⟨rfl, Or.inl rfl⟩
  | stopping => exact ⟨rfl, Or.inr rfl⟩

/-- A stop with sessions drains first or winds them down at once. -/
theorem stopSessions_cases (graceful : Bool) (c : Control) (b : Bool)
    (h : c.lifecycle.state = .draining ∨ c.lifecycle.state = .stopping) :
    ∃ lifecycle phase,
      stopSessions graceful c b = { c with lifecycle := lifecycle, stopPhase := phase } ∧
        lifecycle.threw = c.lifecycle.threw ∧ Winds lifecycle phase := by
  unfold stopSessions
  by_cases hdraining : c.lifecycle.state = .draining
  · rw [if_pos hdraining]
    cases graceful with
    | true => exact ⟨c.lifecycle, .draining, rfl, rfl, Or.inl ⟨hdraining, rfl⟩⟩
    | false =>
      obtain ⟨phase, heq, hforced⟩ :=
        forceStop_phase { c with lifecycle := c.lifecycle.transition .stopping } b
      have hstopping := transition_draining hdraining
      refine ⟨_, phase, heq, ?_, Or.inr ⟨?_, hforced⟩⟩
      · rw [hstopping]
      · rw [hstopping]
  · rw [if_neg hdraining]
    obtain ⟨phase, heq, hforced⟩ := forceStop_phase c b
    exact ⟨c.lifecycle, phase, heq, rfl, Or.inr ⟨h.resolve_left hdraining, hforced⟩⟩

/-- A stop is shared, refused or begins one. -/
theorem stops_stop (graceful : Bool) (c : Control) : Stops c (c.stop graceful) := by
  unfold stop
  simp only
  by_cases hphase : c.stopPhase = .idle
  · rw [if_pos hphase]
    unfold performStop
    simp only
    by_cases hstate : c.lifecycle.state = .stopped
    · rw [if_pos hstate]
      exact .stopped hphase hstate
    · rw [if_neg hstate]
      obtain ⟨hthrew, hnext⟩ := stopLifecycle_cases hstate
      obtain ⟨lifecycle, phase, heq, hsame, hwinds⟩ := stopSessions_cases graceful
        (releaseStartup { c with stopCalls := c.stopCalls + 1 }) (c.lifecycle.state == .starting)
        hnext
      rw [heq]
      exact .begins hphase hstate (hsame.trans hthrew) hwinds
  · rw [if_neg hphase]
    exact .joins hphase

theorem Stops.counted (h : Stops c d) : d.stopCalls = c.stopCalls + 1 := by
  cases h with
  | joins hphase => rfl
  | stopped hphase hstate => rfl
  | begins hphase hstate hthrew hwinds => rfl

/-! ### What fits together -/

/-- A startup is under way: it is the current one and what it registered is still in place. -/
structure StartsUp (c : Control) (i : Nat) : Prop where
  bound : i < c.startCount
  controller : c.startupController = some i
  start : c.start i = .starting
  subscribed : c.unsubscribeFromDriver = some i
  listening : c.removeServerAbortListener = none ∨ c.removeServerAbortListener = some i

/-- The lifecycle state in which `performStop` awaits what it awaits in a phase. -/
def awaitedIn : StopPhase → Option ServerState
  | .idle | .returned => none
  | .draining => some .draining
  | .cancellingStart | .closingSessions | .stoppingDriver => some .stopping

structure Fits (c : Control) : Prop where
  legal : c.lifecycle.threw = false
  subscribed : c.subscriptions = c.unsubscribeFromDriver.toList
  listening : c.serverAbortListeners = c.removeServerAbortListener.toList
  awaited : ∀ state, awaitedIn c.stopPhase = some state → c.lifecycle.state = state
  starting : c.lifecycle.state = .starting → ∃ i, StartsUp c i
  released : c.lifecycle.state ≠ .starting → c.lifecycle.state ≠ .running →
    c.unsubscribeFromDriver = none ∧ c.removeServerAbortListener = none

theorem Fits.draining (hc : Fits c) (hphase : c.stopPhase = .draining) :
    c.lifecycle.state = .draining := hc.awaited .draining (by rw [hphase]; rfl)

/-- Outside DRAINING and STOPPING, `performStop` awaits nothing. -/
theorem Fits.not_awaited (hc : Fits c) (hdraining : c.lifecycle.state ≠ .draining)
    (hstopping : c.lifecycle.state ≠ .stopping) (state : ServerState) :
    awaitedIn c.stopPhase ≠ some state := by
  intro h
  have hstate := hc.awaited state h
  cases hphase : c.stopPhase with
  | idle | returned =>
    rw [hphase] at h
    cases h
  | draining => exact hdraining (hc.draining hphase)
  | cancellingStart | closingSessions | stoppingDriver =>
    exact hstopping (hc.awaited .stopping (by rw [hphase]; rfl))

/-- What a registration leaves of its list once its owner has cancelled it. -/
theorem toList_erase (callback : Option Nat) (i : Nat) :
    callback.toList.erase i = (if callback = some i then none else callback).toList := by
  cases callback with
  | none => rfl
  | some j =>
    by_cases hj : j = i
    · subst hj
      simp
    · simp [hj]

theorem cleanedUp_toList (callback : Option Nat) : cleanedUp callback callback.toList = [] := by
  cases callback with
  | none => rfl
  | some i => simp [cleanedUp]

/-- Another phase of the stop. -/
theorem fits_setPhase {phase : StopPhase} {calls : Nat} (hc : Fits c)
    (hphase : ∀ state, awaitedIn phase = some state → c.lifecycle.state = state) :
    Fits { c with stopPhase := phase, stopCalls := calls } :=
  { hc with
    awaited := hphase
    starting := fun hs => by
      obtain ⟨i, hi⟩ := hc.starting hs
      exact ⟨i, { hi with }⟩ }

/-- A stop that begins ends the subscriptions, and cancels the start it overtakes. -/
theorem fits_stops (h : Stops c d) (hc : Fits c) : Fits d := by
  cases h with
  | joins hphase => exact fits_setPhase hc hc.awaited
  | stopped hphase hstate => exact fits_setPhase hc (by simp [awaitedIn])
  | @begins lifecycle phase hphase hstate hthrew hwinds =>
    have hstopping : lifecycle.state = .draining ∨ lifecycle.state = .stopping := by
      rcases hwinds with ⟨hl, -⟩ | ⟨hl, -⟩
      · exact Or.inl hl
      · exact Or.inr hl
    exact {
      legal := hthrew.trans hc.legal
      subscribed := by
        simp only [releaseStartup, hc.subscribed, cleanedUp_toList, Option.toList_none]
      listening := by
        simp only [releaseStartup, hc.listening, cleanedUp_toList, Option.toList_none]
      awaited := fun state h => by
        rcases hwinds with ⟨hl, rfl⟩ | ⟨hl, rfl | rfl⟩
        · exact hl.trans (Option.some.inj h)
        · exact hl.trans (Option.some.inj h)
        · exact hl.trans (Option.some.inj h)
      starting := fun hs => by
        rcases hstopping with hl | hl
        · rw [hl] at hs
          cases hs
        · rw [hl] at hs
          cases hs
      released := fun _ _ => ⟨rfl, rfl⟩ }

/-- A start subscribes once. -/
theorem fits_bootstrapped (hc : Fits c) (hstopped : c.lifecycle.state = .stopped)
    (serverSignal : Bool) : Fits (c.bootstrapped serverSignal) := by
  obtain ⟨hsubscribed, hlistening⟩ :=
    hc.released (by rw [hstopped]; simp) (by rw [hstopped]; simp)
  have hstate : (c.lifecycle.transition .starting) = { c.lifecycle with state := .starting } := by
    simp [Lifecycle.transition, isServerStateTransitionAllowed, allowedTransitions, hstopped]
  constructor
  · simp only [bootstrapped, hstate]
    exact hc.legal
  · simp [bootstrapped, hc.subscribed, hsubscribed]
  · cases serverSignal
    · simpa [bootstrapped] using hc.listening
    · simp [bootstrapped, hc.listening, hlistening]
  · intro state h
    exact absurd h (hc.not_awaited (by simp [hstopped]) (by simp [hstopped]) state)
  · intro _
    refine ⟨c.startCount, Nat.lt_succ_self _, rfl, Function.update_self .., rfl, ?_⟩
    cases serverSignal
    · exact Or.inl hlistening
    · exact Or.inr rfl
  · intro hs
    simp [bootstrapped, hstate] at hs

theorem isCurrent_iff : c.isCurrent i = true ↔
    c.startupController = some i ∧ c.lifecycle.state = .starting := by
  simp [isCurrent]

/-- The startup under way is not one that is no longer current. -/
theorem StartsUp.ne {j : Nat} (h : StartsUp c j) (hstate : c.lifecycle.state = .starting)
    (hi : c.isCurrent i ≠ true) : j ≠ i := by
  rintro rfl
  exact hi (isCurrent_iff.mpr ⟨h.controller, hstate⟩)

/-- A driver that has started makes its own start run, if that is still the current one. -/
theorem fits_driverFulfilled (hc : Fits c) : Fits (c.driverFulfilled i) := by
  by_cases hcurrent : c.isCurrent i = true
  · obtain ⟨hcontroller, hstarting⟩ := isCurrent_iff.mp hcurrent
    have hstate : (c.driverFulfilled i).lifecycle = { c.lifecycle with state := .running } := by
      simp [driverFulfilled, hcurrent, Lifecycle.transition, isServerStateTransitionAllowed,
        allowedTransitions, hstarting]
    constructor
    · rw [hstate]
      exact hc.legal
    · exact hc.subscribed
    · exact hc.listening
    · intro state h
      exact absurd h (hc.not_awaited (by simp [hstarting]) (by simp [hstarting]) state)
    · rw [hstate]
      intro hs
      cases hs
    · rw [hstate]
      intro _ hs
      exact absurd rfl hs
  · have hstate : (c.driverFulfilled i).lifecycle = c.lifecycle := by
      simp [driverFulfilled, hcurrent]
    constructor
    · rw [hstate]
      exact hc.legal
    · exact hc.subscribed
    · exact hc.listening
    · rw [hstate]
      exact hc.awaited
    · rw [hstate]
      intro hs
      obtain ⟨j, hj⟩ := hc.starting hs
      refine ⟨j, { hj with start := ?_ }⟩
      simpa [driverFulfilled, hj.ne hs hcurrent] using hj.start
    · rw [hstate]
      exact hc.released

/-- A driver that has failed to start takes back its own subscriptions. -/
theorem fits_driverRejected (hc : Fits c) : Fits (c.driverRejected i) := by
  have hsubscribed : (c.driverRejected i).subscriptions =
      (c.driverRejected i).unsubscribeFromDriver.toList := by
    simp only [driverRejected, hc.subscribed, toList_erase]
  have hlistening : (c.driverRejected i).serverAbortListeners =
      (c.driverRejected i).removeServerAbortListener.toList := by
    simp only [driverRejected, hc.listening, toList_erase]
  by_cases hcurrent : c.isCurrent i = true
  · obtain ⟨hcontroller, hstarting⟩ := isCurrent_iff.mp hcurrent
    have hstate : (c.driverRejected i).lifecycle = { c.lifecycle with state := .stopped } := by
      simp [driverRejected, hcurrent, Lifecycle.transition, isServerStateTransitionAllowed,
        allowedTransitions, hstarting]
    obtain ⟨j, hj⟩ := hc.starting hstarting
    obtain rfl : j = i := Option.some.inj (hj.controller.symm.trans hcontroller)
    constructor
    · rw [hstate]
      exact hc.legal
    · exact hsubscribed
    · exact hlistening
    · intro state h
      exact absurd h (hc.not_awaited (by simp [hstarting]) (by simp [hstarting]) state)
    · rw [hstate]
      intro hs
      cases hs
    · intro _ _
      refine ⟨by simp [driverRejected, hj.subscribed], ?_⟩
      rcases hj.listening with hnone | hsome
      · simp [driverRejected, hnone]
      · simp [driverRejected, hsome]
  · have hstate : (c.driverRejected i).lifecycle = c.lifecycle := by
      simp [driverRejected, hcurrent]
    constructor
    · rw [hstate]
      exact hc.legal
    · exact hsubscribed
    · exact hlistening
    · rw [hstate]
      exact hc.awaited
    · rw [hstate]
      intro hs
      obtain ⟨j, hj⟩ := hc.starting hs
      have hne := hj.ne hs hcurrent
      refine ⟨j, hj.bound, hj.controller, ?_, ?_, ?_⟩
      · simpa [driverRejected, hne] using hj.start
      · simp [driverRejected, hj.subscribed, hne]
      · rcases hj.listening with hnone | hsome
        · simp [driverRejected, hnone]
        · simp [driverRejected, hsome, hne]
    · rw [hstate]
      intro hs hr
      obtain ⟨hnone, hnone'⟩ := hc.released hs hr
      simp [driverRejected, hnone, hnone']

/-- Clearing a settled start leaves the lifecycle alone. -/
theorem fits_startCleared (hc : Fits c) (hsettled : c.start i = .settled) :
    Fits (c.startCleared i) where
  legal := hc.legal
  subscribed := hc.subscribed
  listening := hc.listening
  awaited := hc.awaited
  starting := fun hs => by
    obtain ⟨j, hj⟩ := hc.starting hs
    have hne : j ≠ i := by
      rintro rfl
      rw [hj.start] at hsettled
      cases hsettled
    refine ⟨j, { hj with controller := ?_, start := ?_ }⟩
    · simp [startCleared, hj.controller, hne]
    · simpa [startCleared, hne] using hj.start
  released := hc.released

theorem fits_drainEnded (hc : Fits c) (hphase : c.stopPhase = .draining) : Fits c.drainEnded := by
  have hdraining := hc.draining hphase
  have hreleased := hc.released (by rw [hdraining]; simp) (by rw [hdraining]; simp)
  have hend : c.drainEnded =
      { c with
        lifecycle := { c.lifecycle with state := .stopping }
        stopPhase := .closingSessions } := by
    simp [drainEnded, forceStop, transition_draining hdraining]
  rw [hend]
  exact { hc with
    awaited := fun state h => Option.some.inj h
    starting := fun h => by cases h
    released := fun _ _ => hreleased }

/-- A stop whose driver has stopped goes to STOPPED, one whose driver failed stays where it is. -/
theorem fits_driverStopped (hc : Fits c) (succeeded : Bool) : Fits (c.driverStopped succeeded) := by
  by_cases hstops : (succeeded && c.lifecycle.state == .stopping) = true
  · have hstopping : c.lifecycle.state = .stopping := by
      simp only [Bool.and_eq_true, beq_iff_eq] at hstops
      exact hstops.2
    have hreleased := hc.released (by rw [hstopping]; simp) (by rw [hstopping]; simp)
    have hstate : c.lifecycle.transition .stopped = { c.lifecycle with state := .stopped } := by
      simp [Lifecycle.transition, isServerStateTransitionAllowed, allowedTransitions, hstopping]
    unfold driverStopped
    rw [if_pos hstops, hstate]
    exact { hc with
      awaited := fun state h => by cases h
      starting := fun h => by cases h
      released := fun _ _ => hreleased }
  · unfold driverStopped
    rw [if_neg hstops]
    exact fits_setPhase hc (by simp [awaitedIn])

theorem fits_moves (h : Moves deps c e d) (hc : Fits c) : Fits d := by
  cases h with
  | rests => exact hc
  | stops => exact fits_stops (stops_stop _ c) hc
  | bootstrapped hpromise hstopped => exact fits_bootstrapped hc hstopped deps.serverSignal
  | driverFulfilled hi hstarting => exact fits_driverFulfilled hc
  | driverRejected hi hstarting => exact fits_driverRejected hc
  | startCleared hi hsettled => exact fits_startCleared hc hsettled
  | drainEnded hphase => exact fits_drainEnded hc hphase
  | startCancelled hphase =>
    exact fits_setPhase hc fun state h => hc.awaited state (by rw [hphase]; exact h)
  | sessionsClosed hphase =>
    exact fits_setPhase hc fun state h => hc.awaited state (by rw [hphase]; exact h)
  | driverStopped hphase => exact fits_driverStopped hc _
  | stopCleared hphase => exact fits_setPhase hc (by simp [awaitedIn])

/-! ### Entering a state -/

theorem state_stops (h : Stops c d) :
    d.lifecycle = c.lifecycle ∨ d.lifecycle.state = .draining ∨ d.lifecycle.state = .stopping := by
  cases h with
  | joins hphase => exact Or.inl rfl
  | stopped hphase hstate => exact Or.inl rfl
  | begins hphase hstate hthrew hwinds =>
    rcases hwinds with ⟨hl, -⟩ | ⟨hl, -⟩
    · exact Or.inr (Or.inl hl)
    · exact Or.inr (Or.inr hl)

theorem enters_stops {state : ServerState} (h : Stops c d) (hc : c.lifecycle.state ≠ state)
    (hd : d.lifecycle.state = state) : state = .draining ∨ state = .stopping := by
  rcases state_stops h with heq | hdraining | hstopping
  · rw [heq] at hd
    exact absurd hd hc
  · exact Or.inl (hd.symm.trans hdraining)
  · exact Or.inr (hd.symm.trans hstopping)

/-- Which moves enter a state, and how. -/
theorem enters_moves {state : ServerState} (h : Moves deps c e d) (hfits : Fits c)
    (hc : c.lifecycle.state ≠ state) (hd : d.lifecycle.state = state) :
    state = .draining ∨ state = .stopping ∨ (state = .starting ∧ e = .bootstrap) ∨
      (state = .running ∧ ∃ i, e = .driverStarted i true ∧ c.isCurrent i = true) ∨
      (state = .stopped ∧ ((∃ result, e = .driverStopped result ∧
        result.driverStopError = none ∧ c.stopPhase = .stoppingDriver) ∨
        ∃ i, e = .driverStarted i false ∧ c.isCurrent i = true)) := by
  cases h with
  | rests => exact absurd hd hc
  | stops =>
    rcases enters_stops (stops_stop _ c) hc hd with hdraining | hstopping
    · exact Or.inl hdraining
    · exact Or.inr (Or.inl hstopping)
  | bootstrapped hpromise hstopped =>
    refine Or.inr (Or.inr (Or.inl ⟨?_, rfl⟩))
    rw [← hd]
    simp [bootstrapped, Lifecycle.transition, isServerStateTransitionAllowed, allowedTransitions,
      hstopped]
  | @driverFulfilled i hi hstarting =>
    by_cases hcurrent : c.isCurrent i = true
    · refine Or.inr (Or.inr (Or.inr (Or.inl ⟨?_, i, rfl, hcurrent⟩)))
      rw [← hd]
      simp [driverFulfilled, hcurrent, Lifecycle.transition, isServerStateTransitionAllowed,
        allowedTransitions, (isCurrent_iff.mp hcurrent).2]
    · simp only [driverFulfilled, if_neg hcurrent] at hd
      exact absurd hd hc
  | @driverRejected i hi hstarting =>
    by_cases hcurrent : c.isCurrent i = true
    · refine Or.inr (Or.inr (Or.inr (Or.inr ⟨?_, Or.inr ⟨i, rfl, hcurrent⟩⟩)))
      rw [← hd]
      simp [driverRejected, hcurrent, Lifecycle.transition, isServerStateTransitionAllowed,
        allowedTransitions, (isCurrent_iff.mp hcurrent).2]
    · simp only [driverRejected, if_neg hcurrent] at hd
      exact absurd hd hc
  | startCleared hi hsettled => exact absurd hd hc
  | drainEnded hphase =>
    refine Or.inr (Or.inl ?_)
    rw [← hd]
    simp [drainEnded, forceStop, transition_draining (hfits.draining hphase)]
  | startCancelled hphase => exact absurd hd hc
  | sessionsClosed hphase => exact absurd hd hc
  | @driverStopped result hphase =>
    by_cases hstops : (result.driverStopError.isNone && c.lifecycle.state == .stopping) = true
    · have hboth : result.driverStopError = none ∧ c.lifecycle.state = .stopping := by
        simpa using hstops
      refine Or.inr (Or.inr (Or.inr (Or.inr ⟨?_, Or.inl ⟨result, rfl, hboth.1, hphase⟩⟩)))
      rw [← hd]
      simp [driverStopped, hboth.1, Lifecycle.transition, isServerStateTransitionAllowed,
        allowedTransitions, hboth.2]
    · simp only [driverStopped, if_neg hstops] at hd
      exact absurd hd hc
  | stopCleared hphase => exact absurd hd hc

/-- Only a bootstrap makes a startup the current one. -/
theorem becomes_current (h : Moves deps c e d) (hfits : Fits c) (hc : c.isCurrent i ≠ true)
    (hd : d.isCurrent i = true) : e = .bootstrap ∧ c.startCount = i := by
  obtain ⟨hcontroller, hstarting⟩ := isCurrent_iff.mp hd
  by_cases hstate : c.lifecycle.state = .starting
  · -- A startup that is under way stays the current one.
    have hne : c.startupController ≠ some i := fun heq => hc (isCurrent_iff.mpr ⟨heq, hstate⟩)
    cases h with
    | rests => exact absurd hcontroller hne
    | stops =>
      have hkept : (c.stop deps.options.shutdown.graceful).startupController =
          c.startupController := by
        have := stops_stop deps.options.shutdown.graceful c
        generalize c.stop deps.options.shutdown.graceful = d at this
        cases this with
        | joins hphase => rfl
        | stopped hphase hstate => rfl
        | begins hphase hstate hthrew hwinds => rfl
      exact absurd (hkept ▸ hcontroller) hne
    | bootstrapped hpromise hstopped =>
      rw [hstopped] at hstate
      cases hstate
    | driverFulfilled hi hs => exact absurd hcontroller hne
    | driverRejected hi hs => exact absurd hcontroller hne
    | @startCleared j hi hsettled =>
      simp only [startCleared] at hcontroller
      split_ifs at hcontroller
      exact absurd hcontroller hne
    | drainEnded hphase =>
      rw [hfits.draining hphase] at hstate
      cases hstate
    | startCancelled hphase => exact absurd hcontroller hne
    | sessionsClosed hphase => exact absurd hcontroller hne
    | driverStopped hphase => exact absurd hcontroller hne
    | stopCleared hphase => exact absurd hcontroller hne
  · obtain h' | h' | ⟨-, rfl⟩ | ⟨h', -⟩ | ⟨h', -⟩ := enters_moves h hfits hstate hstarting
    · cases h'
    · cases h'
    · cases h with
      | rests => exact absurd hstarting hstate
      | stops =>
        obtain h' | h' := enters_stops (stops_stop _ c) hstate hstarting
        · cases h'
        · cases h'
      | bootstrapped hpromise hstopped => exact ⟨rfl, Option.some.inj hcontroller⟩
    · cases h'
    · cases h'

theorem stopCalls_moves (h : Moves deps c e d) :
    d.stopCalls = c.stopCalls ∨
      Stops c d ∧ d.stopCalls = c.stopCalls + 1 := by
  cases h with
  | stops =>
    have hstop := stops_stop deps.options.shutdown.graceful c
    refine Or.inr ⟨hstop, ?_⟩
    generalize c.stop deps.options.shutdown.graceful = d at hstop
    cases hstop with
    | joins hphase => rfl
    | stopped hphase hstate => rfl
    | begins hphase hstate hthrew hwinds => rfl
  | drainEnded hphase => exact Or.inl rfl
  | _ => exact Or.inl rfl

/-- A stop that begins while a startup is under way ends it. -/
theorem not_current_of_stops (h : Stops c d) (hphase : c.stopPhase = .idle)
    (hc : c.isCurrent i = true) : d.isCurrent i ≠ true := by
  have hstate := (isCurrent_iff.mp hc).2
  cases h with
  | joins hjoins => exact absurd hphase hjoins
  | stopped _ hstopped =>
    rw [hstopped] at hstate
    cases hstate
  | begins _ _ hthrew hwinds =>
    intro hd
    have hstarting := (isCurrent_iff.mp hd).2
    rcases hwinds with ⟨hl, -⟩ | ⟨hl, -⟩
    · rw [hl] at hstarting
      cases hstarting
    · rw [hl] at hstarting
      cases hstarting

/-- While `stop` is not called, no stop is in progress and the startup `i` is the current one until
its `driver.start` settles. -/
structure Unhindered (calls i : Nat) (c : Control) : Prop where
  calls_le : calls ≤ c.stopCalls
  bound : i < c.startCount
  idle : c.stopCalls = calls → c.stopPhase = .idle
  current : c.stopCalls = calls → c.start i = .starting → c.isCurrent i = true

/-- While no stop is called, a start stays current until its driver has settled. -/
theorem unhindered_moves {calls : Nat} (h : Moves deps c e d) (hc : Unhindered calls i c) :
    Unhindered calls i d := by
  have hnot : ∀ {phase : StopPhase}, phase ≠ .idle → c.stopPhase = phase → c.stopCalls ≠ calls :=
    fun hne hphase hcalls => hne (hphase.symm.trans (hc.idle hcalls))
  cases h with
  | rests => exact hc
  | stops =>
    have hstop := stops_stop deps.options.shutdown.graceful c
    generalize c.stop deps.options.shutdown.graceful = d at hstop
    have hmore : d.stopCalls = c.stopCalls + 1 ∧ d.startCount = c.startCount := by
      cases hstop with
      | joins hphase => exact ⟨rfl, rfl⟩
      | stopped hphase hstate => exact ⟨rfl, rfl⟩
      | begins hphase hstate hthrew hwinds => exact ⟨rfl, rfl⟩
    have hle := hc.calls_le
    exact ⟨by omega, hmore.2 ▸ hc.bound, fun h => by omega, fun h => by omega⟩
  | bootstrapped hpromise hstopped =>
    refine ⟨hc.calls_le, hc.bound.trans (Nat.lt_succ_self _), hc.idle, fun hcalls hstart => ?_⟩
    have hne := Nat.ne_of_lt hc.bound
    have hcurrent := hc.current hcalls (by simpa [bootstrapped, hne] using hstart)
    rw [(isCurrent_iff.mp hcurrent).2] at hstopped
    cases hstopped
  | @driverFulfilled j hj hstarting =>
    refine ⟨hc.calls_le, hc.bound, hc.idle, fun hcalls hstart => ?_⟩
    have hne : i ≠ j := by
      rintro rfl
      simp [driverFulfilled] at hstart
    have hcurrent := hc.current hcalls (by simpa [driverFulfilled, hne] using hstart)
    obtain ⟨hcontroller, hstate⟩ := isCurrent_iff.mp hcurrent
    have hother : c.isCurrent j ≠ true := fun hj => hne
      (Option.some.inj (hcontroller.symm.trans (isCurrent_iff.mp hj).1))
    refine isCurrent_iff.mpr ⟨hcontroller, ?_⟩
    simpa [driverFulfilled, hother] using hstate
  | @driverRejected j hj hstarting =>
    refine ⟨hc.calls_le, hc.bound, hc.idle, fun hcalls hstart => ?_⟩
    have hne : i ≠ j := by
      rintro rfl
      simp [driverRejected] at hstart
    have hcurrent := hc.current hcalls (by simpa [driverRejected, hne] using hstart)
    obtain ⟨hcontroller, hstate⟩ := isCurrent_iff.mp hcurrent
    have hother : c.isCurrent j ≠ true := fun hj => hne
      (Option.some.inj (hcontroller.symm.trans (isCurrent_iff.mp hj).1))
    refine isCurrent_iff.mpr ⟨hcontroller, ?_⟩
    simpa [driverRejected, hother] using hstate
  | @startCleared j hj hsettled =>
    refine ⟨hc.calls_le, hc.bound, hc.idle, fun hcalls hstart => ?_⟩
    have hne : i ≠ j := by
      rintro rfl
      simp [startCleared] at hstart
    have hcurrent := hc.current hcalls (by simpa [startCleared, hne] using hstart)
    obtain ⟨hcontroller, hstate⟩ := isCurrent_iff.mp hcurrent
    exact isCurrent_iff.mpr ⟨by simp [startCleared, hcontroller, hne], hstate⟩
  | drainEnded hphase =>
    have hend : c.drainEnded.stopCalls = c.stopCalls ∧ c.drainEnded.startCount = c.startCount :=
      ⟨rfl, rfl⟩
    have hcalls := hnot (by simp) hphase
    exact ⟨hc.calls_le, hc.bound, fun h => absurd h hcalls, fun h => absurd h hcalls⟩
  | startCancelled hphase =>
    have hcalls := hnot (by simp) hphase
    exact ⟨hc.calls_le, hc.bound, fun h => absurd h hcalls, fun h => absurd h hcalls⟩
  | sessionsClosed hphase =>
    have hcalls := hnot (by simp) hphase
    exact ⟨hc.calls_le, hc.bound, fun h => absurd h hcalls, fun h => absurd h hcalls⟩
  | driverStopped hphase =>
    have hcalls := hnot (by simp) hphase
    exact ⟨hc.calls_le, hc.bound, fun h => absurd h hcalls, fun h => absurd h hcalls⟩
  | stopCleared hphase =>
    have hcalls := hnot (by simp) hphase
    exact ⟨hc.calls_le, hc.bound, fun h => absurd h hcalls, fun h => absurd h hcalls⟩

/-- A running server runs until it is stopped. -/
theorem running_moves {calls : Nat} (h : Moves deps c e d) (hc : Unhindered calls i c)
    (hrunning : c.stopCalls = calls → c.lifecycle.state = .running) (hcalls : d.stopCalls = calls) :
    d.lifecycle.state = .running := by
  have hle := hc.calls_le
  obtain heq | ⟨-, hmore⟩ := stopCalls_moves h
  · have hsame : c.stopCalls = calls := heq.symm.trans hcalls
    have hstate := hrunning hsame
    have hidle := hc.idle hsame
    have hother : ∀ j, c.isCurrent j ≠ true := fun j hj => by
      rw [(isCurrent_iff.mp hj).2] at hstate
      cases hstate
    cases h with
    | rests => exact hstate
    | stops =>
      have hstop := stops_stop deps.options.shutdown.graceful c
      generalize c.stop deps.options.shutdown.graceful = d at hstop heq
      cases hstop with
      | joins hphase => simp at heq
      | stopped hphase hstopped => simp at heq
      | begins hphase hstate hthrew hwinds => simp at heq
    | bootstrapped hpromise hstopped =>
      rw [hstate] at hstopped
      cases hstopped
    | driverFulfilled hi hstarting => simpa [driverFulfilled, hother] using hstate
    | driverRejected hi hstarting => simpa [driverRejected, hother] using hstate
    | startCleared hi hsettled => exact hstate
    | drainEnded hphase =>
      rw [hidle] at hphase
      cases hphase
    | startCancelled hphase => exact hstate
    | sessionsClosed hphase => exact hstate
    | driverStopped hphase =>
      rw [hidle] at hphase
      cases hphase
    | stopCleared hphase => exact hstate
  · omega

end Control

namespace WebTransportRuntime

variable {deps : RuntimeDependencies} {s t : RuntimeState} {e : RuntimeEvent}
  {es : List RuntimeEvent} {i : Nat}

theorem fits_new (deps : RuntimeDependencies) : Control.Fits (new deps).control where
  legal := rfl
  subscribed := rfl
  listening := rfl
  awaited := fun state h => by cases h
  starting := fun h => by cases h
  released := fun _ _ => ⟨rfl, rfl⟩

/-- In every run the lifecycle takes legal transitions only, and the subscriptions last as long as
the server starts or runs. -/
theorem fits_run (h : (machine deps).Run (new deps) es s) : Control.Fits s.control :=
  h.invariant (P := fun s => Control.Fits s.control)
    (fun _ _ _ hst hs => Control.fits_moves (moves_of_step hst) hs) (fits_new deps)

/-- The step begins a stop: it calls `stop` while none is in progress. -/
def BeginsStop (deps : RuntimeDependencies) (s : RuntimeState) (e : RuntimeEvent) : Prop :=
  s.stopPhase = .idle ∧ s.stopCalls < (next deps s e).stopCalls

/-- The startup `i` was begun by a bootstrap of the run and no stop has begun since. -/
def StartedBy (deps : RuntimeDependencies) (i : Nat) (es : List RuntimeEvent) (s : RuntimeState) :
    Prop :=
  ∃ pre post u v, es = pre ++ .bootstrap :: post ∧ (machine deps).Run (new deps) pre u ∧
    (machine deps).Step u .bootstrap v ∧ u.startCount = i ∧ v.startupController = some i ∧
    ((machine deps).restrict fun s e => ¬ BeginsStop deps s e).Run v post s

/-- A current startup was begun by a bootstrap of the run, and no stop has begun since. -/
theorem startedBy_run (h : (machine deps).Run (new deps) es s) (hi : s.control.isCurrent i = true) :
    StartedBy deps i es s := by
  have hkeep : ∀ s e t, (machine deps).Step s e t →
      (Control.Fits s.control ∧ s.control.isCurrent i = true) →
      (Control.Fits t.control ∧ t.control.isCurrent i = true) → ¬ BeginsStop deps s e := by
    rintro s e t hst ⟨-, hs⟩ ⟨-, ht⟩ ⟨hphase, hcalls⟩
    have hmoves := moves_of_step hst
    rw [← hst.2] at hcalls
    obtain heq | ⟨hstops, -⟩ := Control.stopCalls_moves hmoves
    · exact absurd hcalls (Nat.not_lt.mpr (Nat.le_of_eq heq))
    · exact Control.not_current_of_stops hstops hphase hs ht
  obtain ⟨hnew, -⟩ | ⟨pre, e, post, u, v, heq, hpre, hst, hu, hv, hpost⟩ :=
    h.since (P := fun s => Control.Fits s.control ∧ s.control.isCurrent i = true) hkeep
      ⟨fits_run h, hi⟩
  · cases hnew.2
  · have hfits := fits_run hpre
    obtain ⟨rfl, hcount⟩ := Control.becomes_current (moves_of_step hst) hfits
      (fun hcurrent => hu ⟨hfits, hcurrent⟩) hv.2
    exact ⟨pre, post, u, v, heq, hpre, hst, hcount, (Control.isCurrent_iff.mp hv.2).1, hpost⟩

/-- The event ends an awaited `driver.stop`, which the code takes to have succeeded. -/
def PassesForStopped (e : RuntimeEvent) : Prop :=
  ∃ result, e = .driverStopped result ∧ result.driverStopError = none

theorem passesForStopped_iff :
    PassesForStopped e ↔ e = .driverStopped .fulfilled ∨ e = .driverStopped (.rejected none) := by
  constructor
  · rintro ⟨result, rfl, hnone⟩
    cases result with
    | fulfilled => exact Or.inl rfl
    | rejected reason =>
      obtain rfl : reason = none := hnone
      exact Or.inr rfl
  · rintro (rfl | rfl)
    · exact ⟨.fulfilled, rfl, rfl⟩
    · exact ⟨.rejected none, rfl, rfl⟩

/-- What holds of every run: no transition is illegal, and STOPPED, the runtime holds neither a
session subscription nor a listener on the server signal. -/
theorem lifecycle_run (h : (machine deps).Run (new deps) es s) :
    s.lifecycle.threw = false ∧
    (s.lifecycle.state = .stopped → s.subscriptions = [] ∧ s.serverAbortListeners = []) := by
  have hfits := fits_run h
  refine ⟨hfits.legal, fun hstopped => ?_⟩
  have hstate : s.control.lifecycle.state = .stopped := hstopped
  obtain ⟨hunsubscribed, hremoved⟩ :=
    hfits.released (by rw [hstate]; simp) (by rw [hstate]; simp)
  refine ⟨hfits.subscribed.trans ?_, hfits.listening.trans ?_⟩
  · rw [hunsubscribed, Option.toList_none]
  · rw [hremoved, Option.toList_none]

theorem running_entered (h : (machine deps).Run (new deps) es s) (hst : (machine deps).Step s e t)
    (hs : s.lifecycle.state ≠ .running) (ht : t.lifecycle.state = .running) :
    ∃ i, e = .driverStarted i true ∧ s.startupController = some i ∧ StartedBy deps i es s := by
  obtain h' | h' | ⟨h', -⟩ | ⟨-, i, he, hi⟩ | ⟨h', -⟩ :=
    Control.enters_moves (moves_of_step hst) (fits_run h) hs ht
  · cases h'
  · cases h'
  · cases h'
  · exact ⟨i, he, (Control.isCurrent_iff.mp hi).1, startedBy_run h hi⟩
  · cases h'

theorem stopped_entered (h : (machine deps).Run (new deps) es s) (hst : (machine deps).Step s e t)
    (hs : s.lifecycle.state ≠ .stopped) (ht : t.lifecycle.state = .stopped) :
    (PassesForStopped e ∧ s.stopPhase = .stoppingDriver) ∨
      ∃ i, e = .driverStarted i false ∧ s.startupController = some i ∧ StartedBy deps i es s := by
  obtain h' | h' | ⟨h', -⟩ | ⟨h', -⟩ | ⟨-, ⟨result, he, hnone, hphase⟩ | ⟨i, he, hi⟩⟩ :=
    Control.enters_moves (moves_of_step hst) (fits_run h) hs ht
  · cases h'
  · cases h'
  · cases h'
  · cases h'
  · exact Or.inl ⟨⟨result, he, hnone⟩, hphase⟩
  · exact Or.inr ⟨i, he, (Control.isCurrent_iff.mp hi).1, startedBy_run h hi⟩

/-- An awaited `driver.stop` that passes for one that succeeded enters STOPPED. -/
theorem enters_stopped (h : (machine deps).Run (new deps) es s) (hst : (machine deps).Step s e t)
    (he : PassesForStopped e) : s.lifecycle.state ≠ .stopped ∧ t.lifecycle.state = .stopped := by
  obtain ⟨result, rfl, hnone⟩ := he
  have hmoves := moves_of_step hst
  obtain ⟨henabled, rfl⟩ := hst
  have hphase : s.stopPhase = .stoppingDriver := by simpa [enabled] using henabled
  have hstate : s.control.lifecycle.state = .stopping :=
    (fits_run h).awaited .stopping (by rw [show s.control.stopPhase = _ from hphase]; rfl)
  have hnext : (next deps s (.driverStopped result)).control =
      s.control.driverStopped result.driverStopError.isNone := control_driverStopped result
  have hstopped : (next deps s (.driverStopped result)).control.lifecycle.state = .stopped := by
    rw [hnext]
    simp [Control.driverStopped, hnone, hstate, Lifecycle.transition,
      isServerStateTransitionAllowed, allowedTransitions]
  refine ⟨?_, hstopped⟩
  rw [show s.lifecycle.state = .stopping from hstate]
  simp

/-- The lifecycle is sound in every state and at every step of the run `es`: no transition is
illegal; RUNNING is entered only when the `driver.start` of the current startup fulfils and no stop
has begun since that startup; STOPPED only when the awaited `driver.stop` fulfils or the current
`driver.start` rejects; STOPPED, neither a session subscription nor a listener on the server signal
is held. -/
structure LifecycleSound (deps : RuntimeDependencies) (es : List RuntimeEvent) : Prop where
  legal : ∀ pre post s, es = pre ++ post → (machine deps).Run (new deps) pre s →
    s.lifecycle.threw = false
  released : ∀ pre post s, es = pre ++ post → (machine deps).Run (new deps) pre s →
    s.lifecycle.state = .stopped → s.subscriptions = [] ∧ s.serverAbortListeners = []
  running : ∀ pre e post s t, es = pre ++ e :: post → (machine deps).Run (new deps) pre s →
    (machine deps).Step s e t → s.lifecycle.state ≠ .running → t.lifecycle.state = .running →
    ∃ i, e = .driverStarted i true ∧ s.startupController = some i ∧ StartedBy deps i pre s
  stopped : ∀ pre e post s t, es = pre ++ e :: post → (machine deps).Run (new deps) pre s →
    (machine deps).Step s e t → s.lifecycle.state ≠ .stopped → t.lifecycle.state = .stopped →
    (e = .driverStopped .fulfilled ∧ s.stopPhase = .stoppingDriver) ∨
      ∃ i, e = .driverStarted i false ∧ s.startupController = some i ∧ StartedBy deps i pre s

/-- The lifecycle of a run is sound exactly when no `driver.stop` that the runtime awaits rejects
with `undefined`. -/
theorem lifecycle_iff (h : (machine deps).Run (new deps) es s) :
    LifecycleSound deps es ↔ ∀ e ∈ es, e ≠ .driverStopped (.rejected none) := by
  constructor
  · rintro hsound e he rfl
    obtain ⟨pre, post, rfl⟩ := List.append_of_mem he
    obtain ⟨u, hpre, hpost⟩ := h.of_append
    cases hpost with
    | stepL hst hrest =>
      obtain ⟨hu, ht⟩ := enters_stopped hpre hst ⟨_, rfl, rfl⟩
      obtain ⟨h', -⟩ | ⟨i, h', -⟩ := hsound.stopped _ _ _ _ _ rfl hpre hst hu ht
      · cases h'
      · cases h'
  · intro hnever
    refine ⟨fun pre post u _ hpre => (lifecycle_run hpre).1,
      fun pre post u _ hpre => (lifecycle_run hpre).2,
      fun pre e post u v _ hpre hst => running_entered hpre hst, ?_⟩
    rintro pre e post u v rfl hpre hst hu hv
    obtain ⟨hpasses, hphase⟩ | hrejected := stopped_entered hpre hst hu hv
    · obtain rfl | rfl := passesForStopped_iff.mp hpasses
      · exact Or.inl ⟨rfl, hphase⟩
      · exact absurd rfl (hnever _ (by simp))
    · exact Or.inr hrejected

/-- A server that runs is stopped, up to its wait for `driver.stop`. -/
def awaitedDriver : List RuntimeEvent :=
  [.bootstrap, .driverStarted 0 true, .startCleared 0, .stop, .drainEnded, .sessionsClosed]

theorem lifecycle_iff_fulfilled :
    ∃ s : RuntimeState, (machine datagramServer).Run (new datagramServer)
        (awaitedDriver ++ [.driverStopped .fulfilled]) s ∧
      s.lifecycle.state = .stopped ∧
      LifecycleSound datagramServer (awaitedDriver ++ [.driverStopped .fulfilled]) := by
  obtain ⟨s, hrun, hstopped⟩ := exists_run datagramServer (new datagramServer)
    (awaitedDriver ++ [.driverStopped .fulfilled]) (fun s => s.lifecycle.state = .stopped)
    (by decide)
  refine ⟨s, hrun, hstopped, (lifecycle_iff hrun).mpr ?_⟩
  simp [awaitedDriver]

/-- The driver's `stop` rejects with `undefined`, and the runtime is STOPPED. -/
theorem stopped_by_rejection :
    ∃ s t : RuntimeState, (machine datagramServer).Run (new datagramServer) awaitedDriver s ∧
      (machine datagramServer).Step s (.driverStopped (.rejected none)) t ∧
      s.lifecycle.state = .stopping ∧ t.lifecycle.state = .stopped ∧
      ¬ LifecycleSound datagramServer (awaitedDriver ++ [.driverStopped (.rejected none)]) := by
  obtain ⟨s, hrun, henabled, hstopping, hstopped⟩ := exists_run datagramServer
    (new datagramServer) awaitedDriver
    (fun s => enabled datagramServer s (.driverStopped (.rejected none)) = true ∧
      s.lifecycle.state = .stopping ∧
      (next datagramServer s (.driverStopped (.rejected none))).lifecycle.state = .stopped)
    (by decide)
  have hst : (machine datagramServer).Step s (.driverStopped (.rejected none)) _ := ⟨henabled, rfl⟩
  refine ⟨s, _, hrun, hst, hstopping, hstopped, fun hsound => ?_⟩
  obtain ⟨h', -⟩ | ⟨i, h', -⟩ :=
    hsound.stopped _ _ [] _ _ rfl hrun hst (by simp [hstopping]) hstopped
  · cases h'
  · cases h'

/-! ### Bootstrapping a stopped server -/

/-- What `onApplicationBootstrap` gives back: the promise of a startup, a promise that has resolved,
that of the stop in progress, or an error. -/
inductive BootstrapAnswer
  | startPromise (i : Nat)
  | resolved
  | stopPromise
  | threw
  deriving DecidableEq, Repr

def bootstrapAnswer (deps : RuntimeDependencies) (s : RuntimeState) : BootstrapAnswer :=
  match s.startPromise with
  | some i => .startPromise i
  | none =>
    if s.lifecycle.state = .running then .resolved
    else if s.lifecycle.state ≠ .stopped then .stopPromise
    else if validateRegistryConfiguration deps = false then .threw
    else .startPromise s.startCount

/-- The call begins a `driver.start` or throws, and where the `driver.start` behind the promise it
gives back fulfils and nobody has called `stop` since the call, the server is running. -/
def ReallyStarts (deps : RuntimeDependencies) (s : RuntimeState) : Prop :=
  ((next deps s .bootstrap).startCount = s.startCount + 1 ∨ bootstrapAnswer deps s = .threw) ∧
    ∀ i, bootstrapAnswer deps s = .startPromise i → ∀ es u,
      (machine deps).Run (next deps s .bootstrap) es u → u.stopCalls = s.stopCalls →
      .driverStarted i true ∈ es → u.lifecycle.state = .running

/-- Without a stop the server runs once its driver has started. -/
theorem fulfilled_running {u : RuntimeState} {calls : Nat}
    (h : (machine deps).Run t es u) (ht : Control.Unhindered calls i t.control)
    (hcalls : u.stopCalls = calls) (he : .driverStarted i true ∈ es) :
    u.lifecycle.state = .running := by
  have hfire : ∀ s t, (machine deps).Step s (.driverStarted i true) t →
      Control.Unhindered calls i s.control → t.stopCalls = calls →
        t.lifecycle.state = .running := by
    rintro s t ⟨henabled, rfl⟩ hs hcalls
    have hi : i < s.startCount ∧ s.start i = .starting := by simpa [enabled] using henabled
    have hcurrent := hs.current hcalls hi.2
    obtain ⟨hcontroller, hstate⟩ := Control.isCurrent_iff.mp hcurrent
    have hcontroller' : s.startupController = some i := hcontroller
    have hstate' : s.lifecycle.state = .starting := hstate
    simp [next, driverStarted, hcontroller', hstate', Lifecycle.transition,
      isServerStateTransitionAllowed, allowedTransitions]
  exact h.holds_after (P := fun u => u.stopCalls = calls → u.lifecycle.state = .running)
    (fun _ _ _ hst hs => Control.unhindered_moves (moves_of_step hst) hs) hfire
    (fun _ _ _ hst hs hp => Control.running_moves (moves_of_step hst) hs hp) ht he hcalls

/-- A bootstrap of a stopped server really starts it exactly when no earlier startup is still
remembered. -/
theorem bootstrap_iff (hstopped : s.lifecycle.state = .stopped) (hidle : s.stopPhase = .idle) :
    ReallyStarts deps s ↔ s.startPromise = none := by
  constructor
  · rintro ⟨hbegins, -⟩
    cases hpromise : s.startPromise with
    | none => rfl
    | some j =>
      rcases hbegins with hcount | hthrew
      · simp [next, onApplicationBootstrap, hpromise] at hcount
      · simp [bootstrapAnswer, hpromise] at hthrew
  · intro hpromise
    by_cases hvalid : validateRegistryConfiguration deps = false
    · have hthrew : bootstrapAnswer deps s = .threw := by
        simp [bootstrapAnswer, hpromise, hstopped, hvalid]
      refine ⟨Or.inr hthrew, fun i hi => ?_⟩
      rw [hthrew] at hi
      cases hi
    · have hstarts : (next deps s .bootstrap).startCount = s.startCount + 1 := by
        simp [next, onApplicationBootstrap, hpromise, hstopped, hvalid]
      refine ⟨Or.inl hstarts, fun i hi es u hrun hcalls he => ?_⟩
      obtain rfl : s.startCount = i := by
        simpa [bootstrapAnswer, hpromise, hstopped, hvalid] using hi
      refine fulfilled_running hrun ?_ hcalls he
      constructor
      · simp [next, onApplicationBootstrap, hpromise, hstopped, hvalid, RuntimeState.control]
      · simp [next, onApplicationBootstrap, hpromise, hstopped, hvalid, RuntimeState.control]
      · simp [next, onApplicationBootstrap, hpromise, hstopped, hvalid, RuntimeState.control, hidle]
      · simp [next, onApplicationBootstrap, hpromise, hstopped, hvalid, RuntimeState.control,
          Control.isCurrent, Lifecycle.transition, isServerStateTransitionAllowed,
          allowedTransitions]

/-- A new server really starts, and again once its first start and a stop have settled and cleared
what they remembered. -/
theorem bootstrap_iff_restarted :
    ReallyStarts datagramServer (new datagramServer) ∧
      ∃ s : RuntimeState, (machine datagramServer).Run (new datagramServer)
          (awaitedDriver ++ [.driverStopped .fulfilled, .stopCleared]) s ∧
        s.startCount = 1 ∧ s.stopCalls = 1 ∧ ReallyStarts datagramServer s := by
  refine ⟨(bootstrap_iff (s := new datagramServer) rfl rfl).mpr rfl, ?_⟩
  obtain ⟨s, hrun, hstarts, hstops, hstopped, hidle, hpromise⟩ := exists_run datagramServer
    (new datagramServer) (awaitedDriver ++ [.driverStopped .fulfilled, .stopCleared])
    (fun s => s.startCount = 1 ∧ s.stopCalls = 1 ∧ s.lifecycle.state = .stopped ∧
      s.stopPhase = .idle ∧ s.startPromise = none) (by decide)
  exact ⟨s, hrun, hstarts, hstops, (bootstrap_iff hstopped hidle).mpr hpromise⟩

/-- `stop` gives up waiting for the first startup and the driver stops. -/
def abandonedStartup : List RuntimeEvent :=
  [.bootstrap, .stop, .startCancelled, .sessionsClosed, .driverStopped .fulfilled, .stopCleared]

/-- The bootstrap that follows only gives back the promise of the abandoned startup, and once that
fulfils the server is not running. -/
theorem bootstrap_abandoned :
    ∃ s : RuntimeState, (machine datagramServer).Run (new datagramServer) abandonedStartup s ∧
      s.lifecycle.state = .stopped ∧ s.stopPhase = .idle ∧ ¬ ReallyStarts datagramServer s ∧
      ∃ u, (machine datagramServer).Run s
          [.bootstrap, .driverStarted 0 true, .startCleared 0] u ∧
        bootstrapAnswer datagramServer s = .startPromise 0 ∧ u.stopCalls = s.stopCalls ∧
        u.lifecycle.state = .stopped := by
  obtain ⟨s, hrun, hstate, hphase, hcount, hanswer, hlater⟩ := exists_run datagramServer
    (new datagramServer) abandonedStartup
    (fun s => s.lifecycle.state = .stopped ∧ s.stopPhase = .idle ∧
      (next datagramServer s .bootstrap).startCount ≠ s.startCount + 1 ∧
      bootstrapAnswer datagramServer s = .startPromise 0 ∧
      (execute datagramServer [.bootstrap, .driverStarted 0 true, .startCleared 0] s).any
        (fun u => decide (u.stopCalls = s.stopCalls ∧ u.lifecycle.state = .stopped)) = true)
    (by decide)
  refine ⟨s, hrun, hstate, hphase, ?_, ?_⟩
  · rintro ⟨hbegins, -⟩
    rcases hbegins with hnew | hthrew
    · exact hcount hnew
    · rw [hanswer] at hthrew
      cases hthrew
  · obtain ⟨u, hu, hcalls, hstopped⟩ := exists_run datagramServer s _
      (fun u => u.stopCalls = s.stopCalls ∧ u.lifecycle.state = .stopped) hlater
    exact ⟨u, hu, hanswer, hcalls, hstopped⟩

end WebTransportRuntime

end NestWebTransport
