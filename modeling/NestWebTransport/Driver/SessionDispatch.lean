import NestWebTransport.Driver.CommandMoves

/-! What the sessions a native server surfaces do to the driver and to one another. -/
namespace NestWebTransport

namespace RWebTransportDriver

variable {options : RWebTransportDriverOptions} {s t : DriverState} {e : DriverEvent}
  {es : List DriverEvent} {native : NativeSession}

/-- What happens while the native server is healthy and nobody calls the driver. -/
def DriverEvent.IsTraffic : DriverEvent → Prop
  | .surfaced .. | .callbackSettled .. | .dispatchClosed _ | .dispatchCleared _
  | .sessionFinished .. | .subscribed _ | .unsubscribed _ => True
  | _ => False

/-- The driver goes on: it stays in RUNNING, a session that has no adapter is closed, one that has
is passed to the callbacks, and so are those before it. -/
structure Undisturbed (options : RWebTransportDriverOptions) (s : DriverState) (e : DriverEvent) :
    Prop where
  running : (next options s e).state = .running
  closed : ∀ a native, e = .surfaced a native → native.adaptable = false →
    native ∈ (next options s e).nativesClosed
  dispatched : ∀ a native, e = .surfaced a native → native.adaptable = true →
    isAtCapacity options s = false → ∀ callback rest, s.callbacks = callback :: rest →
      (next options s e).session s.sessionCount =
        ⟨native, .connected, false, .calling callback rest, [callback]⟩
  continued : ∀ n callback following rest, e = .callbackSettled n true →
    (s.session n).dispatch = .calling callback (following :: rest) →
      ((next options s e).session n).dispatch = .calling following rest ∧
        ((next options s e).session n).called = (s.session n).called ++ [following]
  earlier : ∀ a native, e = .surfaced a native → ∀ n < s.sessionCount,
    (next options s e).session n = s.session n

/-- A surfaced session has an adapter or is over capacity, unless a stop is pending anyway. -/
def Adapts (options : RWebTransportDriverOptions) (s : DriverState) (e : DriverEvent) : Prop :=
  ∀ a native, e = .surfaced a native →
    native.adaptable = true ∨ isAtCapacity options s = true ∨ s.stopPromise.isSome = true

/-! ### One surfaced session -/

theorem surfaced_full (hfull : isAtCapacity options s = true) : surfaced options s native =
    { s with
      sessionsTotal := s.sessionsTotal + 1
      sessionsRejected := s.sessionsRejected + 1
      nativesClosed := s.nativesClosed ++ [native] } := by
  unfold surfaced acceptSession
  simp only [if_pos hfull, if_true]

theorem surfaced_adaptable (hroom : isAtCapacity options s = false)
    (hadaptable : native.adaptable = true) :
    surfaced options s native = registerSession s native := by
  unfold surfaced acceptSession
  simp [hroom, hadaptable]

theorem surfaced_unadaptable (hroom : isAtCapacity options s = false)
    (hbad : native.adaptable = false) : surfaced options s native =
      handleServerError
        { s with
          sessionsTotal := s.sessionsTotal + 1
          nativesClosed := s.nativesClosed ++ [native] } := by
  unfold surfaced acceptSession
  simp [hroom, hbad]

theorem session_closeSession {n j : Nat} (hne : j ≠ n) :
    (closeSession s n).session j = s.session j := by
  unfold closeSession finishSession
  split_ifs
  · rfl
  · exact Function.update_of_ne hne _ _
  · exact Function.update_of_ne hne _ _
  · rfl

/-- Registering a session touches no earlier one. -/
theorem session_registerSession_of_lt {n : Nat} (hn : n < s.sessionCount) :
    (registerSession s native).session n = s.session n := by
  have hne : n ≠ s.sessionCount := Nat.ne_of_lt hn
  unfold registerSession
  simp only
  split_ifs
  · rw [session_closeSession hne]
    exact Function.update_of_ne hne _ _
  · unfold dispatchNext
    cases s.callbacks with
    | nil =>
      simp only [updateSession]
      rw [Function.update_of_ne hne]
      exact Function.update_of_ne hne _ _
    | cons callback rest =>
      simp only [updateSession]
      rw [Function.update_of_ne hne]
      exact Function.update_of_ne hne _ _

theorem session_registerSession (hrunning : s.state = .running) {callback : Nat} {rest : List Nat}
    (hcallbacks : s.callbacks = callback :: rest) :
    (registerSession s native).session s.sessionCount =
      ⟨native, .connected, false, .calling callback rest, [callback]⟩ := by
  unfold registerSession
  simp only [hrunning, hcallbacks, dispatchNext, updateSession]
  simp

/-- The error of a server that is already being stopped changes nothing. -/
theorem handleServerError_stopping (h : s.stopPromise.isSome = true) : handleServerError s = s := by
  unfold handleServerError stop
  simp [h]

/-- In RUNNING, any other error stops the driver. -/
theorem handleServerError_stops (hrunning : s.state = .running) (h : s.stopPromise = none) :
    (handleServerError s).state ≠ .running := by
  have hstop : handleServerError s = stop s false true := if_pos (Or.inl hrunning)
  rw [hstop]
  unfold stop performStop
  simp only [h, Option.isSome_none, Bool.false_eq_true, if_false, hrunning, reduceCtorEq, false_and,
    Bool.true_eq_false]
  split
  · nofun
  · rename_i a hserver
    simp only [and_false, if_false]
    rw [commands_beginClosing]
    nofun

theorem adapts_surfaced {a : Nat} (hrunning : s.state = .running)
    (h : Undisturbed options s (.surfaced a native)) : Adapts options s (.surfaced a native) := by
  rintro _ _ ⟨⟩
  by_contra hnone
  simp only [not_or, Bool.not_eq_true] at hnone
  obtain ⟨hbad, hroom, hstop⟩ := hnone
  have hkept := h.running
  change (surfaced options s native).state = .running at hkept
  rw [surfaced_unadaptable hroom hbad] at hkept
  refine absurd hkept (handleServerError_stops hrunning ?_)
  simpa using hstop

/-- A session whose adapter can be built disturbs no other. -/
theorem undisturbed_surfaced {a : Nat} (hrunning : s.state = .running)
    (h : Adapts options s (.surfaced a native)) : Undisturbed options s (.surfaced a native) := by
  have hadapts := h a native rfl
  cases hroom : isAtCapacity options s with
  | true =>
    have hnext : next options s (.surfaced a native) = _ := surfaced_full hroom
    constructor
    · rw [hnext]
      exact hrunning
    · rintro _ _ ⟨⟩ -
      rw [hnext]
      exact List.mem_append_right _ (List.mem_singleton_self native)
    · rintro _ _ ⟨⟩ - hroom'
      rw [hroom] at hroom'
      cases hroom'
    · rintro n callback following rest ⟨⟩
    · rintro _ _ ⟨⟩ n hn
      rw [hnext]
  | false =>
    cases hadaptable : native.adaptable with
    | true =>
      have hnext : next options s (.surfaced a native) = _ := surfaced_adaptable hroom hadaptable
      constructor
      · rw [hnext, commands_registerSession]
        exact hrunning
      · rintro _ _ ⟨⟩ hbad
        rw [hadaptable] at hbad
        cases hbad
      · rintro _ _ ⟨⟩ - - callback rest hcallbacks
        rw [hnext]
        exact session_registerSession hrunning hcallbacks
      · rintro n callback following rest ⟨⟩
      · rintro _ _ ⟨⟩ n hn
        rw [hnext]
        exact session_registerSession_of_lt hn
    | false =>
      have hstop : s.stopPromise.isSome = true := by
        rw [hadaptable, hroom] at hadapts
        simpa using hadapts
      have hnext : next options s (.surfaced a native) =
          { s with
            sessionsTotal := s.sessionsTotal + 1
            nativesClosed := s.nativesClosed ++ [native] } :=
        (surfaced_unadaptable hroom hadaptable).trans (handleServerError_stopping hstop)
      constructor
      · rw [hnext]
        exact hrunning
      · rintro _ _ ⟨⟩ -
        rw [hnext]
        exact List.mem_append_right _ (List.mem_singleton_self native)
      · rintro _ _ ⟨⟩ hgood
        rw [hadaptable] at hgood
        cases hgood
      · rintro n callback following rest ⟨⟩
      · rintro _ _ ⟨⟩ n hn
        rw [hnext]

/-! ### Whole runs -/

/-- A callback concerns its own session, fail as it may. -/
theorem undisturbed_callbackSettled {n : Nat} {succeeded : Bool} (hrunning : s.state = .running) :
    Undisturbed options s (.callbackSettled n succeeded) := by
  constructor
  · change (callbackSettled s n succeeded).state = .running
    rw [commands_callbackSettled]
    exact hrunning
  · rintro a native ⟨⟩
  · rintro a native ⟨⟩
  · rintro _ callback following rest ⟨⟩ hcalling
    change ((callbackSettled s n true).session n).dispatch = _ ∧
      ((callbackSettled s n true).session n).called = _
    unfold callbackSettled
    simp only [hcalling, if_true, dispatchNext, updateSession]
    rw [Function.update_self]
    exact ⟨rfl, rfl⟩
  · rintro a native ⟨⟩

/-- What neither surfaces a session nor settles a callback disturbs nothing. -/
theorem undisturbed_others (hrunning : (next options s e).state = .running)
    (hsurfaced : ∀ a native, e ≠ .surfaced a native)
    (hsettled : ∀ n succeeded, e ≠ .callbackSettled n succeeded) : Undisturbed options s e :=
  ⟨hrunning, fun a native he => absurd he (hsurfaced a native),
    fun a native he => absurd he (hsurfaced a native), fun n _ _ _ he =>
      absurd he (hsettled n true),
    fun a native he => absurd he (hsurfaced a native)⟩

/-- Only an adapter that cannot be built disturbs the other sessions. -/
theorem undisturbed_iff (hrunning : s.state = .running) (htraffic : DriverEvent.IsTraffic e) :
    Undisturbed options s e ↔ Adapts options s e := by
  cases e with
  | surfaced a native => exact ⟨adapts_surfaced hrunning, undisturbed_surfaced hrunning⟩
  | callbackSettled n succeeded =>
    exact iff_of_true (undisturbed_callbackSettled hrunning) nofun
  | dispatchClosed n => exact iff_of_true (undisturbed_others hrunning nofun nofun) nofun
  | dispatchCleared n => exact iff_of_true (undisturbed_others hrunning nofun nofun) nofun
  | sessionFinished n failed =>
    refine iff_of_true (undisturbed_others ?_ nofun nofun) nofun
    change (finishSession s n failed).state = .running
    rw [commands_finishSession]
    exact hrunning
  | subscribed callback => exact iff_of_true (undisturbed_others hrunning nofun nofun) nofun
  | unsubscribed callback => exact iff_of_true (undisturbed_others hrunning nofun nofun) nofun
  | _ => cases htraffic

/-- A driver in RUNNING goes on through a run of surfaced sessions just where each of them has an
adapter or is over capacity, unless a stop is pending anyway. -/
theorem sessions_undisturbed_iff (options : RWebTransportDriverOptions) (s t : DriverState)
    (es : List DriverEvent) (hrunning : s.state = .running) :
    (((program options).machine.restrict fun _ e => DriverEvent.IsTraffic e).restrict
        (Undisturbed options)).Run s es t ↔
      (((program options).machine.restrict fun _ e => DriverEvent.IsTraffic e).restrict
        (Adapts options)).Run s es t := by
  refine Machine.Run.restrict_congr (P := fun s => s.state = .running) ?_ ?_ hrunning
  · rintro s e _ ⟨-, -, rfl⟩ - hundisturbed
    exact hundisturbed.running
  · rintro s e _ ⟨htraffic, -⟩ hs
    exact undisturbed_iff hs htraffic

def badNative : NativeSession := ⟨"bad", false, false⟩

def goodNative : NativeSession := ⟨"good", true, false⟩

/-- A session without an adapter stops the driver, and the next session is not dispatched. -/
theorem unadaptable_stops : ∃ s t, (program smallOptions).machine.Reachable s ∧
    s.state = .running ∧ s.stopPromise = none ∧
    ((program smallOptions).machine.restrict fun _ e => DriverEvent.IsTraffic e).Run s
      [.surfaced 0 badNative, .surfaced 0 goodNative] t ∧
    t.state = .stopping ∧ (t.session 0).native = goodNative ∧ (t.session 0).called = [] := by
  obtain ⟨s, hrun, hrunning, hstop, hfirst, hsecond, hstopping, hgood, hcalled⟩ :=
    (program smallOptions).exists_run smallStart new
      (fun s => s.state = .running ∧ s.stopPromise = none ∧
        enabled s (.surfaced 0 badNative) = true ∧
        enabled (surfaced smallOptions s badNative) (.surfaced 0 goodNative) = true ∧
        (surfaced smallOptions (surfaced smallOptions s badNative) goodNative).state = .stopping ∧
        ((surfaced smallOptions (surfaced smallOptions s badNative) goodNative).session 0).native =
          goodNative ∧
        ((surfaced smallOptions (surfaced smallOptions s badNative) goodNative).session 0).called =
          []) (by decide +kernel)
  exact ⟨s, _, ⟨_, _, rfl, hrun⟩, hrunning, hstop,
    .stepL ⟨trivial, hfirst, rfl⟩ (.single ⟨trivial, hsecond, rfl⟩), hstopping, hgood, hcalled⟩

/-- Without the bad session the good one disturbs nothing. -/
theorem sessions_undisturbed_good : ∃ s t, (program smallOptions).machine.Reachable s ∧
    s.state = .running ∧
    (((program smallOptions).machine.restrict fun _ e => DriverEvent.IsTraffic e).restrict
      (Undisturbed smallOptions)).Run s [.surfaced 0 goodNative] t := by
  obtain ⟨s, hrun, hrunning, hfirst⟩ :=
    (program smallOptions).exists_run smallStart new
      (fun s => s.state = .running ∧ enabled s (.surfaced 0 goodNative) = true) (by decide +kernel)
  refine ⟨s, next smallOptions s (.surfaced 0 goodNative), ⟨_, _, rfl, hrun⟩, hrunning, ?_⟩
  refine (sessions_undisturbed_iff smallOptions s _ [.surfaced 0 goodNative] hrunning).mpr ?_
  refine .single ⟨?_, trivial, hfirst, rfl⟩
  rintro a native ⟨⟩
  exact Or.inl rfl

end RWebTransportDriver

end NestWebTransport
