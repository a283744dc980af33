import NestWebTransport.Driver.CommandOrder

/-! The native servers of a driver, over every interleaving of its commands. -/
namespace NestWebTransport

namespace RWebTransportServerAdapter

/-- The stop has called the native `close`, unless that throws; it releases what has closed, or what
it cannot close; and a start whose server was made is rejected only after it. -/
structure Sound (a : RWebTransportServerAdapter) : Prop where
  uncalled : a.stopPromise = .uncalled → a.server = a.native.created
  called : a.native.created = true → a.native.closeThrows = false → a.stopPromise ≠ .uncalled →
    a.closeCalled = true
  throws : a.native.closeThrows = true → a.closeCalled = false
  released : ∀ succeeded,
    a.stopPromise = .releasing succeeded ∨ a.stopPromise = .settled succeeded →
    a.native.closeThrows = true ∨ a.isLive = false
  rejected : a.startPromise = .rejected →
    a.native.created = false ∨ ∃ succeeded, a.stopPromise = .settled succeeded

/-- What every stretch does to an adapter: no server comes to life, and a called stop stays so. -/
structure Fades (a b : RWebTransportServerAdapter) : Prop where
  native : b.native = a.native
  live : b.isLive = true → a.isLive = true
  called : a.stopPromise ≠ .uncalled → b.stopPromise ≠ .uncalled
  sound : a.Sound → b.Sound

variable {a b c : RWebTransportServerAdapter}

theorem Fades.refl (a : RWebTransportServerAdapter) : Fades a a := ⟨rfl, id, id, id⟩

theorem Fades.trans (h : Fades a b) (h' : Fades b c) : Fades a c :=
  ⟨h'.native.trans h.native, h.live ∘ h'.live, h'.called ∘ h.called, h'.sound ∘ h.sound⟩

/-- A server whose start was rejected is open only where its `close` throws. -/
theorem Sound.dead_of_rejected (h : a.Sound) (hrejected : a.startPromise = .rejected)
    (hcloses : a.native.closeThrows = false) : a.isLive = false := by
  rcases h.rejected hrejected with hnone | ⟨succeeded, hsettled⟩
  · unfold isLive
    rw [hnone, Bool.false_and]
  · refine (h.released succeeded (Or.inr hsettled)).resolve_left ?_
    rw [hcloses]
    nofun

/-- What touches neither the native server nor the two promises. -/
theorem fades_quiet (a : RWebTransportServerAdapter) (closedObserved pumping listening : Bool)
    (signal : StartSignal) (raceAborted : Bool) :
    Fades a { a with
      closedObserved := closedObserved
      pumping := pumping
      listening := listening
      signal := signal
      raceAborted := raceAborted } :=
  ⟨rfl, id, id, fun h => ⟨h.uncalled, h.called, h.throws, h.released, h.rejected⟩⟩

/-- The promise of `start` goes on; it rejects only once the stop is over. -/
theorem fades_setStart {phase : AdapterStart}
    (h : phase = .rejected → ∃ succeeded, a.stopPromise = .settled succeeded) :
    Fades a { a with startPromise := phase } :=
  ⟨rfl, id, id, fun hs =>
    ⟨hs.uncalled, hs.called, hs.throws, hs.released, fun hphase => Or.inr (h hphase)⟩⟩

theorem sound_performStart (signal : StartSignal) (native : NativeServer) :
    (performStart signal native).Sound := by
  refine ⟨fun _ => rfl, fun _ _ h => absurd rfl h, fun _ => rfl, ?_, fun h => Or.inl ?_⟩
  · rintro succeeded (h | h)
    · cases h
    · cases h
  · change (if (performStart signal native).native.created then AdapterStart.racing
      else .rejected) = .rejected at h
    split_ifs at h with hcreated
    exact Bool.eq_false_iff.mpr hcreated

/-- `performStop` only lets go of the native server, however far it gets. -/
theorem fades_performStop (huncalled : a.stopPromise = .uncalled) : Fades a a.performStop := by
  have hrejects : a.Sound → a.startPromise = .rejected → a.native.created = false := by
    intro h hrejected
    refine (h.rejected hrejected).resolve_right ?_
    rintro ⟨succeeded, hsettled⟩
    rw [huncalled] at hsettled
    cases hsettled
  unfold performStop
  simp only
  split_ifs with hnone hthrows
  · -- There is no server to close.
    refine ⟨rfl, id, fun h => absurd huncalled h, fun h => ?_⟩
    have hcreated : a.native.created = false := (h.uncalled huncalled).symm.trans hnone
    refine ⟨nofun, fun hc => ?_, h.throws, fun _ _ => Or.inr ?_, fun hr => Or.inl (hrejects h hr)⟩
    · rw [hcreated] at hc
      cases hc
    · unfold isLive
      simp only
      rw [hcreated, Bool.false_and]
  · -- Its `close` throws.
    refine ⟨rfl, id, fun h => absurd huncalled h, fun h => ?_⟩
    refine ⟨nofun, fun _ hcloses => ?_, h.throws, fun _ _ => Or.inl hthrows,
      fun hr => Or.inl (hrejects h hr)⟩
    rw [hthrows] at hcloses
    cases hcloses
  · refine ⟨rfl, id, fun h => absurd huncalled h, fun h => ?_⟩
    refine ⟨nofun, fun _ _ _ => rfl, fun ht => absurd ht hthrows, ?_,
      fun hr => Or.inl (hrejects h hr)⟩
    rintro succeeded (hs | hs)
    · cases hs
    · cases hs

theorem fades_stop (a : RWebTransportServerAdapter) : Fades a a.stop := by
  unfold stop
  split_ifs with huncalled
  · exact fades_performStop huncalled
  · exact .refl a

theorem stop_called (a : RWebTransportServerAdapter) : a.stop.stopPromise ≠ .uncalled := by
  unfold stop performStop
  simp only
  split_ifs with huncalled
  · nofun
  · nofun
  · nofun
  · exact huncalled

theorem fades_raceLost (a : RWebTransportServerAdapter) : Fades a a.raceLost :=
  (fades_stop a).trans (fades_setStart nofun)

theorem fades_handleAbort (a : RWebTransportServerAdapter) : Fades a a.handleAbort := by
  have hquiet : Fades a { a with listening := false, raceAborted := true } :=
    fades_quiet a _ _ _ _ _
  unfold handleAbort
  split_ifs
  · exact hquiet.trans (fades_stop _)
  · exact .refl a

theorem fades_nativeClosed (a : RWebTransportServerAdapter) (succeeded : Bool) :
    Fades a { a with closed := some succeeded } := by
  have hdead : ({ a with closed := some succeeded } : RWebTransportServerAdapter).isLive = false :=
    Bool.and_false _
  refine ⟨rfl, fun h => ?_, id, fun h => ?_⟩
  · rw [hdead] at h
    cases h
  · exact ⟨h.uncalled, h.called, h.throws, fun _ _ => Or.inr hdead, h.rejected⟩

theorem fades_closedAwaited (hawaits : a.stopPromise = .awaitingClosed)
    (hclosed : a.closed.isSome = true) :
    Fades a { a with stopPromise := .releasing (a.closed == some true) } := by
  have hcalled : a.stopPromise ≠ .uncalled := by simp [hawaits]
  have hdead : a.isLive = false := by
    unfold isLive
    rw [Option.isNone_eq_false_iff.mpr hclosed, Bool.and_false]
  refine ⟨rfl, id, fun _ => nofun, fun h => ?_⟩
  refine ⟨nofun, fun hc ht _ => h.called hc ht hcalled, h.throws, fun _ _ => Or.inr hdead,
    fun hr => Or.inl ?_⟩
  refine (h.rejected hr).resolve_right ?_
  rintro ⟨succeeded, hsettled⟩
  rw [hawaits] at hsettled
  cases hsettled

theorem fades_released (a : RWebTransportServerAdapter) :
    Fades a (match a.stopPromise with | .releasing succeeded => a.released succeeded | _ => a) := by
  split
  · rename_i succeeded hreleasing
    have hcalled : a.stopPromise ≠ .uncalled := by simp [hreleasing]
    refine ⟨rfl, id, fun _ => nofun, fun h => ?_⟩
    exact ⟨nofun, fun hc ht _ => h.called hc ht hcalled, h.throws,
      fun _ _ => h.released succeeded (Or.inl hreleasing), fun _ => Or.inr ⟨succeeded, rfl⟩⟩
  · exact .refl a

end RWebTransportServerAdapter

namespace RWebTransportDriver

open RWebTransportServerAdapter (Fades)

variable {options : RWebTransportDriverOptions} {s t u : DriverState} {e : DriverEvent}
  {es : List DriverEvent}

/-! ### What keeps the servers -/

/-- The stop awaits the native server of the adapter `a`, whose `stop` it has called. -/
def Closes (s : DriverState) (j a : Nat) : Prop :=
  ∃ start sessions, s.stop j = .closing a start sessions

/-- What most of an event does: it starts no server and lets go of none. -/
structure KeepsServers (s t : DriverState) : Prop where
  server : t.server = s.server
  adapterCount : t.adapterCount = s.adapterCount
  fades : ∀ a, Fades (s.adapter a) (t.adapter a)
  closes : ∀ j a, Closes t j a → Closes s j a ∨ (t.adapter a).stopPromise ≠ .uncalled

theorem KeepsServers.refl (s : DriverState) : KeepsServers s s :=
  ⟨rfl, rfl, fun _ => .refl _, fun _ _ => Or.inl⟩

theorem KeepsServers.trans (h : KeepsServers s t) (h' : KeepsServers t u) : KeepsServers s u where
  server := h'.server.trans h.server
  adapterCount := h'.adapterCount.trans h.adapterCount
  fades a := (h.fades a).trans (h'.fades a)
  closes j a hu := by
    rcases h'.closes j a hu with ht | hcalled
    · exact (h.closes j a ht).imp_right (h'.fades a).called
    · exact Or.inr hcalled

theorem KeepsServers.of_eq (hserver : t.server = s.server)
    (hcount : t.adapterCount = s.adapterCount) (hadapter : t.adapter = s.adapter)
    (hstop : t.stop = s.stop) : KeepsServers s t := by
  refine ⟨hserver, hcount, fun a => by rw [hadapter]; exact .refl _, fun j a h => Or.inl ?_⟩
  unfold Closes at h ⊢
  rwa [hstop] at h

theorem keepsServers_setStop {j : Nat} {operation : StopOperation}
    (h : ∀ a start sessions, operation = .closing a start sessions →
      (s.adapter a).stopPromise ≠ .uncalled) : KeepsServers s (setStop s j operation) := by
  refine ⟨rfl, rfl, fun _ => .refl _, ?_⟩
  rintro k a ⟨start, sessions, hk⟩
  change Function.update s.stop j operation k = _ at hk
  rw [Function.update_apply] at hk
  split_ifs at hk
  · exact Or.inr (h a start sessions hk)
  · exact Or.inl ⟨start, sessions, hk⟩

theorem keepsServers_updateAdapter (a : Nat)
    {f : RWebTransportServerAdapter → RWebTransportServerAdapter}
    (hf : Fades (s.adapter a) (f (s.adapter a))) :
    KeepsServers s (updateAdapter s a f) := by
  refine ⟨rfl, rfl, fun b => ?_, fun _ _ => Or.inl⟩
  unfold updateAdapter
  simp only
  by_cases hb : b = a
  · rw [hb, Function.update_self]
    exact hf
  · rw [Function.update_of_ne hb]
    exact .refl _

theorem keepsServers_finishSession (n : Nat) (failed : Bool) :
    KeepsServers s (finishSession s n failed) := by
  unfold finishSession
  split_ifs
  · exact .refl s
  · exact .of_eq rfl rfl rfl rfl

theorem keepsServers_closeSession (n : Nat) : KeepsServers s (closeSession s n) := by
  unfold closeSession
  split_ifs
  · exact keepsServers_finishSession n true
  · exact .of_eq rfl rfl rfl rfl
  · exact .refl s

theorem keepsServers_closeSessions (held : List Nat) :
    KeepsServers s (held.foldl closeSession s) := by
  induction held generalizing s with
  | nil => exact .refl s
  | cons n held ih => exact (keepsServers_closeSession n).trans ih

theorem keepsServers_dispatchNext (n : Nat) (callbacks : List Nat) :
    KeepsServers s (dispatchNext s n callbacks) := by
  unfold dispatchNext
  cases callbacks with
  | nil => exact .of_eq rfl rfl rfl rfl
  | cons callback rest => exact .of_eq rfl rfl rfl rfl

theorem keepsServers_dropStartAbortListener : KeepsServers s (dropStartAbortListener s) := by
  unfold dropStartAbortListener
  split
  · exact .refl s
  · exact .of_eq rfl rfl rfl rfl

theorem keepsServers_beginClosing (j a : Nat) (starting : Bool) :
    KeepsServers s (beginClosing s j a starting) := by
  have hstate : KeepsServers s { s with state := .stopping } := .of_eq rfl rfl rfl rfl
  have hstops := hstate.trans
      (keepsServers_updateAdapter a (RWebTransportServerAdapter.fades_stop _))
  have hsessions := keepsServers_closeSessions
    (s := updateAdapter { s with state := .stopping } a (·.stop)) (s.sessions.map Prod.snd)
  refine (hstops.trans hsessions).trans (keepsServers_setStop fun b start sessions hb => ?_)
  obtain rfl : a = b := by injection hb
  refine (hsessions.fades a).called ?_
  change (Function.update s.adapter a (s.adapter a).stop a).stopPromise ≠ .uncalled
  rw [Function.update_self]
  exact RWebTransportServerAdapter.stop_called _

theorem keepsServers_performStop (j : Nat) (graceful valid : Bool) :
    KeepsServers s (performStop s j graceful valid) := by
  have hstate : ∀ state, KeepsServers s { s with state := state } := fun _ =>
    .of_eq rfl rfl rfl rfl
  unfold performStop
  split
  · exact keepsServers_setStop nofun
  · split
    · exact (hstate .stopped).trans (keepsServers_setStop nofun)
    · split
      · exact (hstate .draining).trans (keepsServers_setStop nofun)
      · exact keepsServers_beginClosing _ _ _

theorem keepsServers_stop (graceful valid : Bool) : KeepsServers s (stop s graceful valid) := by
  unfold stop
  split_ifs
  · exact .refl s
  · exact .refl s
  · have hcalled : KeepsServers s
        { s with stopCount := s.stopCount + 1, stopPromise := some s.stopCount } :=
      .of_eq rfl rfl rfl rfl
    exact hcalled.trans (keepsServers_performStop _ graceful valid)

theorem keepsServers_handleServerError : KeepsServers s (handleServerError s) := by
  unfold handleServerError
  split_ifs
  · exact keepsServers_stop false true
  · exact .refl s

theorem keepsServers_registerSession (native : NativeSession) :
    KeepsServers s (registerSession s native) := by
  unfold registerSession
  simp only
  split_ifs
  · refine .trans ?_ (keepsServers_closeSession _)
    exact .of_eq rfl rfl rfl rfl
  · refine .trans ?_ (keepsServers_dispatchNext _ _)
    exact .of_eq rfl rfl rfl rfl

theorem keepsServers_acceptSession (native : NativeSession) :
    KeepsServers s (acceptSession options s native).2 := by
  unfold acceptSession
  split_ifs
  · exact .of_eq rfl rfl rfl rfl
  · exact .of_eq rfl rfl rfl rfl
  · exact keepsServers_registerSession native

theorem keepsServers_surfaced (native : NativeSession) :
    KeepsServers s (surfaced options s native) := by
  have haccepts : KeepsServers s (acceptSession options s native).2 :=
    keepsServers_acceptSession native
  unfold surfaced
  simp only
  split
  · exact haccepts
  · refine .trans (haccepts.trans ?_) keepsServers_handleServerError
    exact .of_eq rfl rfl rfl rfl

theorem keepsServers_startAborted (a : Nat) : KeepsServers s (startAborted s a) := by
  have haborted : KeepsServers s (updateAdapter s a ({ · with signal := .aborted })) :=
    keepsServers_updateAdapter a (RWebTransportServerAdapter.fades_quiet _ _ _ _ _ _)
  have hstopped : ∀ u : DriverState,
      KeepsServers u (updateAdapter u a (·.handleAbort)) := fun u =>
    keepsServers_updateAdapter a (RWebTransportServerAdapter.fades_handleAbort _)
  unfold startAborted
  simp only
  split
  · have hdropped : KeepsServers s
        { updateAdapter s a ({ · with signal := .aborted }) with
          startAbortListeners := s.startAbortListeners.erase a } :=
      haborted.trans (.of_eq rfl rfl rfl rfl)
    exact (hdropped.trans (keepsServers_stop true true)).trans (hstopped _)
  · exact haborted.trans (hstopped _)

theorem keepsServers_pumpEnded (a : Nat) (failed : Bool) :
    KeepsServers s (pumpEnded s a failed) := by
  have hended : KeepsServers s (updateAdapter s a ({ · with pumping := false })) :=
    keepsServers_updateAdapter a (RWebTransportServerAdapter.fades_quiet _ _ _ _ _ _)
  unfold pumpEnded
  simp only
  split
  · exact hended.trans keepsServers_handleServerError
  · exact hended

theorem keepsServers_closedObserved (a : Nat) : KeepsServers s (closedObserved s a) := by
  have hseen : KeepsServers s (updateAdapter s a ({ · with closedObserved := true })) :=
    keepsServers_updateAdapter a (RWebTransportServerAdapter.fades_quiet _ _ _ _ _ _)
  unfold closedObserved
  simp only
  split
  · exact hseen
  · exact hseen.trans keepsServers_handleServerError

theorem keepsServers_callbackSettled (n : Nat) (succeeded : Bool) :
    KeepsServers s (callbackSettled s n succeeded) := by
  unfold callbackSettled
  split
  · split
    · exact keepsServers_dispatchNext _ _
    · refine .trans ?_ (keepsServers_closeSession _)
      exact .of_eq rfl rfl rfl rfl
  · exact .refl s

theorem keepsServers_drainEnded (j : Nat) : KeepsServers s (drainEnded s j) := by
  unfold drainEnded
  split
  · exact keepsServers_beginClosing _ _ _
  · exact .refl s

theorem keepsServers_stopFailed (j : Nat) : KeepsServers s (stopFailed s j) := by
  unfold stopFailed
  split
  · have hstate : KeepsServers s { dropStartAbortListener s with state := .stopping } :=
      keepsServers_dropStartAbortListener.trans (.of_eq rfl rfl rfl rfl)
    exact hstate.trans (keepsServers_setStop nofun)
  · exact .refl s

/-- What neither calls `performStart` nor lets go of the server. -/
theorem keepsServers_next (he : enabled s e = true)
    (hstart : ∀ signal native, e ≠ .start signal native)
    (hbegins : ∀ i native, e ≠ .startBegins i native) (hsettled : ∀ i, e ≠ .startSettled i)
    (hclosed : ∀ j, e ≠ .stopClosed j) : KeepsServers s (next options s e) := by
  have hupdate : ∀ (a : Nat) (f : RWebTransportServerAdapter → RWebTransportServerAdapter),
      Fades (s.adapter a) (f (s.adapter a)) → KeepsServers s (updateAdapter s a f) :=
    fun a f hf => keepsServers_updateAdapter a hf
  cases e with
  | start signal native => exact absurd rfl (hstart signal native)
  | startBegins i native => exact absurd rfl (hbegins i native)
  | startSettled i => exact absurd rfl (hsettled i)
  | startCleared i =>
    change KeepsServers s (startCleared s i)
    unfold startCleared
    split
    · exact .of_eq rfl rfl rfl rfl
    · exact .refl s
  | stop graceful valid => exact keepsServers_stop graceful valid
  | drainEnded j => exact keepsServers_drainEnded j
  | stopClosed j => exact absurd rfl (hclosed j)
  | stopFailed j => exact keepsServers_stopFailed j
  | stopCleared j =>
    change KeepsServers s (stopCleared s j)
    unfold stopCleared
    split
    · have hset : KeepsServers s (setStop s j (.cleared ‹Bool›)) := keepsServers_setStop nofun
      exact hset.trans (.of_eq rfl rfl rfl rfl)
    · exact .refl s
  | startAborted a => exact keepsServers_startAborted a
  | ready a =>
    exact hupdate a ({ · with startPromise := .fulfilled })
      (RWebTransportServerAdapter.fades_setStart nofun)
  | raceLost a => exact hupdate a (·.raceLost) (RWebTransportServerAdapter.fades_raceLost _)
  | raceStopped a =>
    refine hupdate a ({ · with startPromise := .rejected })
      (RWebTransportServerAdapter.fades_setStart fun _ => ?_)
    simp only [enabled, Bool.and_eq_true, decide_eq_true_eq] at he
    obtain ⟨-, he⟩ := he
    split at he
    · rename_i succeeded hsettled
      exact ⟨succeeded, hsettled⟩
    · cases he
  | nativeClosed a succeeded =>
    exact hupdate a ({ · with closed := some succeeded })
      (RWebTransportServerAdapter.fades_nativeClosed _ succeeded)
  | closedObserved a => exact keepsServers_closedObserved a
  | closedAwaited a =>
    simp only [enabled, Bool.and_eq_true, decide_eq_true_eq] at he
    exact hupdate a (fun adapter =>
      { adapter with stopPromise := .releasing (adapter.closed == some true) })
      (RWebTransportServerAdapter.fades_closedAwaited he.1.2 he.2)
  | released a =>
    exact hupdate a (fun adapter =>
      match adapter.stopPromise with
      | .releasing succeeded => adapter.released succeeded
      | _ => adapter) (RWebTransportServerAdapter.fades_released _)
  | surfaced a native => exact keepsServers_surfaced native
  | pumpEnded a failed => exact keepsServers_pumpEnded a failed
  | callbackSettled n succeeded => exact keepsServers_callbackSettled n succeeded
  | dispatchClosed n => exact .of_eq rfl rfl rfl rfl
  | dispatchCleared n => exact .of_eq rfl rfl rfl rfl
  | sessionFinished n failed => exact keepsServers_finishSession n failed
  | subscribed callback => exact .of_eq rfl rfl rfl rfl
  | unsubscribed callback => exact .of_eq rfl rfl rfl rfl

/-! ### One native server -/

/-- A call of `stop`, or one that goes on. -/
def isStop : DriverEvent → Bool
  | .stop _ _ | .drainEnded _ | .stopCleared _ => true
  | _ => false

theorem keepsServers_stops (h : (program options).machine.Run s es t)
    (hes : ∀ e ∈ es, isStop e = true) : KeepsServers s t := by
  have hstep : ∀ u e v, isStop e = true → (program options).machine.Step u e v →
      KeepsServers s u → KeepsServers s v := by
    rintro u e v hstop ⟨he, rfl⟩ hu
    refine hu.trans (keepsServers_next he ?_ ?_ ?_ ?_)
    · rintro signal native rfl
      cases hstop
    · rintro i native rfl
      cases hstop
    · rintro i rfl
      cases hstop
    · rintro j rfl
      cases hstop
  exact h.invariant_of_events (P := fun u => KeepsServers s u) _ hstep hes (.refl s)

/-- A stop can close the native server of the adapter `a`: `close` was called on it, or is called
once a stop is and goes on. -/
def StopCloses (options : RWebTransportDriverOptions) (s : DriverState) (a : Nat) : Prop :=
  ∃ es t, (∀ e ∈ es, isStop e = true) ∧ (program options).machine.Run s es t ∧
    (t.adapter a).closeCalled = true

/-- At most one native server has not finished closing; it is the one the driver holds, and a stop
can close it. -/
structure HoldsServers (options : RWebTransportDriverOptions) (s : DriverState) : Prop where
  one : ∀ a b, (s.adapter a).isLive = true → (s.adapter b).isLive = true → a = b
  held : ∀ a, (s.adapter a).isLive = true → s.server = some a
  closes : ∀ a, (s.adapter a).isLive = true → StopCloses options s a

/-- The signal and the native server of the `performStart` that the event runs. -/
def builds (s : DriverState) : DriverEvent → Option (StartSignal × NativeServer)
  | .start signal native =>
    if s.state ≠ .running ∧ s.startPromise = none ∧ s.stopPromise = none then some (signal, native)
    else none
  | .startBegins i native =>
    match s.start i with
    | .queued j signal => if s.stop j = .cleared true then some (signal, native) else none
    | _ => none
  | _ => none

/-- The event makes no native server while the one the driver holds is open, and none whose `close`
throws. -/
def ReplacesClosed (s : DriverState) (e : DriverEvent) : Prop :=
  ∀ built ∈ builds s e, (∀ a ∈ s.server, (s.adapter a).isLive = false) ∧
    (built.2.created = true → built.1 ≠ .aborted → built.2.closeThrows = false)

instance (s : DriverState) (e : DriverEvent) : Decidable (ReplacesClosed s e) :=
  inferInstanceAs (Decidable (∀ built ∈ builds s e, (∀ a ∈ s.server, (s.adapter a).isLive = false) ∧
    (built.2.created = true → built.1 ≠ .aborted → built.2.closeThrows = false)))

/-- What every run of the driver keeps that makes only servers it can close, one after another. -/
structure ServersSound (s : DriverState) : Prop where
  ordered : s.toDriverCommands.Ordered
  adapters : ∀ a, (s.adapter a).Sound
  unborn : ∀ a, s.adapterCount ≤ a → (s.adapter a).native.created = false
  closing : ∀ j a, Closes s j a → (s.adapter a).stopPromise ≠ .uncalled
  held : ∀ a, (s.adapter a).isLive = true → s.server = some a
  closable : ∀ a, (s.adapter a).isLive = true → (s.adapter a).native.closeThrows = false

theorem Closes.holds {j a : Nat} (h : Closes s j a) : (s.stop j).Holds a := by
  obtain ⟨start, sessions, h⟩ := h
  rw [h]
  rfl

theorem created_of_live {a : RWebTransportServerAdapter} (hlive : a.isLive = true) :
    a.native.created = true := (Bool.and_eq_true_iff.mp hlive).1

theorem ServersSound.lt_of_live {a : Nat} (h : ServersSound s)
    (hlive : (s.adapter a).isLive = true) :
    a < s.adapterCount := by
  by_contra hle
  have hnone := h.unborn a (Nat.le_of_not_lt hle)
  rw [created_of_live hlive] at hnone
  cases hnone

theorem ServersSound.kept (h : ServersSound s) (hkeeps : KeepsServers s t)
    (hordered : t.toDriverCommands.Ordered) : ServersSound t := by
  refine ⟨hordered, fun a => (hkeeps.fades a).sound (h.adapters a), fun a ha => ?_,
    fun j a hclosing => ?_, fun a ha => ?_, fun a ha => ?_⟩
  · rw [(hkeeps.fades a).native]
    exact h.unborn a (hkeeps.adapterCount ▸ ha)
  · rcases hkeeps.closes j a hclosing with hs | hcalled
    · exact (hkeeps.fades a).called (h.closing j a hs)
    · exact hcalled
  · rw [hkeeps.server]
    exact h.held a ((hkeeps.fades a).live ha)
  · rw [(hkeeps.fades a).native]
    exact h.closable a ((hkeeps.fades a).live ha)

/-! ### A stop closes the server that is open -/

/-- Without a stop in progress, a call of `stop` goes straight for the server. -/
theorem closes_stop {a : Nat} (hstop : s.stopPromise = none) (hserver : s.server = some a)
    (hstate : s.state ≠ .stopped) :
    ∃ t, (program options).machine.Run s [.stop false true] t ∧ Closes t s.stopCount a := by
  refine ⟨stop s false true, .single ⟨rfl, rfl⟩, ?_⟩
  have hstops : stop s false true = beginClosing
      { s with stopCount := s.stopCount + 1, stopPromise := some s.stopCount } s.stopCount a
      (s.state == .starting) := by
    simp [stop, performStop, hstop, hserver, hstate]
  rw [hstops]
  unfold beginClosing setStop Closes
  simp only [Function.update_self]
  exact ⟨_, _, rfl⟩

/-- A stop in progress that has not called `stop` of the server goes on to do so, or clears the way
for another. -/
theorem ServersSound.stop_goes_on (h : ServersSound s) {a : Nat} (hserver : s.server = some a)
    (huncalled : (s.adapter a).stopPromise = .uncalled) :
    ∃ es t j, (∀ e ∈ es, isStop e = true) ∧ (program options).machine.Run s es t ∧
      Closes t j a := by
  have hstate : s.state ≠ .stopped := by
    intro hstopped
    have hnone := h.ordered.stopped hstopped
    rw [hserver] at hnone
    cases hnone
  cases hkept : s.stopPromise with
  | none =>
    obtain ⟨t, hrun, hcloses⟩ := closes_stop hkept hserver hstate
    exact ⟨_, t, _, by simp [isStop], hrun, hcloses⟩
  | some j =>
    obtain ⟨hj, huncleared⟩ := h.ordered.keptStop j hkept
    have hheld : ∀ b, (s.stop j).Holds b → b = a := by
      intro b hb
      rcases h.ordered.holding j b hb with hs | hs
      · exact Option.some.inj (hs.symm.trans hserver)
      · rw [hserver] at hs
        cases hs
    cases hoperation : s.stop j with
    | draining b =>
      obtain rfl : b = a := hheld b (by rw [hoperation]; rfl)
      refine ⟨[.drainEnded j], drainEnded s j, j, by simp [isStop], .single ⟨?_, rfl⟩, ?_⟩
      · change enabled s (.drainEnded j) = true
        simp [enabled, hj, hoperation]
      · unfold drainEnded
        rw [hoperation]
        unfold beginClosing setStop Closes
        simp only [Function.update_self]
        exact ⟨_, _, rfl⟩
    | closing b start sessions =>
      obtain rfl : b = a := hheld b (by rw [hoperation]; rfl)
      exact absurd huncalled (h.closing j b ⟨start, sessions, hoperation⟩)
    | settled succeeded =>
      have hcleared : stopCleared s j =
          { setStop s j (.cleared succeeded) with stopPromise := none } := by
        unfold stopCleared
        rw [hoperation]
      obtain ⟨t, hrun, hcloses⟩ := closes_stop
        (s := { setStop s j (.cleared succeeded) with stopPromise := none }) rfl hserver hstate
      refine ⟨[.stopCleared j, .stop false true], t, _, by simp [isStop],
        .stepL ⟨?_, hcleared.symm⟩ hrun, hcloses⟩
      change enabled s (.stopCleared j) = true
      simp [enabled, hj, hoperation]
    | cleared succeeded =>
      rw [hoperation] at huncleared
      cases huncleared

/-- The open server has been closed, or a stop closes it. -/
theorem ServersSound.stopCloses (h : ServersSound s) {a : Nat}
    (hlive : (s.adapter a).isLive = true) : StopCloses options s a := by
  have hcreated := created_of_live hlive
  by_cases huncalled : (s.adapter a).stopPromise = .uncalled
  · obtain ⟨es, t, j, hes, hrun, hcloses⟩ := h.stop_goes_on (h.held a hlive) huncalled
    have hkeeps := keepsServers_stops hrun hes
    have hfades := hkeeps.fades a
    refine ⟨es, t, hes, hrun, (hfades.sound (h.adapters a)).called ?_ ?_ ?_⟩
    · rw [hfades.native]
      exact hcreated
    · rw [hfades.native]
      exact h.closable a hlive
    · rcases hkeeps.closes j a hcloses with hs | hcalled
      · exact hfades.called (h.closing j a hs)
      · exact hcalled
  · exact ⟨[], s, nofun, .refl, (h.adapters a).called hcreated (h.closable a hlive) huncalled⟩

/-- No stop closes a server whose `close` throws. -/
theorem not_stopCloses {a : Nat} (hsound : (s.adapter a).Sound)
    (hthrows : (s.adapter a).native.closeThrows = true) : ¬ StopCloses options s a := by
  rintro ⟨es, t, hes, hrun, hcalled⟩
  have hfades := (keepsServers_stops hrun hes).fades a
  have hnever := (hfades.sound hsound).throws (by rw [hfades.native]; exact hthrows)
  rw [hcalled] at hnever
  cases hnever

theorem ServersSound.holds (h : ServersSound s) : HoldsServers options s where
  one a b ha hb := Option.some.inj ((h.held a ha).symm.trans (h.held b hb))
  held := h.held
  closes _ := h.stopCloses

/-! ### What a start makes -/

theorem live_performStart {signal : StartSignal} {native : NativeServer}
    (hlive : (RWebTransportServerAdapter.performStart signal native).isLive = true) :
    native.created = true ∧ signal ≠ .aborted := by
  have hcreated : (native.created && signal != .aborted) = true := created_of_live hlive
  simpa using hcreated

/-- A start gets a server where no other one is open. -/
theorem ServersSound.performs (h : ServersSound s) {signal : StartSignal} {native : NativeServer}
    (hclosed : ∀ a, s.server = some a → (s.adapter a).isLive = false)
    (hnative : native.created = true → signal ≠ .aborted → native.closeThrows = false)
    (hfree : ∀ j a, ¬ (s.stop j).Holds a) (i : Nat)
    (hordered : (performStart s i signal native).toDriverCommands.Ordered) :
    ServersSound (performStart s i signal native) := by
  have hadapter : ∀ a, (performStart s i signal native).adapter a =
      if a = s.adapterCount then .performStart signal native else s.adapter a :=
    Function.update_apply _ _ _
  have hdead : ∀ a, (s.adapter a).isLive = false := by
    intro a
    by_contra hlive
    have hheld := h.held a (by simpa using hlive)
    exact hlive (hclosed a hheld)
  have hnew : ∀ a, ((performStart s i signal native).adapter a).isLive = true →
      a = s.adapterCount := by
    intro a ha
    rw [hadapter] at ha
    split_ifs at ha with he
    · exact he
    · rw [hdead a] at ha
      cases ha
  refine ⟨hordered, fun a => ?_, fun a ha => ?_,
    fun j a hclosing => absurd hclosing.holds (hfree j a), fun a ha => ?_, fun a ha => ?_⟩
  · rw [hadapter]
    split_ifs
    · exact RWebTransportServerAdapter.sound_performStart signal native
    · exact h.adapters a
  · have hlt : s.adapterCount < a := ha
    rw [hadapter, if_neg (Nat.ne_of_gt hlt)]
    exact h.unborn a (Nat.le_of_lt hlt)
  · rw [hnew a ha]
    rfl
  · have he := hnew a ha
    rw [hadapter, if_pos he] at ha ⊢
    exact hnative (live_performStart ha).1 (live_performStart ha).2

/-- The `performStart` of a start that nothing holds back. -/
theorem start_performs (hrunning : s.state ≠ .running) (hstart : s.startPromise = none)
    (hstop : s.stopPromise = none) (signal : StartSignal) (native : NativeServer) :
    start s signal native = performStart
      { s with startCount := s.startCount + 1, startPromise := some s.startCount } s.startCount
      signal native := by
  unfold RWebTransportDriver.start
  rw [if_neg hrunning, if_neg (by simp [hstart])]
  simp only
  split
  · rfl
  · rename_i j hj
    rw [hstop] at hj
    cases hj

/-- Any other call of `start` leaves the servers alone. -/
theorem keepsServers_start (signal : StartSignal) (native : NativeServer)
    (h : ¬ (s.state ≠ .running ∧ s.startPromise = none ∧ s.stopPromise = none)) :
    KeepsServers s (start s signal native) := by
  unfold RWebTransportDriver.start
  split
  · exact .refl s
  · rename_i hrunning
    split
    · exact .refl s
    · rename_i hkept
      split
      · rename_i hstop
        exact absurd ⟨hrunning, by simpa using hkept, hstop⟩ h
      · exact .of_eq rfl rfl rfl rfl

theorem ServersSound.start (h : ServersSound s) {signal : StartSignal} {native : NativeServer}
    (hok : ReplacesClosed s (.start signal native))
    (hordered : (start s signal native).toDriverCommands.Ordered) :
    ServersSound (start s signal native) := by
  by_cases hperforms : s.state ≠ .running ∧ s.startPromise = none ∧ s.stopPromise = none
  · obtain ⟨hrunning, hstart, hstop⟩ := hperforms
    obtain ⟨hclosed, hnative⟩ := hok (signal, native) (if_pos ⟨hrunning, hstart, hstop⟩)
    rw [start_performs hrunning hstart hstop] at hordered ⊢
    have hcalled : ServersSound
        { s with startCount := s.startCount + 1, startPromise := some s.startCount } :=
      ⟨h.ordered.callStart hstart, h.adapters, h.unborn, h.closing, h.held, h.closable⟩
    refine hcalled.performs hclosed hnative ?_ _ hordered
    exact h.ordered.free fun j hj => by rw [hstop] at hj; cases hj
  · exact h.kept (keepsServers_start signal native hperforms) hordered

/-- A queued start creates its server where the one before it has closed. -/
theorem ServersSound.startBegins (h : ServersSound s) (i : Nat) (native : NativeServer)
    (hok : ReplacesClosed s (.startBegins i native))
    (hordered : (startBegins s i native).toDriverCommands.Ordered) :
    ServersSound (startBegins s i native) := by
  unfold RWebTransportDriver.startBegins at hordered ⊢
  split at hordered
  · rename_i j signal hqueued
    split at hordered
    · rename_i hcleared
      have hbuilds : builds s (.startBegins i native) = some (signal, native) := by
        simp [builds, hqueued, hcleared]
      obtain ⟨hclosed, hnative⟩ := hok (signal, native) hbuilds
      obtain ⟨-, hfree⟩ := (h.ordered.queued i j signal hqueued).2 (by rw [hcleared]; rfl)
      exact h.performs hclosed hnative hfree i hordered
    · exact ⟨hordered, h.adapters, h.unborn, h.closing, h.held, h.closable⟩
    · exact h
  · exact h

theorem adapter_dropStartAbortListener : (dropStartAbortListener s).adapter = s.adapter := by
  unfold dropStartAbortListener
  split <;> rfl

/-- What lets go of a server that has closed. -/
theorem ServersSound.letsGo (h : ServersSound s) (hadapter : t.adapter = s.adapter)
    (hcount : t.adapterCount = s.adapterCount) (hcloses : ∀ j a, Closes t j a → Closes s j a)
    (hheld : ∀ a, (s.adapter a).isLive = true → t.server = s.server)
    (hordered : t.toDriverCommands.Ordered) : ServersSound t := by
  refine ⟨hordered, ?_, ?_, ?_, ?_, ?_⟩
  · rw [hadapter]
    exact h.adapters
  · rw [hadapter, hcount]
    exact h.unborn
  · rw [hadapter]
    exact fun j a hclosing => h.closing j a (hcloses j a hclosing)
  · rw [hadapter]
    exact fun a ha => (hheld a ha).trans (h.held a ha)
  · rw [hadapter]
    exact h.closable

/-- A start settles; one that fails lets go of its server, which has closed. -/
theorem ServersSound.startSettled (h : ServersSound s) (i : Nat)
    (he : enabled s (.startSettled i) = true)
    (hordered : (startSettled s i).toDriverCommands.Ordered) : ServersSound (startSettled s i) := by
  have hcommands : (dropStartAbortListener s).toDriverCommands = s.toDriverCommands :=
    commands_dropStartAbortListener
  unfold RWebTransportDriver.startSettled at hordered ⊢
  simp only [enabled, Bool.and_eq_true, decide_eq_true_eq] at he
  obtain ⟨-, he⟩ := he
  split at hordered
  · rename_i a hperforming
    rw [hperforming] at he
    by_cases hfulfilled : (s.adapter a).startPromise = .fulfilled
    · rw [if_pos hfulfilled] at hordered ⊢
      exact ⟨hordered, h.adapters, h.unborn, h.closing, h.held, h.closable⟩
    · rw [if_neg hfulfilled] at hordered ⊢
      have hrejected : (s.adapter a).startPromise = .rejected := by
        simp only [Bool.or_eq_true, decide_eq_true_eq] at he
        exact he.resolve_left hfulfilled
      refine h.letsGo adapter_dropStartAbortListener (congrArg (·.adapterCount) hcommands)
        (fun j b hb => ?_) (fun b hb => if_neg fun hserver => ?_) hordered
      · obtain ⟨start, sessions, hb⟩ := hb
        exact ⟨start, sessions, (congrFun (congrArg (·.stop) hcommands) j).symm.trans hb⟩
      · obtain rfl : a = b := Option.some.inj (hserver.symm.trans (h.held b hb))
        have hdead := (h.adapters a).dead_of_rejected hrejected (h.closable a hb)
        rw [hdead] at hb
        cases hb
  · exact h

/-- A stop that has closed its server lets go of it. -/
theorem ServersSound.stopClosed (h : ServersSound s) (j : Nat)
    (he : enabled s (.stopClosed j) = true)
    (hordered : (stopClosed s j).toDriverCommands.Ordered) : ServersSound (stopClosed s j) := by
  have hcommands : (dropStartAbortListener s).toDriverCommands = s.toDriverCommands :=
    commands_dropStartAbortListener
  unfold RWebTransportDriver.stopClosed at hordered ⊢
  simp only [enabled, Bool.and_eq_true, decide_eq_true_eq] at he
  obtain ⟨-, he⟩ := he
  split at hordered
  · rename_i a start sessions hclosing
    rw [hclosing] at he
    simp only [isClosingOver, Bool.and_eq_true, decide_eq_true_eq] at he
    refine h.letsGo adapter_dropStartAbortListener (congrArg (·.adapterCount) hcommands)
      (fun k b hb => ?_) (fun b hb => ?_) hordered
    · obtain ⟨start', sessions', hb⟩ := hb
      change Function.update (dropStartAbortListener s).stop j _ k = _ at hb
      rw [Function.update_apply] at hb
      split_ifs at hb
      exact ⟨start', sessions', (congrFun (congrArg (·.stop) hcommands) k).symm.trans hb⟩
    · -- The open server would be the one that this stop has seen closed.
      have hheld := h.held b hb
      rcases h.ordered.holding j a (by rw [hclosing]; rfl) with hserver | hserver
      · obtain rfl : a = b := Option.some.inj (hserver.symm.trans hheld)
        have hreleased := (h.adapters a).released true (Or.inr he.1.1)
        rw [h.closable a hb, hb] at hreleased
        rcases hreleased with hr | hr
        · cases hr
        · cases hr
      · rw [hheld] at hserver
        cases hserver
  · exact h

/-- One case for each event that starts a server, lets go of one or closes one; the others keep the
servers. -/
theorem serversSound_step (hs : (program options).machine.Step s e t) (h : ServersSound s)
    (hok : ReplacesClosed s e) : ServersSound t := by
  have hordered : t.toDriverCommands.Ordered :=
    DriverCommands.ordered_moves (moves_of_step hs) h.ordered
  obtain ⟨he, rfl⟩ := hs
  change enabled s e = true at he
  change (next options s e).toDriverCommands.Ordered at hordered
  change ServersSound (next options s e)
  cases e with
  | start signal native => exact h.start hok hordered
  | startBegins i native => exact h.startBegins i native hok hordered
  | startSettled i => exact h.startSettled i he hordered
  | stopClosed j => exact h.stopClosed j he hordered
  | _ => exact h.kept (keepsServers_next he nofun nofun nofun nofun) hordered

/-- What an event that runs `performStart` leaves. -/
theorem next_of_builds {signal : StartSignal} {native : NativeServer}
    (h : builds s e = some (signal, native)) :
    ∃ u i, next options s e = performStart u i signal native ∧
      u.server = s.server ∧ u.adapter = s.adapter ∧ u.adapterCount = s.adapterCount := by
  cases e with
  | start _ _ =>
    unfold builds at h
    split_ifs at h with hperforms
    cases h
    obtain ⟨hrunning, hstart, hstop⟩ := hperforms
    exact ⟨_, _, start_performs hrunning hstart hstop signal native, rfl, rfl, rfl⟩
  | startBegins i _ =>
    simp only [builds] at h
    split at h
    · rename_i j _ hqueued
      split_ifs at h with hcleared
      cases h
      refine ⟨s, i, ?_, rfl, rfl, rfl⟩
      change startBegins s i native = _
      unfold startBegins
      rw [hqueued]
      simp only [hcleared]
    · cases h
  | _ => cases h

/-- A start over an open server leaves one that the driver does not hold; one that makes a server
whose `close` throws leaves one that no stop closes. -/
theorem not_holdsServers (hs : (program options).machine.Step s e t) (h : ServersSound s)
    (hok : ¬ ReplacesClosed s e) : ¬ HoldsServers options t := by
  obtain ⟨-, rfl⟩ := hs
  change ¬ HoldsServers options (next options s e)
  intro ht
  unfold ReplacesClosed at hok
  push Not at hok
  obtain ⟨⟨signal, native⟩, hbuilds, hok⟩ := hok
  have hperforms : ∃ u i, next options s e = performStart u i signal native ∧
      u.server = s.server ∧ u.adapter = s.adapter ∧ u.adapterCount = s.adapterCount :=
    next_of_builds hbuilds
  obtain ⟨u, i, hnext, hserver, hadapter, hcount⟩ := hperforms
  rw [hnext] at ht
  have hget : ∀ a, (performStart u i signal native).adapter a =
      if a = s.adapterCount then .performStart signal native else s.adapter a := by
    intro a
    change Function.update u.adapter u.adapterCount (.performStart signal native) a = _
    rw [hcount, hadapter, Function.update_apply]
  by_cases hclosed : ∀ a ∈ s.server, (s.adapter a).isLive = false
  · obtain ⟨hcreated, hsignal, hthrows⟩ : native.created = true ∧ signal ≠ .aborted ∧
        native.closeThrows ≠ false := hok hclosed
    have hnew : (performStart u i signal native).adapter s.adapterCount =
        .performStart signal native := by rw [hget, if_pos rfl]
    refine not_stopCloses ?_ ?_ (ht.closes s.adapterCount ?_)
    · rw [hnew]
      exact RWebTransportServerAdapter.sound_performStart signal native
    · rw [hnew]
      exact (Bool.not_eq_false _).mp hthrows
    · rw [hnew]
      simp [RWebTransportServerAdapter.performStart, RWebTransportServerAdapter.isLive, hcreated,
        hsignal]
  · push Not at hclosed
    obtain ⟨a, hserver, hlive⟩ := hclosed
    have hlive : (s.adapter a).isLive = true := by simpa using hlive
    have hne : a ≠ s.adapterCount := Nat.ne_of_lt (h.lt_of_live hlive)
    have hheld := ht.held a
    rw [hget, if_neg hne] at hheld
    have hnew : some u.adapterCount = some a := hheld hlive
    rw [hcount] at hnew
    exact hne (Option.some.inj hnew).symm

theorem serversSound_new : ServersSound new := by
  refine ⟨?_, fun a => ?_, fun _ _ => rfl, ?_, nofun, nofun⟩
  · exact ⟨nofun, nofun, nofun, nofun, nofun, nofun, nofun, nofun, fun _ => rfl⟩
  · exact RWebTransportServerAdapter.sound_performStart .aborted ⟨false, false⟩
  · rintro j a ⟨start, sessions, h⟩
    cases h

/-- In every state of a run the driver holds its only open native server and a stop can close it
just where no event of the run makes a native server over one that is still open or one whose
`close` throws. -/
theorem oneServer_iff (options : RWebTransportDriverOptions) (t : DriverState)
    (es : List DriverEvent) :
    ((program options).machine.restrict ReplacesClosed).Run new es t ↔
      ((program options).machine.restrict fun s _ => HoldsServers options s).Run new es t ∧
        HoldsServers options t :=
  Machine.Run.restrict_iff_good
    (fun _ _ _ hs hsound hok => serversSound_step hs hsound hok) (fun _ hsound => hsound.holds)
    (fun _ _ _ hs hsound hok => not_holdsServers hs hsound hok) serversSound_new

/-- A stop that timed out, and a start after it: two native servers are open. -/
theorem two_servers : ∃ s, (program smallOptions).machine.Reachable s ∧
    (s.adapter 0).isLive = true ∧ (s.adapter 1).isLive = true ∧ s.server = some 1 := by
  obtain ⟨s, hrun, hfirst, hsecond, hserver⟩ := (program smallOptions).exists_run
    (smallStart ++ [DriverEvent.stop false true, .stopFailed 0, .stopCleared 0,
      .start .absent smallNative])
    new (fun s => (s.adapter 0).isLive = true ∧ (s.adapter 1).isLive = true ∧ s.server = some 1)
    (by decide +kernel)
  exact ⟨s, ⟨_, _, rfl, hrun⟩, hfirst, hsecond, hserver⟩

/-- A stop that closes its server, a start after it, and a stop that drains. -/
def restartedRun : List DriverEvent :=
  smallStart ++ [DriverEvent.stop false true, .nativeClosed 0 true, .closedAwaited 0, .released 0,
    .stopClosed 0, .stopCleared 0, .start .absent smallNative, .ready 1, .startSettled 1,
    .startCleared 1, .stop true true]

theorem oneServer_iff_restarted :
    ∃ t, (program smallOptions).machine.Run new restartedRun t ∧ (t.adapter 1).isLive = true ∧
      t.state = .draining ∧ HoldsServers smallOptions t := by
  obtain ⟨t, hrun, hlive, hstate⟩ := ((program smallOptions).restrict ReplacesClosed).exists_run
    restartedRun new (fun t => (t.adapter 1).isLive = true ∧ t.state = .draining)
    (by decide +kernel)
  have hok := (Program.restrict_run _ _).mp hrun
  exact ⟨t, hok.unrestrict, hlive, hstate, ((oneServer_iff smallOptions t restartedRun).mp hok).2⟩

end RWebTransportDriver

end NestWebTransport
