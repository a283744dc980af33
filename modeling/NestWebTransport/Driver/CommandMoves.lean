import NestWebTransport.Driver.RWebTransportDriver

/-! What a step of the driver does to what `start` and `stop` share. -/
namespace NestWebTransport

inductive Command
  | start
  | stop
  deriving DecidableEq, Repr

namespace DriverCommands

variable (c : DriverCommands)

/-- `performStart` of the call `i`. -/
def performs (i : Nat) : DriverCommands :=
  { c with
    state := .starting
    server := some c.adapterCount
    adapterCount := c.adapterCount + 1
    start := Function.update c.start i (.performing c.adapterCount) }

/-- A call of `start` that keeps a promise of its own. -/
def callStart : DriverCommands :=
  { c with startCount := c.startCount + 1, startPromise := some c.startCount }

/-- A call of `stop` that keeps a promise of its own, in the state it then takes. -/
def callStop (state : ServerState) (operation : StopOperation) : DriverCommands :=
  { c with
    state := state
    stopCount := c.stopCount + 1
    stopPromise := some c.stopCount
    stop := Function.update c.stop c.stopCount operation }

/-- The call that keeps the stop going, once it is the native server's turn. -/
def closes (j a : Nat) (start : Option Nat) (sessions : List Nat) : DriverCommands :=
  { c with
    state := .stopping
    stop := Function.update c.stop j (.closing a start sessions) }

/-- What one step may do, by the command it carries out. -/
inductive Moves : Option Command → DriverCommands → Prop
  | rests : Moves none c
  | startAnswered (h : c.state = .running ∨ c.startPromise.isSome = true) : Moves (some .start) c
  | startPerforms (hstate : c.state ≠ .running) (hstart : c.startPromise = none)
      (hstop : c.stopPromise = none) : Moves (some .start) (c.callStart.performs c.startCount)
  | startQueues {j : Nat} {signal : StartSignal} (hstate : c.state ≠ .running)
      (hstart : c.startPromise = none) (hstop : c.stopPromise = some j) :
      Moves (some .start) { c.callStart with
        start := Function.update c.start c.startCount (.queued j signal) }
  | startBegins {i j : Nat} {signal : StartSignal} (hi : i < c.startCount)
      (hqueued : c.start i = .queued j signal) (hstop : c.stop j = .cleared true) :
      Moves none (c.performs i)
  | startRefused {i j : Nat} {signal : StartSignal} (hi : i < c.startCount)
      (hqueued : c.start i = .queued j signal) (hstop : c.stop j = .cleared false) :
      Moves none { c with start := Function.update c.start i (.settled false) }
  | startFulfils {i a : Nat} (hi : i < c.startCount) (hperforming : c.start i = .performing a) :
      Moves none { c with
        state := if c.server = some a ∧ c.state = .starting then .running else c.state
        start := Function.update c.start i (.settled true) }
  | startRejects {i a : Nat} (hi : i < c.startCount) (hperforming : c.start i = .performing a) :
      Moves none { c with
        state := .stopped
        server := if c.server = some a then none else c.server
        start := Function.update c.start i (.settled false) }
  | startClears {i : Nat} {succeeded : Bool} (hi : i < c.startCount)
      (hsettled : c.start i = .settled succeeded) :
      Moves none { c with
        start := Function.update c.start i (.cleared succeeded)
        startPromise := none }
  | stopAnswered
      (h : c.stopPromise.isSome = true ∨ c.state = .stopped ∧ c.startPromise = none) :
      Moves (some .stop) c
  | stopInvalid (hstop : c.stopPromise = none) :
      Moves (some .stop) (c.callStop c.state (.settled false))
  | stopEmpty (hstop : c.stopPromise = none) (hserver : c.server = none) :
      Moves (some .stop) (c.callStop .stopped (.settled true))
  | stopDrains {a : Nat} (hstop : c.stopPromise = none) (hserver : c.server = some a)
      (hstarting : c.state ≠ .starting) : Moves (some .stop) (c.callStop .draining (.draining a))
  | stopCloses {a : Nat} {sessions : List Nat} (hstop : c.stopPromise = none)
      (hserver : c.server = some a) :
      Moves (some .stop) (c.callStop .stopping
        (.closing a (if c.state = .starting then c.startPromise else none) sessions))
  | stopDrained {j a : Nat} {sessions : List Nat} (hj : j < c.stopCount)
      (hdraining : c.stop j = .draining a) : Moves none (c.closes j a none sessions)
  | stopFulfils {j a : Nat} {start : Option Nat} {sessions : List Nat} (hj : j < c.stopCount)
      (hclosing : c.stop j = .closing a start sessions)
      (hstart : ∀ i ∈ start, (c.start i).isCleared = true) :
      Moves none { c with
        state := .stopped
        server := none
        stop := Function.update c.stop j (.settled true) }
  | stopRejects {j a : Nat} {start : Option Nat} {sessions : List Nat} (hj : j < c.stopCount)
      (hclosing : c.stop j = .closing a start sessions) :
      Moves none { c with
        state := .stopping
        stop := Function.update c.stop j (.settled false) }
  | stopClears {j : Nat} {succeeded : Bool} (hj : j < c.stopCount)
      (hsettled : c.stop j = .settled succeeded) :
      Moves none { c with
        stop := Function.update c.stop j (.cleared succeeded)
        stopPromise := none }

end DriverCommands

namespace RWebTransportDriver

variable {options : RWebTransportDriverOptions} {s t : DriverState} {e : DriverEvent}

/-! ### What leaves the commands alone -/

theorem commands_finishSession (n : Nat) (failed : Bool) :
    (finishSession s n failed).toDriverCommands = s.toDriverCommands := by
  unfold finishSession
  split_ifs
  · rfl
  · rfl

theorem commands_closeSession (n : Nat) :
    (closeSession s n).toDriverCommands = s.toDriverCommands := by
  unfold closeSession
  split_ifs
  · exact commands_finishSession n true
  · rfl
  · rfl

theorem commands_closeSessions (held : List Nat) :
    (held.foldl closeSession s).toDriverCommands = s.toDriverCommands := by
  induction held generalizing s with
  | nil => rfl
  | cons n held ih => exact ih.trans (commands_closeSession n)

theorem commands_dispatchNext (n : Nat) (callbacks : List Nat) :
    (dispatchNext s n callbacks).toDriverCommands = s.toDriverCommands := by
  unfold dispatchNext
  cases callbacks with
  | nil => rfl
  | cons callback rest => rfl

theorem commands_registerSession (native : NativeSession) :
    (registerSession s native).toDriverCommands = s.toDriverCommands := by
  unfold registerSession
  simp only
  split_ifs
  · exact commands_closeSession _
  · exact commands_dispatchNext _ _

theorem commands_acceptSession (native : NativeSession) :
    (acceptSession options s native).2.toDriverCommands = s.toDriverCommands := by
  unfold acceptSession
  split_ifs
  · rfl
  · rfl
  · exact commands_registerSession native

theorem commands_callbackSettled (n : Nat) (succeeded : Bool) :
    (callbackSettled s n succeeded).toDriverCommands = s.toDriverCommands := by
  unfold callbackSettled
  split
  · split_ifs
    · exact commands_dispatchNext _ _
    · exact commands_closeSession _
  · rfl

theorem commands_dropStartAbortListener :
    (dropStartAbortListener s).toDriverCommands = s.toDriverCommands := by
  unfold dropStartAbortListener
  split
  · rfl
  · rfl

/-! ### The commands themselves -/

theorem commands_setStop (j : Nat) (operation : StopOperation) :
    (setStop s j operation).toDriverCommands = { s.toDriverCommands with
      stop := Function.update s.toDriverCommands.stop j operation } := rfl

theorem moves_start (signal : StartSignal) (native : NativeServer) :
    s.toDriverCommands.Moves (some .start) (start s signal native).toDriverCommands := by
  unfold start
  split_ifs with hrunning hkept
  · exact .startAnswered (Or.inl hrunning)
  · exact .startAnswered (Or.inr hkept)
  · have hstart : s.startPromise = none := by simpa using hkept
    simp only
    split
    · rename_i hstop
      exact .startPerforms hrunning hstart hstop
    · rename_i j hstop
      exact .startQueues hrunning hstart hstop

theorem moves_startBegins {i : Nat} (hi : i < s.startCount) (native : NativeServer) :
    s.toDriverCommands.Moves none (startBegins s i native).toDriverCommands := by
  unfold startBegins
  split
  · rename_i j signal hqueued
    split
    · rename_i hcleared
      exact .startBegins hi hqueued hcleared
    · rename_i hcleared
      exact .startRefused hi hqueued hcleared
    · exact .rests
  · exact .rests

/-- A start settles as its server went: RUNNING where it is still the current one, STOPPED where it
failed. -/
theorem moves_startSettled {i : Nat} (hi : i < s.startCount) :
    s.toDriverCommands.Moves none (startSettled s i).toDriverCommands := by
  have hdropped : (dropStartAbortListener s).toDriverCommands = s.toDriverCommands :=
    commands_dropStartAbortListener
  unfold startSettled
  split
  · rename_i a hperforming
    by_cases hfulfilled : (s.adapter a).startPromise = .fulfilled
    · rw [if_pos hfulfilled]
      exact .startFulfils hi hperforming
    · rw [if_neg hfulfilled]
      unfold setStart
      simp only
      rw [hdropped]
      exact .startRejects hi hperforming
  · exact .rests

theorem moves_startCleared {i : Nat} (hi : i < s.startCount) :
    s.toDriverCommands.Moves none (startCleared s i).toDriverCommands := by
  unfold startCleared
  split
  · rename_i succeeded hsettled
    exact .startClears hi hsettled
  · exact .rests

theorem commands_beginClosing (j a : Nat) (starting : Bool) :
    (beginClosing s j a starting).toDriverCommands =
      s.toDriverCommands.closes j a (if starting then s.startPromise else none)
        (s.sessions.map Prod.snd) := by
  unfold beginClosing
  simp only
  rw [commands_setStop, commands_closeSessions]
  rfl

/-- A stop refuses, has nothing to close, drains first or closes at once. -/
theorem moves_performStop (graceful valid : Bool) (hstop : s.stopPromise = none) :
    s.toDriverCommands.Moves (some .stop)
      (performStop { s with stopCount := s.stopCount + 1, stopPromise := some s.stopCount }
        s.stopCount graceful valid).toDriverCommands := by
  unfold performStop
  by_cases hvalid : valid = false
  · rw [if_pos hvalid]
    exact .stopInvalid hstop
  · rw [if_neg hvalid]
    split
    · rename_i hserver
      exact .stopEmpty hstop hserver
    · rename_i a hserver
      split_ifs with hdrains
      · exact .stopDrains hstop hserver hdrains.1
      · rw [commands_beginClosing]
        have hcloses : s.toDriverCommands.Moves (some .stop)
            (s.toDriverCommands.callStop .stopping (.closing a
              (if s.state = .starting then s.startPromise else none) (s.sessions.map Prod.snd))) :=
          .stopCloses hstop hserver
        simpa [DriverCommands.callStop, DriverCommands.closes] using hcloses

theorem moves_stop (graceful valid : Bool) :
    s.toDriverCommands.Moves (some .stop) (stop s graceful valid).toDriverCommands := by
  unfold stop
  split_ifs with hkept hstopped
  · exact .stopAnswered (Or.inl hkept)
  · exact .stopAnswered (Or.inr hstopped)
  · exact moves_performStop graceful valid (by simpa using hkept)

theorem moves_drainEnded {j : Nat} (hj : j < s.stopCount) :
    s.toDriverCommands.Moves none (drainEnded s j).toDriverCommands := by
  unfold drainEnded
  split
  · rename_i a hdraining
    rw [commands_beginClosing]
    exact .stopDrained hj hdraining
  · exact .rests

/-- A stop that has closed its server settles as the closing went. -/
theorem moves_stopClosed {j : Nat} (h : enabled s (.stopClosed j) = true) :
    s.toDriverCommands.Moves none (stopClosed s j).toDriverCommands := by
  simp only [enabled, Bool.and_eq_true, decide_eq_true_eq] at h
  obtain ⟨hj, hover⟩ := h
  have hdropped : (dropStartAbortListener s).toDriverCommands = s.toDriverCommands :=
    commands_dropStartAbortListener
  unfold stopClosed
  split
  · rename_i a start sessions hclosing
    rw [hclosing] at hover
    simp only [isClosingOver, Bool.and_eq_true, Option.all_eq_true] at hover
    have hmoves := DriverCommands.Moves.stopFulfils hj hclosing fun i hi => hover.1.2 i hi
    unfold setStop
    simp only
    rw [hdropped]
    exact hmoves
  · exact .rests

theorem moves_stopFailed {j : Nat} (hj : j < s.stopCount) :
    s.toDriverCommands.Moves none (stopFailed s j).toDriverCommands := by
  have hdropped : (dropStartAbortListener s).toDriverCommands = s.toDriverCommands :=
    commands_dropStartAbortListener
  unfold stopFailed
  split
  · rename_i a start sessions hclosing
    unfold setStop
    simp only
    rw [hdropped]
    exact .stopRejects hj hclosing
  · exact .rests

theorem moves_stopCleared {j : Nat} (hj : j < s.stopCount) :
    s.toDriverCommands.Moves none (stopCleared s j).toDriverCommands := by
  unfold stopCleared
  split
  · rename_i succeeded hsettled
    exact .stopClears hj hsettled
  · exact .rests

/-! ### Every step -/

/-- `handleServerError` stops the driver. -/
def isServing (s : DriverState) : Bool := s.state == .running || s.state == .starting

/-- The call of `start` or `stop` that the step makes, whoever makes it. -/
def command (options : RWebTransportDriverOptions) (s : DriverState) : DriverEvent → Option Command
  | .start _ _ => some .start
  | .stop _ _ => some .stop
  | .startAborted a => if a ∈ s.startAbortListeners then some .stop else none
  | .surfaced _ native =>
    if (acceptSession options s native).1 = false ∧ isServing s = true then some .stop else none
  | .pumpEnded a failed =>
    if failed = true ∧ (s.adapter a).stopping = false ∧ isServing s = true then some .stop else none
  | .closedObserved a =>
    if (s.adapter a).stopping = false ∧ isServing s = true then some .stop else none
  | _ => none

theorem moves_handleServerError :
    s.toDriverCommands.Moves (if isServing s then some .stop else none)
      (handleServerError s).toDriverCommands := by
  unfold handleServerError isServing
  by_cases hserving : s.state = .running ∨ s.state = .starting
  · rw [if_pos hserving, if_pos (by simpa using hserving)]
    exact moves_stop false true
  · rw [if_neg hserving, if_neg (by simpa using hserving)]
    exact .rests

theorem moves_startAborted (a : Nat) :
    s.toDriverCommands.Moves (if a ∈ s.startAbortListeners then some .stop else none)
      (startAborted s a).toDriverCommands := by
  unfold startAborted
  by_cases hlistens : a ∈ s.startAbortListeners
  · simp only [if_pos hlistens]
    exact moves_stop (s := { updateAdapter s a ({ · with signal := .aborted }) with
      startAbortListeners := s.startAbortListeners.erase a }) true true
  · simp only [if_neg hlistens]
    exact .rests

/-- A session that the adapter cannot be built for may stop the whole driver. -/
theorem moves_surfaced (native : NativeSession) :
    s.toDriverCommands.Moves
      (if (acceptSession options s native).1 = false ∧ isServing s = true then some .stop else none)
      (surfaced options s native).toDriverCommands := by
  have hcommands : (acceptSession options s native).2.toDriverCommands = s.toDriverCommands :=
    commands_acceptSession native
  unfold surfaced
  generalize acceptSession options s native = result at hcommands
  obtain ⟨returned, u⟩ := result
  simp only at hcommands
  have hserving : isServing s = isServing u := by
    unfold isServing
    rw [hcommands]
  cases returned with
  | true =>
    simp only [Bool.true_eq_false, false_and, if_false, if_true]
    rw [hcommands]
    exact .rests
  | false =>
    have hmoves := moves_handleServerError
      (s := { u with nativesClosed := u.nativesClosed ++ [native] })
    simp only [true_and, Bool.false_eq_true, if_false]
    rw [hserving, ← hcommands]
    exact hmoves

theorem moves_pumpEnded (a : Nat) (failed : Bool) :
    s.toDriverCommands.Moves
      (if failed = true ∧ (s.adapter a).stopping = false ∧ isServing s = true then some .stop
      else none)
      (pumpEnded s a failed).toDriverCommands := by
  have hmoves := moves_handleServerError (s := updateAdapter s a ({ · with pumping := false }))
  unfold pumpEnded
  by_cases hreports : failed = true ∧ (s.adapter a).stopping = false
  · obtain ⟨hfailed, hstopping⟩ := hreports
    simp only [hfailed, hstopping, Bool.not_false, Bool.and_true, if_true, true_and]
    exact hmoves
  · rw [if_neg fun h => hreports ⟨h.1, h.2.1⟩, if_neg (by simpa using hreports)]
    exact .rests

theorem moves_closedObserved (a : Nat) :
    s.toDriverCommands.Moves
      (if (s.adapter a).stopping = false ∧ isServing s = true then some .stop else none)
      (closedObserved s a).toDriverCommands := by
  have hmoves := moves_handleServerError
    (s := updateAdapter s a ({ · with closedObserved := true }))
  unfold closedObserved
  cases hstopping : (s.adapter a).stopping with
  | true =>
    simp only [Bool.true_eq_false, false_and, if_false, if_true]
    exact .rests
  | false =>
    simp only [true_and, Bool.false_eq_true, if_false]
    exact hmoves

/-- Each event of the driver is one of the moves of its commands, and the one call it may make is
among them. -/
theorem moves_of_step (h : (program options).machine.Step s e t) :
    s.toDriverCommands.Moves (command options s e) t.toDriverCommands := by
  obtain ⟨henabled, rfl⟩ := h
  change enabled s e = true at henabled
  change s.toDriverCommands.Moves _ (next options s e).toDriverCommands
  cases e with
  | start signal native => exact moves_start signal native
  | startBegins i native =>
    simp only [enabled, Bool.and_eq_true, decide_eq_true_eq] at henabled
    exact moves_startBegins henabled.1 native
  | startSettled i =>
    simp only [enabled, Bool.and_eq_true, decide_eq_true_eq] at henabled
    exact moves_startSettled henabled.1
  | startCleared i =>
    simp only [enabled, Bool.and_eq_true, decide_eq_true_eq] at henabled
    exact moves_startCleared henabled.1
  | stop graceful valid => exact moves_stop graceful valid
  | drainEnded j =>
    simp only [enabled, Bool.and_eq_true, decide_eq_true_eq] at henabled
    exact moves_drainEnded henabled.1
  | stopClosed j => exact moves_stopClosed henabled
  | stopFailed j =>
    simp only [enabled, Bool.and_eq_true, decide_eq_true_eq] at henabled
    exact moves_stopFailed henabled.1
  | stopCleared j =>
    simp only [enabled, Bool.and_eq_true, decide_eq_true_eq] at henabled
    exact moves_stopCleared henabled.1
  | startAborted a => exact moves_startAborted a
  | ready a => exact .rests
  | raceLost a => exact .rests
  | raceStopped a => exact .rests
  | nativeClosed a succeeded => exact .rests
  | closedObserved a => exact moves_closedObserved a
  | closedAwaited a => exact .rests
  | released a => exact .rests
  | surfaced a native => exact moves_surfaced native
  | pumpEnded a failed => exact moves_pumpEnded a failed
  | callbackSettled n succeeded =>
    rw [show (next options s (.callbackSettled n succeeded)).toDriverCommands = _ from
      commands_callbackSettled n succeeded]
    exact .rests
  | dispatchClosed n => exact .rests
  | dispatchCleared n => exact .rests
  | sessionFinished n failed =>
    rw [show (next options s (.sessionFinished n failed)).toDriverCommands = _ from
      commands_finishSession n failed]
    exact .rests
  | subscribed callback => exact .rests
  | unsubscribed callback => exact .rests

end RWebTransportDriver

end NestWebTransport
