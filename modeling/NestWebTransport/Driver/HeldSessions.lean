import NestWebTransport.Driver.RWebTransportDriver

/-! The sessions that the driver holds, and what leaves the count of them alone. -/
namespace NestWebTransport

namespace RWebTransportDriver

variable {options : RWebTransportDriverOptions} {s t u : DriverState} {e : DriverEvent}

/-- The map holds the sessions that are not closed, each under its id. -/
structure Held (s : DriverState) : Prop where
  nodup : (s.sessions.map Prod.fst).Nodup
  mem : ∀ id n, (id, n) ∈ s.sessions ↔
    n < s.sessionCount ∧ (s.session n).state ≠ .closed ∧ (s.session n).native.id = id
  unique : ∀ m < s.sessionCount, ∀ n < s.sessionCount,
    (s.session m).native.id = (s.session n).native.id → m = n
  beyond : ∀ n, s.sessionCount ≤ n → (s.session n).state = .closed

/-- What is held depends on which sessions there are and which of them are closed. -/
theorem Held.congr (h : Held s) (hcount : t.sessionCount = s.sessionCount)
    (hsessions : t.sessions = s.sessions)
    (hnative : ∀ m, (t.session m).native = (s.session m).native)
    (hstate : ∀ m, (t.session m).state = .closed ↔ (s.session m).state = .closed) : Held t := by
  refine ⟨?_, fun id n => ?_, fun m hm n hn hids => ?_, fun n hn => ?_⟩
  · rw [hsessions]
    exact h.nodup
  · rw [hsessions, h.mem id n, hcount, hnative, ne_eq, ne_eq, hstate]
  · rw [hnative, hnative] at hids
    exact h.unique m (hcount ▸ hm) n (hcount ▸ hn) hids
  · rw [hstate]
    exact h.beyond n (hcount ▸ hn)

/-- A session that closes leaves the map, and no other one does. -/
theorem Held.close (h : Held s) {n : Nat} (hn : n < s.sessionCount)
    (hcount : t.sessionCount = s.sessionCount)
    (hsessions : t.sessions = s.sessions.filter (·.1 ≠ (s.session n).native.id))
    (hnative : ∀ m, (t.session m).native = (s.session m).native)
    (hstate : ∀ m, (t.session m).state = if m = n then .closed else (s.session m).state) :
    Held t := by
  refine ⟨?_, fun id m => ?_, fun a ha b hb hids => ?_, fun m hm => ?_⟩
  · rw [hsessions]
    exact h.nodup.sublist (List.filter_sublist.map _)
  · rw [hsessions, List.mem_filter, h.mem id m, decide_eq_true_eq, hcount, hnative, hstate]
    constructor
    · rintro ⟨⟨hm, hopen, rfl⟩, hne⟩
      have hother : m ≠ n := fun heq => hne (by rw [heq])
      exact ⟨hm, by rwa [if_neg hother], rfl⟩
    · rintro ⟨hm, hopen, rfl⟩
      have hother : m ≠ n := fun heq => hopen (if_pos heq)
      rw [if_neg hother] at hopen
      exact ⟨⟨hm, hopen, rfl⟩, fun heq => hother (h.unique m hm n hn heq)⟩
  · rw [hnative, hnative] at hids
    exact h.unique a (hcount ▸ ha) b (hcount ▸ hb) hids
  · rw [hstate]
    split
    · rfl
    · exact h.beyond m (hcount ▸ hm)

/-- What surfaces no session, settles no callback and ends no task: at most it closes sessions. -/
structure KeepsSessions (s t : DriverState) : Prop where
  sessionCount : t.sessionCount = s.sessionCount
  sessionsTotal : t.sessionsTotal = s.sessionsTotal
  sessionsRejected : t.sessionsRejected = s.sessionsRejected
  native : ∀ n, (t.session n).native = (s.session n).native
  dispatch : ∀ n, (t.session n).dispatch = (s.session n).dispatch
  called : ∀ n, (t.session n).called = (s.session n).called
  length : t.sessions.length ≤ s.sessions.length
  held : Held s → Held t

namespace KeepsSessions

theorem refl (s : DriverState) : KeepsSessions s s :=
  ⟨rfl, rfl, rfl, fun _ => rfl, fun _ => rfl, fun _ => rfl, le_rfl, id⟩

theorem trans (h : KeepsSessions s t) (h' : KeepsSessions t u) : KeepsSessions s u :=
  ⟨h'.sessionCount.trans h.sessionCount, h'.sessionsTotal.trans h.sessionsTotal,
    h'.sessionsRejected.trans h.sessionsRejected, fun n => (h'.native n).trans (h.native n),
    fun n => (h'.dispatch n).trans (h.dispatch n), fun n => (h'.called n).trans (h.called n),
    h'.length.trans h.length, h'.held ∘ h.held⟩

theorem of_eq (hcount : t.sessionCount = s.sessionCount)
    (htotal : t.sessionsTotal = s.sessionsTotal)
    (hrejected : t.sessionsRejected = s.sessionsRejected)
    (hsession : t.session = s.session) (hsessions : t.sessions = s.sessions) :
    KeepsSessions s t :=
  ⟨hcount, htotal, hrejected, fun n => by rw [hsession], fun n => by rw [hsession],
    fun n => by rw [hsession], hsessions.symm ▸ le_rfl,
    fun h => h.congr hcount hsessions (fun m => by rw [hsession]) fun m => by rw [hsession]⟩

end KeepsSessions

/-- An update of one session, field by field. -/
theorem session_updateSession {α : Type} (n m : Nat) (f : DriverSession → DriverSession)
    (g : DriverSession → α) (hg : g (f (s.session n)) = g (s.session n)) :
    g ((updateSession s n f).session m) = g (s.session m) := by
  unfold updateSession
  simp only
  by_cases hm : m = n
  · subst hm
    rw [Function.update_self, hg]
  · rw [Function.update_of_ne hm]

/-- A session that ends leaves the map and changes nothing else that is counted. -/
theorem keepsSessions_finishSession (n : Nat) (failed : Bool) :
    KeepsSessions s (finishSession s n failed) := by
  unfold finishSession
  split
  · exact .refl s
  · rename_i hopen
    have hsame : ∀ {α : Type} (m : Nat) (g : DriverSession → α), g { s.session n with
        state := .closed, failed := failed } = g (s.session n) →
        g ((updateSession s n ({ · with state := .closed, failed := failed })).session m) =
          g (s.session m) := fun m g hg => session_updateSession n m _ g hg
    refine ⟨rfl, rfl, rfl, fun m => hsame m DriverSession.native rfl,
      fun m => hsame m DriverSession.dispatch rfl,
      fun m => hsame m DriverSession.called rfl, List.length_filter_le _ _,
      fun h => h.close ?_ rfl rfl (fun m => hsame m DriverSession.native rfl) fun m => ?_⟩
    · by_contra hn
      exact hopen (h.beyond n (not_lt.mp hn))
    · unfold updateSession
      simp only
      split_ifs with hm
      · rw [hm, Function.update_self]
      · rw [Function.update_of_ne hm]

theorem keepsSessions_closeSession (n : Nat) : KeepsSessions s (closeSession s n) := by
  unfold closeSession
  split
  · rename_i hconnected
    split
    · exact keepsSessions_finishSession n true
    · refine ⟨rfl, rfl, rfl, fun m => session_updateSession n m _ DriverSession.native rfl,
        fun m => session_updateSession n m _ DriverSession.dispatch rfl,
        fun m => session_updateSession n m _ DriverSession.called rfl, le_rfl,
        fun h => h.congr rfl rfl (fun m => session_updateSession n m _ DriverSession.native rfl)
          fun m => ?_⟩
      have hstate := session_updateSession (s := s) n m ({ · with state := .closing })
        (fun session => decide (session.state = .closed)) (by simp [hconnected])
      simpa using hstate
  · exact .refl s

theorem keepsSessions_closeSessions (held : List Nat) :
    KeepsSessions s (held.foldl closeSession s) := by
  induction held generalizing s with
  | nil => exact .refl s
  | cons n held ih => exact (keepsSessions_closeSession n).trans ih

/-! ### Commands -/

theorem keepsSessions_updateAdapter (a : Nat)
    (f : RWebTransportServerAdapter → RWebTransportServerAdapter) :
    KeepsSessions s (updateAdapter s a f) :=
  .of_eq rfl rfl rfl rfl rfl

theorem keepsSessions_performStart (i : Nat) (signal : StartSignal) (native : NativeServer) :
    KeepsSessions s (performStart s i signal native) :=
  .of_eq rfl rfl rfl rfl rfl

theorem keepsSessions_start (signal : StartSignal) (native : NativeServer) :
    KeepsSessions s (start s signal native) := by
  unfold start
  split_ifs
  · exact .refl s
  · exact .refl s
  · simp only
    split
    · exact .of_eq rfl rfl rfl rfl rfl
    · exact .of_eq rfl rfl rfl rfl rfl

theorem keepsSessions_startBegins (i : Nat) (native : NativeServer) :
    KeepsSessions s (startBegins s i native) := by
  unfold startBegins
  split
  · split
    · exact keepsSessions_performStart i _ native
    · exact .of_eq rfl rfl rfl rfl rfl
    · exact .refl s
  · exact .refl s

theorem keepsSessions_dropStartAbortListener : KeepsSessions s (dropStartAbortListener s) := by
  unfold dropStartAbortListener
  split
  · exact .refl s
  · exact .of_eq rfl rfl rfl rfl rfl

theorem keepsSessions_startSettled (i : Nat) : KeepsSessions s (startSettled s i) := by
  unfold startSettled
  split
  · split
    · exact .of_eq rfl rfl rfl rfl rfl
    · exact keepsSessions_dropStartAbortListener.trans (.of_eq rfl rfl rfl rfl rfl)
  · exact .refl s

theorem keepsSessions_startCleared (i : Nat) : KeepsSessions s (startCleared s i) := by
  unfold startCleared
  split
  · exact .of_eq rfl rfl rfl rfl rfl
  · exact .refl s

theorem keepsSessions_beginClosing (j a : Nat) (starting : Bool) :
    KeepsSessions s (beginClosing s j a starting) := by
  have hstops : KeepsSessions s (updateAdapter { s with state := .stopping } a (·.stop)) :=
    .of_eq rfl rfl rfl rfl rfl
  have hcloses := hstops.trans (keepsSessions_closeSessions (s.sessions.map Prod.snd))
  exact hcloses.trans (.of_eq rfl rfl rfl rfl rfl)

theorem keepsSessions_performStop (j : Nat) (graceful valid : Bool) :
    KeepsSessions s (performStop s j graceful valid) := by
  unfold performStop
  split
  · exact .of_eq rfl rfl rfl rfl rfl
  · split
    · exact .of_eq rfl rfl rfl rfl rfl
    · split
      · exact .of_eq rfl rfl rfl rfl rfl
      · exact keepsSessions_beginClosing _ _ _

theorem keepsSessions_stop (graceful valid : Bool) : KeepsSessions s (stop s graceful valid) := by
  unfold stop
  split_ifs
  · exact .refl s
  · exact .refl s
  · have hcalled : KeepsSessions s
        { s with stopCount := s.stopCount + 1, stopPromise := some s.stopCount } :=
      .of_eq rfl rfl rfl rfl rfl
    exact hcalled.trans (keepsSessions_performStop _ graceful valid)

theorem keepsSessions_drainEnded (j : Nat) : KeepsSessions s (drainEnded s j) := by
  unfold drainEnded
  split
  · exact keepsSessions_beginClosing _ _ _
  · exact .refl s

theorem keepsSessions_stopClosed (j : Nat) : KeepsSessions s (stopClosed s j) := by
  unfold stopClosed
  split
  · exact keepsSessions_dropStartAbortListener.trans (.of_eq rfl rfl rfl rfl rfl)
  · exact .refl s

theorem keepsSessions_stopFailed (j : Nat) : KeepsSessions s (stopFailed s j) := by
  unfold stopFailed
  split
  · exact keepsSessions_dropStartAbortListener.trans (.of_eq rfl rfl rfl rfl rfl)
  · exact .refl s

theorem keepsSessions_stopCleared (j : Nat) : KeepsSessions s (stopCleared s j) := by
  unfold stopCleared
  split
  · exact .of_eq rfl rfl rfl rfl rfl
  · exact .refl s

/-! ### Native events -/

theorem keepsSessions_handleServerError : KeepsSessions s (handleServerError s) := by
  unfold handleServerError
  split_ifs
  · exact keepsSessions_stop false true
  · exact .refl s

theorem keepsSessions_startAborted (a : Nat) : KeepsSessions s (startAborted s a) := by
  unfold startAborted
  simp only
  split
  · have hdropped : KeepsSessions s
        { updateAdapter s a ({ · with signal := .aborted }) with
          startAbortListeners := s.startAbortListeners.erase a } :=
      .of_eq rfl rfl rfl rfl rfl
    exact (hdropped.trans (keepsSessions_stop true true)).trans (keepsSessions_updateAdapter a _)
  · exact .of_eq rfl rfl rfl rfl rfl

theorem keepsSessions_pumpEnded (a : Nat) (failed : Bool) :
    KeepsSessions s (pumpEnded s a failed) := by
  have hended := keepsSessions_updateAdapter (s := s) a ({ · with pumping := false })
  unfold pumpEnded
  simp only
  split
  · exact hended.trans keepsSessions_handleServerError
  · exact hended

theorem keepsSessions_closedObserved (a : Nat) : KeepsSessions s (closedObserved s a) := by
  have hseen := keepsSessions_updateAdapter (s := s) a ({ · with closedObserved := true })
  unfold closedObserved
  simp only
  split
  · exact hseen
  · exact hseen.trans keepsSessions_handleServerError

/-- What surfaces a session, settles a callback or ends a task. -/
def DriverEvent.Counts : DriverEvent → Prop
  | .surfaced .. | .callbackSettled .. | .dispatchClosed _ | .dispatchCleared _ => True
  | _ => False

/-- No event but those that count sessions touches the sets of sessions. -/
theorem keepsSessions_next (h : ¬ DriverEvent.Counts e) : KeepsSessions s (next options s e) := by
  cases e with
  | start signal native => exact keepsSessions_start signal native
  | startBegins i native => exact keepsSessions_startBegins i native
  | startSettled i => exact keepsSessions_startSettled i
  | startCleared i => exact keepsSessions_startCleared i
  | stop graceful valid => exact keepsSessions_stop graceful valid
  | drainEnded j => exact keepsSessions_drainEnded j
  | stopClosed j => exact keepsSessions_stopClosed j
  | stopFailed j => exact keepsSessions_stopFailed j
  | stopCleared j => exact keepsSessions_stopCleared j
  | startAborted a => exact keepsSessions_startAborted a
  | ready a => exact .of_eq rfl rfl rfl rfl rfl
  | raceLost a => exact .of_eq rfl rfl rfl rfl rfl
  | raceStopped a => exact .of_eq rfl rfl rfl rfl rfl
  | nativeClosed a succeeded => exact .of_eq rfl rfl rfl rfl rfl
  | closedObserved a => exact keepsSessions_closedObserved a
  | closedAwaited a => exact .of_eq rfl rfl rfl rfl rfl
  | released a => exact .of_eq rfl rfl rfl rfl rfl
  | pumpEnded a failed => exact keepsSessions_pumpEnded a failed
  | sessionFinished n failed => exact keepsSessions_finishSession n failed
  | subscribed callback => exact .of_eq rfl rfl rfl rfl rfl
  | unsubscribed callback => exact .of_eq rfl rfl rfl rfl rfl
  | _ => exact absurd trivial h

end RWebTransportDriver

end NestWebTransport
