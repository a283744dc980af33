import NestWebTransport.Driver.HeldSessions
import NestWebTransport.Driver.SessionDispatch

/-! The sessions that native servers surface, and how the driver counts, bounds and holds them. -/
namespace NestWebTransport

/-- A session that was surfaced: its adapter, whether the driver had no capacity or was not
accepting sessions, and how often it was counted as rejected since. -/
structure SurfacedSession where
  adapter : Option Nat
  refused : Bool
  rejections : Nat
  deriving DecidableEq, Repr

/-- The driver, and every session surfaced to it. -/
structure SessionLedger where
  driver : DriverState
  surfaced : List SurfacedSession

/-- `closed` is a call of `close` on the adapter of a session. -/
inductive LedgerEvent
  | driver (e : DriverEvent)
  | closed (n : Nat)

namespace SessionLedger

variable (options : RWebTransportDriverOptions)

def new : SessionLedger := ⟨RWebTransportDriver.new, []⟩

def enabled (l : SessionLedger) : LedgerEvent → Bool
  | .driver e => RWebTransportDriver.enabled l.driver e
  | .closed n => decide (n < l.driver.sessionCount)

def isRefusing (s : DriverState) : Bool :=
  RWebTransportDriver.isAtCapacity options s || decide (s.state = .draining) ||
    decide (s.state = .stopping) || decide (s.state = .stopped) || decide (s.callbacks = [])

/-- A rejection is counted for the session of one adapter. -/
def reject (n added : Nat) (surfaced : List SurfacedSession) : List SurfacedSession :=
  surfaced.map fun entry =>
    if entry.adapter = some n then { entry with rejections := entry.rejections + added } else entry

/-- What a step adds to `sessionsRejected` is the session's that the event is about. -/
def record (s t : DriverState) (surfaced : List SurfacedSession) :
    DriverEvent → List SurfacedSession
  | .surfaced _ _ =>
    surfaced ++ [{
      adapter := if s.sessionCount < t.sessionCount then some s.sessionCount else none
      refused := isRefusing options s
      rejections := t.sessionsRejected - s.sessionsRejected }]
  | .callbackSettled n _ => reject n (t.sessionsRejected - s.sessionsRejected) surfaced
  | _ => surfaced

def next (l : SessionLedger) : LedgerEvent → SessionLedger
  | .driver e =>
    ⟨RWebTransportDriver.next options l.driver e,
      record options l.driver (RWebTransportDriver.next options l.driver e) l.surfaced e⟩
  | .closed n => ⟨RWebTransportDriver.closeSession l.driver n, l.surfaced⟩

def program : Program SessionLedger LedgerEvent := ⟨new, enabled, next options⟩

/-- The ids of the adapters are unique. -/
def FreshId (l : SessionLedger) : LedgerEvent → Prop
  | .driver (.surfaced _ native) =>
    RWebTransportDriver.isAtCapacity options l.driver = false → native.adaptable = true →
      ∀ n < l.driver.sessionCount, (l.driver.session n).native.id ≠ native.id
  | _ => True

instance (l : SessionLedger) : (e : LedgerEvent) → Decidable (FreshId options l e)
  | .driver (.surfaced _ native) =>
    inferInstanceAs (Decidable (RWebTransportDriver.isAtCapacity options l.driver = false →
      native.adaptable = true →
        ∀ n < l.driver.sessionCount, (l.driver.session n).native.id ≠ native.id))
  | .closed _ => isTrue trivial
  | .driver (.start ..) | .driver (.startBegins ..) | .driver (.startSettled _)
  | .driver (.startCleared _) | .driver (.stop ..) | .driver (.drainEnded _)
  | .driver (.stopClosed _) | .driver (.stopFailed _) | .driver (.stopCleared _)
  | .driver (.startAborted _) | .driver (.ready _) | .driver (.raceLost _)
  | .driver (.raceStopped _) | .driver (.nativeClosed ..) | .driver (.closedObserved _)
  | .driver (.closedAwaited _) | .driver (.released _) | .driver (.pumpEnded ..)
  | .driver (.callbackSettled ..) | .driver (.dispatchClosed _) | .driver (.dispatchCleared _)
  | .driver (.sessionFinished ..) | .driver (.subscribed _) | .driver (.unsubscribed _) =>
    isTrue trivial

end SessionLedger

/-! ### Tasks -/

namespace RWebTransportDriver

variable {options : RWebTransportDriverOptions} {s t u : DriverState} {e : DriverEvent} {n : Nat}

theorem dispatchTasks_le (hcount : t.sessionCount = s.sessionCount)
    (h : ∀ m < s.sessionCount, (t.session m).dispatch.isOutstanding = true →
      (s.session m).dispatch.isOutstanding = true) : dispatchTasks t ≤ dispatchTasks s := by
  unfold dispatchTasks
  rw [hcount, ← List.countP_eq_length_filter, ← List.countP_eq_length_filter]
  exact List.countP_mono_left fun m hm => h m (List.mem_range.mp hm)

/-- One more session has one more task at most. -/
theorem dispatchTasks_succ_le (hcount : t.sessionCount = s.sessionCount + 1)
    (h : ∀ m < s.sessionCount, (t.session m).dispatch = (s.session m).dispatch) :
    dispatchTasks t ≤ dispatchTasks s +
      if (t.session s.sessionCount).dispatch.isOutstanding then 1 else 0 := by
  unfold dispatchTasks
  rw [hcount, List.range_succ, List.filter_append, List.length_append]
  refine Nat.add_le_add (le_of_eq ?_) ?_
  · refine congrArg List.length (List.filter_congr fun m hm => ?_)
    rw [h m (List.mem_range.mp hm)]
  · rw [List.filter_singleton]
    cases (t.session s.sessionCount).dispatch.isOutstanding <;> exact le_rfl

theorem session_updateSession_self (f : DriverSession → DriverSession) :
    (updateSession s n f).session n = f (s.session n) := Function.update_self n _ _

theorem session_updateSession_of_ne {m : Nat} (h : m ≠ n) (f : DriverSession → DriverSession) :
    (updateSession s n f).session m = s.session m := Function.update_of_ne h _ _

/-- A task that moves on does not change what is held. -/
theorem keepsHeld_dispatch (f : DriverSession → DriverSession)
    (hnative : (f (s.session n)).native = (s.session n).native)
    (hstate : (f (s.session n)).state = (s.session n).state) (h : Held s) :
    Held (updateSession s n f) :=
  h.congr rfl rfl (fun m => session_updateSession n m f DriverSession.native hnative)
    fun m => by rw [session_updateSession n m f DriverSession.state hstate]

theorem sessionCount_registerSession (native : NativeSession) :
    (registerSession s native).sessionCount = s.sessionCount + 1 := by
  unfold registerSession
  simp only
  split
  · exact (keepsSessions_closeSession _).sessionCount
  · unfold dispatchNext
    cases s.callbacks with
    | nil => rfl
    | cons callback rest => rfl

/-- An adapter stays that of its native session. -/
theorem native_next (hn : n < s.sessionCount) :
    ((next options s e).session n).native = (s.session n).native ∧
      s.sessionCount ≤ (next options s e).sessionCount := by
  have hupdate : ∀ (m : Nat) (f : DriverSession → DriverSession),
      (f (s.session m)).native = (s.session m).native →
      ((updateSession s m f).session n).native = (s.session n).native :=
    fun m f hf => session_updateSession m n f DriverSession.native hf
  by_cases hcounts : DriverEvent.Counts e
  · cases e with
    | surfaced a native =>
      change ((surfaced options s native).session n).native = _ ∧
        _ ≤ (surfaced options s native).sessionCount
      cases hroom : isAtCapacity options s with
      | true =>
        rw [surfaced_full hroom]
        exact ⟨rfl, le_rfl⟩
      | false =>
        cases hadaptable : native.adaptable with
        | true =>
          rw [surfaced_adaptable hroom hadaptable, session_registerSession_of_lt hn,
            sessionCount_registerSession]
          exact ⟨rfl, Nat.le_succ _⟩
        | false =>
          have hkeeps := keepsSessions_handleServerError (s := { s with
            sessionsTotal := s.sessionsTotal + 1
            nativesClosed := s.nativesClosed ++ [native] })
          rw [surfaced_unadaptable hroom hadaptable]
          exact ⟨hkeeps.native n, hkeeps.sessionCount.ge⟩
    | callbackSettled m succeeded =>
      change ((callbackSettled s m succeeded).session n).native = _ ∧
        _ ≤ (callbackSettled s m succeeded).sessionCount
      unfold callbackSettled
      split
      · rename_i callback rest hcalling
        split
        · unfold dispatchNext
          cases rest with
          | nil => exact ⟨hupdate m _ rfl, le_rfl⟩
          | cons following rest => exact ⟨hupdate m _ rfl, le_rfl⟩
        · have hkeeps := keepsSessions_closeSession (s :=
            { updateSession s m ({ · with dispatch := .closing }) with
              sessionsRejected := s.sessionsRejected + 1 }) m
          exact ⟨(hkeeps.native n).trans (hupdate m ({ · with dispatch := .closing }) rfl),
            hkeeps.sessionCount.ge⟩
      · exact ⟨rfl, le_rfl⟩
    | dispatchClosed m => exact ⟨hupdate m ({ · with dispatch := .settled }) rfl, le_rfl⟩
    | dispatchCleared m => exact ⟨hupdate m ({ · with dispatch := .cleared }) rfl, le_rfl⟩
    | _ => cases hcounts
  · have hkeeps : KeepsSessions s (next options s e) := keepsSessions_next hcounts
    exact ⟨hkeeps.native n, hkeeps.sessionCount.ge⟩

end RWebTransportDriver

/-! ### One step -/

namespace SessionLedger

open RWebTransportDriver (Held KeepsSessions dispatchTasks isAtCapacity)

variable {options : RWebTransportDriverOptions} {l m : SessionLedger} {s t : DriverState}
  {e : LedgerEvent} {es : List LedgerEvent} {entry : SurfacedSession}

/-- What the driver's sessions tell about a surfaced one: a refused one is never passed to a
callback, and one whose callback is awaited has not been rejected. -/
structure Coherent (s : DriverState) (entry : SurfacedSession) : Prop where
  once : entry.rejections ≤ 1
  uncalled : ∀ n ∈ entry.adapter, entry.refused = true →
    (s.session n).dispatch = .uncalled ∧ (s.session n).called = []
  awaited : ∀ n ∈ entry.adapter, ∀ callback rest,
    (s.session n).dispatch = .calling callback rest → entry.rejections = 0

structure Accounted (options : RWebTransportDriverOptions) (l : SessionLedger) : Prop where
  held : Held l.driver
  sessions : l.driver.sessions.length ≤ options.maxSessions.value
  tasks : dispatchTasks l.driver ≤ options.maxPendingSessionCallbacks.value
  total : l.driver.sessionsTotal = l.surfaced.length
  rejected : l.driver.sessionsRejected = (l.surfaced.map (·.rejections)).sum
  adapters : l.surfaced.filterMap (·.adapter) = List.range l.driver.sessionCount
  coherent : ∀ entry ∈ l.surfaced, Coherent l.driver entry

theorem accounted_new : Accounted options new :=
  ⟨⟨List.nodup_nil, by simp [new, RWebTransportDriver.new], nofun, fun _ _ => rfl⟩, Nat.zero_le _,
    Nat.zero_le _, rfl, rfl, rfl, nofun⟩

/-- Steps that surface no session and reject none. -/
theorem Accounted.rests (h : Accounted options l) (hheld : Held t)
    (hcount : t.sessionCount = l.driver.sessionCount)
    (htotal : t.sessionsTotal = l.driver.sessionsTotal)
    (hrejected : t.sessionsRejected = l.driver.sessionsRejected)
    (hlength : t.sessions.length ≤ l.driver.sessions.length)
    (htasks : ∀ n, (t.session n).dispatch.isOutstanding = true →
      (l.driver.session n).dispatch.isOutstanding = true)
    (huncalled : ∀ n, (l.driver.session n).dispatch = .uncalled →
      (t.session n).dispatch = .uncalled ∧ (t.session n).called = (l.driver.session n).called)
    (hcalling : ∀ n callback rest, (t.session n).dispatch = .calling callback rest →
      ∃ callback rest, (l.driver.session n).dispatch = .calling callback rest) :
    Accounted options ⟨t, l.surfaced⟩ := by
  refine ⟨hheld, hlength.trans h.sessions, ?_, htotal.trans h.total, hrejected.trans h.rejected,
    h.adapters.trans (by rw [hcount]), fun entry hentry => ?_⟩
  · exact (RWebTransportDriver.dispatchTasks_le hcount fun n _ => htasks n).trans h.tasks
  · have hbefore := h.coherent entry hentry
    refine ⟨hbefore.once, fun n hn hrefused => ?_, fun n hn callback rest hdispatch => ?_⟩
    · obtain ⟨hdispatch, hcalled⟩ := hbefore.uncalled n hn hrefused
      exact ⟨(huncalled n hdispatch).1, (huncalled n hdispatch).2.trans hcalled⟩
    · obtain ⟨callback, rest, hlast⟩ := hcalling n callback rest hdispatch
      exact hbefore.awaited n hn callback rest hlast

theorem Accounted.keeps (h : Accounted options l) (hkeeps : KeepsSessions l.driver t) :
    Accounted options ⟨t, l.surfaced⟩ :=
  h.rests (hkeeps.held h.held) hkeeps.sessionCount hkeeps.sessionsTotal hkeeps.sessionsRejected
    hkeeps.length (fun n => by rw [hkeeps.dispatch]; exact id)
    (fun n hn => ⟨(hkeeps.dispatch n).trans hn, hkeeps.called n⟩)
    fun n callback rest hn => ⟨callback, rest, (hkeeps.dispatch n).symm.trans hn⟩

/-- The end of a task. -/
theorem Accounted.ends (h : Accounted options l) {n : Nat} {task : DispatchTask}
    (hends : (l.driver.session n).dispatch = .closing ∧ task = .settled ∨
      (l.driver.session n).dispatch = .settled ∧ task = .cleared) :
    Accounted options
      ⟨RWebTransportDriver.updateSession l.driver n ({ · with dispatch := task }), l.surfaced⟩ := by
  refine h.rests (RWebTransportDriver.keepsHeld_dispatch _ rfl rfl h.held) rfl rfl rfl le_rfl
    (fun k => ?_) (fun k => ?_) fun k callback rest => ?_
  all_goals
    by_cases hk : k = n
    · subst hk
      rw [RWebTransportDriver.session_updateSession_self]
      rcases hends with ⟨hlast, rfl⟩ | ⟨hlast, rfl⟩ <;> simp [hlast, DispatchTask.isOutstanding]
    · rw [RWebTransportDriver.session_updateSession_of_ne hk]
      grind

theorem reject_of_absent {surfaced : List SurfacedSession} {n : Nat} (added : Nat)
    (h : n ∉ surfaced.filterMap (·.adapter)) : reject n added surfaced = surfaced := by
  refine (List.map_congr_left fun entry hentry => ?_).trans (List.map_id _)
  exact if_neg fun hn => h (List.mem_filterMap.mpr ⟨entry, hentry, hn⟩)

/-- With distinct adapters a rejection is counted for one surfaced session. -/
theorem sum_reject {surfaced : List SurfacedSession} {n : Nat} (added : Nat)
    (hnodup : (surfaced.filterMap (·.adapter)).Nodup)
    (hmem : n ∈ surfaced.filterMap (·.adapter)) :
    ((reject n added surfaced).map (·.rejections)).sum =
      (surfaced.map (·.rejections)).sum + added := by
  induction surfaced with
  | nil => cases hmem
  | cons entry surfaced ih =>
    by_cases hn : entry.adapter = some n
    · rw [List.filterMap_cons_some hn] at hnodup
      have hothers := reject_of_absent added (List.nodup_cons.mp hnodup).1
      unfold reject at hothers ⊢
      rw [List.map_cons, hothers, if_pos hn]
      simp only [List.map_cons, List.sum_cons]
      omega
    · have hrest : (surfaced.filterMap (·.adapter)).Nodup ∧
          n ∈ surfaced.filterMap (·.adapter) := by
        cases hother : entry.adapter with
        | none =>
          rw [List.filterMap_cons_none hother] at hnodup hmem
          exact ⟨hnodup, hmem⟩
        | some other =>
          rw [List.filterMap_cons_some hother] at hnodup hmem
          refine ⟨(List.nodup_cons.mp hnodup).2, (List.mem_cons.mp hmem).resolve_left ?_⟩
          rintro rfl
          exact hn hother
      have hlater := ih hrest.1 hrest.2
      unfold reject at hlater ⊢
      rw [List.map_cons, if_neg hn]
      simp only [List.map_cons, List.sum_cons]
      omega

theorem adapters_reject {surfaced : List SurfacedSession} {n : Nat} (added : Nat) :
    (reject n added surfaced).filterMap (·.adapter) = surfaced.filterMap (·.adapter) := by
  unfold reject
  rw [List.filterMap_map]
  refine List.filterMap_congr fun entry _ => ?_
  simp only [Function.comp]
  split <;> rfl

theorem reject_zero (n : Nat) (surfaced : List SurfacedSession) :
    reject n 0 surfaced = surfaced := by
  refine (List.map_congr_left fun entry _ => ?_).trans (List.map_id _)
  split <;> rfl

/-- The callback of a session has failed: the task closes it, and it is counted as rejected. -/
theorem Accounted.rejects (h : Accounted options l) {n callback : Nat} {rest : List Nat}
    (hn : n < l.driver.sessionCount)
    (hcalling : (l.driver.session n).dispatch = .calling callback rest)
    (hcount : t.sessionCount = l.driver.sessionCount)
    (htotal : t.sessionsTotal = l.driver.sessionsTotal)
    (hrejected : t.sessionsRejected = l.driver.sessionsRejected + 1)
    (hsessions : t.sessions = l.driver.sessions)
    (hself : t.session n = { l.driver.session n with dispatch := .closing })
    (hothers : ∀ k ≠ n, t.session k = l.driver.session k) :
    Accounted options ⟨t, reject n 1 l.surfaced⟩ := by
  have hmem : n ∈ l.surfaced.filterMap (·.adapter) := h.adapters ▸ List.mem_range.mpr hn
  have hnodup : (l.surfaced.filterMap (·.adapter)).Nodup := h.adapters ▸ List.nodup_range
  refine ⟨h.held.congr hcount hsessions (fun k => ?_) (fun k => ?_), hsessions ▸ h.sessions,
    le_trans (RWebTransportDriver.dispatchTasks_le hcount fun k _ => ?_) h.tasks, ?_, ?_, ?_,
    fun entry hentry => ?_⟩
  · by_cases hk : k = n
    · rw [hk, hself]
    · rw [hothers k hk]
  · by_cases hk : k = n
    · rw [hk, hself]
    · rw [hothers k hk]
  · by_cases hk : k = n
    · rw [hk, hcalling]
      exact fun _ => rfl
    · rw [hothers k hk]
      exact id
  · rw [reject, List.length_map, htotal]
    exact h.total
  · rw [sum_reject 1 hnodup hmem, ← h.rejected]
    exact hrejected
  · rw [adapters_reject, hcount]
    exact h.adapters
  · obtain ⟨before, hbefore, rfl⟩ := List.mem_map.mp hentry
    have hcoherent := h.coherent before hbefore
    by_cases hadapter : before.adapter = some n
    · rw [if_pos hadapter]
      have hzero := hcoherent.awaited n hadapter callback rest hcalling
      refine ⟨by simp [hzero], fun k hk hrefused => ?_, fun k hk other rest' hother => ?_⟩
      · cases hadapter.symm.trans hk
        rw [(hcoherent.uncalled n hadapter hrefused).1] at hcalling
        cases hcalling
      · cases hadapter.symm.trans hk
        rw [hself] at hother
        cases hother
    · rw [if_neg hadapter]
      have hsame : ∀ k ∈ before.adapter, t.session k = l.driver.session k := by
        intro k hk
        refine hothers k ?_
        rintro rfl
        exact hadapter hk
      refine ⟨hcoherent.once, fun k hk => ?_, fun k hk => ?_⟩
      · rw [hsame k hk]
        exact hcoherent.uncalled k hk
      · rw [hsame k hk]
        exact hcoherent.awaited k hk

/-- The callback of a session has fulfilled, and the next one is called if there is any. -/
theorem Accounted.continues (h : Accounted options l) {n callback : Nat} {rest : List Nat}
    (hcalling : (l.driver.session n).dispatch = .calling callback rest) :
    Accounted options ⟨RWebTransportDriver.dispatchNext l.driver n rest, l.surfaced⟩ := by
  have hmoves : ∀ f : DriverSession → DriverSession,
      (f (l.driver.session n)).native = (l.driver.session n).native →
      (f (l.driver.session n)).state = (l.driver.session n).state →
      Accounted options ⟨RWebTransportDriver.updateSession l.driver n f, l.surfaced⟩ := by
    intro f hnative hstate
    refine h.rests (RWebTransportDriver.keepsHeld_dispatch f hnative hstate h.held) rfl rfl rfl
      le_rfl (fun k => ?_) (fun k => ?_) fun k other rest' => ?_
    all_goals
      by_cases hk : k = n
      · subst hk
        simp [hcalling, DispatchTask.isOutstanding]
      · rw [RWebTransportDriver.session_updateSession_of_ne hk]
        grind
  unfold RWebTransportDriver.dispatchNext
  cases rest with
  | nil => exact hmoves _ rfl rfl
  | cons following rest => exact hmoves _ rfl rfl

/-- A callback that fails rejects the session it was called for, and the next one is called. -/
theorem Accounted.callbackSettled (h : Accounted options l) {n callback : Nat} {rest : List Nat}
    {succeeded : Bool} (hn : n < l.driver.sessionCount)
    (hcalling : (l.driver.session n).dispatch = .calling callback rest) :
    Accounted options (next options l (.driver (.callbackSettled n succeeded))) := by
  have hrecord : ∀ (t : DriverState) (added : Nat), RWebTransportDriver.callbackSettled l.driver n
      succeeded = t → t.sessionsRejected = l.driver.sessionsRejected + added →
      Accounted options ⟨t, reject n added l.surfaced⟩ →
      Accounted options (next options l (.driver (.callbackSettled n succeeded))) := by
    rintro t added rfl hadded haccounted
    change Accounted options ⟨RWebTransportDriver.callbackSettled l.driver n succeeded,
      reject n ((RWebTransportDriver.callbackSettled l.driver n succeeded).sessionsRejected -
        l.driver.sessionsRejected) l.surfaced⟩
    rwa [hadded, Nat.add_sub_cancel_left]
  cases succeeded with
  | true =>
    refine hrecord (RWebTransportDriver.dispatchNext l.driver n rest) 0 ?_ ?_ ?_
    · simp [RWebTransportDriver.callbackSettled, hcalling]
    · unfold RWebTransportDriver.dispatchNext
      cases rest <;> rfl
    · rw [reject_zero]
      exact h.continues hcalling
  | false =>
    have hrejects : Accounted options
        ⟨{ RWebTransportDriver.updateSession l.driver n ({ · with dispatch := .closing }) with
            sessionsRejected := l.driver.sessionsRejected + 1 }, reject n 1 l.surfaced⟩ :=
      h.rejects hn hcalling rfl rfl rfl rfl (Function.update_self n _ _)
        fun k hk => Function.update_of_ne hk _ _
    have hkeeps := RWebTransportDriver.keepsSessions_closeSession (s :=
      { RWebTransportDriver.updateSession l.driver n ({ · with dispatch := .closing }) with
        sessionsRejected := l.driver.sessionsRejected + 1 }) n
    refine hrecord _ 1 ?_ hkeeps.sessionsRejected (hrejects.keeps hkeeps)
    simp [RWebTransportDriver.callbackSettled, hcalling]

/-! ### A surfaced session -/

/-- No adapter is built for the session. -/
theorem Accounted.surfaces (h : Accounted options l) (refused : Bool) {rejections : Nat}
    (honce : rejections ≤ 1) (hcount : t.sessionCount = l.driver.sessionCount)
    (htotal : t.sessionsTotal = l.driver.sessionsTotal + 1)
    (hrejected : t.sessionsRejected = l.driver.sessionsRejected + rejections)
    (hsessions : t.sessions = l.driver.sessions) (hsession : t.session = l.driver.session) :
    Accounted options ⟨t, l.surfaced ++ [⟨none, refused, rejections⟩]⟩ := by
  refine ⟨h.held.congr hcount hsessions (fun k => by rw [hsession]) (fun k => by rw [hsession]),
    hsessions ▸ h.sessions, le_trans (RWebTransportDriver.dispatchTasks_le hcount fun k _ => ?_)
      h.tasks, ?_, ?_, ?_, fun entry hentry => ?_⟩
  · rw [hsession]
    exact id
  · rw [List.length_append, htotal, h.total]
    rfl
  · rw [List.map_append, List.sum_append, hrejected, h.rejected]
    rfl
  · rw [List.filterMap_append, h.adapters, hcount]
    exact List.append_nil _
  · rcases List.mem_append.mp hentry with hentry | hentry
    · have hcoherent := h.coherent entry hentry
      exact ⟨hcoherent.once, hsession ▸ hcoherent.uncalled, hsession ▸ hcoherent.awaited⟩
    · rw [List.mem_singleton.mp hentry]
      exact ⟨honce, nofun, nofun⟩

/-- A session with a fresh id is entered beside the others. -/
theorem held_registered (h : Held s) {native : NativeSession}
    (hfresh : ∀ n < s.sessionCount, (s.session n).native.id ≠ native.id)
    (hcount : t.sessionCount = s.sessionCount + 1)
    (hsessions : t.sessions = s.sessions ++ [(native.id, s.sessionCount)])
    (hopen : (t.session s.sessionCount).state ≠ .closed)
    (hnative : (t.session s.sessionCount).native = native)
    (hothers : ∀ k ≠ s.sessionCount, t.session k = s.session k) : Held t := by
  have hsame : ∀ k < s.sessionCount, t.session k = s.session k := fun k hk => hothers k hk.ne
  refine ⟨?_, fun id k => ?_, fun a ha b hb hids => ?_, fun k hk => ?_⟩
  · rw [hsessions, List.map_append, List.nodup_append]
    refine ⟨h.nodup, List.pairwise_singleton _ _, fun id hid other hother => ?_⟩
    obtain ⟨⟨_, k⟩, hk, rfl⟩ := List.mem_map.mp hid
    obtain ⟨hlt, -, hid'⟩ := (h.mem _ k).mp hk
    rw [List.mem_singleton.mp hother]
    exact fun heq => hfresh k hlt (hid'.trans heq)
  · rw [hsessions, List.mem_append, h.mem id k, List.mem_singleton, hcount]
    constructor
    · rintro (⟨hk, hstate, hid⟩ | heq)
      · exact ⟨by omega, by rwa [hsame k hk], by rwa [hsame k hk]⟩
      · cases heq
        exact ⟨by omega, hopen, by rw [hnative]⟩
    · rintro ⟨hk, hstate, hid⟩
      rcases Nat.lt_succ_iff_lt_or_eq.mp hk with hk | rfl
      · rw [hsame k hk] at hstate hid
        exact Or.inl ⟨hk, hstate, hid⟩
      · rw [hnative] at hid
        exact Or.inr (by rw [hid])
  · rw [hcount] at ha hb
    rcases Nat.lt_succ_iff_lt_or_eq.mp ha with ha | rfl <;>
      rcases Nat.lt_succ_iff_lt_or_eq.mp hb with hb | rfl
    · rw [hsame a ha, hsame b hb] at hids
      exact h.unique a ha b hb hids
    · rw [hsame a ha, hnative] at hids
      exact absurd hids (hfresh a ha)
    · rw [hsame b hb, hnative] at hids
      exact absurd hids.symm (hfresh b hb)
    · rfl
  · rw [hothers k (by omega)]
    exact h.beyond k (by omega)

/-- The adapter of the session is built and held, and the session is refused or dispatched. -/
theorem Accounted.registers (h : Accounted options l) {native : NativeSession} {refused : Bool}
    {rejections : Nat} {session : DriverSession}
    (hfresh : ∀ n < l.driver.sessionCount, (l.driver.session n).native.id ≠ native.id)
    (hroom : isAtCapacity options l.driver = false) (honce : rejections ≤ 1)
    (hcount : t.sessionCount = l.driver.sessionCount + 1)
    (htotal : t.sessionsTotal = l.driver.sessionsTotal + 1)
    (hrejected : t.sessionsRejected = l.driver.sessionsRejected + rejections)
    (hsessions : t.sessions = l.driver.sessions ++ [(native.id, l.driver.sessionCount)])
    (hself : t.session l.driver.sessionCount = session)
    (hopen : session.state ≠ .closed) (hnative : session.native = native)
    (huncalled : refused = true → session.dispatch = .uncalled ∧ session.called = [])
    (hawaited : refused = false → rejections = 0)
    (hothers : ∀ k ≠ l.driver.sessionCount, t.session k = l.driver.session k) :
    Accounted options
      ⟨t, l.surfaced ++ [⟨some l.driver.sessionCount, refused, rejections⟩]⟩ := by
  simp only [isAtCapacity, Bool.or_eq_false_iff, decide_eq_false_iff_not, not_le] at hroom
  subst hself
  refine ⟨held_registered h.held hfresh hcount hsessions hopen hnative hothers, ?_, ?_, ?_, ?_, ?_,
    fun entry hentry => ?_⟩
  · rw [hsessions, List.length_append]
    exact hroom.1
  · have hle := RWebTransportDriver.dispatchTasks_succ_le hcount fun k hk => by
      rw [hothers k hk.ne]
    refine hle.trans ?_
    split
    · exact hroom.2
    · exact hroom.2.le
  · rw [List.length_append, htotal, h.total]
    rfl
  · rw [List.map_append, List.sum_append, hrejected, h.rejected]
    rfl
  · rw [List.filterMap_append, h.adapters, hcount, List.range_succ]
    rfl
  · rcases List.mem_append.mp hentry with hentry | hentry
    · have hcoherent := h.coherent entry hentry
      have hsame : ∀ k ∈ entry.adapter, t.session k = l.driver.session k := by
        intro k hk
        have hmem : k ∈ l.surfaced.filterMap (·.adapter) :=
          List.mem_filterMap.mpr ⟨entry, hentry, hk⟩
        rw [h.adapters] at hmem
        exact hothers k (List.mem_range.mp hmem).ne
      refine ⟨hcoherent.once, fun k hk => ?_, fun k hk => ?_⟩
      · rw [hsame k hk]
        exact hcoherent.uncalled k hk
      · rw [hsame k hk]
        exact hcoherent.awaited k hk
    · rw [List.mem_singleton.mp hentry]
      refine ⟨honce, ?_, ?_⟩
      · rintro k ⟨⟩ hrefused
        exact huncalled hrefused
      · rintro k ⟨⟩ callback rest hcalling
        refine hawaited (Bool.eq_false_iff.mpr fun hrefused => ?_)
        rw [(huncalled hrefused).1] at hcalling
        cases hcalling

theorem setSession_fresh (h : Held s) {id : String} (n : Nat)
    (hfresh : ∀ n < s.sessionCount, (s.session n).native.id ≠ id) :
    RWebTransportDriver.setSession s id n = s.sessions ++ [(id, n)] := by
  refine if_neg fun hany => ?_
  obtain ⟨⟨other, k⟩, hk, hid⟩ := List.any_eq_true.mp hany
  obtain ⟨hlt, -, hother⟩ := (h.mem other k).mp hk
  exact hfresh k hlt (hother.trans (beq_iff_eq.mp hid))

theorem isRefusing_iff (hroom : isAtCapacity options s = false) : isRefusing options s = true ↔
    s.state = .draining ∨ s.state = .stopping ∨ s.state = .stopped ∨ s.callbacks = [] := by
  simp [isRefusing, hroom, or_assoc]

/-- The session has an adapter: it is closed at once where the driver refuses it, else
dispatched. -/
theorem Accounted.registerSession (h : Accounted options l) {native : NativeSession}
    (hfresh : ∀ n < l.driver.sessionCount, (l.driver.session n).native.id ≠ native.id)
    (hroom : isAtCapacity options l.driver = false) : ∃ rejections,
      (RWebTransportDriver.registerSession l.driver native).sessionCount =
        l.driver.sessionCount + 1 ∧
      (RWebTransportDriver.registerSession l.driver native).sessionsRejected =
        l.driver.sessionsRejected + rejections ∧
      Accounted options ⟨RWebTransportDriver.registerSession l.driver native,
        l.surfaced ++ [⟨some l.driver.sessionCount, isRefusing options l.driver, rejections⟩]⟩ := by
  have hsessions := setSession_fresh h.held l.driver.sessionCount hfresh
  unfold RWebTransportDriver.registerSession
  simp only [hsessions, ← isRefusing_iff hroom]
  split
  · rename_i hrefusing
    have hregisters : Accounted options ⟨{ l.driver with
        sessionsTotal := l.driver.sessionsTotal + 1
        sessionCount := l.driver.sessionCount + 1
        session := Function.update l.driver.session l.driver.sessionCount
          ⟨native, .connected, false, .uncalled, []⟩
        sessions := l.driver.sessions ++ [(native.id, l.driver.sessionCount)]
        sessionsRejected := l.driver.sessionsRejected + 1 },
        l.surfaced ++ [⟨some l.driver.sessionCount, isRefusing options l.driver, 1⟩]⟩ := by
      refine h.registers hfresh hroom le_rfl rfl rfl rfl rfl (Function.update_self _ _ _) nofun rfl
        (fun _ => ⟨rfl, rfl⟩) (fun haccepting => ?_) fun k hk => Function.update_of_ne hk _ _
      rw [hrefusing] at haccepting
      cases haccepting
    have hkeeps := RWebTransportDriver.keepsSessions_closeSession (s := { l.driver with
        sessionsTotal := l.driver.sessionsTotal + 1
        sessionCount := l.driver.sessionCount + 1
        session := Function.update l.driver.session l.driver.sessionCount
          ⟨native, .connected, false, .uncalled, []⟩
        sessions := l.driver.sessions ++ [(native.id, l.driver.sessionCount)]
        sessionsRejected := l.driver.sessionsRejected + 1 }) l.driver.sessionCount
    exact ⟨1, hkeeps.sessionCount, hkeeps.sessionsRejected, hregisters.keeps hkeeps⟩
  · rename_i hrefusing
    rw [Bool.not_eq_true] at hrefusing
    have hcallbacks : l.driver.callbacks ≠ [] := fun hnone => by
      rw [(isRefusing_iff hroom).mpr (Or.inr (Or.inr (Or.inr hnone)))] at hrefusing
      cases hrefusing
    obtain ⟨callback, rest, hcallback⟩ := List.exists_cons_of_ne_nil hcallbacks
    unfold RWebTransportDriver.dispatchNext RWebTransportDriver.updateSession
    rw [hcallback]
    simp only
    rw [Function.update_idem, Function.update_self]
    refine ⟨0, trivial, rfl, h.registers hfresh hroom (Nat.zero_le 1) rfl rfl rfl rfl
      (Function.update_self _ _ _) nofun rfl (fun hrefused => ?_) (fun _ => rfl)
      fun k hk => Function.update_of_ne hk _ _⟩
    rw [hrefusing] at hrefused
    cases hrefused

/-- A surfaced session is registered, or rejected with its reason. -/
theorem Accounted.surfaced (h : Accounted options l) {a : Nat} {native : NativeSession}
    (hfresh : FreshId options l (.driver (.surfaced a native))) :
    Accounted options (next options l (.driver (.surfaced a native))) := by
  have hrecord : ∀ (t : DriverState) (adapter : Option Nat) (rejections : Nat),
      RWebTransportDriver.surfaced options l.driver native = t →
      (if l.driver.sessionCount < t.sessionCount then some l.driver.sessionCount else none) =
        adapter → t.sessionsRejected = l.driver.sessionsRejected + rejections →
      Accounted options
        ⟨t, l.surfaced ++ [⟨adapter, isRefusing options l.driver, rejections⟩]⟩ →
      Accounted options (next options l (.driver (.surfaced a native))) := by
    rintro t adapter rejections rfl rfl hadded haccounted
    change Accounted options ⟨RWebTransportDriver.surfaced options l.driver native, l.surfaced ++
      [⟨_, _, (RWebTransportDriver.surfaced options l.driver native).sessionsRejected -
        l.driver.sessionsRejected⟩]⟩
    rwa [hadded, Nat.add_sub_cancel_left]
  cases hroom : isAtCapacity options l.driver with
  | true =>
    exact hrecord _ none 1 (RWebTransportDriver.surfaced_full hroom) (if_neg (lt_irrefl _)) rfl
      (h.surfaces _ le_rfl rfl rfl rfl rfl rfl)
  | false =>
    cases hadaptable : native.adaptable with
    | true =>
      obtain ⟨rejections, hcount, hrejected, haccounted⟩ :=
        h.registerSession (hfresh hroom hadaptable) hroom
      exact hrecord _ _ rejections (RWebTransportDriver.surfaced_adaptable hroom hadaptable)
        (if_pos (by rw [hcount]; exact Nat.lt_succ_self _)) hrejected haccounted
    | false =>
      have hsurfaces : Accounted options ⟨{ l.driver with
          sessionsTotal := l.driver.sessionsTotal + 1
          nativesClosed := l.driver.nativesClosed ++ [native] },
          l.surfaced ++ [⟨none, isRefusing options l.driver, 0⟩]⟩ :=
        h.surfaces _ (Nat.zero_le 1) rfl rfl rfl rfl rfl
      have hkeeps := RWebTransportDriver.keepsSessions_handleServerError (s := { l.driver with
          sessionsTotal := l.driver.sessionsTotal + 1
          nativesClosed := l.driver.nativesClosed ++ [native] })
      exact hrecord _ none 0 (RWebTransportDriver.surfaced_unadaptable hroom hadaptable)
        (if_neg (by rw [hkeeps.sessionCount]; exact lt_irrefl _)) hkeeps.sessionsRejected
        (hsurfaces.keeps hkeeps)

/-! ### Whole runs -/

/-- Each event keeps the counts those of the surfaced sessions, within the limits. -/
theorem accounted_step (henabled : enabled l e = true) (hfresh : FreshId options l e)
    (h : Accounted options l) : Accounted options (next options l e) := by
  cases e with
  | closed n => exact h.keeps (RWebTransportDriver.keepsSessions_closeSession n)
  | driver e =>
    cases e with
    | surfaced a native => exact h.surfaced hfresh
    | callbackSettled n succeeded =>
      obtain ⟨hn, hcalling⟩ := Bool.and_eq_true_iff.mp henabled
      cases hdispatch : (l.driver.session n).dispatch with
      | calling callback rest => exact h.callbackSettled (of_decide_eq_true hn) hdispatch
      | _ => simp [hdispatch] at hcalling
    | dispatchClosed n =>
      obtain ⟨hclosing, -⟩ := Bool.and_eq_true_iff.mp henabled
      exact h.ends (Or.inl ⟨of_decide_eq_true (Bool.and_eq_true_iff.mp hclosing).2, rfl⟩)
    | dispatchCleared n =>
      exact h.ends (Or.inr ⟨of_decide_eq_true (Bool.and_eq_true_iff.mp henabled).2, rfl⟩)
    | _ => exact h.keeps (RWebTransportDriver.keepsSessions_next id)

/-- With fresh ids the sessions are accounted for in every run. -/
theorem accounted_run (h : ((program options).machine.restrict (FreshId options)).Run new es l) :
    Accounted options l := by
  refine h.invariant (P := Accounted options) ?_ accounted_new
  rintro l e _ ⟨hfresh, henabled, rfl⟩ hl
  exact accounted_step henabled hfresh hl

/-- In every run with unique session ids: the driver's map holds the adapters that have not reached
CLOSED, within `maxSessions`; the outstanding tasks are within `maxPendingSessionCallbacks`; every
surfaced session is counted once in the total and at most once as rejected; and one refused for
capacity or state is never passed to a callback. -/
theorem sessions_accounted (options : RWebTransportDriverOptions) (es : List LedgerEvent)
    (l : SessionLedger)
    (h : ((program options).machine.restrict (FreshId options)).Run new es l) :
    ((l.driver.sessions.map Prod.fst).Nodup ∧
      ∀ id n, (id, n) ∈ l.driver.sessions ↔ n < l.driver.sessionCount ∧
        (l.driver.session n).state ≠ .closed ∧ (l.driver.session n).native.id = id) ∧
    l.driver.sessions.length ≤ options.maxSessions.value ∧
    dispatchTasks l.driver ≤ options.maxPendingSessionCallbacks.value ∧
    l.driver.sessionsTotal = l.surfaced.length ∧
    l.driver.sessionsRejected = (l.surfaced.map (·.rejections)).sum ∧
    l.surfaced.filterMap (·.adapter) = List.range l.driver.sessionCount ∧
    ∀ entry ∈ l.surfaced, entry.rejections ≤ 1 ∧
      ∀ n, entry.adapter = some n → entry.refused = true → (l.driver.session n).called = [] := by
  have haccounted := accounted_run h
  refine ⟨⟨haccounted.held.nodup, haccounted.held.mem⟩, haccounted.sessions, haccounted.tasks,
    haccounted.total, haccounted.rejected, haccounted.adapters, fun entry hentry => ?_⟩
  have hcoherent := haccounted.coherent entry hentry
  exact ⟨hcoherent.once, fun n hn hrefused => (hcoherent.uncalled n hn hrefused).2⟩

/-- One session is held and dispatched, one's callback fails, and one finds no capacity. -/
theorem sessions_accounted_full : ∃ es l,
    ((program RWebTransportDriver.smallOptions).machine.restrict
      (FreshId RWebTransportDriver.smallOptions)).Run new es l ∧
    l.driver.sessionsTotal = 3 ∧ l.driver.sessionsRejected = 2 ∧
    l.driver.sessions = [("a", 0), ("b", 1)] ∧
    l.driver.sessions.length ≤ RWebTransportDriver.smallOptions.maxSessions.value ∧
    ∀ entry ∈ l.surfaced, entry.rejections ≤ 1 := by
  obtain ⟨l, hrun, htotal, hrejected, hsessions⟩ :=
    ((program RWebTransportDriver.smallOptions).restrict
      (FreshId RWebTransportDriver.smallOptions)).exists_run
      (RWebTransportDriver.smallStart.map .driver ++
        [.driver (.surfaced 0 ⟨"a", true, false⟩), .driver (.surfaced 0 ⟨"b", true, false⟩),
          .driver (.surfaced 0 ⟨"c", true, false⟩), .driver (.callbackSettled 1 false)]) new
      (fun l => l.driver.sessionsTotal = 3 ∧ l.driver.sessionsRejected = 2 ∧
        l.driver.sessions = [("a", 0), ("b", 1)]) (by decide +kernel)
  have hrestricted := (Program.restrict_run _ _).mp hrun
  obtain ⟨-, hlength, -, -, -, -, hentries⟩ := sessions_accounted _ _ l hrestricted
  exact ⟨_, l, hrestricted, htotal, hrejected, hsessions, hlength, fun entry hentry =>
    (hentries entry hentry).1⟩

end SessionLedger

end NestWebTransport
