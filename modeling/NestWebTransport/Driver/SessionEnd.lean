import NestWebTransport.Driver.SessionAdapter

/-! A session adapter ends once: one observer call, one native close, one promise of `close`. -/
namespace NestWebTransport

namespace AbortContext

variable {c d e : AbortContext} {l : Nat} {todo : List Nat}

/-- What callbacks do to a context whose signal is aborted. -/
structure Evolves (c d : AbortContext) : Prop where
  aborted : d.aborted = c.aborted
  listeners : d.listeners ⊆ c.listeners
  fates : ∀ todo, Fates c todo → Fates d todo

theorem Evolves.refl : Evolves c c := ⟨rfl, fun _ h => h, fun _ h => h⟩

theorem Evolves.trans (h : Evolves c d) (h' : Evolves d e) : Evolves c e where
  aborted := h'.aborted.trans h.aborted
  listeners := fun _ hl => h.listeners (h'.listeners hl)
  fates := fun todo hfates => h'.fates todo (h.fates todo hfates)

theorem subscribe_evolves (h : c.aborted.isSome = true) : Evolves c c.subscribe := by
  obtain ⟨reason, hreason⟩ := Option.isSome_iff_exists.mp h
  refine ⟨?_, ?_, fun todo hfates => subscribe_aborted hreason hfates⟩
  · simp [subscribe, hreason]
  · simp [subscribe, hreason]

theorem unsubscribe_evolves : Evolves c (c.unsubscribe l) := by
  refine ⟨?_, ?_, fun todo hfates => unsubscribe_fates hfates⟩
  · unfold unsubscribe
    split <;> rfl
  · unfold unsubscribe
    split
    · exact List.erase_subset
    · exact fun _ h => h

end AbortContext

/-- How far a session has come. -/
def SessionState.rank : SessionState → Nat
  | .connected => 0
  | .closing => 1
  | .closed => 2

namespace SessionAdapter

variable {a b d : SessionAdapter} {x : AdapterAction} {l : Nat} {todo : List Nat}
  {turn : Nat → Callback} {callback : Callback} {callbacks : FinishCallbacks}
  {error : Option CoreError} {reason : Thrown}

/-- What callbacks leave alone in an adapter that is closed: a `close` among them closes nothing. -/
structure Keeps (a b : SessionAdapter) : Prop where
  state : b.state = a.state
  closePromise : b.closePromise = a.closePromise
  closePromises : b.closePromises = a.closePromises
  terminalError : b.terminalError = a.terminalError
  closedNotified : b.closedNotified = a.closedNotified
  nativeCloses : b.nativeCloses = a.nativeCloses
  notices : b.notices = a.notices
  closeCalls : ∀ c ∈ b.closeCalls, c ∈ a.closeCalls ∨ c.state = a.state

theorem Keeps.refl : Keeps a a := ⟨rfl, rfl, rfl, rfl, rfl, rfl, rfl, fun _ h => .inl h⟩

theorem Keeps.trans (h : Keeps a b) (h' : Keeps b d) : Keeps a d where
  state := h'.state.trans h.state
  closePromise := h'.closePromise.trans h.closePromise
  closePromises := h'.closePromises.trans h.closePromises
  terminalError := h'.terminalError.trans h.terminalError
  closedNotified := h'.closedNotified.trans h.closedNotified
  nativeCloses := h'.nativeCloses.trans h.nativeCloses
  notices := h'.notices.trans h.notices
  closeCalls := fun c hc => by
    rcases h'.closeCalls c hc with hb | hb
    · exact h.closeCalls c hb
    · exact .inr (hb.trans h.state)

theorem keeps_context (c : AbortContext) : Keeps a { a with context := c } :=
  ⟨rfl, rfl, rfl, rfl, rfl, rfl, rfl, fun _ h => .inl h⟩

theorem act_keeps : Keeps a (a.act x) := by
  cases x with
  | subscribe => exact keeps_context _
  | unsubscribe l => exact keeps_context _
  | close =>
    simp only [act]
    split
    · refine ⟨rfl, rfl, rfl, rfl, rfl, rfl, rfl, fun c hc => ?_⟩
      rcases List.mem_append.mp hc with hold | hnew
      · exact .inl hold
      · cases List.mem_singleton.mp hnew
        exact .inr rfl
    · exact .refl

theorem act_evolves (haborted : a.context.aborted.isSome = true) :
    AbortContext.Evolves a.context (a.act x).context := by
  cases x with
  | subscribe => exact AbortContext.subscribe_evolves haborted
  | unsubscribe l => exact AbortContext.unsubscribe_evolves
  | close =>
    simp only [act]
    split <;> exact .refl

theorem actAll_keeps (xs : List AdapterAction) : Keeps a (a.actAll xs) := by
  induction xs generalizing a with
  | nil => exact .refl
  | cons x xs ih => exact act_keeps.trans ih

theorem actAll_evolves (haborted : a.context.aborted.isSome = true) (xs : List AdapterAction) :
    AbortContext.Evolves a.context (a.actAll xs).context := by
  induction xs generalizing a with
  | nil => exact .refl
  | cons x xs ih =>
    have hfirst := act_evolves (x := x) haborted
    exact hfirst.trans (ih (by rw [hfirst.aborted]; exact haborted))

/-- Whether a callback throws makes no difference to what follows. -/
theorem swallow_call : swallow (a.call callback) = a.actAll callback.actions := by
  unfold call
  cases callback.throws <;> rfl

theorem notifyAll_keeps : Keeps a (notifyAll turn todo a) := by
  induction todo generalizing a with
  | nil => exact .refl
  | cons l todo ih =>
    simp only [notifyAll, swallow_call]
    split
    · exact (keeps_context _).trans ((actAll_keeps _).trans ih)
    · exact ih

/-- The loop leaves no listener waiting for its turn, whichever of them throw. -/
theorem notifyAll_fates (turn : Nat → Callback) (haborted : a.context.aborted.isSome = true)
    (hnodup : todo.Nodup)
    (hfates : AbortContext.Fates a.context todo) :
    (notifyAll turn todo a).context.aborted = a.context.aborted ∧
      AbortContext.Fates (notifyAll turn todo a).context [] := by
  induction todo generalizing a with
  | nil => exact ⟨rfl, hfates⟩
  | cons l todo ih =>
    obtain ⟨hturn, hrest⟩ := List.nodup_cons.mp hnodup
    simp only [notifyAll, swallow_call]
    split
    · rename_i hin
      have hcall := actAll_evolves (a := { a with context := a.context.notify l }) haborted
        (turn l).actions
      have hnotified := AbortContext.notify_fates hfates hturn hin
      obtain ⟨habort, hdone⟩ :=
        ih (by rw [hcall.aborted]; exact haborted) hrest (hcall.fates _ hnotified)
      exact ⟨habort.trans hcall.aborted, hdone⟩
    · rename_i hout
      exact ih haborted hrest (hfates.skip hout)

/-! ### The end of a session -/

/-- What the observer finds: the signal is aborted, and each listener was called once unless it was
withdrawn before its turn. -/
structure Told (c : AbortContext) : Prop where
  aborted : c.aborted.isSome = true
  once : ∀ l < c.subscriptions,
    callCount l c.entries = if withdrawn l c.entries then 0 else 1

/-- An adapter that has ended. -/
structure Ended (a : SessionAdapter) : Prop where
  aborted : a.context.aborted.isSome = true
  listeners : a.context.listeners = []
  fates : AbortContext.Fates a.context []
  notified : a.closedNotified = true
  notice : ∃ n, a.notices = [n] ∧ Told n.context

/-- An adapter that has not ended. -/
structure Live (a : SessionAdapter) : Prop where
  unaborted : a.context.aborted = none
  fates : AbortContext.Fates a.context a.context.listeners
  unnotified : a.closedNotified = false
  notices : a.notices = []

theorem Live.same (h : Live a) (hcontext : b.context = a.context)
    (hnotified : b.closedNotified = a.closedNotified) (hnotices : b.notices = a.notices) :
    Live b where
  unaborted := by rw [hcontext, h.unaborted]
  fates := by
    rw [hcontext]
    exact h.fates
  unnotified := hnotified.trans h.unnotified
  notices := hnotices.trans h.notices

theorem Ended.same (h : Ended a) (hcontext : b.context = a.context)
    (hnotified : b.closedNotified = a.closedNotified) (hnotices : b.notices = a.notices) :
    Ended b where
  aborted := by rw [hcontext, h.aborted]
  listeners := by rw [hcontext, h.listeners]
  fates := by
    rw [hcontext]
    exact h.fates
  notified := hnotified.trans h.notified
  notice := by
    rw [hnotices]
    exact h.notice

/-- The first `close` of an adapter is the one that closes its native session. -/
structure ClosesOnce (a : SessionAdapter) : Prop where
  first : a.closePromise = none → a.closePromises = 0 ∧ a.nativeCloses = 0 ∧ a.state ≠ .closing
  later : ∀ number, a.closePromise = some number →
    number = 0 ∧ a.closePromises = 1 ∧ a.nativeCloses = 1 ∧ a.state ≠ .connected
  calls : ∀ c ∈ a.closeCalls, c.state ≠ .closed → c.returned = .own 0

structure Sound (a : SessionAdapter) : Prop where
  live : a.state ≠ .closed → Live a
  ended : a.state = .closed → Ended a
  closes : ClosesOnce a

theorem sound_new : Sound new where
  live _ := ⟨rfl, .new, rfl, rfl⟩
  ended h := by cases h
  closes := ⟨fun _ => ⟨rfl, rfl, by decide⟩, fun _ h => (by cases h), fun c hc => (by cases hc)⟩

theorem Ended.keeps (h : Ended a) (hkeeps : Keeps a b)
    (hevolves : AbortContext.Evolves a.context b.context) : Ended b where
  aborted := by
    rw [hevolves.aborted]
    exact h.aborted
  listeners := List.subset_nil.mp (h.listeners ▸ hevolves.listeners)
  fates := hevolves.fates _ h.fates
  notified := hkeeps.closedNotified.trans h.notified
  notice := by
    obtain ⟨n, hn, htold⟩ := h.notice
    exact ⟨n, hkeeps.notices.trans hn, htold⟩

/-- What has to do with `close` stays, but for calls made after the end. -/
structure KeepsClose (a b : SessionAdapter) : Prop where
  closePromise : b.closePromise = a.closePromise
  closePromises : b.closePromises = a.closePromises
  nativeCloses : b.nativeCloses = a.nativeCloses
  closeCalls : ∀ c ∈ b.closeCalls, c ∈ a.closeCalls ∨ c.state = .closed

theorem KeepsClose.trans (h : KeepsClose a b) (h' : KeepsClose b d) : KeepsClose a d where
  closePromise := h'.closePromise.trans h.closePromise
  closePromises := h'.closePromises.trans h.closePromises
  nativeCloses := h'.nativeCloses.trans h.nativeCloses
  closeCalls := fun c hc => (h'.closeCalls c hc).elim (h.closeCalls c) .inr

theorem Keeps.close (h : Keeps a b) (hstate : a.state = .closed) : KeepsClose a b :=
  ⟨h.closePromise, h.closePromises, h.nativeCloses,
    fun c hc => (h.closeCalls c hc).imp_right fun heq => heq.trans hstate⟩

theorem notifyClosed_ended (haborted : a.context.aborted.isSome = true)
    (hlisteners : a.context.listeners = []) (hfates : AbortContext.Fates a.context [])
    (hsilent : a.closedNotified = false) (hempty : a.notices = []) :
    Ended (a.notifyClosed error callback) := by
  rw [notifyClosed, hsilent, if_neg Bool.false_ne_true, swallow_call]
  set b : SessionAdapter :=
    { a with closedNotified := true, notices := a.notices ++ [⟨error, a.context⟩] } with hb
  refine Ended.keeps (a := b) ?_ (actAll_keeps _) (actAll_evolves (a := b) haborted _)
  refine ⟨haborted, hlisteners, hfates, rfl, ⟨error, a.context⟩, ?_, haborted, fun l hl => ?_⟩
  · simp [hb, hempty]
  · exact hfates.settled hl

theorem notifyClosed_keeps (error : Option CoreError) (callback : Callback)
    (hstate : a.state = .closed) :
    (a.notifyClosed error callback).state = .closed ∧
      KeepsClose a (a.notifyClosed error callback) := by
  unfold notifyClosed
  split
  · exact ⟨hstate, Keeps.refl.close hstate⟩
  · rw [swallow_call]
    set b : SessionAdapter :=
      { a with closedNotified := true, notices := a.notices ++ [⟨error, a.context⟩] }
    have hclosed : b.state = .closed := hstate
    have hkeep : KeepsClose a b := ⟨rfl, rfl, rfl, fun _ hc => .inl hc⟩
    have hcall := actAll_keeps (a := b) callback.actions
    exact ⟨hcall.state.trans hclosed, hkeep.trans (hcall.close hclosed)⟩

/-- `finish` up to its loop: the listeners that are left have their turns to come. -/
theorem enterClosed_fates (error : Option CoreError) (h : Live a) (xs : List AdapterAction) :
    (a.enterClosed error xs).context.aborted.isSome = true ∧
      AbortContext.Fates (a.enterClosed error xs).context
        (a.enterClosed error xs).context.listeners := by
  have hfates : AbortContext.Fates (a.context.abort (finishReason error)) a.context.listeners :=
    AbortContext.abort_fates h.fates
  have hdispatch : AbortContext.Evolves (a.context.abort (finishReason error))
      (a.enterClosed error xs).context :=
    actAll_evolves (a := { a with state := .closed, terminalError := error,
                                  context := a.context.abort (finishReason error) }) rfl xs
  refine ⟨?_, (hdispatch.fates _ hfates).refresh hdispatch.listeners⟩
  rw [hdispatch.aborted]
  rfl

theorem enterClosed_keeps (error : Option CoreError) (xs : List AdapterAction) :
    Keeps { a with state := .closed, terminalError := error } (a.enterClosed error xs) :=
  (keeps_context _).trans (actAll_keeps xs)

/-- `finish` of a live adapter ends it, whatever the callbacks do. -/
theorem finish_live (error : Option CoreError) (callbacks : FinishCallbacks) (h : Live a)
    (hstate : a.state ≠ .closed) :
    (a.finish error callbacks).state = .closed ∧ KeepsClose a (a.finish error callbacks) ∧
      Ended (a.finish error callbacks) := by
  have heq : a.finish error callbacks =
      (notifyAll callbacks.turn (a.enterClosed error callbacks.dispatch).context.listeners
        (a.enterClosed error callbacks.dispatch)).settleClosed.notifyClosed error
          callbacks.observer := if_neg hstate
  rw [heq]
  obtain ⟨habort, hturns⟩ := enterClosed_fates error h callbacks.dispatch
  have hkeep := enterClosed_keeps (a := a) error callbacks.dispatch
  set b : SessionAdapter := { a with state := .closed, terminalError := error }
  have hb : KeepsClose a b := ⟨rfl, rfl, rfl, fun _ hc => .inl hc⟩
  generalize a.enterClosed error callbacks.dispatch = d at *
  obtain ⟨haborted, hdone⟩ := notifyAll_fates callbacks.turn habort hturns.nodup hturns
  have hloop : Keeps b (notifyAll callbacks.turn d.context.listeners d) :=
    hkeep.trans notifyAll_keeps
  generalize notifyAll callbacks.turn d.context.listeners d = n at *
  have hsettled : Keeps b n.settleClosed :=
    ⟨hloop.state, hloop.closePromise, hloop.closePromises, hloop.terminalError,
      hloop.closedNotified, hloop.nativeCloses, hloop.notices, hloop.closeCalls⟩
  obtain ⟨hclosed, hlast⟩ := notifyClosed_keeps (a := n.settleClosed) error callbacks.observer
    hsettled.state
  refine ⟨hclosed, hb.trans ((hsettled.close rfl).trans hlast), notifyClosed_ended ?_ rfl
    (AbortContext.clear_fates hdone) (hsettled.closedNotified.trans h.unnotified)
    (hsettled.notices.trans h.notices)⟩
  exact (congrArg Option.isSome haborted).trans habort

theorem finish_ended (error : Option CoreError) (callbacks : FinishCallbacks)
    (hlive : a.state ≠ .closed → Live a) (hended : a.state = .closed → Ended a) :
    (a.finish error callbacks).state = .closed ∧ KeepsClose a (a.finish error callbacks) ∧
      Ended (a.finish error callbacks) := by
  by_cases hstate : a.state = .closed
  · rw [finish, if_pos hstate]
    exact ⟨hstate, Keeps.refl.close hstate, hended hstate⟩
  · exact finish_live error callbacks (hlive hstate) hstate

theorem ClosesOnce.keeps (h : ClosesOnce a) (hkeep : KeepsClose a b) (hstate : b.state = .closed) :
    ClosesOnce b where
  first hnone := by
    obtain ⟨hpromises, hcloses, _⟩ := h.first (hkeep.closePromise ▸ hnone)
    exact ⟨hkeep.closePromises.trans hpromises, hkeep.nativeCloses.trans hcloses, by simp [hstate]⟩
  later number hsome := by
    obtain ⟨hnumber, hpromises, hcloses, _⟩ := h.later number (hkeep.closePromise ▸ hsome)
    exact ⟨hnumber, hkeep.closePromises.trans hpromises, hkeep.nativeCloses.trans hcloses,
      by simp [hstate]⟩
  calls c hc hopen := by
    rcases hkeep.closeCalls c hc with hold | hclosed
    · exact h.calls c hold hopen
    · exact absurd hclosed hopen

theorem finish_sound (error : Option CoreError) (callbacks : FinishCallbacks) (h : Sound a) :
    Sound (a.finish error callbacks) := by
  obtain ⟨hstate, hkeep, hended⟩ := finish_ended error callbacks h.live h.ended
  exact ⟨fun hopen => absurd hstate hopen, fun _ => hended, h.closes.keeps hkeep hstate⟩

/-- No action but the close changes how the session ends. -/
theorem act_sound (h : Sound a) (hx : x ≠ .close) : Sound (a.act x) := by
  have hkeep : Keeps a (a.act x) := act_keeps
  refine ⟨fun hopen => ?_, fun hclosed => ?_, ?_⟩
  · have hlive := h.live fun heq => hopen (hkeep.state.trans heq)
    cases x with
    | subscribe =>
      refine ⟨?_, AbortContext.subscribe_open hlive.unaborted hlive.fates, hlive.unnotified,
        hlive.notices⟩
      simp [act, AbortContext.subscribe, hlive.unaborted]
    | unsubscribe l =>
      have hevolves := AbortContext.unsubscribe_evolves (c := a.context) (l := l)
      exact ⟨hevolves.aborted.trans hlive.unaborted,
        (hevolves.fates _ hlive.fates).refresh hevolves.listeners, hlive.unnotified, hlive.notices⟩
    | close => exact absurd rfl hx
  · have hended := h.ended (hkeep.state.symm.trans hclosed)
    exact hended.keeps hkeep (act_evolves hended.aborted)
  · cases x with
    | subscribe => exact ⟨h.closes.first, h.closes.later, h.closes.calls⟩
    | unsubscribe l => exact ⟨h.closes.first, h.closes.later, h.closes.calls⟩
    | close => exact absurd rfl hx

/-- A call of `close` that returns early returns the shared promise, unless the session is over. -/
theorem earlierClose_own (h : ClosesOnce a) {returned : ClosePromise}
    (hreturned : a.earlierClose = some returned) (hopen : a.state ≠ .closed) :
    returned = .own 0 := by
  unfold earlierClose at hreturned
  split at hreturned
  · rename_i number hsome
    cases hreturned
    rw [(h.later number hsome).1]
  · rw [if_neg hopen] at hreturned
    cases hreturned

theorem earlierClose_none (h : a.earlierClose = none) :
    a.closePromise = none ∧ a.state ≠ .closed := by
  unfold earlierClose at h
  split at h
  · cases h
  · rename_i hnone
    refine ⟨hnone, fun hclosed => ?_⟩
    rw [if_pos hclosed] at h
    cases h

theorem recordClose_sound (h : Sound a) {returned : ClosePromise}
    (hreturned : a.state ≠ .closed → returned = .own 0) :
    Sound (a.recordClose a.state returned) where
  live hopen := (h.live hopen).same rfl rfl rfl
  ended hclosed := (h.ended hclosed).same rfl rfl rfl
  closes := by
    refine ⟨h.closes.first, h.closes.later, fun c hc hopen => ?_⟩
    rcases List.mem_append.mp hc with hold | hnew
    · exact h.closes.calls c hold hopen
    · cases List.mem_singleton.mp hnew
      exact hreturned hopen

/-- The first `close` leaves the one promise that later calls share. -/
theorem holdClosePromise_closes (h : ClosesOnce a) (hnone : a.closePromise = none)
    {state : SessionState} {outcome : CloseOutcome} (hkeep : KeepsClose
      { a with state := .closing, nativeCloses := a.nativeCloses + 1 } b)
    (hstate : b.state ≠ .connected) : ClosesOnce (b.holdClosePromise state outcome) := by
  obtain ⟨hpromises, hcloses, _⟩ := h.first hnone
  have hcount : b.closePromises = 0 := hkeep.closePromises.trans hpromises
  refine ⟨fun hnone => (by cases hnone), fun number hsome => ?_, fun c hc hopen => ?_⟩
  · cases hsome
    refine ⟨hcount, congrArg (· + 1) hcount, ?_, hstate⟩
    exact hkeep.nativeCloses.trans (congrArg (· + 1) hcloses)
  · rcases List.mem_append.mp hc with hold | hnew
    · rcases hkeep.closeCalls c hold with hearlier | hclosed
      · exact h.calls c hearlier hopen
      · exact absurd hclosed hopen
    · cases List.mem_singleton.mp hnew
      exact congrArg ClosePromise.own hcount

/-- The native session is closed by the first close only; the others share its promise. -/
theorem close_sound (h : Sound a) (native : Option Thrown) :
    Sound (a.close native callbacks) := by
  unfold close
  split
  · rename_i returned hreturned
    exact recordClose_sound h fun hopen => earlierClose_own h.closes hreturned hopen
  · rename_i hnone
    obtain ⟨hpromise, hopen⟩ := earlierClose_none hnone
    have hlive := h.live hopen
    set called : SessionAdapter :=
      { a with state := .closing, nativeCloses := a.nativeCloses + 1 } with hcalled
    have hcalledLive : Live called := hlive.same rfl rfl rfl
    cases native with
    | none =>
      refine ⟨fun _ => hlive.same rfl rfl rfl, fun hclosed => (by cases hclosed), ?_⟩
      exact holdClosePromise_closes h.closes hpromise ⟨rfl, rfl, rfl, fun _ hc => .inl hc⟩
        (by simp [hcalled])
    | some thrown =>
      obtain ⟨hstate, hkeep, hended⟩ := finish_live (some (mapError thrown "close session"))
        callbacks hcalledLive (by simp [hcalled])
      exact ⟨fun hopen => absurd hstate hopen, fun _ => hended.same rfl rfl rfl,
        holdClosePromise_closes h.closes hpromise hkeep (by simp [hstate])⟩

/-- What happens to a promise alone makes no difference. -/
theorem Sound.same (h : Sound a) (hstate : b.state = a.state) (hcontext : b.context = a.context)
    (hnotified : b.closedNotified = a.closedNotified) (hnotices : b.notices = a.notices)
    (hpromise : b.closePromise = a.closePromise) (hpromises : b.closePromises = a.closePromises)
    (hcloses : b.nativeCloses = a.nativeCloses) (hcalls : b.closeCalls = a.closeCalls) :
    Sound b where
  live hopen := (h.live (hstate ▸ hopen)).same hcontext hnotified hnotices
  ended hclosed := (h.ended (hstate ▸ hclosed)).same hcontext hnotified hnotices
  closes := by
    refine ⟨?_, ?_, ?_⟩
    · rw [hpromise, hpromises, hcloses, hstate]
      exact h.closes.first
    · rw [hpromise, hpromises, hcloses, hstate]
      exact h.closes.later
    · rw [hcalls]
      exact h.closes.calls

theorem resumeClose_sound (h : Sound a) : Sound (a.resumeClose callbacks) := by
  unfold resumeClose
  split
  · exact h.same rfl rfl rfl rfl rfl rfl rfl rfl
  · rename_i thrown _
    exact (finish_sound (some (mapError (.core thrown) "close session")) callbacks h).same
      rfl rfl rfl rfl rfl rfl rfl rfl

theorem next_sound {e : AdapterEvent} (h : Sound a) (he : a.enabled e = true) :
    Sound (a.next e) := by
  cases e with
  | act x => exact act_sound h (by simpa [enabled] using he)
  | close native callbacks => exact close_sound h native
  | closeResumed callbacks => exact resumeClose_sound h
  | nativeReadyRejected error callbacks =>
    exact finish_sound _ callbacks (h.same rfl rfl rfl rfl rfl rfl rfl rfl)
  | nativeClosedFulfilled callbacks =>
    exact finish_sound _ callbacks (h.same rfl rfl rfl rfl rfl rfl rfl rfl)
  | nativeClosedRejected error callbacks =>
    exact finish_sound _ callbacks (h.same rfl rfl rfl rfl rfl rfl rfl rfl)

theorem step_sound {e : AdapterEvent} (hstep : machine.Step a e b) (h : Sound a) : Sound b := by
  obtain ⟨he, rfl⟩ := hstep
  exact next_sound h he

/-- Every reachable session adapter is sound. -/
theorem sound_of_reachable (h : machine.Reachable a) : Sound a := by
  refine h.invariant ?_ fun _ _ _ => step_sound
  rintro _ rfl
  exact sound_new

/-! ### States only move forward -/

theorem finish_state (error : Option CoreError) (callbacks : FinishCallbacks) (h : Sound a) :
    (a.finish error callbacks).state = .closed := (finish_ended error callbacks h.live h.ended).1

/-- The states of a session only go forward. -/
theorem next_rank {e : AdapterEvent} (h : Sound a) : a.state.rank ≤ (a.next e).state.rank := by
  have hclosed : ∀ state : SessionState, state.rank ≤ SessionState.closed.rank := by
    intro state
    cases state <;> decide
  have hfinish : ∀ (b : SessionAdapter) (error : Option CoreError) (callbacks : FinishCallbacks),
      Sound b → a.state.rank ≤ (b.finish error callbacks).state.rank := by
    intro b error callbacks hb
    rw [finish_state error callbacks hb]
    exact hclosed _
  cases e with
  | act x => rw [next, act_keeps.state]
  | close native callbacks =>
    simp only [next, close]
    split
    · exact Nat.le_refl _
    · rename_i hnone
      obtain ⟨hpromise, hopen⟩ := earlierClose_none hnone
      cases native with
      | none =>
        change a.state.rank ≤ SessionState.closing.rank
        cases hstate : a.state with
        | connected => decide
        | closing => decide
        | closed => exact absurd hstate hopen
      | some thrown =>
        have hlive : Live { a with state := .closing, nativeCloses := a.nativeCloses + 1 } :=
          (h.live hopen).same rfl rfl rfl
        have hend := (finish_live (some (mapError thrown "close session")) callbacks hlive
          (by simp)).1
        change a.state.rank ≤ (SessionAdapter.finish _ _ _).state.rank
        rw [hend]
        exact hclosed _
  | closeResumed callbacks =>
    simp only [next, resumeClose]
    split
    · exact Nat.le_refl _
    · exact hfinish a _ _ h
  | nativeReadyRejected error callbacks =>
    exact hfinish _ _ _ (h.same rfl rfl rfl rfl rfl rfl rfl rfl)
  | nativeClosedFulfilled callbacks =>
    exact hfinish _ _ _ (h.same rfl rfl rfl rfl rfl rfl rfl rfl)
  | nativeClosedRejected error callbacks =>
    exact hfinish _ _ _ (h.same rfl rfl rfl rfl rfl rfl rfl rfl)

theorem run_rank {es : List AdapterEvent} (h : Sound a) (hrun : machine.Run a es b) :
    a.state.rank ≤ b.state.rank := by
  induction hrun with
  | refl => exact Nat.le_refl _
  | stepL hstep _ ih =>
    obtain ⟨he, rfl⟩ := hstep
    exact (next_rank h).trans (ih (next_sound h he))

/-- The terminal behaviour of a session adapter, however its promises settle and whatever the
listeners it calls do or throw. -/
theorem ends_once (h : machine.Reachable a) :
    (∀ es b, machine.Run a es b → a.state.rank ≤ b.state.rank) ∧
    a.nativeCloses ≤ 1 ∧
    (∀ c ∈ a.closeCalls, ∀ d ∈ a.closeCalls, c.state ≠ .closed → d.state ≠ .closed →
      c.returned = d.returned) ∧
    a.notices.length = (if a.state = .closed then 1 else 0) ∧
    (∀ n ∈ a.notices, Told n.context) ∧
    AbortContext.Prompt a.context.entries ∧
    (a.state = .closed → Told a.context) := by
  have hsound := sound_of_reachable h
  refine ⟨fun es b hrun => run_rank hsound hrun, ?_, fun c hc d hd hopen hopen' => ?_, ?_⟩
  · cases hpromise : a.closePromise with
    | none => exact (hsound.closes.first hpromise).2.1.trans_le (Nat.zero_le _)
    | some number => exact (hsound.closes.later number hpromise).2.2.1.le
  · rw [hsound.closes.calls c hc hopen, hsound.closes.calls d hd hopen']
  · by_cases hstate : a.state = .closed
    · have hended := hsound.ended hstate
      obtain ⟨n, hnotices, htold⟩ := hended.notice
      rw [hnotices, if_pos hstate]
      refine ⟨rfl, fun m hm => ?_, hended.fates.prompt, fun _ => ⟨hended.aborted, fun l hl => ?_⟩⟩
      · cases List.mem_singleton.mp hm
        exact htold
      · exact hended.fates.settled hl
    · have hlive := hsound.live hstate
      rw [hlive.notices, if_neg hstate]
      exact ⟨rfl, fun m hm => (by cases hm), hlive.fates.prompt,
        fun hclosed => absurd hclosed hstate⟩

/-- Three streams are open when the native `close` throws: the first listener takes out itself and
the second and throws, the third one calls `close` and opens a fourth stream. -/
theorem ends_once_throwing : ∃ a : SessionAdapter, machine.Reachable a ∧ a.state = .closed ∧
    a.context.subscriptions = 4 ∧ a.nativeCloses = 1 ∧ a.closeCalls.length = 3 ∧
    Told a.context := by
  let callbacks : FinishCallbacks :=
    { dispatch := []
      turn := fun l => if l = 0 then ⟨[.unsubscribe 0, .unsubscribe 1], some .other⟩
        else ⟨[.close, .subscribe], none⟩
      observer := ⟨[.close], some .other⟩ }
  obtain ⟨a, hrun, hstate, hrest⟩ := program.exists_run
    [.act .subscribe, .act .subscribe, .act .subscribe, .close (some .other) callbacks,
      .nativeClosedFulfilled callbacks] new
    (fun a => a.state = .closed ∧ a.context.subscriptions = 4 ∧ a.nativeCloses = 1 ∧
      a.closeCalls.length = 3) (by decide +kernel)
  have hreach : machine.Reachable a := ⟨new, _, rfl, hrun⟩
  exact ⟨a, hreach, hstate, hrest.1, hrest.2.1, hrest.2.2,
    (ends_once hreach).2.2.2.2.2.2 hstate⟩

end SessionAdapter

end NestWebTransport
