import NestWebTransport.Server.StreamDispatch

/-! Whether a stream whose task has settled was taken care of. -/
namespace NestWebTransport

/-- The submission is not answered by closing the session, the queued task is not discarded, and
the resolver returns an object or rejects with an error of the stream. -/
def StreamDispatchEvent.Keeps : StreamDispatchEvent → Prop
  | .submit outcome => outcome ≠ .closeSession
  | .discard => False
  | .resolved resolution => resolution ≠ none
  | .rejected error => error.scope = some .stream
  | _ => True

/-- Nothing was decided about the stream. -/
def DispatchStage.isEarly : DispatchStage → Bool
  | .tracked | .queued | .waiting | .resolving => true
  | _ => false

namespace StreamDispatch

variable {p : StreamDispatcher} {d t : StreamDispatch} {e : StreamDispatchEvent} {stream : Nat}
  {es : List StreamDispatchEvent} {error : Failure} {value payload : Nat}

/-- A handler was invoked with what the resolver made of the stream, or the runtime stopped it. -/
def Owned (d : StreamDispatch) : Prop :=
  d.invoked ≠ [] ∨ ∃ closeCode, (d.stream, closeCode) ∈ d.stopped

/-- Nobody has a stream about which nothing was decided. -/
def Sound (d : StreamDispatch) : Prop :=
  d.stage.isEarly = true → d.invoked = [] ∧ d.stopped = []

theorem Sound.not_owned (h : Sound d) (hearly : d.stage.isEarly = true) : ¬ d.Owned := by
  obtain ⟨hinvoked, hstopped⟩ := h hearly
  rintro (hsome | ⟨closeCode, hmem⟩)
  · exact hsome hinvoked
  · rw [hstopped] at hmem
    cases hmem

/-- Where the context goes on, somebody has the stream, or nothing was decided about it, or its
error will reset it. -/
def Kept (d : StreamDispatch) : Prop :=
  d.aborted = true ∨ d.stage.isEarly = true ∨ d.Owned ∨
    ∃ error, d.stage = .rejected error ∧ error.scope = some .stream

/-- Where the context goes on, nobody has the stream, and nobody will. -/
def Lost (d : StreamDispatch) : Prop :=
  d.aborted = true ∨ ¬ d.Owned ∧ (d.stage = .settled ∨ d.stage = .refusing ∨ d.stage = .failing ∨
    ∃ error, d.stage = .rejected error ∧ error.scope ≠ some .stream)

/-! ### What is done for a stream stays done -/

structure Extends (d t : StreamDispatch) : Prop where
  stream : t.stream = d.stream
  aborted : t.aborted = d.aborted
  invoked : d.invoked <+: t.invoked
  stopped : d.stopped <+: t.stopped

theorem Extends.of_stage (d : StreamDispatch) (stage : DispatchStage) :
    Extends d { d with stage := stage } :=
  ⟨rfl, rfl, List.prefix_refl _, List.prefix_refl _⟩

theorem Extends.stage (h : Extends d t) (stage : DispatchStage) :
    Extends d { t with stage := stage } :=
  ⟨h.stream, h.aborted, h.invoked, h.stopped⟩

theorem Owned.extends (h : d.Owned) (hextends : Extends d t) : t.Owned := by
  rcases h with hinvoked | ⟨closeCode, hmem⟩
  · left
    intro hnil
    exact hinvoked (List.prefix_nil.mp (hnil ▸ hextends.invoked))
  · right
    rw [hextends.stream]
    exact ⟨closeCode, hextends.stopped.subset hmem⟩

theorem extends_stopStream (d : StreamDispatch) (stream : Nat) (closeCode : Option CloseCode) :
    Extends d (d.stopStream stream closeCode) :=
  ⟨rfl, rfl, List.prefix_refl _, List.prefix_append _ _⟩

theorem owned_stopStream (d : StreamDispatch) (closeCode : Option CloseCode) :
    (d.stopStream d.stream closeCode).Owned :=
  .inr ⟨closeCode, List.mem_append_right _ List.mem_cons_self⟩

theorem extends_handleRuntimeError (d : StreamDispatch) (error : Failure) (stream : Nat) :
    Extends d (d.handleRuntimeError error stream).1 := by
  unfold handleRuntimeError
  split
  · exact ⟨rfl, rfl, List.prefix_refl _, List.prefix_refl _⟩
  · exact ⟨rfl, rfl, List.prefix_refl _, List.prefix_refl _⟩
  · exact extends_stopStream d stream none
  · exact ⟨rfl, rfl, List.prefix_refl _, List.prefix_refl _⟩
  · exact ⟨rfl, rfl, List.prefix_refl _, List.prefix_refl _⟩
  · exact ⟨rfl, rfl, List.prefix_refl _, List.prefix_refl _⟩

/-- Only an error of the stream stops it. -/
theorem owned_handleRuntimeError (d : StreamDispatch) (error : Failure) :
    (d.handleRuntimeError error d.stream).1.Owned ↔ d.Owned ∨ error.scope = some .stream := by
  constructor
  · unfold handleRuntimeError
    split
    · exact .inl
    · exact .inl
    · rename_i hscope
      exact fun _ => .inr hscope
    · exact .inl
    · exact .inl
    · exact .inl
  · rintro (howned | hscope)
    · exact howned.extends (extends_handleRuntimeError d error d.stream)
    · unfold handleRuntimeError
      rw [hscope]
      exact owned_stopStream d none

theorem invokeAll_cons (handler : CompiledWebTransportHandler)
    (rest : List CompiledWebTransportHandler) :
    d.invokeAll value payload (handler :: rest) =
      if d.aborted then { d with stage := .rejected .abort }
      else { d with
        invoked := d.invoked ++ [⟨handler, value, payload⟩]
        stage := .invoking value payload rest } := rfl

theorem extends_invokeAll (handlers : List CompiledWebTransportHandler) :
    Extends d (d.invokeAll value payload handlers) := by
  cases handlers with
  | nil => exact ⟨rfl, rfl, List.prefix_refl _, List.prefix_refl _⟩
  | cons handler rest =>
    rw [invokeAll_cons]
    split
    · exact ⟨rfl, rfl, List.prefix_refl _, List.prefix_refl _⟩
    · exact ⟨rfl, rfl, List.prefix_append _ _, List.prefix_refl _⟩

theorem late_invokeAll (handlers : List CompiledWebTransportHandler) :
    (d.invokeAll value payload handlers).stage.isEarly = false := by
  cases handlers with
  | nil => rfl
  | cons handler rest =>
    rw [invokeAll_cons]
    split <;> rfl

theorem late_route (kind : WebTransportHandlerKind)
    (resolution : Option WebTransportRouteResolution) :
    (d.route p kind resolution).stage.isEarly = false := by
  unfold route
  split
  · rfl
  · cases resolution with
    | none => rfl
    | some resolution =>
      simp only
      split
      · rfl
      · exact late_invokeAll _

/-- A resolution finds a handler, or the stream is stopped for want of one. -/
theorem owned_route (kind : WebTransportHandlerKind) (hopen : d.aborted = false)
    (resolution : WebTransportRouteResolution) : (d.route p kind (some resolution)).Owned := by
  unfold route
  rw [if_neg (by rw [hopen]; exact Bool.false_ne_true)]
  simp only
  cases p.registry.find p.path kind resolution.route with
  | nil => exact owned_stopStream d (some .noRoute)
  | cons handler rest =>
    simp only
    rw [invokeAll_cons, if_neg (by rw [hopen]; exact Bool.false_ne_true)]
    left
    exact List.append_ne_nil_of_right_ne_nil _ (List.cons_ne_nil _ _)

/-! ### Every step -/

theorem extends_route (kind : WebTransportHandlerKind)
    (resolution : Option WebTransportRouteResolution) : Extends d (d.route p kind resolution) := by
  unfold route
  split
  · exact .of_stage d _
  · cases resolution with
    | none => exact .of_stage d _
    | some resolution =>
      simp only
      split
      · exact (extends_stopStream d d.stream _).stage _
      · exact extends_invokeAll _

theorem extends_catchError : Extends d d.catchError := by
  unfold catchError
  split
  · split
    · exact .of_stage d _
    · exact (extends_handleRuntimeError d _ d.stream).stage _
  · exact .of_stage d _

theorem late_proceed : d.proceed.stage.isEarly = false := by
  unfold proceed
  split
  · exact late_invokeAll _
  · exact late_invokeAll _
  · rfl

theorem extends_proceed : Extends d d.proceed := by
  unfold proceed
  split
  · exact extends_invokeAll _
  · exact extends_invokeAll _
  · exact .of_stage d _

theorem extends_recover (error : Failure) : Extends d (d.recover error) := by
  unfold recover
  split
  · rename_i value payload rest hstage
    exact (extends_handleRuntimeError d error value).stage _
  · exact .of_stage d _

theorem stage_recover (error : Failure) (hinvoking : d.isInvoking = true) :
    (d.recover error).stage.isEarly = false := by
  unfold isInvoking at hinvoking
  unfold recover
  split
  · rfl
  · rename_i hstage
    split at hinvoking
    · rename_i value payload rest heq
      exact absurd heq (hstage value payload rest)
    · cases hinvoking

/-- The error that a task rejected with. -/
theorem rejected_of_isRejected (h : d.isRejected = true) :
    ∃ error, d.stage = .rejected error := by
  unfold isRejected at h
  split at h
  · rename_i error hstage
    exact ⟨error, hstage⟩
  · cases h

theorem catchError_eq (hstage : d.stage = .rejected error) (hopen : d.aborted = false) :
    d.catchError = { (d.handleRuntimeError error d.stream).1 with stage := .failing } := by
  unfold catchError
  rw [hstage, hopen]
  rfl

theorem late_catchError (hrejected : d.isRejected = true) :
    d.catchError.stage.isEarly = false := by
  obtain ⟨error, hstage⟩ := rejected_of_isRejected hrejected
  unfold catchError
  rw [hstage]
  simp only
  split <;> rfl

/-- A dispatch asks the resolver, or routes the stream at once. -/
theorem dispatch_cases (p : StreamDispatcher) (d : StreamDispatch) :
    d.dispatch p = { d with stage := .resolving } ∨
      d.dispatch p = d.route p p.kind.handlerKind (some ⟨none, some d.stream, some d.stream⟩) := by
  have hcases : ∀ kind resolver, d.dispatchStream p kind resolver = { d with stage := .resolving } ∨
      d.dispatchStream p kind resolver =
        d.route p kind (some ⟨none, some d.stream, some d.stream⟩) := by
    intro kind resolver
    cases resolver with
    | true => exact .inl rfl
    | false => exact .inr rfl
  unfold dispatch
  cases p.kind with
  | bidirectional => exact hcases _ _
  | unidirectional => exact hcases _ _

theorem sound_of_late (hlate : d.stage.isEarly = false) : Sound d := by
  intro hearly
  rw [hlate] at hearly
  cases hearly

/-- As long as nothing was decided about a stream, no event hands it over or stops it. -/
theorem Sound.next (h : Sound d) (he : d.enabled e = true) : Sound (d.next p e) := by
  cases e with
  | submit outcome =>
    have hfresh := h (by rw [beq_iff_eq.mp he]; rfl)
    cases outcome with
    | started => exact fun _ => hfresh
    | queued => exact fun _ => hfresh
    | dropped => exact sound_of_late rfl
    | rejected => exact sound_of_late rfl
    | closeSession => exact sound_of_late rfl
    | closed => exact sound_of_late rfl
  | start => exact fun _ => h (by rw [beq_iff_eq.mp he]; rfl)
  | discard => exact sound_of_late rfl
  | granted =>
    have hfresh := h (by rw [beq_iff_eq.mp he]; rfl)
    change Sound (if d.aborted then { d with stage := .rejected .abort } else d.dispatch p)
    split
    · exact sound_of_late rfl
    · rcases dispatch_cases p d with heq | heq <;> rw [heq]
      · exact fun _ => hfresh
      · exact sound_of_late (late_route _ _)
  | denied => exact sound_of_late rfl
  | abort => exact h
  | resolved resolution => exact sound_of_late (late_route _ _)
  | rejected error => exact sound_of_late rfl
  | returned => exact sound_of_late late_proceed
  | threw error => exact sound_of_late (stage_recover error he)
  | caught => exact sound_of_late (late_catchError he)
  | proceeds => exact sound_of_late late_proceed

/-- What the runtime does adds to what it has done, and only the session aborts its context. -/
theorem extends_next (hne : e ≠ .abort) : Extends d (d.next p e) := by
  cases e with
  | submit outcome =>
    cases outcome with
    | started => exact .of_stage d _
    | queued => exact .of_stage d _
    | dropped => exact (extends_stopStream d d.stream _).stage _
    | rejected => exact (extends_stopStream d d.stream _).stage _
    | closeSession => exact ⟨rfl, rfl, List.prefix_refl _, List.prefix_refl _⟩
    | closed => exact (extends_stopStream d d.stream _).stage _
  | start => exact .of_stage d _
  | discard => exact .of_stage d _
  | granted =>
    change Extends d (if d.aborted then { d with stage := .rejected .abort } else d.dispatch p)
    split
    · exact .of_stage d _
    · rcases dispatch_cases p d with heq | heq <;> rw [heq]
      · exact .of_stage d _
      · exact extends_route _ _
  | denied => exact .of_stage d _
  | abort => exact absurd rfl hne
  | resolved resolution => exact extends_route _ _
  | rejected error => exact .of_stage d _
  | returned => exact extends_proceed
  | threw error => exact extends_recover error
  | caught => exact extends_catchError
  | proceeds => exact extends_proceed

/-- A stream that was handed over or stopped stays so. -/
theorem Owned.next (h : d.Owned) : (d.next p e).Owned := by
  by_cases hne : e = .abort
  · rw [hne]
    exact h
  · exact h.extends (extends_next hne)

/-- An aborted dispatch stays aborted. -/
theorem aborted_next (h : d.aborted = true) : (d.next p e).aborted = true := by
  by_cases hne : e = .abort
  · rw [hne]
    rfl
  · rw [(extends_next hne).aborted]
    exact h

theorem late_of_busy (h : d.isInvoking = true ∨ d.isAwaiting = true) :
    d.stage.isEarly = false ∧ ∀ error, d.stage ≠ .rejected error := by
  unfold isInvoking isAwaiting at h
  cases hstage : d.stage <;> simp [hstage, DispatchStage.isEarly] at h ⊢

/-- Somebody has a stream whose handlers are invoked, or that the runtime is awaiting about. -/
theorem Kept.owned (h : Kept d) (hopen : d.aborted = false)
    (hbusy : d.isInvoking = true ∨ d.isAwaiting = true) : d.Owned := by
  obtain ⟨hlate, hrejected⟩ := late_of_busy hbusy
  rcases h with haborted | hearly | howned | ⟨error, hstage, -⟩
  · rw [hopen] at haborted
    cases haborted
  · rw [hlate] at hearly
    cases hearly
  · exact howned
  · exact absurd hstage (hrejected error)

/-- As long as events keep the stream, it is owned once it is past the resolver, or a failure of its
own scope ends it. -/
theorem Kept.next (h : Kept d) (he : d.enabled e = true) (hkeeps : e.Keeps) :
    Kept (d.next p e) := by
  cases hopen : d.aborted with
  | true => exact .inl (aborted_next hopen)
  | false =>
    cases e with
    | submit outcome =>
      cases outcome with
      | started => exact .inr (.inl rfl)
      | queued => exact .inr (.inl rfl)
      | dropped => exact .inr (.inr (.inl (owned_stopStream d _)))
      | rejected => exact .inr (.inr (.inl (owned_stopStream d _)))
      | closeSession => exact absurd rfl hkeeps
      | closed => exact .inr (.inr (.inl (owned_stopStream d _)))
    | start => exact .inr (.inl rfl)
    | discard => exact hkeeps.elim
    | granted =>
      change Kept (if d.aborted then { d with stage := .rejected .abort } else d.dispatch p)
      rw [if_neg (by rw [hopen]; exact Bool.false_ne_true)]
      rcases dispatch_cases p d with heq | heq <;> rw [heq]
      · exact .inr (.inl rfl)
      · exact .inr (.inr (.inl (owned_route _ hopen _)))
    | denied =>
      have haborted := (Bool.and_eq_true_iff.mp he).2
      rw [hopen] at haborted
      cases haborted
    | abort => exact .inl rfl
    | resolved resolution =>
      cases resolution with
      | none => exact absurd rfl hkeeps
      | some resolution => exact .inr (.inr (.inl (owned_route _ hopen resolution)))
    | rejected error => exact .inr (.inr (.inr ⟨error, rfl, hkeeps⟩))
    | returned => exact .inr (.inr (.inl (h.owned hopen (.inl he)).next))
    | threw error => exact .inr (.inr (.inl (h.owned hopen (.inl he)).next))
    | caught =>
      obtain ⟨error, hstage⟩ := rejected_of_isRejected he
      have howned : (d.handleRuntimeError error d.stream).1.Owned := by
        refine (owned_handleRuntimeError d error).mpr ?_
        rcases h with haborted | hearly | howned | ⟨error', hstage', hscope⟩
        · rw [hopen] at haborted
          cases haborted
        · rw [hstage] at hearly
          cases hearly
        · exact .inl howned
        · rw [hstage] at hstage'
          cases hstage'
          exact .inr hscope
      refine .inr (.inr (.inl ?_))
      change d.catchError.Owned
      rw [catchError_eq hstage hopen]
      exact howned
    | proceeds => exact .inr (.inr (.inl (h.owned hopen (.inr he)).next))

/-! ### Streams nobody has -/

/-- A dispatch that is neither aborted nor caught is invoking handlers, awaited or early. -/
theorem enabled_cases (he : d.enabled e = true) :
    e = .abort ∨ e = .caught ∨ e = .proceeds ∨ d.isInvoking = true ∨ d.stage.isEarly = true := by
  have hearly : ∀ {stage : DispatchStage}, (d.stage == stage) = true → stage.isEarly = true →
      d.stage.isEarly = true := fun hstage hearly => (beq_iff_eq.mp hstage).symm ▸ hearly
  cases e with
  | submit outcome => exact .inr (.inr (.inr (.inr (hearly he rfl))))
  | start => exact .inr (.inr (.inr (.inr (hearly he rfl))))
  | discard => exact .inr (.inr (.inr (.inr (hearly he rfl))))
  | granted => exact .inr (.inr (.inr (.inr (hearly he rfl))))
  | denied => exact .inr (.inr (.inr (.inr (hearly (Bool.and_eq_true_iff.mp he).1 rfl))))
  | abort => exact .inl rfl
  | resolved resolution => exact .inr (.inr (.inr (.inr (hearly he rfl))))
  | rejected error => exact .inr (.inr (.inr (.inr (hearly he rfl))))
  | returned => exact .inr (.inr (.inr (.inl he)))
  | threw error => exact .inr (.inr (.inr (.inl he)))
  | caught => exact .inr (.inl rfl)
  | proceeds => exact .inr (.inr (.inl rfl))

/-- Nothing takes up a stream that was lost. -/
theorem Lost.next (h : Lost d) (he : d.enabled e = true) : Lost (d.next p e) := by
  rcases h with haborted | ⟨hunowned, hstage⟩
  · exact .inl (aborted_next haborted)
  · rcases enabled_cases he with rfl | rfl | rfl | hinvoking | hearly
    · exact .inl rfl
    · obtain ⟨error, hrejected⟩ := rejected_of_isRejected he
      have hscope : error.scope ≠ some .stream := by
        rcases hstage with hd | hd | hd | ⟨error', hd, hscope⟩ <;> rw [hrejected] at hd <;> cases hd
        exact hscope
      cases hopen : d.aborted with
      | true => exact .inl (aborted_next hopen)
      | false =>
        change Lost d.catchError
        rw [catchError_eq hrejected hopen]
        refine .inr ⟨fun howned => ?_, .inr (.inr (.inl rfl))⟩
        exact ((owned_handleRuntimeError d error).mp howned).elim hunowned hscope
    · have hproceed : d.proceed = { d with stage := .settled } := by
        unfold proceed
        rcases hstage with hd | hd | hd | ⟨error, hd, -⟩ <;> rw [hd]
      change Lost d.proceed
      rw [hproceed]
      exact .inr ⟨hunowned, .inl rfl⟩
    · unfold isInvoking at hinvoking
      rcases hstage with hd | hd | hd | ⟨error, hd, -⟩ <;> rw [hd] at hinvoking <;> cases hinvoking
    · rcases hstage with hd | hd | hd | ⟨error, hd, -⟩ <;> rw [hd] at hearly <;> cases hearly

/-- A step that breaks the condition leaves the stream to nobody. -/
theorem Sound.lost (h : Sound d) (he : d.enabled e = true) (hbroken : ¬ e.Keeps) :
    Lost (d.next p e) := by
  have hunowned : ∀ {stage : DispatchStage}, (d.stage == stage) = true → stage.isEarly = true →
      ¬ d.Owned := fun hstage hearly => h.not_owned ((beq_iff_eq.mp hstage).symm ▸ hearly)
  cases e with
  | submit outcome =>
    have hclose : outcome = .closeSession := by
      by_contra hne
      exact hbroken hne
    rw [hclose]
    exact .inr ⟨hunowned he rfl, .inr (.inl rfl)⟩
  | discard => exact .inr ⟨hunowned he rfl, .inl rfl⟩
  | resolved resolution =>
    have hnone : resolution = none := by
      by_contra hne
      exact hbroken hne
    rw [hnone]
    change Lost (if d.aborted then _ else _)
    split
    · rename_i haborted
      exact .inl haborted
    · exact .inr ⟨hunowned he rfl, .inr (.inr (.inr ⟨.typeError, rfl, nofun⟩))⟩
  | rejected error => exact .inr ⟨hunowned he rfl, .inr (.inr (.inr ⟨error, rfl, hbroken⟩))⟩
  | _ => exact absurd trivial hbroken

/-- A stream whose task settles while its session goes on has been handed to a handler or stopped
in exactly the runs that meet the condition. -/
theorem stream_owned_iff (p : StreamDispatcher) (stream : Nat) (es : List StreamDispatchEvent)
    (t : StreamDispatch) (h : (machine p stream).Run (trackStream stream) es t)
    (hsettled : t.stage = .settled) (hopen : t.aborted = false) :
    t.Owned ↔ ∀ e ∈ es, e.Keeps := by
  have hfirst : Sound (trackStream stream) := fun _ => ⟨rfl, rfl⟩
  have hsound : ∀ s e u, (machine p stream).Step s e u → Sound s → Sound u := by
    rintro s e u ⟨he, rfl⟩ hs
    exact hs.next he
  constructor
  · intro howned e hmem
    by_contra hbroken
    have hlost : Lost t := by
      refine h.holds_after hsound ?_ ?_ hfirst hmem
      · rintro s u ⟨he, rfl⟩ hs
        exact hs.lost he hbroken
      · rintro s f u ⟨he, rfl⟩ - hs
        exact hs.next he
    rcases hlost with haborted | ⟨hunowned, -⟩
    · rw [hopen] at haborted
      cases haborted
    · exact hunowned howned
  · intro hkeeps
    have hkept : Kept t := by
      refine h.invariant_of_events StreamDispatchEvent.Keeps ?_ hkeeps (.inr (.inl rfl))
      rintro s e u hok ⟨he, rfl⟩ hs
      exact hs.next he hok
    rcases hkept with haborted | hearly | howned | ⟨error, hstage, -⟩
    · rw [hopen] at haborted
      cases haborted
    · rw [hsettled] at hearly
      cases hearly
    · exact howned
    · rw [hsettled] at hstage
      cases hstage

/-- One handler of bidirectional streams, and a resolver. -/
def smallDispatcher : StreamDispatcher :=
  ⟨⟨id, [⟨"/", .bidirectionalStream, none, true, [], [], [], []⟩]⟩, "/", ⟨false, true, false⟩,
    .bidirectional⟩

/-- The handler of a stream throws an error of the stream. -/
def handledStream : List StreamDispatchEvent :=
  [.submit .queued, .start, .granted, .resolved (some ⟨some "chat", none, none⟩),
    .threw ⟨[.error, .webTransportError], some .stream, "E_STREAM"⟩, .proceeds]

theorem stream_owned_handled : ∃ t,
    (machine smallDispatcher 7).Run (trackStream 7) handledStream t ∧ t.Owned := by
  obtain ⟨t, hrun, hsettled, hopen⟩ := (program smallDispatcher 7).exists_run handledStream
    (trackStream 7) (fun t => t.stage = .settled ∧ t.aborted = false) (by decide +kernel)
  refine ⟨t, hrun, (stream_owned_iff smallDispatcher 7 handledStream t hrun hsettled hopen).mpr ?_⟩
  intro e he
  simp only [handledStream, List.mem_cons, List.not_mem_nil, or_false] at he
  rcases he with rfl | rfl | rfl | rfl | rfl | rfl
  · nofun
  · trivial
  · trivial
  · nofun
  · trivial
  · trivial

/-- The resolver rejects with an error that is no `WebTransportError`. -/
theorem unowned_after_rejection : ∃ t,
    (machine smallDispatcher 7).Run (trackStream 7)
      [.submit .started, .granted, .rejected .typeError, .caught, .proceeds] t ∧
    t.stage = .settled ∧ t.aborted = false ∧ t.invoked = [] ∧ t.stopped = [] ∧ t.closings = [] := by
  obtain ⟨t, hrun, h⟩ := (program smallDispatcher 7).exists_run
    [.submit .started, .granted, .rejected .typeError, .caught, .proceeds] (trackStream 7)
    (fun t => t.stage = .settled ∧ t.aborted = false ∧ t.invoked = [] ∧ t.stopped = [] ∧
      t.closings = []) (by decide +kernel)
  exact ⟨t, hrun, h⟩

end StreamDispatch

end NestWebTransport
