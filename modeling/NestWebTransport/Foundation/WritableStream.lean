import Mathlib.Data.List.Basic

/-! Writable streams with a default controller, down to the calls of their sink. -/
namespace NestWebTransport

inductive WritableState
  | writable
  | erroring
  | errored
  | closed
  deriving DecidableEq, Repr

inductive CloseRequest
  | absent
  | queued
  | inFlight
  deriving DecidableEq, Repr

/-- A call of the underlying sink. -/
inductive SinkCall (α : Type*)
  | write (chunk : α)
  | close
  | abort
  deriving DecidableEq, Repr

/-- `queue` holds the writes the sink has not been given; `abortRequest` says of a pending abort
whether the stream was erroring already. `accepted` and `taken` are the chunks of the accepted
writes and of the writes the sink was given, in order. -/
structure WritableStream (α : Type*) where
  state : WritableState
  started : Bool
  queue : List α
  inFlight : Option α
  closeRequest : CloseRequest
  abortRequest : Option Bool
  accepted : List α
  taken : List α

namespace WritableStream

variable {α : Type*} (w : WritableStream α)

def new : WritableStream α := ⟨.writable, false, [], none, .absent, none, [], []⟩

def hasOperationInFlight : Bool := w.inFlight.isSome || w.closeRequest == .inFlight

/-- The writes that wait are rejected; the sink is told of an abort that made the stream err. -/
def finishErroring : Option (SinkCall α) × WritableStream α :=
  (if w.abortRequest = some false then some .abort else none,
    { w with state := .errored, queue := [], closeRequest := .absent, abortRequest := none })

def startErroring : Option (SinkCall α) × WritableStream α :=
  let w := { w with state := .erroring }
  if !w.hasOperationInFlight && w.started then w.finishErroring else (none, w)

/-- `controller.error`. -/
def error : Option (SinkCall α) × WritableStream α :=
  if w.state = .writable then w.startErroring else (none, w)

def advanceQueueIfNeeded : Option (SinkCall α) × WritableStream α :=
  if w.started = false ∨ w.inFlight.isSome = true then (none, w)
  else
    match w.state, w.queue with
    | .erroring, _ => w.finishErroring
    | .writable, chunk :: rest =>
      (some (.write chunk),
        { w with queue := rest, inFlight := some chunk, taken := w.taken ++ [chunk] })
    | .writable, [] =>
      if w.closeRequest = .queued then (some .close, { w with closeRequest := .inFlight })
      else (none, w)
    | _, _ => (none, w)

/-- `start` of the sink has fulfilled. -/
def start : Option (SinkCall α) × WritableStream α :=
  { w with started := true }.advanceQueueIfNeeded

/-- `writer.write`; a write that is not accepted is rejected at once. -/
def write (chunk : α) : Option (SinkCall α) × WritableStream α :=
  if w.state = .writable ∧ w.closeRequest = .absent then
    { w with queue := w.queue ++ [chunk], accepted := w.accepted ++ [chunk] }.advanceQueueIfNeeded
  else (none, w)

/-- `writer.close`. -/
def close : Option (SinkCall α) × WritableStream α :=
  if (w.state = .writable ∨ w.state = .erroring) ∧ w.closeRequest = .absent then
    { w with closeRequest := .queued }.advanceQueueIfNeeded
  else (none, w)

/-- `writer.abort`, behind the listeners of the controller's signal. -/
def abort : Option (SinkCall α) × WritableStream α :=
  if w.state = .closed ∨ w.state = .errored ∨ w.abortRequest.isSome = true then (none, w)
  else if w.state = .erroring then (none, { w with abortRequest := some true })
  else { w with abortRequest := some false }.startErroring

/-- The promise of the sink's `write` has settled. -/
def writeSettled (ok : Bool) : Option (SinkCall α) × WritableStream α :=
  let w := { w with inFlight := none }
  if ok then w.advanceQueueIfNeeded
  else if w.state = .writable then w.startErroring
  else w.finishErroring

/-- The promise of the sink's `close` has fulfilled. -/
def closeSettled : WritableStream α :=
  { w with state := .closed, closeRequest := .absent, abortRequest := none }

/-- The sink is given the accepted writes in order, one at a time, and is closed behind the last. -/
structure Sound (w : WritableStream α) : Prop where
  ordered : w.taken <+: w.accepted
  whole : w.state = .writable → w.accepted = w.taken ++ w.queue
  inFlight : ∀ chunk, w.inFlight = some chunk →
    w.started = true ∧ w.taken.getLast? = some chunk ∧ (w.state = .writable ∨ w.state = .erroring)
  closing : w.closeRequest = .inFlight →
    w.started = true ∧ w.accepted = w.taken ∧ w.queue = [] ∧ w.inFlight = none ∧
      (w.state = .writable ∨ w.state = .erroring)
  closed : w.state = .closed → w.accepted = w.taken ∧ w.queue = []
  errored : w.state = .errored → w.queue = []
  settled : w.state = .closed ∨ w.state = .errored → w.closeRequest = .absent

variable {w w' : WritableStream α}

theorem sound_new : Sound (new : WritableStream α) where
  ordered := List.prefix_refl _
  whole _ := rfl
  inFlight _ hflight := by cases hflight
  closing hclosing := by cases hclosing
  closed hstate := by cases hstate
  errored hstate := by cases hstate
  settled hstate := by rcases hstate with hstate | hstate <;> cases hstate

/-- What an operation of the stream does to it, and what it asks of the sink. -/
inductive Turns (w : WritableStream α) : Option (SinkCall α) → WritableStream α → Prop
  | quiet {w' : WritableStream α} (hflight : w'.inFlight = w.inFlight) (htaken : w'.taken = w.taken)
      (hclosing : w'.closeRequest = .inFlight ↔ w.closeRequest = .inFlight)
      (hstate : w'.state = w.state ∨ w'.state = .erroring ∨ w'.state = .errored) :
      Turns w none w'
  | writes {w' : WritableStream α} {chunk : α} (hflight : w.inFlight = none)
      (hflight' : w'.inFlight = some chunk) (htaken : w'.taken = w.taken ++ [chunk])
      (hstate : w.state = .writable ∧ w'.state = .writable) : Turns w (some (.write chunk)) w'
  | closes {w' : WritableStream α} (hflight : w.inFlight = none) (hflight' : w'.inFlight = none)
      (htaken : w'.taken = w.taken) (hclosing : w'.closeRequest = .inFlight)
      (hstate : w.state = .writable ∧ w'.state = .writable) : Turns w (some .close) w'
  | aborts {w' : WritableStream α} (hflight : w'.inFlight = w.inFlight)
      (htaken : w'.taken = w.taken) (hclosing : w.closeRequest ≠ .inFlight)
      (hclosing' : w'.closeRequest = .absent) (hstate : w'.state = .errored) :
      Turns w (some .abort) w'

/-- What an operation does to the stream before it turns to the sink. -/
structure Prepares (w w' : WritableStream α) : Prop where
  state : w'.state = w.state ∨ w'.state = .erroring
  inFlight : w'.inFlight = w.inFlight
  taken : w'.taken = w.taken
  closing : w'.closeRequest = .inFlight ↔ w.closeRequest = .inFlight

/-- What prepares a turn may stand before it. -/
theorem Prepares.turns (hp : Prepares w w') {call : Option (SinkCall α)} {v : WritableStream α}
    (h : Turns w' call v) : Turns w call v := by
  have hwritable : w'.state = .writable → w.state = .writable := by
    intro hstate
    rcases hp.state with heq | heq
    · exact heq ▸ hstate
    · exact absurd (heq.symm.trans hstate) nofun
  cases h with
  | quiet hflight htaken hclosing hstate =>
    refine .quiet (hflight.trans hp.inFlight) (htaken.trans hp.taken) (hclosing.trans hp.closing) ?_
    rcases hstate with heq | heq
    · rw [heq]
      exact hp.state.imp_right .inl
    · exact .inr heq
  | writes hflight hflight' htaken hstate =>
    exact .writes (hp.inFlight ▸ hflight) hflight' (hp.taken ▸ htaken)
      ⟨hwritable hstate.1, hstate.2⟩
  | closes hflight hflight' htaken hclosing hstate =>
    exact .closes (hp.inFlight ▸ hflight) hflight' (hp.taken ▸ htaken) hclosing
      ⟨hwritable hstate.1, hstate.2⟩
  | aborts hflight htaken hclosing hclosing' hstate =>
    exact .aborts (hflight.trans hp.inFlight) (htaken.trans hp.taken)
      (fun hw => hclosing (hp.closing.mpr hw)) hclosing' hstate

theorem Turns.refl : Turns w none w := .quiet rfl rfl Iff.rfl (.inl rfl)

/-- No operation is in flight, and the stream has not ended. -/
structure Idle (w : WritableStream α) : Prop where
  inFlight : w.inFlight = none
  closing : w.closeRequest ≠ .inFlight
  live : w.state = .writable ∨ w.state = .erroring

theorem Idle.of_hasOperationInFlight (h : w.hasOperationInFlight = false)
    (hlive : w.state = .writable ∨ w.state = .erroring) : Idle w := by
  unfold hasOperationInFlight at h
  rw [Bool.or_eq_false_iff] at h
  exact ⟨by simpa using h.1, by simpa using h.2, hlive⟩

theorem Sound.finishErroring (h : w.Sound) (hidle : w.Idle) :
    w.finishErroring.2.Sound ∧ Turns w w.finishErroring.1 w.finishErroring.2 := by
  have hsound : w.finishErroring.2.Sound := by
    refine ⟨h.ordered, nofun, fun chunk hchunk => ?_, nofun, nofun, fun _ => rfl, fun _ => rfl⟩
    exact absurd (hidle.inFlight.symm.trans hchunk) nofun
  refine ⟨hsound, ?_⟩
  unfold WritableStream.finishErroring
  split_ifs
  · exact .aborts rfl rfl hidle.closing rfl rfl
  · refine .quiet rfl rfl ⟨fun hclosing => ?_, fun hclosing => ?_⟩ (.inr (.inr rfl))
    · cases hclosing
    · exact absurd hclosing hidle.closing

/-- A stream that starts to err waits for what is in flight. -/
theorem Sound.startErroring (h : w.Sound) :
    w.startErroring.2.Sound ∧ Turns w w.startErroring.1 w.startErroring.2 := by
  have herroring : Sound { w with state := .erroring } := by
    refine ⟨h.ordered, nofun, fun chunk hchunk => ?_, fun hclosing => ?_, nofun, nofun, nofun⟩
    · obtain ⟨hstarted, hlast, -⟩ := h.inFlight chunk hchunk
      exact ⟨hstarted, hlast, .inr rfl⟩
    · obtain ⟨hstarted, hall, hqueue, hflight, -⟩ := h.closing hclosing
      exact ⟨hstarted, hall, hqueue, hflight, .inr rfl⟩
  have hprepares : Prepares w { w with state := .erroring } := ⟨.inr rfl, rfl, rfl, Iff.rfl⟩
  unfold WritableStream.startErroring
  simp only
  split_ifs with hfinish
  · rw [Bool.and_eq_true, Bool.not_eq_true'] at hfinish
    obtain ⟨hsound, hturns⟩ :=
      herroring.finishErroring (.of_hasOperationInFlight hfinish.1 (.inr rfl))
    exact ⟨hsound, hprepares.turns hturns⟩
  · exact ⟨herroring, hprepares.turns .refl⟩

theorem Sound.error (h : w.Sound) : w.error.2.Sound ∧ Turns w w.error.1 w.error.2 := by
  unfold WritableStream.error
  split_ifs
  · exact h.startErroring
  · exact ⟨h, .refl⟩

/-- A started stream with nothing in flight has nothing left to do. -/
def Pumped (w : WritableStream α) : Prop :=
  w.started = true → w.inFlight = none → w.state = .writable →
    w.queue = [] ∧ w.closeRequest ≠ .queued

/-- The queue is at rest, or its stream finishes erring, or the next chunk or the close goes to the
sink. -/
theorem advanceQueueIfNeeded_cases (w : WritableStream α) :
    (w.advanceQueueIfNeeded = (none, w) ∧ w.Pumped) ∨
    (w.started = true ∧ w.inFlight = none ∧
      ((w.state = .erroring ∧ w.advanceQueueIfNeeded = w.finishErroring) ∨
      (w.state = .writable ∧ ∃ chunk rest, w.queue = chunk :: rest ∧ w.advanceQueueIfNeeded =
        (some (.write chunk),
          { w with queue := rest, inFlight := some chunk, taken := w.taken ++ [chunk] })) ∨
      (w.state = .writable ∧ w.queue = [] ∧ w.closeRequest = .queued ∧ w.advanceQueueIfNeeded =
        (some .close, { w with closeRequest := .inFlight })))) := by
  unfold WritableStream.advanceQueueIfNeeded
  split
  · rename_i hbusy
    refine .inl ⟨rfl, fun hstarted hflight => ?_⟩
    simp [hstarted, hflight] at hbusy
  · rename_i hbusy
    rw [not_or, Bool.not_eq_false, Bool.not_eq_true, Option.isSome_eq_false_iff,
      Option.isNone_iff_eq_none] at hbusy
    obtain ⟨hstarted, hflight⟩ := hbusy
    cases hstate : w.state with
    | closed => exact .inl ⟨rfl, fun _ _ h => absurd (hstate.symm.trans h) nofun⟩
    | errored => exact .inl ⟨rfl, fun _ _ h => absurd (hstate.symm.trans h) nofun⟩
    | erroring => exact .inr ⟨hstarted, hflight, .inl ⟨rfl, rfl⟩⟩
    | writable =>
      cases hqueue : w.queue with
      | nil =>
        by_cases hqueued : w.closeRequest = .queued
        · exact .inr ⟨hstarted, hflight, .inr (.inr ⟨rfl, rfl, hqueued, by simp [hqueued]⟩)⟩
        · exact .inl ⟨by simp [hqueued], fun _ _ _ => ⟨hqueue, hqueued⟩⟩
      | cons chunk rest =>
        exact .inr ⟨hstarted, hflight, .inr (.inl ⟨rfl, chunk, rest, rfl, by simp⟩)⟩

/-- What goes to the sink is the oldest chunk. -/
theorem Sound.advanceQueueIfNeeded (h : w.Sound) (hclosing : w.closeRequest ≠ .inFlight) :
    w.advanceQueueIfNeeded.2.Sound ∧
      Turns w w.advanceQueueIfNeeded.1 w.advanceQueueIfNeeded.2 := by
  rcases w.advanceQueueIfNeeded_cases with ⟨heq, -⟩ | ⟨hstarted, hflight, ⟨hstate, heq⟩ |
    ⟨hstate, chunk, rest, hqueue, heq⟩ | ⟨hstate, hqueue, hqueued, heq⟩⟩
  · rw [heq]
    exact ⟨h, .refl⟩
  · rw [heq]
    exact h.finishErroring ⟨hflight, hclosing, .inr hstate⟩
  · rw [heq]
    have hnext : w.accepted = w.taken ++ [chunk] ++ rest := by
      rw [h.whole hstate, hqueue, List.append_assoc]
      rfl
    refine ⟨⟨⟨rest, hnext.symm⟩, fun _ => hnext, fun other hother => ?_,
      fun hinFlight => absurd hinFlight hclosing, fun hended => ?_, fun hended => ?_, h.settled⟩,
      .writes hflight rfl rfl ⟨hstate, hstate⟩⟩
    · cases hother
      exact ⟨hstarted, List.getLast?_concat .., .inl hstate⟩
    · exact absurd (hstate.symm.trans hended) nofun
    · exact absurd (hstate.symm.trans hended) nofun
  · rw [heq]
    have hall : w.accepted = w.taken := by
      rw [h.whole hstate, hqueue, List.append_nil]
    refine ⟨⟨h.ordered, h.whole, h.inFlight,
      fun _ => ⟨hstarted, hall, hqueue, hflight, .inl hstate⟩,
      h.closed, h.errored, fun hended => ?_⟩, .closes hflight hflight rfl rfl ⟨hstate, hstate⟩⟩
    rcases hended with hended | hended
    · exact absurd (hstate.symm.trans hended) nofun
    · exact absurd (hstate.symm.trans hended) nofun

theorem Sound.start (h : w.Sound) (hstarted : w.started = false) :
    w.start.2.Sound ∧ Turns w w.start.1 w.start.2 := by
  have hclosing : w.closeRequest ≠ .inFlight := by
    intro hclosing
    exact absurd (hstarted.symm.trans (h.closing hclosing).1) nofun
  have hsound : Sound { w with started := true } := by
    refine ⟨h.ordered, h.whole, fun chunk hchunk => ?_, fun hinFlight => absurd hinFlight hclosing,
      h.closed, h.errored, h.settled⟩
    exact ⟨rfl, (h.inFlight chunk hchunk).2⟩
  have hprepares : Prepares w { w with started := true } := ⟨.inl rfl, rfl, rfl, Iff.rfl⟩
  obtain ⟨hnext, hturns⟩ := hsound.advanceQueueIfNeeded hclosing
  exact ⟨hnext, hprepares.turns hturns⟩

/-- An accepted write is queued behind the others. -/
theorem Sound.write (h : w.Sound) (chunk : α) :
    (w.write chunk).2.Sound ∧ Turns w (w.write chunk).1 (w.write chunk).2 := by
  unfold WritableStream.write
  split_ifs with hopen
  · obtain ⟨hstate, habsent⟩ := hopen
    have hclosing : w.closeRequest ≠ .inFlight := by
      rw [habsent]
      nofun
    have hsound : Sound { w with
        queue := w.queue ++ [chunk], accepted := w.accepted ++ [chunk] } := by
      refine ⟨h.ordered.trans (List.prefix_append _ _), fun _ => ?_, h.inFlight,
        fun hinFlight => absurd hinFlight hclosing, fun hended => ?_, fun hended => ?_, h.settled⟩
      · change w.accepted ++ [chunk] = w.taken ++ (w.queue ++ [chunk])
        rw [h.whole hstate, List.append_assoc]
      · exact absurd (hstate.symm.trans hended) nofun
      · exact absurd (hstate.symm.trans hended) nofun
    have hprepares : Prepares w { w with
        queue := w.queue ++ [chunk], accepted := w.accepted ++ [chunk] } :=
      ⟨.inl rfl, rfl, rfl, Iff.rfl⟩
    obtain ⟨hnext, hturns⟩ := hsound.advanceQueueIfNeeded hclosing
    exact ⟨hnext, hprepares.turns hturns⟩
  · exact ⟨h, .refl⟩

/-- A close waits behind the writes. -/
theorem Sound.close (h : w.Sound) : w.close.2.Sound ∧ Turns w w.close.1 w.close.2 := by
  unfold WritableStream.close
  split_ifs with hopen
  · obtain ⟨hlive, habsent⟩ := hopen
    have hsound : Sound { w with closeRequest := .queued } := by
      refine ⟨h.ordered, h.whole, h.inFlight, nofun, h.closed, h.errored, fun hended => ?_⟩
      rcases hlive with hstate | hstate
      · rcases hended with hended | hended <;> exact absurd (hstate.symm.trans hended) nofun
      · rcases hended with hended | hended <;> exact absurd (hstate.symm.trans hended) nofun
    have hprepares : Prepares w { w with closeRequest := .queued } := by
      refine ⟨.inl rfl, rfl, rfl, ?_⟩
      rw [habsent]
      exact ⟨nofun, nofun⟩
    obtain ⟨hnext, hturns⟩ := hsound.advanceQueueIfNeeded nofun
    exact ⟨hnext, hprepares.turns hturns⟩
  · exact ⟨h, .refl⟩

theorem Sound.withAbort (h : w.Sound) (request : Option Bool) :
    Sound { w with abortRequest := request } :=
  ⟨h.ordered, h.whole, h.inFlight, h.closing, h.closed, h.errored, h.settled⟩

theorem Sound.abort (h : w.Sound) : w.abort.2.Sound ∧ Turns w w.abort.1 w.abort.2 := by
  unfold WritableStream.abort
  split_ifs
  · exact ⟨h, .refl⟩
  · exact ⟨h.withAbort _, .quiet rfl rfl Iff.rfl (.inl rfl)⟩
  · have hprepares : Prepares w { w with abortRequest := some false } :=
      ⟨.inl rfl, rfl, rfl, Iff.rfl⟩
    obtain ⟨hnext, hturns⟩ := (h.withAbort (some false)).startErroring
    exact ⟨hnext, hprepares.turns hturns⟩

theorem Sound.closeRequest_ne (h : w.Sound) {chunk : α} (hflight : w.inFlight = some chunk) :
    w.closeRequest ≠ .inFlight := by
  intro hclosing
  exact absurd ((h.closing hclosing).2.2.2.1.symm.trans hflight) nofun

theorem Sound.landed (h : w.Sound) {chunk : α} (hflight : w.inFlight = some chunk) :
    Sound { w with inFlight := none } :=
  ⟨h.ordered, h.whole, nofun, fun hclosing => absurd hclosing (h.closeRequest_ne hflight),
    h.closed, h.errored, h.settled⟩

/-- A write that settles lets the next one go, or errs the stream. -/
theorem Sound.writeSettled (h : w.Sound) {chunk : α} (hflight : w.inFlight = some chunk)
    (ok : Bool) : (w.writeSettled ok).2.Sound ∧
      Turns { w with inFlight := none } (w.writeSettled ok).1 (w.writeSettled ok).2 := by
  obtain ⟨-, -, hlive⟩ := h.inFlight chunk hflight
  have hclosing := h.closeRequest_ne hflight
  have hsound := h.landed hflight
  unfold WritableStream.writeSettled
  simp only
  cases ok with
  | true =>
    rw [if_pos rfl]
    exact hsound.advanceQueueIfNeeded hclosing
  | false =>
    rw [if_neg nofun]
    split_ifs
    · exact hsound.startErroring
    · exact hsound.finishErroring ⟨rfl, hclosing, hlive⟩

theorem Sound.closeSettled (h : w.Sound) (hclosing : w.closeRequest = .inFlight) :
    w.closeSettled.Sound := by
  obtain ⟨-, hall, hqueue, hflight, -⟩ := h.closing hclosing
  refine ⟨h.ordered, nofun, fun chunk hchunk => ?_, nofun, fun _ => ⟨hall, hqueue⟩, nofun,
    fun _ => rfl⟩
  exact absurd (hflight.symm.trans hchunk) nofun

/-! ### Streams that err -/

/-- What an error or an abort may do to the stream. -/
structure Halts (w w' : WritableStream α) : Prop where
  inFlight : w'.inFlight = w.inFlight
  taken : w'.taken = w.taken
  closing : w'.closeRequest = .inFlight → w.closeRequest = .inFlight
  state : w'.state = w.state ∨ w'.state = .erroring ∨ w'.state = .errored

theorem Halts.refl : Halts w w := ⟨rfl, rfl, id, .inl rfl⟩

theorem startErroring_cases (w : WritableStream α) :
    w.startErroring = (none, { w with state := .erroring }) ∨
      w.startErroring = { w with state := .erroring }.finishErroring := by
  unfold WritableStream.startErroring
  simp only
  split
  · exact .inr rfl
  · exact .inl rfl

theorem finishErroring_call (w : WritableStream α) :
    w.finishErroring.1 = none ∨ w.finishErroring.1 = some .abort := by
  unfold WritableStream.finishErroring
  split_ifs
  · exact .inr rfl
  · exact .inl rfl

/-- The stream errs now, or once what is in flight has settled. -/
theorem halts_startErroring (w : WritableStream α) :
    Halts w w.startErroring.2 ∧
      (w.startErroring.2.state = .erroring ∨ w.startErroring.2.state = .errored) ∧
      (w.startErroring.1 = none ∨ w.startErroring.1 = some .abort) := by
  rcases w.startErroring_cases with heq | heq
  · rw [heq]
    exact ⟨⟨rfl, rfl, id, .inr (.inl rfl)⟩, .inl rfl, .inl rfl⟩
  · rw [heq]
    exact ⟨⟨rfl, rfl, nofun, .inr (.inr rfl)⟩, .inr rfl, finishErroring_call _⟩

theorem halts_error (w : WritableStream α) : Halts w w.error.2 := by
  unfold WritableStream.error
  split_ifs
  · exact w.halts_startErroring.1
  · exact .refl

/-- A write that fails leaves the stream without any other. -/
theorem halts_writeSettled (w : WritableStream α) :
    Halts { w with inFlight := none } (w.writeSettled false).2 ∧
      ((w.writeSettled false).2.state = .erroring ∨ (w.writeSettled false).2.state = .errored) ∧
      ((w.writeSettled false).1 = none ∨ (w.writeSettled false).1 = some .abort) := by
  unfold WritableStream.writeSettled
  simp only
  rw [if_neg nofun]
  split_ifs
  · exact halts_startErroring _
  · exact ⟨⟨rfl, rfl, nofun, .inr (.inr rfl)⟩, .inr rfl, finishErroring_call _⟩

/-! ### Streams that go on -/

theorem pumped_advanceQueueIfNeeded (w : WritableStream α) : w.advanceQueueIfNeeded.2.Pumped := by
  rcases w.advanceQueueIfNeeded_cases with ⟨heq, hpumped⟩ | ⟨-, -, ⟨-, heq⟩ |
    ⟨-, chunk, rest, -, heq⟩ | ⟨-, hqueue, -, heq⟩⟩
  · rw [heq]
    exact hpumped
  · rw [heq]
    exact fun _ _ hstate => absurd hstate nofun
  · rw [heq]
    exact fun _ hflight => absurd hflight nofun
  · rw [heq]
    exact fun _ _ _ => ⟨hqueue, nofun⟩

theorem advanceQueueIfNeeded_state (h : w.state = .writable) :
    w.advanceQueueIfNeeded.2.state = .writable := by
  rcases w.advanceQueueIfNeeded_cases with ⟨heq, -⟩ | ⟨-, -, ⟨hstate, -⟩ |
    ⟨-, chunk, rest, -, heq⟩ | ⟨-, -, -, heq⟩⟩
  · rw [heq]
    exact h
  · exact absurd (h.symm.trans hstate) nofun
  · rw [heq]
    exact h
  · rw [heq]
    exact h

theorem start_state (h : w.state = .writable) : w.start.2.state = .writable :=
  advanceQueueIfNeeded_state (w := { w with started := true }) h

theorem write_state (h : w.state = .writable) (chunk : α) :
    (w.write chunk).2.state = .writable := by
  unfold WritableStream.write
  split_ifs
  · exact advanceQueueIfNeeded_state h
  · exact h

theorem close_state (h : w.state = .writable) : w.close.2.state = .writable := by
  unfold WritableStream.close
  split_ifs
  · exact advanceQueueIfNeeded_state h
  · exact h

theorem writeSettled_state (h : w.state = .writable) :
    (w.writeSettled true).2.state = .writable :=
  advanceQueueIfNeeded_state (w := { w with inFlight := none }) h

theorem Pumped.of_state (h : w.state ≠ .writable) : w.Pumped := fun _ _ hstate => absurd hstate h

theorem Pumped.write (h : w.Pumped) (chunk : α) : (w.write chunk).2.Pumped := by
  unfold WritableStream.write
  split_ifs
  · exact pumped_advanceQueueIfNeeded _
  · exact h

theorem Pumped.close (h : w.Pumped) : w.close.2.Pumped := by
  unfold WritableStream.close
  split_ifs
  · exact pumped_advanceQueueIfNeeded _
  · exact h

theorem pumped_startErroring (w : WritableStream α) : w.startErroring.2.Pumped := by
  refine .of_state fun hstate => ?_
  rcases w.halts_startErroring.2.1 with heq | heq
  · exact absurd (heq.symm.trans hstate) nofun
  · exact absurd (heq.symm.trans hstate) nofun

theorem Pumped.error (h : w.Pumped) : w.error.2.Pumped := by
  unfold WritableStream.error
  split_ifs
  · exact pumped_startErroring _
  · exact h

theorem Pumped.abort (h : w.Pumped) : w.abort.2.Pumped := by
  unfold WritableStream.abort
  split_ifs
  · exact h
  · exact h
  · exact pumped_startErroring _

theorem pumped_writeSettled (ok : Bool) : (w.writeSettled ok).2.Pumped := by
  cases ok with
  | true => exact pumped_advanceQueueIfNeeded { w with inFlight := none }
  | false =>
    refine .of_state fun hstate => ?_
    rcases w.halts_writeSettled.2.1 with heq | heq
    · exact absurd (heq.symm.trans hstate) nofun
    · exact absurd (heq.symm.trans hstate) nofun

/-! ### What was accepted -/

theorem accepted_startErroring (w : WritableStream α) :
    w.startErroring.2.accepted = w.accepted := by
  rcases w.startErroring_cases with heq | heq
  · rw [heq]
  · rw [heq]
    rfl

theorem accepted_advanceQueueIfNeeded (w : WritableStream α) :
    w.advanceQueueIfNeeded.2.accepted = w.accepted := by
  rcases w.advanceQueueIfNeeded_cases with ⟨heq, -⟩ | ⟨-, -, ⟨-, heq⟩ | ⟨-, chunk, rest, -, heq⟩ |
    ⟨-, -, -, heq⟩⟩
  all_goals
    rw [heq]
  rfl

theorem accepted_writeSettled (w : WritableStream α) (ok : Bool) :
    (w.writeSettled ok).2.accepted = w.accepted := by
  unfold WritableStream.writeSettled
  simp only
  split_ifs
  · exact accepted_advanceQueueIfNeeded { w with inFlight := none }
  · exact accepted_startErroring { w with inFlight := none }
  · rfl

/-! ### What is left to do -/

def closeLoad : CloseRequest → Nat
  | .absent => 0
  | .queued => 2
  | .inFlight => 1

/-- What the stream has yet to do by itself; a write that waits counts for `cost`. -/
def load (cost : Nat) (w : WritableStream α) : Nat :=
  cost * w.queue.length + (if w.started then 0 else 1) + closeLoad w.closeRequest

/-- What a call of the sink takes over of it. -/
def callLoad (cost : Nat) : Option (SinkCall α) → Nat
  | some (.write _) => cost
  | _ => 0

variable {c : Nat}

theorem load_finishErroring (w : WritableStream α) :
    w.finishErroring.2.load c + callLoad c w.finishErroring.1 ≤ w.load c := by
  have hcall : callLoad c w.finishErroring.1 = 0 := by
    rcases w.finishErroring_call with heq | heq
    · rw [heq]
      rfl
    · rw [heq]
      rfl
  rw [hcall]
  unfold load WritableStream.finishErroring closeLoad
  simp only [List.length_nil, Nat.mul_zero]
  omega

theorem load_startErroring (w : WritableStream α) :
    w.startErroring.2.load c + callLoad c w.startErroring.1 ≤ w.load c := by
  rcases w.startErroring_cases with heq | heq
  · rw [heq]
    exact Nat.le_refl _
  · rw [heq]
    exact load_finishErroring _

theorem load_error (w : WritableStream α) : w.error.2.load c ≤ w.load c := by
  unfold WritableStream.error
  split_ifs
  · exact Nat.le_trans (Nat.le_add_right _ _) (load_startErroring w)
  · exact Nat.le_refl _

/-- A call of the sink is paid for by what leaves the queue. -/
theorem load_advanceQueueIfNeeded (w : WritableStream α) :
    w.advanceQueueIfNeeded.2.load c + callLoad c w.advanceQueueIfNeeded.1 ≤ w.load c := by
  rcases w.advanceQueueIfNeeded_cases with ⟨heq, -⟩ | ⟨-, -, ⟨-, heq⟩ |
    ⟨-, chunk, rest, hqueue, heq⟩ | ⟨-, -, hqueued, heq⟩⟩
  · rw [heq]
    exact Nat.le_refl _
  · rw [heq]
    exact load_finishErroring w
  · rw [heq]
    simp only [load, callLoad, hqueue, List.length_cons, Nat.mul_succ]
    omega
  · rw [heq]
    simp only [load, callLoad, hqueued, closeLoad]
    omega

theorem load_start (hstarted : w.started = false) :
    w.start.2.load c + callLoad c w.start.1 < w.load c := by
  have hadvance := load_advanceQueueIfNeeded (c := c) { w with started := true }
  refine Nat.lt_of_le_of_lt hadvance ?_
  simp [load, hstarted]

theorem load_writeSettled (w : WritableStream α) (ok : Bool) :
    (w.writeSettled ok).2.load c + callLoad c (w.writeSettled ok).1 ≤ w.load c := by
  unfold WritableStream.writeSettled
  simp only
  split_ifs
  · exact load_advanceQueueIfNeeded { w with inFlight := none }
  · exact load_startErroring { w with inFlight := none }
  · exact load_finishErroring { w with inFlight := none }

theorem load_closeSettled (hclosing : w.closeRequest = .inFlight) :
    w.closeSettled.load c < w.load c := by
  unfold load WritableStream.closeSettled closeLoad
  rw [hclosing]
  exact Nat.lt_succ_self _

end WritableStream

end NestWebTransport
