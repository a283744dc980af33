import Mathlib.Data.Rat.Cast.Order
import Mathlib.Tactic.Linarith
import NestWebTransport.Foundation.Program
import NestWebTransport.Server.RuntimeState

/-! The idle timer of one session, from its registration on. -/
namespace NestWebTransport

/-- A timer that was set and has neither fired nor been cleared; `due` is when it was set to
fire. -/
structure IdleTimer where
  id : Nat
  due : ℚ
  deriving DecidableEq

/-- What one call of `trackStream` closes over. -/
structure StreamRelease where
  kind : StreamKind
  released : Bool
  deriving DecidableEq

/-- The part of a managed session that its idle timer depends on. `touches` holds when `touch` was
called, `closes` when `checkIdle` closed the session. -/
structure IdleSession where
  lastActivityAt : ℚ
  idleTimer : Option Nat
  bidirectionalStreams : Int
  unidirectionalStreams : Int
  finalized : Bool
  aborted : Bool
  intakeAborted : Bool
  streams : List StreamRelease
  timerCount : Nat
  armed : List IdleTimer
  clock : ℚ
  touches : List ℚ
  closes : List ℚ

inductive IdleEvent
  | touch (now : ℚ)
  | trackStream (kind : StreamKind) (streamAborted : Bool) (now : ℚ)
  | streamAborted (i : Nat) (now : ℚ)
  | sessionAborted (now : ℚ)
  | finalizeSession (now : ℚ)
  | stopIntake (now : ℚ)
  | fire (timer : Nat) (now : ℚ)

def IdleEvent.now : IdleEvent → ℚ
  | .touch now | .trackStream _ _ now | .streamAborted _ now | .sessionAborted now
  | .finalizeSession now | .stopIntake now | .fire _ now => now

namespace IdleSession

variable (idleTimeoutMs : Nat) (s : IdleSession)

/-- `managed.idleTimer = setTimeout(checkIdle, delay)` -/
def setTimer (delay now : ℚ) : IdleSession :=
  { s with
    idleTimer := some s.timerCount
    timerCount := s.timerCount + 1
    armed := s.armed ++ [⟨s.timerCount, now + delay⟩] }

def touch (now : ℚ) : IdleSession :=
  let s := { s with touches := s.touches ++ [now] }
  if s.finalized ∨ s.aborted ∨ idleTimeoutMs = 0 then s
  else
    let s := { s with lastActivityAt := now }
    if s.idleTimer.isSome then s else s.setTimer idleTimeoutMs now

def checkIdle (now : ℚ) : IdleSession :=
  let s := { s with idleTimer := none }
  if s.finalized ∨ s.intakeAborted then s
  else if 0 < s.bidirectionalStreams ∨ 0 < s.unidirectionalStreams then s.touch idleTimeoutMs now
  else
    let remaining := idleTimeoutMs - (now - s.lastActivityAt)
    if 0 < remaining then s.setTimer remaining now
    else { s with closes := s.closes ++ [now] }

def addStreams (kind : StreamKind) (n : Int) : IdleSession :=
  match kind with
  | .bidirectional => { s with bidirectionalStreams := s.bidirectionalStreams + n }
  | .unidirectional => { s with unidirectionalStreams := s.unidirectionalStreams + n }

/-- The `release` of the `i`-th tracked stream. -/
def release (now : ℚ) (i : Nat) : IdleSession :=
  match s.streams[i]? with
  | none => s
  | some stream =>
    if stream.released then s
    else
      let s := { s with streams := s.streams.set i { stream with released := true } }
      let s := s.addStreams stream.kind (-1)
      if s.bidirectionalStreams = 0 ∧ s.unidirectionalStreams = 0 ∧ ¬ s.finalized ∧ ¬ s.aborted then
        s.touch idleTimeoutMs now
      else s

def trackStream (kind : StreamKind) (streamAborted : Bool) (now : ℚ) : IdleSession :=
  let i := s.streams.length
  let s : IdleSession := { s.addStreams kind 1 with streams := s.streams ++ [⟨kind, false⟩] }
  if streamAborted = true ∨ s.aborted = true then s.release idleTimeoutMs now i else s

def stopIntake : IdleSession := { s with intakeAborted := true }

def finalizeSession : IdleSession :=
  if s.finalized then s
  else
    let armed := s.armed.filter fun timer => s.idleTimer ≠ some timer.id
    stopIntake { s with finalized := true, armed }

/-- The listeners on the session's signal: it is finalized first and its streams released then. -/
def sessionAborted (now : ℚ) : IdleSession :=
  let s := finalizeSession { s with aborted := true }
  (List.range s.streams.length).foldl (fun s i => s.release idleTimeoutMs now i) s

def fire (timer : Nat) (now : ℚ) : IdleSession :=
  checkIdle idleTimeoutMs { s with armed := s.armed.filter fun t => t.id ≠ timer } now

/-- What `acceptSession` makes of a session that is let in, up to its first `touch`. -/
def register (created now : ℚ) (aborted : Bool) : IdleSession :=
  let s : IdleSession :=
    { lastActivityAt := created
      idleTimer := none
      bidirectionalStreams := 0
      unidirectionalStreams := 0
      finalized := false
      aborted
      intakeAborted := false
      streams := []
      timerCount := 0
      armed := []
      clock := now
      touches := []
      closes := [] }
  if aborted then s.finalizeSession else s.touch idleTimeoutMs now

/-- The clock never runs backwards; a timer fires at any time while it is set. -/
def enabled : IdleEvent → Bool
  | .sessionAborted now => s.clock ≤ now ∧ s.aborted = false
  | .fire timer now => s.clock ≤ now ∧ timer ∈ s.armed.map IdleTimer.id
  | e => s.clock ≤ e.now

def next (e : IdleEvent) : IdleSession :=
  let s := { s with clock := e.now }
  match e with
  | .touch now => s.touch idleTimeoutMs now
  | .trackStream kind streamAborted now => s.trackStream idleTimeoutMs kind streamAborted now
  | .streamAborted i now => s.release idleTimeoutMs now i
  | .sessionAborted now => s.sessionAborted idleTimeoutMs now
  | .finalizeSession _ => s.finalizeSession
  | .stopIntake _ => s.stopIntake
  | .fire timer now => s.fire idleTimeoutMs timer now

def program (created now : ℚ) (aborted : Bool) : Program IdleSession IdleEvent :=
  ⟨register idleTimeoutMs created now aborted, enabled, next idleTimeoutMs⟩

/-! ### What holds between two events -/

/-- The streams of a kind that are still tracked. -/
def tracked (streams : List StreamRelease) (kind : StreamKind) : Nat :=
  streams.countP fun stream => decide (stream.kind = kind ∧ stream.released = false)

/-- What every part of an event keeps: at most the timer the session knows of is set, it is due no
later than the timeout after the last touch, and the counters count the tracked streams. -/
structure Kept (s : IdleSession) : Prop where
  ended : s.aborted = true → s.finalized = true
  shut : s.finalized = true → s.intakeAborted = true
  armed : s.armed.map IdleTimer.id = if s.finalized then [] else s.idleTimer.toList
  last : s.finalized = false → s.lastActivityAt ≤ s.clock
  touched : s.finalized = false → ∀ touched ∈ s.touches, touched ≤ s.lastActivityAt
  due : ∀ timer ∈ s.armed, timer.due ≤ s.lastActivityAt + idleTimeoutMs
  bidirectional : s.bidirectionalStreams = tracked s.streams .bidirectional
  unidirectional : s.unidirectionalStreams = tracked s.streams .unidirectional

/-- While the session can still take anything in, its timer is set or it was closed for being
idle. -/
def Vigil : Prop :=
  s.finalized = false → s.intakeAborted = false → s.idleTimer.isSome ∨ s.closes ≠ []

variable {idleTimeoutMs} {s} {t : IdleSession} {e : IdleEvent} {created now delay : ℚ}
  {aborted : Bool}

/-- A timer is set only where none is. -/
theorem Kept.setTimer (h : Kept idleTimeoutMs s) (hnone : s.idleTimer = none)
    (hopen : s.finalized = false) (hdue : now + delay ≤ s.lastActivityAt + idleTimeoutMs) :
    Kept idleTimeoutMs (s.setTimer delay now) := by
  have harmed : s.armed = [] := by
    have harmed := h.armed
    rw [hopen, hnone] at harmed
    exact List.map_eq_nil_iff.mp harmed
  refine { h with armed := ?_, due := ?_ }
  · change (s.armed ++ [_]).map IdleTimer.id = if s.finalized then [] else [s.timerCount]
    rw [harmed, hopen]
    rfl
  · change ∀ timer ∈ s.armed ++ [_], timer.due ≤ s.lastActivityAt + idleTimeoutMs
    rw [harmed]
    intro timer htimer
    cases List.mem_singleton.mp htimer
    exact hdue

/-- A call of `touch` does nothing once the session has ended; else it moves the last activity, and
sets the timer where none is set. -/
theorem touch_cases (idleTimeoutMs : Nat) (s : IdleSession) (now : ℚ) :
    ((s.finalized = true ∨ s.aborted = true ∨ idleTimeoutMs = 0) ∧
        s.touch idleTimeoutMs now = { s with touches := s.touches ++ [now] }) ∨
      (s.finalized = false ∧ s.aborted = false ∧ 0 < idleTimeoutMs ∧
        ((s.idleTimer.isSome ∧ s.touch idleTimeoutMs now =
            { s with touches := s.touches ++ [now], lastActivityAt := now }) ∨
          (s.idleTimer = none ∧ s.touch idleTimeoutMs now =
            setTimer { s with touches := s.touches ++ [now], lastActivityAt := now }
              idleTimeoutMs now))) := by
  unfold touch
  simp only
  split_ifs with hended hset
  · exact Or.inl ⟨hended, rfl⟩
  · simp only [not_or, Bool.not_eq_true] at hended
    exact Or.inr ⟨hended.1, hended.2.1, Nat.pos_of_ne_zero hended.2.2, Or.inl ⟨hset, rfl⟩⟩
  · simp only [not_or, Bool.not_eq_true] at hended
    simp only [Bool.not_eq_true, Option.isSome_eq_false_iff, Option.isNone_iff_eq_none] at hset
    exact Or.inr ⟨hended.1, hended.2.1, Nat.pos_of_ne_zero hended.2.2, Or.inr ⟨hset, rfl⟩⟩

/-- An active session that is touched waits at least the whole timeout from then on. -/
theorem Kept.activity (h : Kept idleTimeoutMs s) (hclock : now = s.clock)
    (hopen : s.finalized = false) :
    Kept idleTimeoutMs { s with touches := s.touches ++ [now], lastActivityAt := now } := by
  have hlast := h.last hopen
  refine { h with last := fun _ => hclock.le, touched := fun _ touched hmem => ?_, due := ?_ }
  · rcases List.mem_append.mp hmem with hmem | hmem
    · exact (h.touched hopen touched hmem).trans (hlast.trans hclock.ge)
    · exact (List.mem_singleton.mp hmem).le
  · intro timer htimer
    have hdue := h.due timer htimer
    change timer.due ≤ now + idleTimeoutMs
    linarith

/-- Activity moves the deadline: the armed timer finds it moved, or is replaced. -/
theorem Kept.touch (h : Kept idleTimeoutMs s) (hpos : 0 < idleTimeoutMs) (hclock : now = s.clock) :
    Kept idleTimeoutMs (s.touch idleTimeoutMs now) ∧ Vigil (s.touch idleTimeoutMs now) := by
  rcases touch_cases idleTimeoutMs s now with
    ⟨hended, heq⟩ | ⟨hopen, -, -, ⟨hset, heq⟩ | ⟨hnone, heq⟩⟩
  · have hfinal : s.finalized = true := by
      rcases hended with hfinal | haborted | hzero
      · exact hfinal
      · exact h.ended haborted
      · omega
    rw [heq]
    refine ⟨{ h with touched := fun hopen => ?_ }, fun hopen => ?_⟩
    · exact absurd hfinal (by rw [show s.finalized = false from hopen]; exact Bool.false_ne_true)
    · exact absurd hfinal (by rw [show s.finalized = false from hopen]; exact Bool.false_ne_true)
  · rw [heq]
    exact ⟨h.activity hclock hopen, fun _ _ => Or.inl hset⟩
  · rw [heq]
    exact ⟨(h.activity hclock hopen).setTimer hnone hopen le_rfl, fun _ _ => Or.inl rfl⟩

@[simp] theorem touch_closes : (s.touch idleTimeoutMs now).closes = s.closes := by
  unfold touch
  simp only
  split_ifs <;> rfl

@[simp] theorem touch_clock : (s.touch idleTimeoutMs now).clock = s.clock := by
  unfold touch
  simp only
  split_ifs <;> rfl

@[simp] theorem touch_finalized : (s.touch idleTimeoutMs now).finalized = s.finalized := by
  unfold touch
  simp only
  split_ifs <;> rfl

@[simp] theorem touch_intakeAborted :
    (s.touch idleTimeoutMs now).intakeAborted = s.intakeAborted := by
  unfold touch
  simp only
  split_ifs <;> rfl

/-- `touch` and what it is part of never take the vigil back. -/
theorem Vigil.touch (h : Vigil s) : Vigil (s.touch idleTimeoutMs now) := by
  rcases touch_cases idleTimeoutMs s now with ⟨-, heq⟩ | ⟨-, -, -, ⟨-, heq⟩ | ⟨-, heq⟩⟩
  · rw [heq]
    exact h
  · rw [heq]
    exact h
  · rw [heq]
    exact fun _ _ => Or.inl rfl

/-! ### Streams -/

/-- The counters follow the list of tracked streams. -/
theorem Kept.recount (h : Kept idleTimeoutMs s) {streams : List StreamRelease} {kind : StreamKind}
    {n : Int} (hcount : ∀ k, (tracked streams k : Int) =
      tracked s.streams k + if k = kind then n else 0) :
    Kept idleTimeoutMs (addStreams { s with streams } kind n) := by
  have hbidirectional := hcount .bidirectional
  have hunidirectional := hcount .unidirectional
  have hb := h.bidirectional
  have hu := h.unidirectional
  cases kind with
  | bidirectional =>
    refine { h with bidirectional := ?_, unidirectional := ?_ }
    · change s.bidirectionalStreams + n = tracked streams .bidirectional
      rw [hbidirectional, hb, if_pos rfl]
    · change s.unidirectionalStreams = tracked streams .unidirectional
      rw [hunidirectional, hu, if_neg (by decide), add_zero]
  | unidirectional =>
    refine { h with bidirectional := ?_, unidirectional := ?_ }
    · change s.bidirectionalStreams = tracked streams .bidirectional
      rw [hbidirectional, hb, if_neg (by decide), add_zero]
    · change s.unidirectionalStreams + n = tracked streams .unidirectional
      rw [hunidirectional, hu, if_pos rfl]

theorem tracked_push (streams : List StreamRelease) (kind k : StreamKind) :
    (tracked (streams ++ [⟨kind, false⟩]) k : Int) =
      tracked streams k + if k = kind then 1 else 0 := by
  unfold tracked
  rw [List.countP_append, List.countP_singleton]
  by_cases hk : k = kind
  · simp [hk]
  · simp [hk, Ne.symm hk]

theorem tracked_release {streams : List StreamRelease} {i : Nat} {stream : StreamRelease}
    (hget : streams[i]? = some stream) (hheld : stream.released = false) (k : StreamKind) :
    (tracked (streams.set i { stream with released := true }) k : Int) =
      tracked streams k + if k = stream.kind then -1 else 0 := by
  obtain ⟨hi, hstream⟩ := List.getElem?_eq_some_iff.mp hget
  unfold tracked
  rw [List.countP_set hi, hstream]
  by_cases hk : k = stream.kind
  · have hpos : 0 < streams.countP fun r => decide (r.kind = k ∧ r.released = false) := by
      refine List.countP_pos_iff.mpr ⟨stream, List.mem_of_getElem? hget, ?_⟩
      simp [hk, hheld]
    simp only [hk, hheld, and_self, decide_true, if_true, Bool.true_eq_false, and_false,
      decide_false, Bool.false_eq_true, if_false] at hpos ⊢
    omega
  · simp [hk, Ne.symm hk]

/-- A release does nothing the second time; the first time it untracks its stream, and the last one
touches the session. -/
theorem release_cases (idleTimeoutMs : Nat) (s : IdleSession) (now : ℚ) (i : Nat) :
    s.release idleTimeoutMs now i = s ∨
      ∃ stream, s.streams[i]? = some stream ∧ stream.released = false ∧
        let u := addStreams { s with streams := s.streams.set i { stream with released := true } }
          stream.kind (-1)
        s.release idleTimeoutMs now i = u ∨
          s.release idleTimeoutMs now i = u.touch idleTimeoutMs now := by
  unfold release
  cases hget : s.streams[i]? with
  | none => exact Or.inl rfl
  | some stream =>
    simp only
    split_ifs with hreleased hidle
    · exact Or.inl rfl
    · exact Or.inr ⟨stream, rfl, by simpa using hreleased, Or.inr rfl⟩
    · exact Or.inr ⟨stream, rfl, by simpa using hreleased, Or.inl rfl⟩

@[simp] theorem addStreams_clock {kind : StreamKind} {n : Int} :
    (s.addStreams kind n).clock = s.clock := by cases kind <;> rfl

@[simp] theorem addStreams_closes {kind : StreamKind} {n : Int} :
    (s.addStreams kind n).closes = s.closes := by cases kind <;> rfl

@[simp] theorem addStreams_finalized {kind : StreamKind} {n : Int} :
    (s.addStreams kind n).finalized = s.finalized := by cases kind <;> rfl

@[simp] theorem addStreams_intakeAborted {kind : StreamKind} {n : Int} :
    (s.addStreams kind n).intakeAborted = s.intakeAborted := by cases kind <;> rfl

@[simp] theorem addStreams_idleTimer {kind : StreamKind} {n : Int} :
    (s.addStreams kind n).idleTimer = s.idleTimer := by cases kind <;> rfl

/-- What a part of an event leaves alone: it closes nothing, and neither ends the session nor leaves
it unattended. -/
structure Attends (s t : IdleSession) : Prop where
  clock : t.clock = s.clock
  closes : t.closes = s.closes
  finalized : t.finalized = s.finalized
  vigil : Vigil s → Vigil t

theorem Attends.refl (s : IdleSession) : Attends s s := ⟨rfl, rfl, rfl, id⟩

theorem Attends.trans {u : IdleSession} (h : Attends s t) (h' : Attends t u) : Attends s u :=
  ⟨h'.clock.trans h.clock, h'.closes.trans h.closes, h'.finalized.trans h.finalized,
    h'.vigil ∘ h.vigil⟩

theorem attends_touch (s : IdleSession) (now : ℚ) : Attends s (s.touch idleTimeoutMs now) :=
  ⟨touch_clock, touch_closes, touch_finalized, Vigil.touch⟩

theorem attends_addStreams (s : IdleSession) (streams : List StreamRelease) (kind : StreamKind)
    (n : Int) : Attends s (addStreams { s with streams } kind n) := by
  refine ⟨by simp, by simp, by simp, fun h => ?_⟩
  intro hopen hintake
  simp only [addStreams_finalized, addStreams_intakeAborted, addStreams_idleTimer,
    addStreams_closes] at hopen hintake ⊢
  exact h hopen hintake

theorem Kept.release (h : Kept idleTimeoutMs s) (hpos : 0 < idleTimeoutMs) (hclock : now = s.clock)
    (i : Nat) : Kept idleTimeoutMs (s.release idleTimeoutMs now i) ∧
      Attends s (s.release idleTimeoutMs now i) := by
  rcases release_cases idleTimeoutMs s now i with heq | ⟨stream, hget, hheld, heq⟩
  · rw [heq]
    exact ⟨h, .refl s⟩
  · have hkept := h.recount (tracked_release hget hheld)
    have hattends := attends_addStreams s (s.streams.set i { stream with released := true })
      stream.kind (-1)
    rcases heq with heq | heq
    · rw [heq]
      exact ⟨hkept, hattends⟩
    · rw [heq]
      exact ⟨(hkept.touch hpos (hclock.trans hattends.clock.symm)).1,
        hattends.trans (attends_touch _ now)⟩

/-- A stream that is tracked is activity of its session. -/
theorem Kept.trackStream (h : Kept idleTimeoutMs s) (hpos : 0 < idleTimeoutMs)
    (hclock : now = s.clock) (kind : StreamKind) (streamAborted : Bool) :
    Kept idleTimeoutMs (s.trackStream idleTimeoutMs kind streamAborted now) ∧
      Attends s (s.trackStream idleTimeoutMs kind streamAborted now) := by
  have hkept := h.recount (tracked_push s.streams kind)
  have hattends := attends_addStreams s (s.streams ++ [⟨kind, false⟩]) kind 1
  have heq : { s.addStreams kind 1 with streams := s.streams ++ [⟨kind, false⟩] } =
      addStreams { s with streams := s.streams ++ [⟨kind, false⟩] } kind 1 := by cases kind <;> rfl
  unfold IdleSession.trackStream
  simp only
  rw [heq]
  split_ifs with hrelease
  · obtain ⟨hreleased, hrest⟩ :=
      hkept.release hpos (hclock.trans hattends.clock.symm) s.streams.length
    exact ⟨hreleased, hattends.trans hrest⟩
  · exact ⟨hkept, hattends⟩

/-! ### The end of a session -/

theorem finalizeSession_finalized (s : IdleSession) : s.finalizeSession.finalized = true := by
  unfold finalizeSession
  split_ifs with hfinal
  · exact hfinal
  · rfl

theorem finalizeSession_closes (s : IdleSession) : s.finalizeSession.closes = s.closes := by
  unfold finalizeSession
  split_ifs <;> rfl

theorem finalizeSession_clock (s : IdleSession) : s.finalizeSession.clock = s.clock := by
  unfold finalizeSession
  split_ifs <;> rfl

/-- A finalized session has cleared its timer, whether its signal is aborted or not. -/
theorem Kept.finalizeSession (h : Kept idleTimeoutMs s) (aborted : Bool) :
    Kept idleTimeoutMs (IdleSession.finalizeSession { s with aborted }) := by
  unfold IdleSession.finalizeSession
  simp only
  split_ifs with hfinal
  · exact { h with ended := fun _ => hfinal }
  · have hknown := h.armed
    rw [if_neg hfinal] at hknown
    have hcleared : s.armed.filter (fun timer => decide (s.idleTimer ≠ some timer.id)) = [] := by
      rw [List.filter_eq_nil_iff]
      intro timer htimer
      have hmem := List.mem_map_of_mem (f := IdleTimer.id) htimer
      rw [hknown, Option.mem_toList] at hmem
      simp [hmem]
    refine { h with ended := ?_, shut := ?_, armed := ?_, last := ?_, touched := ?_, due := ?_ }
    · exact fun _ => rfl
    · exact fun _ => rfl
    · change (s.armed.filter _).map IdleTimer.id = []
      rw [hcleared]
      rfl
    · intro hopen
      cases hopen
    · intro hopen
      cases hopen
    · change ∀ timer ∈ s.armed.filter _, timer.due ≤ s.lastActivityAt + idleTimeoutMs
      rw [hcleared]
      exact fun timer htimer => absurd htimer List.not_mem_nil

theorem Vigil.of_finalized (h : s.finalized = true) : Vigil s := by
  intro hopen
  rw [h] at hopen
  cases hopen

theorem Kept.releases (h : Kept idleTimeoutMs s) (hpos : 0 < idleTimeoutMs) (hclock : now = s.clock)
    (is : List Nat) :
    Kept idleTimeoutMs (is.foldl (fun s i => s.release idleTimeoutMs now i) s) ∧
      Attends s (is.foldl (fun s i => s.release idleTimeoutMs now i) s) := by
  induction is generalizing s with
  | nil => exact ⟨h, .refl s⟩
  | cons i is ih =>
    obtain ⟨hkept, hfirst⟩ := h.release hpos hclock i
    obtain ⟨hkept', hrest⟩ := ih hkept (hclock.trans hfirst.clock.symm)
    exact ⟨hkept', hfirst.trans hrest⟩

theorem Kept.sessionAborted (h : Kept idleTimeoutMs s) (hpos : 0 < idleTimeoutMs)
    (hclock : now = s.clock) : Kept idleTimeoutMs (s.sessionAborted idleTimeoutMs now) ∧
      (s.sessionAborted idleTimeoutMs now).finalized = true ∧
      (s.sessionAborted idleTimeoutMs now).closes = s.closes := by
  have hfinal := finalizeSession_finalized { s with aborted := true }
  have hcloses := finalizeSession_closes { s with aborted := true }
  have hnow := finalizeSession_clock { s with aborted := true }
  obtain ⟨hkept, hattends⟩ := (h.finalizeSession true).releases hpos (hclock.trans hnow.symm)
    (List.range (IdleSession.finalizeSession { s with aborted := true }).streams.length)
  exact ⟨hkept, hattends.finalized.trans hfinal, hattends.closes.trans hcloses⟩

/-! ### The timer -/

/-- A moment at which the session may be closed for being idle. -/
structure Idle (idleTimeoutMs : Nat) (s : IdleSession) (now : ℚ) : Prop where
  streams : ∀ stream ∈ s.streams, stream.released = true
  counters : s.bidirectionalStreams = 0 ∧ s.unidirectionalStreams = 0
  elapsed : ∀ touched ∈ s.touches, touched + idleTimeoutMs ≤ now

theorem released_of_untracked {streams : List StreamRelease}
    (hb : tracked streams .bidirectional = 0) (hu : tracked streams .unidirectional = 0) :
    ∀ stream ∈ streams, stream.released = true := by
  rintro ⟨kind, released⟩ hmem
  unfold tracked at hb hu
  rw [List.countP_eq_zero] at hb hu
  cases kind with
  | bidirectional => simpa using hb _ hmem
  | unidirectional => simpa using hu _ hmem

/-- A firing sets the timer again, leaves an ended session alone, or closes an idle one. -/
theorem Kept.fire (h : Kept idleTimeoutMs s) (hpos : 0 < idleTimeoutMs) (hclock : now = s.clock)
    {timer : Nat} (hfire : timer ∈ s.armed.map IdleTimer.id) :
    Kept idleTimeoutMs (s.fire idleTimeoutMs timer now) ∧
      Vigil (s.fire idleTimeoutMs timer now) ∧
      ((s.fire idleTimeoutMs timer now).closes = s.closes ∨
        ((s.fire idleTimeoutMs timer now).closes = s.closes ++ [now] ∧
          Idle idleTimeoutMs s now)) := by
  have hknown := h.armed
  have hopen : s.finalized = false := by
    by_contra hfinal
    rw [if_pos (by simpa using hfinal)] at hknown
    rw [hknown] at hfire
    cases hfire
  rw [hopen, if_neg Bool.false_ne_true] at hknown
  have hspent : s.armed.filter (fun t => decide (t.id ≠ timer)) = [] := by
    rw [List.filter_eq_nil_iff]
    intro t ht
    have hmem := List.mem_map_of_mem (f := IdleTimer.id) ht
    rw [hknown, Option.mem_toList] at hmem hfire
    simp [Option.some.inj (hmem.symm.trans hfire)]
  unfold IdleSession.fire
  rw [hspent]
  have hkept : Kept idleTimeoutMs { s with armed := [], idleTimer := none } := by
    refine { h with armed := ?_, due := ?_ }
    · change [] = if s.finalized then [] else []
      split_ifs <;> rfl
    · exact fun t ht => absurd ht List.not_mem_nil
  unfold checkIdle
  simp only
  split_ifs with hended hactive hremaining
  · refine ⟨hkept, fun _ hintake => ?_, Or.inl rfl⟩
    rcases hended with hfinal | haborted
    · rw [hopen] at hfinal
      cases hfinal
    · rw [show s.intakeAborted = false from hintake] at haborted
      cases haborted
  · exact ⟨(hkept.touch hpos hclock).1, (hkept.touch hpos hclock).2, Or.inl touch_closes⟩
  · refine ⟨hkept.setTimer rfl hopen ?_, fun _ _ => Or.inl rfl, Or.inl rfl⟩
    change now + (idleTimeoutMs - (now - s.lastActivityAt)) ≤ s.lastActivityAt + idleTimeoutMs
    linarith
  · refine ⟨{ hkept with }, fun _ _ => Or.inr (by simp), Or.inr ⟨rfl, ?_⟩⟩
    have hb := h.bidirectional
    have hu := h.unidirectional
    have hnone : tracked s.streams .bidirectional = 0 ∧ tracked s.streams .unidirectional = 0 := by
      omega
    refine ⟨released_of_untracked hnone.1 hnone.2, by omega, fun touched hmem => ?_⟩
    have hle := h.touched hopen touched hmem
    linarith

/-! ### Whole lives of a session -/

theorem kept_register (hpos : 0 < idleTimeoutMs) (hcreated : created ≤ now) :
    Kept idleTimeoutMs (register idleTimeoutMs created now aborted) ∧
      Vigil (register idleTimeoutMs created now aborted) := by
  have hnew : Kept idleTimeoutMs
      ⟨created, none, 0, 0, false, false, false, [], 0, [], now, [], []⟩ :=
    ⟨nofun, nofun, rfl, fun _ => hcreated, fun _ => nofun, nofun, rfl, rfl⟩
  unfold register
  cases aborted with
  | true =>
    rw [if_pos rfl]
    exact ⟨hnew.finalizeSession true, .of_finalized (finalizeSession_finalized _)⟩
  | false =>
    rw [if_neg Bool.false_ne_true]
    exact hnew.touch hpos rfl

theorem Kept.tick (h : Kept idleTimeoutMs s) (hle : s.clock ≤ now) :
    Kept idleTimeoutMs { s with clock := now } :=
  { h with last := fun hopen => (h.last hopen).trans hle }

/-- What one event does: the session stays attended, and only its timer closes it, when idle. -/
theorem Kept.next (h : Kept idleTimeoutMs s) (hpos : 0 < idleTimeoutMs)
    (he : s.enabled e = true) :
    Kept idleTimeoutMs (s.next idleTimeoutMs e) ∧ (Vigil s → Vigil (s.next idleTimeoutMs e)) ∧
      ((s.next idleTimeoutMs e).closes = s.closes ∨
        ∃ timer now, e = .fire timer now ∧
          (s.next idleTimeoutMs e).closes = s.closes ++ [now] ∧ Idle idleTimeoutMs s now) := by
  cases e with
  | touch now =>
    have hclock : s.clock ≤ now := of_decide_eq_true he
    obtain ⟨hkept, hvigil⟩ := (h.tick hclock).touch hpos rfl
    exact ⟨hkept, fun _ => hvigil, Or.inl touch_closes⟩
  | trackStream kind streamAborted now =>
    have hclock : s.clock ≤ now := of_decide_eq_true he
    obtain ⟨hkept, hattends⟩ := (h.tick hclock).trackStream hpos rfl kind streamAborted
    exact ⟨hkept, fun hv => hattends.vigil hv, Or.inl hattends.closes⟩
  | streamAborted i now =>
    have hclock : s.clock ≤ now := of_decide_eq_true he
    obtain ⟨hkept, hattends⟩ := (h.tick hclock).release hpos rfl i
    exact ⟨hkept, fun hv => hattends.vigil hv, Or.inl hattends.closes⟩
  | sessionAborted now =>
    obtain ⟨hclock, -⟩ : s.clock ≤ now ∧ s.aborted = false := of_decide_eq_true he
    obtain ⟨hkept, hfinal, hcloses⟩ := (h.tick hclock).sessionAborted hpos rfl
    exact ⟨hkept, fun _ => .of_finalized hfinal, Or.inl hcloses⟩
  | finalizeSession now =>
    have hclock : s.clock ≤ now := of_decide_eq_true he
    exact ⟨(h.tick hclock).finalizeSession s.aborted,
      fun _ => .of_finalized (finalizeSession_finalized _), Or.inl (finalizeSession_closes _)⟩
  | stopIntake now =>
    have hclock : s.clock ≤ now := of_decide_eq_true he
    refine ⟨{ h.tick hclock with shut := fun _ => rfl }, fun _ _ hintake => ?_, Or.inl rfl⟩
    cases hintake
  | fire timer now =>
    obtain ⟨hclock, htimer⟩ : s.clock ≤ now ∧ timer ∈ s.armed.map IdleTimer.id :=
      of_decide_eq_true he
    obtain ⟨hkept, hvigil, hcloses⟩ := (h.tick hclock).fire hpos rfl htimer
    refine ⟨hkept, fun _ => hvigil, ?_⟩
    rcases hcloses with hsame | ⟨hclosed, hstreams, hcounters, helapsed⟩
    · exact Or.inl hsame
    · exact Or.inr ⟨timer, now, rfl, hclosed, hstreams, hcounters, helapsed⟩

/-- Every reachable session has its one timer due in time, and while it takes anything in the timer
is set or the session was closed for being idle. -/
theorem kept_of_reachable (hpos : 0 < idleTimeoutMs) (hcreated : created ≤ now)
    (h : (program idleTimeoutMs created now aborted).machine.Reachable s) :
    Kept idleTimeoutMs s ∧ Vigil s := by
  refine h.invariant (P := fun s => Kept idleTimeoutMs s ∧ Vigil s) ?_ ?_
  · rintro _ rfl
    exact kept_register hpos hcreated
  · rintro s e _ ⟨he, rfl⟩ ⟨hkept, hvigil⟩
    obtain ⟨hkept', hvigil', -⟩ := hkept.next hpos he
    exact ⟨hkept', hvigil' hvigil⟩

/-- Only the idle timer closes a session for being idle, and only an idle one; and a session that
can still take something in has its one timer set, or was closed. -/
theorem supervision_exact (idleTimeoutMs : Nat) (hpos : 0 < idleTimeoutMs) (created now : ℚ)
    (hcreated : created ≤ now) (aborted : Bool) (s : IdleSession)
    (h : (program idleTimeoutMs created now aborted).machine.Reachable s) :
    (∀ e, s.enabled e = true → (s.next idleTimeoutMs e).closes = s.closes ∨
        ∃ timer now, e = .fire timer now ∧
          (s.next idleTimeoutMs e).closes = s.closes ++ [now] ∧
          (∀ stream ∈ s.streams, stream.released = true) ∧
          (s.bidirectionalStreams = 0 ∧ s.unidirectionalStreams = 0) ∧
          ∀ touched ∈ s.touches, touched + idleTimeoutMs ≤ now) ∧
      (s.finalized = false → s.aborted = false → s.intakeAborted = false →
        (∃ timer, s.armed = [timer] ∧ s.idleTimer = some timer.id ∧
            timer.due ≤ s.lastActivityAt + idleTimeoutMs) ∨
          s.closes ≠ []) := by
  obtain ⟨hkept, hvigil⟩ := kept_of_reachable hpos hcreated h
  refine ⟨fun e he => ?_, fun hopen _ hintake => ?_⟩
  · rcases (hkept.next hpos he).2.2 with hsame | ⟨timer, now, rfl, hclosed, hidle⟩
    · exact Or.inl hsame
    · exact Or.inr ⟨timer, now, rfl, hclosed, hidle.streams, hidle.counters, hidle.elapsed⟩
  · rcases hvigil hopen hintake with hset | hclosed
    · obtain ⟨i, hi⟩ := Option.isSome_iff_exists.mp hset
      have hknown := hkept.armed
      rw [hopen, hi] at hknown
      obtain ⟨timer, harmed, hid⟩ := List.map_eq_singleton_iff.mp hknown
      refine Or.inl ⟨timer, harmed, by rw [hi, hid], hkept.due timer ?_⟩
      rw [harmed]
      exact List.mem_singleton_self timer
    · exact Or.inr hclosed

/-- A stream outlives the timeout; its release gives the session another one, and a timer that fires
when that has passed closes it. -/
theorem supervision_exact_stream : ∃ s,
    (program 20 0 0 false).machine.Reachable s ∧ s.closes = [] ∧
      (s.next 20 (.fire 2 70)).closes = [70] ∧
      (∀ touched ∈ s.touches, touched + ((20 : Nat) : ℚ) ≤ 70) ∧
      ∃ timer, s.armed = [timer] ∧ s.idleTimer = some timer.id ∧
        timer.due ≤ s.lastActivityAt + ((20 : Nat) : ℚ) := by
  obtain ⟨s, hrun, hcloses, he, hclosed, hopen, haborted, hintake⟩ :=
    (program 20 0 0 false).exists_run
      [.trackStream .bidirectional false 5, .fire 0 20, .fire 1 40, .streamAborted 0 50]
      (register 20 0 0 false)
      (fun s => s.closes = [] ∧ s.enabled (.fire 2 70) = true ∧
        (s.next 20 (.fire 2 70)).closes = [70] ∧
        s.finalized = false ∧ s.aborted = false ∧ s.intakeAborted = false) (by decide +kernel)
  have hreach : (program 20 0 0 false).machine.Reachable s := ⟨_, _, rfl, hrun⟩
  obtain ⟨hcloser, hset⟩ :=
    supervision_exact 20 (by decide) 0 0 le_rfl false s hreach
  refine ⟨s, hreach, hcloses, hclosed, ?_, (hset hopen haborted hintake).resolve_right fun h =>
    h hcloses⟩
  rcases hcloser (.fire 2 70) he with hsame | ⟨timer, now, hfire, -, -, -, helapsed⟩
  · rw [hclosed, hcloses] at hsame
    cases hsame
  · cases hfire
    exact helapsed

end IdleSession

end NestWebTransport
