import Mathlib.Data.List.Count

/-! The lifecycle of a virtual stream: its pipes, its signal, and its one terminal event. -/
namespace NestWebTransport

/-- The state of a `BoundedBytePipe`, which leaves `open` once and notifies when it does. -/
inductive PipeState
  | open
  | closed
  | aborted
  deriving DecidableEq, Repr

/-- A `StreamLifecycle` with the states of its pipes; `aborted` is that of its signal. -/
structure MockStreamLifecycle where
  pipes : List PipeState
  remainingPipes : Nat
  aborted : Bool
  terminalNotified : Bool
  deriving DecidableEq, Repr

/-- What an operation goes on with: the listeners of the signal, with `reset` or `notifyTerminal` to
be continued behind them, or `onTerminal`. -/
inductive LifecycleNotice
  | nothing
  | resetting
  | aborting
  | terminal
  deriving DecidableEq, Repr

namespace MockStreamLifecycle

variable (s : MockStreamLifecycle)

/-- A stream with two pipes, or with one. -/
def new (bidi : Bool) : MockStreamLifecycle :=
  let pipeCount := if bidi then 2 else 1
  ⟨List.replicate pipeCount .open, pipeCount, false, false⟩

def notifyTerminal : LifecycleNotice × MockStreamLifecycle :=
  if s.terminalNotified then (.nothing, s)
  else if s.aborted then (.terminal, { s with terminalNotified := true })
  else (.aborting, { s with terminalNotified := true, aborted := true })

def pipeTerminated : LifecycleNotice × MockStreamLifecycle :=
  let s := { s with remainingPipes := s.remainingPipes - 1 }
  if s.remainingPipes = 0 then s.notifyTerminal else (.nothing, s)

/-- `close` or `abort` of a pipe. -/
def endPipe (pipe : Nat) (state : PipeState) : LifecycleNotice × MockStreamLifecycle :=
  if s.pipes[pipe]? = some .open then { s with pipes := s.pipes.set pipe state }.pipeTerminated
  else (.nothing, s)

/-- `reset` up to the listeners of its signal. -/
def reset : LifecycleNotice × MockStreamLifecycle :=
  if s.aborted then (.nothing, s) else (.resetting, { s with aborted := true })

/-- The pipes are aborted one after another. -/
def abortPipes (pipes : List Nat) : LifecycleNotice × MockStreamLifecycle :=
  pipes.foldl (fun (notice, s) pipe =>
    let (next, s) := s.endPipe pipe .aborted
    (if notice = .nothing then next else notice, s)) (.nothing, s)

/-- `reset` behind the listeners. -/
def finishReset : LifecycleNotice × MockStreamLifecycle :=
  let (notice, s) := s.abortPipes (List.range s.pipes.length)
  let (next, s) := s.notifyTerminal
  (if notice = .nothing then next else notice, s)

/-! ### One terminal event -/

variable {s}

structure Sound (s : MockStreamLifecycle) : Prop where
  remaining : s.remainingPipes = s.pipes.count .open
  notified : s.terminalNotified = true → s.aborted = true ∧ s.remainingPipes = 0
  ended : s.remainingPipes = 0 → s.terminalNotified = true

/-- The event has been raised: the signal has aborted and no pipe is open. -/
def IsTerminal (s : MockStreamLifecycle) : Prop :=
  s.terminalNotified = true ∧ s.aborted = true ∧ ∀ pipe ∈ s.pipes, pipe ≠ .open

theorem Sound.isTerminal (h : Sound s) (hnotified : s.terminalNotified = true) : s.IsTerminal := by
  obtain ⟨haborted, hremaining⟩ := h.notified hnotified
  refine ⟨hnotified, haborted, ?_⟩
  rintro pipe hpipe rfl
  rw [h.remaining] at hremaining
  exact List.count_eq_zero.mp hremaining hpipe

theorem sound_new (bidi : Bool) : Sound (new bidi) := by
  cases bidi <;> exact ⟨rfl, nofun, nofun⟩

/-- How far an operation brings a stream, and what it goes on with. -/
inductive Advances : MockStreamLifecycle → LifecycleNotice → MockStreamLifecycle → Prop
  | stays {s t : MockStreamLifecycle} (aborted : t.aborted = s.aborted)
      (notified : t.terminalNotified = s.terminalNotified) : Advances s .nothing t
  | resets {s t : MockStreamLifecycle} (before : s.aborted = false ∧ s.terminalNotified = false)
      (after : t.aborted = true ∧ t.terminalNotified = false) : Advances s .resetting t
  | aborts {s t : MockStreamLifecycle} (before : s.aborted = false ∧ s.terminalNotified = false)
      (after : t.aborted = true ∧ t.terminalNotified = true) : Advances s .aborting t
  | ends {s t : MockStreamLifecycle} (before : s.aborted = true ∧ s.terminalNotified = false)
      (after : t.aborted = true ∧ t.terminalNotified = true) : Advances s .terminal t

theorem Advances.refl (s : MockStreamLifecycle) : Advances s .nothing s := .stays rfl rfl

/-- Only the signal and the event count. -/
theorem Advances.congr {s s' t : MockStreamLifecycle} {n : LifecycleNotice} (h : Advances s n t)
    (haborted : s'.aborted = s.aborted) (hnotified : s'.terminalNotified = s.terminalNotified) :
    Advances s' n t := by
  cases h with
  | stays haborted' hnotified' =>
    exact .stays (haborted'.trans haborted.symm) (hnotified'.trans hnotified.symm)
  | resets before after => exact .resets (haborted ▸ hnotified ▸ before) after
  | aborts before after => exact .aborts (haborted ▸ hnotified ▸ before) after
  | ends before after => exact .ends (haborted ▸ hnotified ▸ before) after

/-- Behind the listeners of a reset an operation raises the event or does nothing. -/
theorem Advances.trans_aborted {s t u : MockStreamLifecycle} {n m : LifecycleNotice}
    (haborted : s.aborted = true) (h : Advances s n t) (h' : Advances t m u) :
    Advances s (if n = .nothing then m else n) u := by
  cases h with
  | stays hsame hnotified =>
    rw [if_pos rfl]
    exact h'.congr hsame.symm hnotified.symm
  | resets before _ => exact absurd (before.1.symm.trans haborted) Bool.false_ne_true
  | aborts before _ => exact absurd (before.1.symm.trans haborted) Bool.false_ne_true
  | ends before after =>
    rw [if_neg nofun]
    cases h' with
    | stays haborted' hnotified' =>
      exact .ends before ⟨haborted'.trans after.1, hnotified'.trans after.2⟩
    | resets before' _ => exact absurd (before'.1.symm.trans after.1) Bool.false_ne_true
    | aborts before' _ => exact absurd (before'.1.symm.trans after.1) Bool.false_ne_true
    | ends before' _ => exact absurd (before'.2.symm.trans after.2) Bool.false_ne_true

/-- Once no pipe is open the event is raised, unless it has been. -/
theorem notifyTerminal_spec (hremaining : s.remainingPipes = s.pipes.count .open)
    (hzero : s.remainingPipes = 0) (hnotified : s.terminalNotified = true → s.aborted = true) :
    Sound s.notifyTerminal.2 ∧ Advances s s.notifyTerminal.1 s.notifyTerminal.2 := by
  unfold notifyTerminal
  split
  · rename_i hdone
    exact ⟨⟨hremaining, fun _ => ⟨hnotified hdone, hzero⟩, fun _ => hdone⟩, .refl s⟩
  · rename_i hopen
    have hopen : s.terminalNotified = false := eq_false_of_ne_true hopen
    split
    · rename_i haborted
      exact ⟨⟨hremaining, fun _ => ⟨haborted, hzero⟩, fun _ => rfl⟩,
        .ends ⟨haborted, hopen⟩ ⟨haborted, rfl⟩⟩
    · rename_i haborted
      exact ⟨⟨hremaining, fun _ => ⟨rfl, hzero⟩, fun _ => rfl⟩,
        .aborts ⟨eq_false_of_ne_true haborted, hopen⟩ ⟨rfl, rfl⟩⟩

theorem Sound.endPipe (h : Sound s) (pipe : Nat) (state : PipeState) (hstate : state ≠ .open) :
    Sound (s.endPipe pipe state).2 ∧
      Advances s (s.endPipe pipe state).1 (s.endPipe pipe state).2 := by
  unfold MockStreamLifecycle.endPipe
  split
  · rename_i hpipe
    obtain ⟨hlt, hopen⟩ := List.getElem?_eq_some_iff.mp hpipe
    have hcount : (s.pipes.set pipe state).count .open = s.pipes.count .open - 1 := by
      rw [List.count_set hlt, hopen]
      simp [hstate]
    unfold pipeTerminated
    simp only
    split
    · rename_i hzero
      have hspec := notifyTerminal_spec
        (s := { s with
          pipes := s.pipes.set pipe state
          remainingPipes := s.remainingPipes - 1 })
        (by rw [hcount, h.remaining]) hzero (fun hdone => (h.notified hdone).1)
      exact ⟨hspec.1, hspec.2.congr rfl rfl⟩
    · rename_i hmore
      have hopen : s.terminalNotified = false := by
        by_contra hdone
        have hzero := (h.notified (by simpa using hdone)).2
        omega
      refine ⟨⟨?_, fun hdone => ?_, fun hzero => absurd hzero hmore⟩, .stays rfl rfl⟩
      · change s.remainingPipes - 1 = _
        rw [hcount, h.remaining]
      · exact absurd (hopen.symm.trans hdone) Bool.false_ne_true
  · exact ⟨h, .refl s⟩

theorem Sound.reset (h : Sound s) : Sound s.reset.2 ∧ Advances s s.reset.1 s.reset.2 := by
  unfold MockStreamLifecycle.reset
  split
  · exact ⟨h, .refl s⟩
  · rename_i hlive
    have hlive : s.aborted = false := eq_false_of_ne_true hlive
    have hopen : s.terminalNotified = false := by
      by_contra hdone
      have haborted := (h.notified (by simpa using hdone)).1
      exact absurd (hlive.symm.trans haborted) Bool.false_ne_true
    exact ⟨⟨h.remaining, fun hdone => ⟨rfl, (h.notified hdone).2⟩, h.ended⟩,
      .resets ⟨hlive, hopen⟩ ⟨rfl, hopen⟩⟩

theorem reset_aborted (s : MockStreamLifecycle) : s.reset.2.aborted = true := by
  unfold reset
  split
  · assumption
  · rfl

theorem Advances.aborted {s t : MockStreamLifecycle} {n : LifecycleNotice} (h : Advances s n t)
    (haborted : s.aborted = true) : t.aborted = true := by
  cases h with
  | stays hsame _ => exact hsame.trans haborted
  | resets _ after => exact after.1
  | aborts _ after => exact after.1
  | ends _ after => exact after.1

theorem Advances.notified {s t : MockStreamLifecycle} {n : LifecycleNotice} (h : Advances s n t)
    (hnotified : s.terminalNotified = true) : t.terminalNotified = true := by
  cases h with
  | stays _ hsame => exact hsame.trans hnotified
  | resets before _ => exact absurd (before.2.symm.trans hnotified) Bool.false_ne_true
  | aborts _ after => exact after.2
  | ends _ after => exact after.2

theorem pipes_notifyTerminal : s.notifyTerminal.2.pipes = s.pipes := by
  unfold notifyTerminal
  split_ifs <;> rfl

theorem pipes_endPipe (pipe : Nat) (state : PipeState) :
    (s.endPipe pipe state).2.pipes =
      if s.pipes[pipe]? = some .open then s.pipes.set pipe state else s.pipes := by
  unfold endPipe
  split
  · unfold pipeTerminated
    simp only
    split
    · exact pipes_notifyTerminal
    · rfl
  · rfl

/-- A pipe that is aborted is open no more, and no other pipe is opened. -/
theorem open_of_endPipe {pipe i : Nat} (state : PipeState) (hstate : state ≠ .open)
    (h : (s.endPipe pipe state).2.pipes[i]? = some .open) :
    i ≠ pipe ∧ s.pipes[i]? = some .open := by
  rw [pipes_endPipe] at h
  split at h
  · rename_i hopen
    by_cases hi : i = pipe
    · obtain ⟨hlt, -⟩ := List.getElem?_eq_some_iff.mp hopen
      rw [hi, List.getElem?_set_self hlt] at h
      exact absurd (Option.some.inj h) hstate
    · rw [List.getElem?_set_ne (Ne.symm hi)] at h
      exact ⟨hi, h⟩
  · rename_i hshut
    exact ⟨fun hi => hshut (hi ▸ h), h⟩

/-- What the loop of `reset` leaves, from the notice of the pipes before on. -/
theorem foldl_endPipe {s₀ : MockStreamLifecycle} (haborted : s₀.aborted = true) (pipes : List Nat)
    {n : LifecycleNotice} (h : Sound s) (hs : Advances s₀ n s) :
    let r := pipes.foldl (fun (notice, s) pipe =>
      let (next, s) := s.endPipe pipe .aborted
      (if notice = .nothing then next else notice, s)) (n, s)
    Sound r.2 ∧ Advances s₀ r.1 r.2 ∧
      ∀ i, r.2.pipes[i]? = some .open → i ∉ pipes ∧ s.pipes[i]? = some .open := by
  induction pipes generalizing n s with
  | nil => exact ⟨h, hs, fun i hi => ⟨List.not_mem_nil, hi⟩⟩
  | cons pipe pipes ih =>
    obtain ⟨hsound, hadvances⟩ := h.endPipe pipe .aborted nofun
    obtain ⟨hrest, hall, hopen⟩ := ih hsound (hs.trans_aborted haborted hadvances)
    refine ⟨hrest, hall, fun i hi => ?_⟩
    obtain ⟨hmem, hi⟩ := hopen i hi
    obtain ⟨hne, hi⟩ := open_of_endPipe .aborted nofun hi
    exact ⟨fun hin => (List.mem_cons.mp hin).elim hne hmem, hi⟩

theorem Sound.abortPipes (h : Sound s) (haborted : s.aborted = true) (pipes : List Nat) :
    Sound (s.abortPipes pipes).2 ∧
      Advances s (s.abortPipes pipes).1 (s.abortPipes pipes).2 ∧
      ∀ i, (s.abortPipes pipes).2.pipes[i]? = some .open → i ∉ pipes ∧ s.pipes[i]? = some .open :=
  foldl_endPipe haborted pipes h (.refl s)

/-- Behind its listeners a reset aborts every pipe, and the event has been raised. -/
theorem Sound.finishReset (h : Sound s) (haborted : s.aborted = true) :
    Sound s.finishReset.2 ∧ Advances s s.finishReset.1 s.finishReset.2 ∧
      s.finishReset.2.terminalNotified = true := by
  obtain ⟨hsound, hadvances, hopen⟩ := h.abortPipes haborted (List.range s.pipes.length)
  unfold MockStreamLifecycle.finishReset
  generalize MockStreamLifecycle.abortPipes s (List.range s.pipes.length) = aborted
    at hsound hadvances hopen
  obtain ⟨notice, t⟩ := aborted
  have hnone : t.pipes.count .open = 0 := by
    refine List.count_eq_zero.mpr fun hmem => ?_
    obtain ⟨i, hi⟩ := List.mem_iff_getElem?.mp hmem
    obtain ⟨hout, hi⟩ := hopen i hi
    obtain ⟨hlt, -⟩ := List.getElem?_eq_some_iff.mp hi
    exact hout (List.mem_range.mpr hlt)
  have hdone : t.terminalNotified = true := hsound.ended (hsound.remaining.trans hnone)
  have hnotify : t.notifyTerminal = (.nothing, t) := if_pos hdone
  simp only [hnotify]
  refine ⟨hsound, ?_, hdone⟩
  exact hadvances.trans_aborted haborted (.refl t)

end MockStreamLifecycle

end NestWebTransport
