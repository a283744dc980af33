import NestWebTransport.Foundation.Program
import NestWebTransport.Foundation.Table
import NestWebTransport.Server.HandlerBudget

/-! Who holds a permit of the handler budget: its callers, their signals and their tasks. -/
namespace NestWebTransport

/-- Where a call of `run` stands: queued in `acquire`, granted but not yet resumed, in its task,
past its `finally`, or rejected without a permit. -/
inductive PermitPhase
  | waiting
  | granted
  | running
  | returned
  | rejected
  deriving DecidableEq, Repr

structure PermitCall where
  signal : Nat
  phase : PermitPhase
  started : Bool
  deriving DecidableEq, Repr

def PermitCall.to (c : PermitCall) (phase : PermitPhase) : PermitCall := { c with phase := phase }

/-- Calls are numbered as they arrive. `dispatch` lists the abort listeners that are still to fire
for signals that have aborted; `grants` and `returns` log `running++` and `running--`. -/
structure PermitState where
  budget : HandlerBudget
  calls : Nat
  call : Nat → PermitCall
  aborted : Nat → Bool
  dispatch : List Nat
  grants : List Nat
  returns : List Nat

namespace PermitState

variable (s : PermitState)

def new (concurrency pending : Nat) : PermitState :=
  ⟨.new concurrency pending, 0, fun _ => ⟨0, .rejected, false⟩, fun _ => false, [], [], []⟩

/-- `wake`, with the promises its grants resolve. -/
def wake : PermitState :=
  { s with
    budget := s.budget.wake.2
    call := fun i => if i ∈ s.budget.wake.1 then (s.call i).to .granted else s.call i
    grants := s.grants ++ s.budget.wake.1 }

/-- A call of `run`, up to where it awaits `acquire`. -/
def run (signal : Nat) : PermitState :=
  let r := s.budget.acquire s.calls (s.aborted signal)
  let phase :=
    match r.1 with
    | .granted => .granted
    | .waiting => .waiting
    | .rejected => .rejected
  { s with
    budget := r.2
    calls := s.calls + 1
    call := Function.update s.call s.calls ⟨signal, phase, false⟩
    grants := if r.1 = .granted then s.grants ++ [s.calls] else s.grants }

/-- `abort` on a controller: the listeners of its signal fire in the order they were added. -/
def abort (signal : Nat) : PermitState :=
  if s.aborted signal then s
  else
    { s with
      aborted := Function.update s.aborted signal true
      dispatch := s.budget.waiters.filter (fun i => (s.call i).signal == signal) ++ s.dispatch }

/-- The abort listener of a call; a grant has removed it from the signal. -/
def listener (i : Nat) : PermitState :=
  if (s.call i).phase = .waiting then
    wake { s with
      budget := s.budget.forget i
      call := Function.update s.call i ((s.call i).to .rejected) }
  else s

def fireListener : PermitState :=
  match s.dispatch with
  | [] => s
  | i :: rest => listener { s with dispatch := rest } i

/-- The `finally` of `run`. -/
def giveBack (i : Nat) : PermitState :=
  wake { s with
    budget := s.budget.leave
    call := Function.update s.call i ((s.call i).to .returned)
    returns := s.returns ++ [i] }

/-- `run` after `acquire` has resolved: `throwIfAborted`, then the task. -/
def resume (i : Nat) : PermitState :=
  if s.aborted (s.call i).signal then s.giveBack i
  else { s with call := Function.update s.call i ⟨(s.call i).signal, .running, true⟩ }

end PermitState

/-- What can happen next. Promise continuations wait until an abort has reached all listeners;
other listeners and tasks may call `run` and abort further signals. -/
inductive PermitEvent
  | run (signal : Nat)
  | abort (signal : Nat)
  | listener
  | resume (i : Nat)
  | settle (i : Nat)

namespace PermitState

def enabled (s : PermitState) : PermitEvent → Bool
  | .run _ => true
  | .abort _ => true
  | .listener => s.dispatch ≠ []
  | .resume i => s.dispatch = [] ∧ i < s.calls ∧ (s.call i).phase = .granted
  | .settle i => s.dispatch = [] ∧ i < s.calls ∧ (s.call i).phase = .running

def next (s : PermitState) : PermitEvent → PermitState
  | .run signal => s.run signal
  | .abort signal => s.abort signal
  | .listener => s.fireListener
  | .resume i => s.resume i
  | .settle i => s.giveBack i

def program (concurrency pending : Nat) : Program PermitState PermitEvent :=
  ⟨new concurrency pending, enabled, next⟩

end PermitState

namespace HandlerBudget

/-- `wake` splits the queue: those in front are granted, and any left find no idle permit. -/
theorem wake_split (b : HandlerBudget) :
    ∃ gs rs, b.waiters = gs ++ rs ∧ b.wake.1 = gs ∧
      b.wake.2 = { b with waiters := rs, running := b.running + gs.length } ∧
      (gs = [] ∨ b.running + gs.length ≤ b.concurrency) ∧
      (rs ≠ [] → (b.concurrency : Int) ≤ b.running + gs.length) := by
  obtain ⟨n, hn, hgrant, hbudget, hle, hstop⟩ := b.wake_spec
  have hlen : (b.waiters.take n).length = n := List.length_take_of_le hn
  refine ⟨b.waiters.take n, b.waiters.drop n, (List.take_append_drop n _).symm, hgrant, ?_, ?_, ?_⟩
  · rw [hlen, hbudget]
  · rw [hlen]
    refine hle.imp_left fun h => ?_
    rw [h, List.take_zero]
  · rw [hlen]
    exact hstop

end HandlerBudget

/-- The phases of a call that has been granted a permit. -/
def PermitPhase.Served (phase : PermitPhase) : Prop :=
  phase = .granted ∨ phase = .running ∨ phase = .returned

namespace PermitState

/-- The queue, the logs and the phases of the calls agree. -/
structure Ledger (concurrency : Nat) (s : PermitState) : Prop where
  capacity : s.budget.concurrency = concurrency
  waiters : ∀ i, i ∈ s.budget.waiters ↔ i < s.calls ∧ (s.call i).phase = .waiting
  sorted : s.budget.waiters.Pairwise (· < ·)
  inOrder : s.grants.Pairwise (· < ·)
  before : ∀ g ∈ s.grants, ∀ w ∈ s.budget.waiters, g < w
  grants : ∀ i, i ∈ s.grants ↔ i < s.calls ∧ (s.call i).phase.Served
  returns : ∀ i, i ∈ s.returns ↔ i < s.calls ∧ (s.call i).phase = .returned
  once : s.returns.Nodup
  running : s.budget.running + s.returns.length = s.grants.length
  le : s.budget.running ≤ concurrency
  listening : ∀ w ∈ s.budget.waiters, s.aborted (s.call w).signal = true → w ∈ s.dispatch
  firing : ∀ i ∈ s.dispatch, i < s.calls ∧ s.aborted (s.call i).signal = true
  started : ∀ i, (s.call i).started = true → (s.call i).phase = .running ∨
    (s.call i).phase = .returned

/-- No permit is idle while a caller waits. -/
def Full (s : PermitState) : Prop :=
  s.budget.waiters ≠ [] → s.budget.running = s.budget.concurrency

variable {s : PermitState} {concurrency : Nat}

/-- `wake` hands out permits in the order of the line until none is idle or none waits. -/
theorem Ledger.wake (h : s.Ledger concurrency) : s.wake.Ledger concurrency ∧ s.wake.Full := by
  obtain ⟨gs, rs, hsplit, hgrant, hbudget, hle, hstop⟩ := s.budget.wake_split
  have hsorted := h.sorted
  rw [hsplit, List.pairwise_append] at hsorted
  obtain ⟨hgs, hrs, hcross⟩ := hsorted
  have hmem : ∀ i, i ∈ s.budget.waiters ↔ i ∈ gs ∨ i ∈ rs := by
    intro i
    rw [hsplit, List.mem_append]
  have hdisjoint : ∀ i, i ∈ gs → i ∉ rs := fun i hg hr => Nat.lt_irrefl i (hcross i hg i hr)
  have hcall : ∀ i, s.wake.call i =
      if i ∈ gs then (s.call i).to .granted else s.call i := by
    intro i
    simp only [PermitState.wake, hgrant]
  have hsignal : ∀ i, (s.wake.call i).signal = (s.call i).signal := by
    intro i
    rw [hcall]
    split <;> rfl
  have hbudget' : s.wake.budget = { s.budget with
      waiters := rs, running := s.budget.running + gs.length } := hbudget
  have hgrants : s.wake.grants = s.grants ++ gs := by
    simp only [PermitState.wake, hgrant]
  have hcap := h.capacity
  refine ⟨⟨?_, ?_, ?_, ?_, ?_, ?_, ?_, h.once, ?_, ?_, ?_, ?_, ?_⟩, ?_⟩
  · rw [hbudget']
    exact h.capacity
  · intro i
    have hw := h.waiters i
    rw [hmem] at hw
    rw [hbudget', hcall]
    by_cases hi : i ∈ gs
    · simp [hi, hdisjoint i hi, PermitCall.to]
    · simp only [hi, false_or, if_false] at hw ⊢
      exact hw
  · rw [hbudget']
    exact hrs
  · rw [hgrants, List.pairwise_append]
    exact ⟨h.inOrder, hgs, fun g hg w hw => h.before g hg w ((hmem w).mpr (Or.inl hw))⟩
  · intro g hg w hw
    rw [hbudget'] at hw
    rw [hgrants, List.mem_append] at hg
    rcases hg with hg | hg
    · exact h.before g hg w ((hmem w).mpr (Or.inr hw))
    · exact hcross g hg w hw
  · intro i
    rw [hgrants, List.mem_append, h.grants, hcall]
    by_cases hi : i ∈ gs
    · have hlt := ((h.waiters i).mp ((hmem i).mpr (Or.inl hi))).1
      have hserved : (if i ∈ gs then (s.call i).to .granted else s.call i).phase.Served := by
        rw [if_pos hi]
        exact Or.inl rfl
      exact ⟨fun _ => ⟨hlt, hserved⟩, fun _ => Or.inr hi⟩
    · simp only [hi, or_false, if_false]
      exact Iff.rfl
  · intro i
    rw [hcall]
    refine (h.returns i).trans ?_
    by_cases hi : i ∈ gs
    · have hwaiting := ((h.waiters i).mp ((hmem i).mpr (Or.inl hi))).2
      simp [hi, hwaiting, PermitCall.to]
    · simp only [hi, if_false]
      exact Iff.rfl
  · rw [hgrants, hbudget', List.length_append]
    have hrunning := h.running
    push_cast
    change s.budget.running + gs.length + (s.returns.length : Int) = _
    omega
  · rw [hbudget']
    rcases hle with hnil | hle
    · rw [hnil]
      simpa using h.le
    · rw [← hcap]
      exact hle
  · intro w hw ha
    rw [hbudget'] at hw
    rw [hsignal] at ha
    exact h.listening w ((hmem w).mpr (Or.inr hw)) ha
  · intro i hi
    rw [hsignal]
    exact h.firing i hi
  · intro i hi
    rw [hcall] at hi ⊢
    by_cases hg : i ∈ gs
    · have hwaiting := ((h.waiters i).mp ((hmem i).mpr (Or.inl hg))).2
      rw [if_pos hg] at hi
      have hstarted := h.started i hi
      rw [hwaiting] at hstarted
      simp at hstarted
    · rw [if_neg hg] at hi ⊢
      exact h.started i hi
  · intro hne
    rw [hbudget'] at hne ⊢
    have hlow := hstop hne
    have hhigh : s.budget.running + gs.length ≤ s.budget.concurrency := by
      rcases hle with hnil | hle
      · rw [hnil]
        have := h.le
        simpa [hcap] using this
      · exact hle
    exact le_antisymm hhigh hlow

/-- What every step keeps. -/
structure Sound (concurrency : Nat) (s : PermitState) : Prop where
  ledger : s.Ledger concurrency
  full : s.Full

theorem Ledger.waiting_lt (h : s.Ledger concurrency) {w : Nat} (hw : w ∈ s.budget.waiters) :
    w < s.calls := ((h.waiters w).mp hw).1

theorem sound_new (concurrency pending : Nat) : (new concurrency pending).Sound concurrency where
  ledger := by
    constructor <;> simp [new, HandlerBudget.new, PermitPhase.Served]
  full h := absurd rfl h

/-- A call is rejected at once, takes an idle permit no one waits for, or joins the queue. -/
theorem run_cases (s : PermitState) (signal : Nat) :
    (s.aborted signal = true ∧ s.run signal = { s with
      calls := s.calls + 1
      call := Function.update s.call s.calls ⟨signal, .rejected, false⟩ }) ∨
    (s.aborted signal = false ∧ s.budget.running < s.budget.concurrency ∧ s.budget.waiters = [] ∧
      s.run signal = { s with
        budget := { s.budget with running := s.budget.running + 1 }
        calls := s.calls + 1
        call := Function.update s.call s.calls ⟨signal, .granted, false⟩
        grants := s.grants ++ [s.calls] }) ∨
    (s.aborted signal = false ∧
      ¬ (s.budget.running < s.budget.concurrency ∧ s.budget.waiters = []) ∧
      s.run signal = { s with
        budget := { s.budget with waiters := s.budget.waiters ++ [s.calls] }
        calls := s.calls + 1
        call := Function.update s.call s.calls ⟨signal, .waiting, false⟩ }) := by
  unfold run HandlerBudget.acquire
  cases ha : s.aborted signal with
  | true => exact Or.inl ⟨rfl, rfl⟩
  | false =>
    by_cases hidle : s.budget.running < s.budget.concurrency ∧ s.budget.waiters = []
    · refine Or.inr (Or.inl ⟨rfl, hidle.1, hidle.2, ?_⟩)
      simp only [Bool.false_eq_true, if_false, if_pos hidle, if_true]
    · refine Or.inr (Or.inr ⟨rfl, hidle, ?_⟩)
      simp only [Bool.false_eq_true, if_false, if_neg hidle, reduceCtorEq]

theorem Ledger.arrive (h : s.Ledger concurrency) (c : PermitCall) (hc : c.started = false) (i : Nat)
    (hi : (Function.update s.call s.calls c i).started = true) :
    (Function.update s.call s.calls c i).phase = .running ∨
      (Function.update s.call s.calls c i).phase = .returned := by
  by_cases he : i = s.calls
  · subst he
    rw [Function.update_self, hc] at hi
    cases hi
  · rw [Function.update_of_ne he] at hi ⊢
    exact h.started i hi

/-- A call takes an idle permit, or the last place in the line. -/
theorem Sound.run (h : s.Sound concurrency) (signal : Nat) :
    (s.run signal).Sound concurrency := by
  obtain ⟨hl, hfull⟩ := h
  have hold : ∀ i c, i < s.calls → Function.update s.call s.calls c i = s.call i :=
    fun i c hi => Function.update_of_ne (Nat.ne_of_lt hi) _ _
  have hw : ∀ w ∈ s.budget.waiters, w < s.calls := fun w => hl.waiting_lt
  have hg : ∀ g ∈ s.grants, g < s.calls := fun g hg => ((hl.grants g).mp hg).1
  have hfiring : ∀ c, ∀ i ∈ s.dispatch,
      i < s.calls + 1 ∧ s.aborted (Function.update s.call s.calls c i).signal = true := by
    intro c i hi
    obtain ⟨hlt, ha⟩ := hl.firing i hi
    rw [hold i c hlt]
    exact ⟨by omega, ha⟩
  have hlistening : ∀ c, ∀ w ∈ s.budget.waiters,
      s.aborted (Function.update s.call s.calls c w).signal = true → w ∈ s.dispatch := by
    intro c w hmem ha
    rw [hold w c (hw w hmem)] at ha
    exact hl.listening w hmem ha
  rcases run_cases s signal with ⟨_, heq⟩ | ⟨_, hidle, hnone, heq⟩ | ⟨ha, hbusy, heq⟩
  · rw [heq]
    refine ⟨{ hl with
      waiters := fun i => ?_
      grants := fun i => ?_
      returns := fun i => ?_
      listening := hlistening _
      firing := hfiring _
      started := hl.arrive _ rfl }, hfull⟩
    · exact (hl.waiters i).trans
        (table_push_not_iff (P := fun c : PermitCall => c.phase = .waiting) (by simp) i).symm
    · exact (hl.grants i).trans
        (table_push_not_iff (P := fun c : PermitCall => c.phase.Served)
          (by simp [PermitPhase.Served]) i).symm
    · exact (hl.returns i).trans
        (table_push_not_iff (P := fun c : PermitCall => c.phase = .returned) (by simp) i).symm
  · rw [heq]
    refine ⟨{ hl with
      waiters := fun i => ?_
      inOrder := ?_
      before := ?_
      grants := fun i => ?_
      returns := fun i => ?_
      running := ?_
      le := ?_
      listening := hlistening _
      firing := hfiring _
      started := hl.arrive _ rfl }, fun hne => absurd hnone hne⟩
    · exact (hl.waiters i).trans
        (table_push_not_iff (P := fun c : PermitCall => c.phase = .waiting) (by simp) i).symm
    · rw [List.pairwise_append]
      exact ⟨hl.inOrder, List.pairwise_singleton _ _, fun g hmem w hw' =>
        (List.mem_singleton.mp hw') ▸ hg g hmem⟩
    · intro g _ w hmem
      rw [hnone] at hmem
      cases hmem
    · have hpush := table_push_iff (P := fun c : PermitCall => c.phase.Served) (f := s.call)
        (n := s.calls) (v := ⟨signal, .granted, false⟩) i
      refine Iff.trans ?_ hpush.symm
      rw [← hl.grants, List.mem_append, List.mem_singleton]
      simp [PermitPhase.Served]
    · exact (hl.returns i).trans
        (table_push_not_iff (P := fun c : PermitCall => c.phase = .returned) (by simp) i).symm
    · have hrunning := hl.running
      rw [List.length_append, List.length_singleton]
      push_cast
      omega
    · have hcap := hl.capacity
      rw [hcap] at hidle
      change s.budget.running + 1 ≤ concurrency
      omega
  · rw [heq]
    refine ⟨{ hl with
      waiters := fun i => ?_
      sorted := ?_
      before := ?_
      grants := fun i => ?_
      returns := fun i => ?_
      listening := ?_
      firing := hfiring _
      started := hl.arrive _ rfl }, ?_⟩
    · have hpush := table_push_iff (P := fun c : PermitCall => c.phase = .waiting) (f := s.call)
        (n := s.calls) (v := ⟨signal, .waiting, false⟩) i
      refine Iff.trans ?_ hpush.symm
      rw [← hl.waiters, List.mem_append, List.mem_singleton]
      simp
    · rw [List.pairwise_append]
      exact ⟨hl.sorted, List.pairwise_singleton _ _, fun w hmem v hv =>
        (List.mem_singleton.mp hv) ▸ hw w hmem⟩
    · intro g hmem w hw'
      rcases List.mem_append.mp hw' with hold' | hnew
      · exact hl.before g hmem w hold'
      · exact (List.mem_singleton.mp hnew) ▸ hg g hmem
    · exact (hl.grants i).trans
        (table_push_not_iff (P := fun c : PermitCall => c.phase.Served)
          (by simp [PermitPhase.Served]) i).symm
    · exact (hl.returns i).trans
        (table_push_not_iff (P := fun c : PermitCall => c.phase = .returned) (by simp) i).symm
    · intro w hmem hsignal
      rcases List.mem_append.mp hmem with hold' | hnew
      · exact hlistening _ w hold' hsignal
      · have he := List.mem_singleton.mp hnew
        subst he
        simp [ha] at hsignal
    · -- The caller found waiters or no idle permit; with waiters, no permit was idle either.
      intro _
      have hcap := hl.capacity
      have hle := hl.le
      change s.budget.running = s.budget.concurrency
      by_cases hnone : s.budget.waiters = []
      · have hfullness : ¬ s.budget.running < s.budget.concurrency := fun hlt => hbusy ⟨hlt, hnone⟩
        omega
      · exact hfull hnone

/-- An abort alone moves no permit. -/
theorem Sound.abort (h : s.Sound concurrency) (signal : Nat) :
    (s.abort signal).Sound concurrency := by
  unfold PermitState.abort
  split
  · exact h
  · obtain ⟨hl, hfull⟩ := h
    refine ⟨{ hl with listening := ?_, firing := ?_ }, hfull⟩
    · intro w hw ha
      rw [List.mem_append, List.mem_filter]
      by_cases hs : (s.call w).signal = signal
      · exact Or.inl ⟨hw, by simpa using hs⟩
      · have hold : s.aborted (s.call w).signal = true := by
          simpa [Function.update_of_ne hs] using ha
        exact Or.inr (hl.listening w hw hold)
    · intro i hi
      rw [List.mem_append, List.mem_filter] at hi
      rcases hi with ⟨hw, hs⟩ | hi
      · exact ⟨hl.waiting_lt hw, by simp [beq_iff_eq.mp hs]⟩
      · obtain ⟨hlt, ha⟩ := hl.firing i hi
        refine ⟨hlt, ?_⟩
        by_cases hs : (s.call i).signal = signal
        · simp [hs]
        · simpa [Function.update_of_ne hs] using ha

theorem move_signal (i : Nat) (phase : PermitPhase) (j : Nat) :
    (Function.update s.call i ((s.call i).to phase) j).signal = (s.call j).signal := by
  by_cases hj : j = i
  · subst hj
    simp [PermitCall.to]
  · rw [Function.update_of_ne hj]

/-- A permit that is given back goes to the first in line. -/
theorem Sound.giveBack (h : s.Sound concurrency) {i : Nat} (hi : i < s.calls)
    (hphase : (s.call i).phase = .granted ∨ (s.call i).phase = .running) :
    (s.giveBack i).Sound concurrency := by
  obtain ⟨hl, _⟩ := h
  have hnotWaiting : (s.call i).phase ≠ .waiting := by
    rcases hphase with hp | hp <;> simp [hp]
  have hnotReturned : (s.call i).phase ≠ .returned := by
    rcases hphase with hp | hp <;> simp [hp]
  have hserved : (s.call i).phase.Served := hphase.imp_right Or.inl
  have hledger : Ledger concurrency { s with
      budget := s.budget.leave
      call := Function.update s.call i ((s.call i).to .returned)
      returns := s.returns ++ [i] } := by
    refine { hl with
      waiters := fun j => ?_
      grants := fun j => ?_
      returns := fun j => ?_
      once := ?_
      running := ?_
      le := ?_
      listening := ?_
      firing := ?_
      started := ?_ }
    · refine (hl.waiters j).trans
        (table_keep_iff (P := fun c : PermitCall => c.phase = .waiting) ?_ j).symm
      exact iff_of_false (by simp [PermitCall.to]) hnotWaiting
    · refine (hl.grants j).trans
        (table_keep_iff (P := fun c : PermitCall => c.phase.Served) ?_ j).symm
      exact iff_of_true (Or.inr (Or.inr rfl)) hserved
    · refine Iff.trans ?_
        (table_move_iff (P := fun c : PermitCall => c.phase = .returned) hi j).symm
      rw [List.mem_append, List.mem_singleton, hl.returns]
      constructor
      · rintro (⟨hlt, hp⟩ | he)
        · exact Or.inl ⟨fun he => hnotReturned (he ▸ hp), hlt, hp⟩
        · exact Or.inr ⟨he, rfl⟩
      · rintro (⟨-, hlt, hp⟩ | ⟨he, -⟩)
        · exact Or.inl ⟨hlt, hp⟩
        · exact Or.inr he
    · have hfresh : i ∉ s.returns := fun hmem => hnotReturned ((hl.returns i).mp hmem).2
      rw [List.nodup_append]
      refine ⟨hl.once, List.nodup_singleton _, fun a ha b hb hab => hfresh ?_⟩
      rw [← List.mem_singleton.mp hb, ← hab]
      exact ha
    · have hrunning := hl.running
      rw [List.length_append, List.length_singleton]
      change s.budget.running - 1 + _ = _
      push_cast
      omega
    · have hle := hl.le
      change s.budget.running - 1 ≤ _
      omega
    · intro w hw ha
      rw [move_signal] at ha
      exact hl.listening w hw ha
    · intro j hj
      rw [move_signal]
      exact hl.firing j hj
    · intro j hj
      by_cases he : j = i
      · subst he
        exact Or.inr (by simp [PermitCall.to])
      · simp only [Function.update_of_ne he] at hj ⊢
        exact hl.started j hj
  exact ⟨hledger.wake.1, hledger.wake.2⟩

/-- A call that was granted a permit runs with it, or returns it where it was aborted. -/
theorem Sound.resume (h : s.Sound concurrency) {i : Nat} (hi : i < s.calls)
    (hphase : (s.call i).phase = .granted) : (s.resume i).Sound concurrency := by
  unfold PermitState.resume
  split
  · exact h.giveBack hi (Or.inl hphase)
  · obtain ⟨hl, hfull⟩ := h
    have hsignal : ∀ j, (Function.update s.call i ⟨(s.call i).signal, .running, true⟩ j).signal =
        (s.call j).signal := by
      intro j
      by_cases he : j = i
      · subst he
        simp
      · rw [Function.update_of_ne he]
    refine ⟨{ hl with
      waiters := fun j => ?_
      grants := fun j => ?_
      returns := fun j => ?_
      listening := ?_
      firing := ?_
      started := ?_ }, hfull⟩
    · refine (hl.waiters j).trans
        (table_keep_iff (P := fun c : PermitCall => c.phase = .waiting) ?_ j).symm
      exact iff_of_false (by simp) (by simp [hphase])
    · refine (hl.grants j).trans
        (table_keep_iff (P := fun c : PermitCall => c.phase.Served) ?_ j).symm
      exact iff_of_true (Or.inr (Or.inl rfl)) (Or.inl hphase)
    · refine (hl.returns j).trans
        (table_keep_iff (P := fun c : PermitCall => c.phase = .returned) ?_ j).symm
      exact iff_of_false (by simp) (by simp [hphase])
    · intro w hw ha
      rw [hsignal] at ha
      exact hl.listening w hw ha
    · intro j hj
      rw [hsignal]
      exact hl.firing j hj
    · intro j hj
      by_cases he : j = i
      · subst he
        exact Or.inl (by simp)
      · simp only [Function.update_of_ne he] at hj ⊢
        exact hl.started j hj

/-- A listener takes its call out of the line. -/
theorem Sound.fireListener (h : s.Sound concurrency) : s.fireListener.Sound concurrency := by
  obtain ⟨hl, hfull⟩ := h
  unfold PermitState.fireListener
  split
  · exact ⟨hl, hfull⟩
  · rename_i i rest hdispatch
    have hfiring : ∀ j ∈ rest, j < s.calls ∧ s.aborted (s.call j).signal = true :=
      fun j hj => hl.firing j (by rw [hdispatch]; exact List.mem_cons_of_mem _ hj)
    have hi : i < s.calls := (hl.firing i (by rw [hdispatch]; exact List.mem_cons_self)).1
    have hrest : ∀ w ∈ s.budget.waiters, w ≠ i → s.aborted (s.call w).signal = true → w ∈ rest := by
      intro w hw hne ha
      have hmem := hl.listening w hw ha
      rw [hdispatch] at hmem
      exact (List.mem_cons.mp hmem).resolve_left hne
    unfold PermitState.listener
    split
    · rename_i hphase
      change (s.call i).phase = .waiting at hphase
      have hnodup : s.budget.waiters.Nodup := hl.sorted.imp fun hlt => Nat.ne_of_lt hlt
      have hledger : Ledger concurrency { s with
          budget := s.budget.forget i
          call := Function.update s.call i ((s.call i).to .rejected)
          dispatch := rest } := by
        refine { hl with
          waiters := fun j => ?_
          sorted := hl.sorted.sublist List.erase_sublist
          before := fun g hg w hw => hl.before g hg w (List.mem_of_mem_erase hw)
          grants := fun j => ?_
          returns := fun j => ?_
          listening := ?_
          firing := ?_
          started := ?_ }
        · refine Iff.trans ?_
            (table_move_iff (P := fun c : PermitCall => c.phase = .waiting) hi j).symm
          change j ∈ s.budget.waiters.erase i ↔ _
          rw [hnodup.mem_erase_iff, hl.waiters]
          constructor
          · rintro ⟨hne, hlt, hp⟩
            exact Or.inl ⟨hne, hlt, hp⟩
          · rintro (⟨hne, hlt, hp⟩ | ⟨-, hp⟩)
            · exact ⟨hne, hlt, hp⟩
            · cases hp
        · refine (hl.grants j).trans
            (table_keep_iff (P := fun c : PermitCall => c.phase.Served) ?_ j).symm
          exact iff_of_false (by simp [PermitPhase.Served, PermitCall.to])
            (by simp [PermitPhase.Served, hphase])
        · refine (hl.returns j).trans
            (table_keep_iff (P := fun c : PermitCall => c.phase = .returned) ?_ j).symm
          exact iff_of_false (by simp [PermitCall.to]) (by simp [hphase])
        · intro w hw ha
          rw [move_signal] at ha
          obtain ⟨hne, hmem⟩ := hnodup.mem_erase_iff.mp hw
          exact hrest w hmem hne ha
        · intro j hj
          rw [move_signal]
          exact hfiring j hj
        · intro j hj
          by_cases he : j = i
          · subst he
            have hstarted := hl.started j (by simpa [PermitCall.to] using hj)
            rw [hphase] at hstarted
            simp at hstarted
          · simp only [Function.update_of_ne he] at hj ⊢
            exact hl.started j hj
      exact ⟨hledger.wake.1, hledger.wake.2⟩
    · rename_i hphase
      refine ⟨{ hl with listening := fun w hw ha => hrest w hw (fun he => hphase ?_) ha
                        firing := hfiring }, hfull⟩
      exact he ▸ ((hl.waiters w).mp hw).2

/-- Each event keeps the ledger of the calls, and no permit idle while one of them waits. -/
theorem sound_step {concurrency pending : Nat} {e : PermitEvent} {t : PermitState}
    (hs : (program concurrency pending).machine.Step s e t) (h : s.Sound concurrency) :
    t.Sound concurrency := by
  obtain ⟨he, rfl⟩ := hs
  cases e with
  | run signal => exact h.run signal
  | abort signal => exact h.abort signal
  | listener => exact h.fireListener
  | resume i =>
    obtain ⟨-, hi, hphase⟩ := of_decide_eq_true he
    exact h.resume hi hphase
  | settle i =>
    obtain ⟨-, hi, hphase⟩ := of_decide_eq_true he
    exact h.giveBack hi (Or.inr hphase)

/-- Every reachable budget is sound. -/
theorem sound_of_reachable {concurrency pending : Nat}
    (h : (program concurrency pending).machine.Reachable s) : s.Sound concurrency := by
  refine h.invariant ?_ fun _ _ _ hs h => sound_step hs h
  rintro s rfl
  exact sound_new concurrency pending

/-! ### A caller whose signal aborts while it waits -/

/-- Its signal has aborted and it holds no permit: still in the queue, or already rejected. -/
def Doomed (i : Nat) (s : PermitState) : Prop :=
  i < s.calls ∧ s.aborted (s.call i).signal = true ∧
    ((s.call i).phase = .waiting ∨ (s.call i).phase = .rejected)

theorem Ledger.doomed_not_granted (h : s.Ledger concurrency) {i : Nat} (hd : s.Doomed i) :
    i ∉ s.grants ∧ (s.call i).started = false := by
  obtain ⟨hlt, ha, hphase⟩ := hd
  constructor
  · intro hmem
    rcases ((h.grants i).mp hmem).2 with hp | hp | hp <;> rw [hp] at hphase <;> simp at hphase
  · cases hst : (s.call i).started with
    | false => rfl
    | true =>
      rcases h.started i hst with hp | hp <;> rw [hp] at hphase <;> simp at hphase

/-- `wake` passes over nobody in between steps: with a waiter left there is no idle permit. -/
theorem Full.wake_eq (h : s.Full) : s.wake.call = s.call := by
  have hnone : s.budget.wake.1 = [] := by
    obtain ⟨gs, rs, hsplit, hgrant, -, hle, -⟩ := s.budget.wake_split
    rw [hgrant]
    rcases hle with hnil | hle
    · exact hnil
    · by_cases hw : s.budget.waiters = []
      · exact (List.append_eq_nil_iff.mp (hsplit ▸ hw)).1
      · have hfull := h hw
        have hlen : gs.length = 0 := by omega
        exact List.length_eq_zero_iff.mp hlen
  funext i
  simp [PermitState.wake, hnone]

theorem wake_call_of_not_mem (s : PermitState) {i : Nat} (hi : i ∉ s.budget.waiters) :
    s.wake.call i = s.call i := by
  obtain ⟨gs, rs, hsplit, hgrant, -⟩ := s.budget.wake_split
  have hnot : i ∉ s.budget.wake.1 := by
    rw [hgrant]
    intro hmem
    exact hi (hsplit ▸ List.mem_append_left rs hmem)
  simp [PermitState.wake, hnot]

theorem giveBack_call {i j : Nat} (hj : j ≠ i) (hi : j ∉ s.budget.waiters) :
    (s.giveBack i).call j = s.call j := by
  unfold PermitState.giveBack
  rw [wake_call_of_not_mem]
  · exact Function.update_of_ne hj _ _
  · exact hi

/-- Once the listeners have fired, a doomed caller has left the queue. -/
theorem Ledger.doomed_not_waiting (h : s.Ledger concurrency) {i : Nat} (hd : s.Doomed i)
    (hdispatch : s.dispatch = []) : i ∉ s.budget.waiters ∧ (s.call i).phase = .rejected := by
  have hnot : i ∉ s.budget.waiters := by
    intro hmem
    have hfire := h.listening i hmem hd.2.1
    rw [hdispatch] at hfire
    cases hfire
  refine ⟨hnot, hd.2.2.resolve_left fun hp => hnot ?_⟩
  exact (h.waiters i).mpr ⟨hd.1, hp⟩

theorem doomed_giveBack (h : s.Ledger concurrency) {i j : Nat} (hd : s.Doomed i)
    (hdispatch : s.dispatch = []) (hj : (s.call j).phase = .granted ∨ (s.call j).phase = .running) :
    (s.giveBack j).Doomed i := by
  obtain ⟨hnot, hrejected⟩ := h.doomed_not_waiting hd hdispatch
  have hne : i ≠ j := by
    intro he
    rw [← he, hrejected] at hj
    simp at hj
  have hcall := giveBack_call hne hnot
  refine ⟨hd.1, ?_, ?_⟩
  · rw [hcall]
    exact hd.2.1
  · rw [hcall]
    exact hd.2.2

/-- A doomed caller stays one: no permit is idle when its listener fires, and when a permit comes
back it has left the queue. -/
theorem doomed_step {concurrency pending : Nat} {e : PermitEvent} {t : PermitState} {i : Nat}
    (hs : (program concurrency pending).machine.Step s e t) (h : s.Sound concurrency)
    (hd : s.Doomed i) : t.Doomed i := by
  obtain ⟨he, rfl⟩ := hs
  obtain ⟨hl, hfull⟩ := h
  cases e with
  | run signal =>
    have hold : ∀ c, Function.update s.call s.calls c i = s.call i :=
      fun c => Function.update_of_ne (Nat.ne_of_lt hd.1) _ _
    refine ⟨Nat.lt_succ_of_lt hd.1, ?_⟩
    change s.aborted (Function.update s.call s.calls _ i).signal = true ∧
      ((Function.update s.call s.calls _ i).phase = _ ∨
        (Function.update s.call s.calls _ i).phase = _)
    rw [hold]
    exact hd.2
  | abort signal =>
    change (s.abort signal).Doomed i
    unfold PermitState.abort
    split
    · exact hd
    · refine ⟨hd.1, ?_, hd.2.2⟩
      by_cases hsig : (s.call i).signal = signal
      · simp [hsig]
      · simpa [Function.update_of_ne hsig] using hd.2.1
  | listener =>
    change s.fireListener.Doomed i
    unfold PermitState.fireListener
    split
    · exact hd
    · rename_i j rest hdispatch
      unfold PermitState.listener
      split
      · have hfull' : Full { s with
            budget := s.budget.forget j
            call := Function.update s.call j ((s.call j).to .rejected)
            dispatch := rest } := by
          intro hne
          refine hfull fun hnil => hne ?_
          change s.budget.waiters.erase j = []
          rw [hnil, List.erase_nil]
        refine ⟨hd.1, ?_⟩
        rw [hfull'.wake_eq]
        change s.aborted (Function.update s.call j _ i).signal = true ∧
          ((Function.update s.call j _ i).phase = _ ∨ (Function.update s.call j _ i).phase = _)
        by_cases hij : i = j
        · subst hij
          rw [Function.update_self]
          exact ⟨hd.2.1, Or.inr rfl⟩
        · rw [Function.update_of_ne hij]
          exact hd.2
      · exact hd
  | resume j =>
    obtain ⟨hdispatch, -, hphase⟩ := of_decide_eq_true he
    change (s.resume j).Doomed i
    unfold PermitState.resume
    split
    · exact doomed_giveBack hl hd hdispatch (Or.inl hphase)
    · have hne : i ≠ j := by
        intro hij
        have hrejected := (hl.doomed_not_waiting hd hdispatch).2
        rw [hij, hphase] at hrejected
        cases hrejected
      refine ⟨hd.1, ?_⟩
      change s.aborted (Function.update s.call j _ i).signal = true ∧
        ((Function.update s.call j _ i).phase = _ ∨ (Function.update s.call j _ i).phase = _)
      rw [Function.update_of_ne hne]
      exact hd.2
  | settle j =>
    obtain ⟨hdispatch, -, hphase⟩ := of_decide_eq_true he
    exact doomed_giveBack hl hd hdispatch (Or.inr hphase)

/-- A call that was aborted while it waited stays doomed: it never runs its work. -/
theorem doomed_run {concurrency pending : Nat} {es : List PermitEvent} {t : PermitState} {i : Nat}
    (hr : (program concurrency pending).machine.Run s es t) (h : s.Sound concurrency)
    (hd : s.Doomed i) : t.Sound concurrency ∧ t.Doomed i :=
  hr.invariant (P := fun s => s.Sound concurrency ∧ s.Doomed i)
    (fun _ _ _ hs h => ⟨sound_step hs h.1, doomed_step hs h.1 h.2⟩) ⟨h, hd⟩

/-- What becomes of a granted caller when it resumes, and of a running one when its task settles. -/
theorem giveBack_returns (h : s.Ledger concurrency) {i : Nat}
    (hphase : (s.call i).phase = .granted ∨ (s.call i).phase = .running) :
    ((s.giveBack i).call i).phase = .returned ∧
      ((s.giveBack i).call i).started = (s.call i).started ∧
      (s.giveBack i).returns = s.returns ++ [i] := by
  have hnot : i ∉ s.budget.waiters := by
    intro hmem
    rw [((h.waiters i).mp hmem).2] at hphase
    simp at hphase
  have hcall : (s.giveBack i).call i = (s.call i).to .returned := by
    unfold PermitState.giveBack
    rw [wake_call_of_not_mem]
    · exact Function.update_self ..
    · exact hnot
  rw [hcall]
  exact ⟨rfl, rfl, rfl⟩

/-- The permits of the budget are exact, granted in order of arrival and never lost. -/
theorem permits_exact (concurrency pending : Nat) (s : PermitState)
    (h : (program concurrency pending).machine.Reachable s) :
    (0 ≤ s.budget.running ∧ s.budget.running ≤ concurrency) ∧
      ((∃ i < s.calls, (s.call i).phase = .waiting) → s.budget.running = concurrency) ∧
      (s.grants.Pairwise (· < ·) ∧
        ∀ g ∈ s.grants, ∀ i < s.calls, (s.call i).phase = .waiting → g < i) ∧
      (∀ i < s.calls, (s.call i).phase = .waiting → s.aborted (s.call i).signal = true →
        i ∈ s.dispatch ∧ ∀ es t, (program concurrency pending).machine.Run s es t →
          i ∉ t.grants ∧ (t.call i).started = false ∧
            (t.dispatch = [] → (t.call i).phase = .rejected)) ∧
      (∀ i, (i ∈ s.grants ↔ i < s.calls ∧ (s.call i).phase.Served) ∧
        s.returns.count i = if i < s.calls ∧ (s.call i).phase = .returned then 1 else 0) ∧
      (∀ i < s.calls, (s.call i).phase = .granted →
        if s.aborted (s.call i).signal then
          ((s.resume i).call i).phase = .returned ∧
            ((s.resume i).call i).started = (s.call i).started
        else ((s.resume i).call i).phase = .running) ∧
      (∀ i < s.calls, (s.call i).phase = .running → ((s.giveBack i).call i).phase = .returned) := by
  obtain ⟨hl, hfull⟩ := sound_of_reachable h
  have hmem : ∀ i, i < s.calls → (s.call i).phase = .waiting → i ∈ s.budget.waiters :=
    fun i hi hp => (hl.waiters i).mpr ⟨hi, hp⟩
  refine ⟨⟨?_, hl.le⟩, ?_, ⟨hl.inOrder, ?_⟩, ?_, fun i => ⟨hl.grants i, ?_⟩, ?_, ?_⟩
  · have hsub : s.returns.length ≤ s.grants.length := by
      refine (List.subperm_of_subset hl.once fun i hi => ?_).length_le
      obtain ⟨hlt, hp⟩ := (hl.returns i).mp hi
      exact (hl.grants i).mpr ⟨hlt, Or.inr (Or.inr hp)⟩
    have hrunning := hl.running
    omega
  · rintro ⟨i, hi, hp⟩
    have hcap := hl.capacity
    rw [hfull (List.ne_nil_of_mem (hmem i hi hp)), hcap]
  · exact fun g hg i hi hp => hl.before g hg i (hmem i hi hp)
  · intro i hi hp ha
    refine ⟨hl.listening i (hmem i hi hp) ha, fun es t hr => ?_⟩
    obtain ⟨ht, hd⟩ := doomed_run hr ⟨hl, hfull⟩ ⟨hi, ha, Or.inl hp⟩
    obtain ⟨hgrant, hstart⟩ := ht.ledger.doomed_not_granted hd
    exact ⟨hgrant, hstart, fun hdispatch => (ht.ledger.doomed_not_waiting hd hdispatch).2⟩
  · split
    · rename_i hreturned
      exact List.count_eq_one_of_mem hl.once ((hl.returns i).mpr hreturned)
    · rename_i hreturned
      exact List.count_eq_zero_of_not_mem fun hi => hreturned ((hl.returns i).mp hi)
  · intro i _ hp
    unfold resume
    split
    · exact ⟨(giveBack_returns hl (Or.inl hp)).1, (giveBack_returns hl (Or.inl hp)).2.1⟩
    · simp
  · exact fun i _ hp => (giveBack_returns hl (Or.inr hp)).1

/-- Three callers of one permit; the second is aborted in the queue and the third served next. -/
theorem permits_exact_contended :
    ∃ s, (program 1 0).machine.Reachable s ∧ (s.call 1).phase = .rejected ∧ s.grants = [0, 2] ∧
      s.budget.running = 1 ∧ (0 ≤ s.budget.running ∧ s.budget.running ≤ 1) ∧
      s.grants.Pairwise (· < ·) := by
  obtain ⟨s, hrun, hrejected, hgrants, hrunning⟩ := (program 1 0).exists_run
    [.run 0, .run 1, .run 2, .abort 1, .listener, .resume 0, .settle 0, .resume 2] (new 1 0)
    (fun s => (s.call 1).phase = .rejected ∧ s.grants = [0, 2] ∧ s.budget.running = 1) (by decide)
  have hreach : (program 1 0).machine.Reachable s := ⟨_, _, rfl, hrun⟩
  have hexact := permits_exact 1 0 s hreach
  exact ⟨s, hreach, hrejected, hgrants, hrunning, hexact.1, hexact.2.2.1.1⟩

end PermitState

end NestWebTransport
