import Mathlib.Algebra.Order.Ring.Int
import Mathlib.Data.List.TakeWhile

/-! Logs of times that are pruned from the front, and how many times fall into one window. -/
namespace NestWebTransport

section Kept

variable {α : Type*} [LinearOrder α] {kept log : List α} {cutoff cutoff' a : α}

/-- What is left of a list once the front entries up to the cutoff are gone. -/
def recent (cutoff : α) (l : List α) : List α := l.dropWhile fun a => decide (a ≤ cutoff)

@[simp] theorem recent_nil : recent cutoff ([] : List α) = [] := rfl

theorem recent_append_of_le {dropped : List α} (h : ∀ a ∈ dropped, a ≤ cutoff) (l : List α) :
    recent cutoff (dropped ++ l) = recent cutoff l := by
  induction dropped with
  | nil => rfl
  | cons a dropped ih =>
    have ha : a ≤ cutoff := h a List.mem_cons_self
    rw [recent, List.cons_append, List.dropWhile_cons_of_pos (by simpa using ha)]
    exact ih fun b hb => h b (List.mem_cons_of_mem _ hb)

/-- `kept` is what is left of `log` after dropping entries, all of them up to the cutoff, from its
front. -/
def Keeps (cutoff : α) (kept log : List α) : Prop :=
  ∃ dropped, log = dropped ++ kept ∧ ∀ a ∈ dropped, a ≤ cutoff

namespace Keeps

theorem refl (cutoff : α) (log : List α) : Keeps cutoff log log := ⟨[], rfl, by simp⟩

theorem mono (h : Keeps cutoff kept log) (hle : cutoff ≤ cutoff') : Keeps cutoff' kept log := by
  obtain ⟨dropped, hlog, hdropped⟩ := h
  exact ⟨dropped, hlog, fun a ha => (hdropped a ha).trans hle⟩

theorem recent (h : Keeps cutoff kept log) : Keeps cutoff (recent cutoff kept) log := by
  obtain ⟨dropped, hlog, hdropped⟩ := h
  refine ⟨dropped ++ kept.takeWhile fun a => decide (a ≤ cutoff), ?_, fun a ha => ?_⟩
  · rw [List.append_assoc, NestWebTransport.recent, List.takeWhile_append_dropWhile]
    exact hlog
  · rcases List.mem_append.mp ha with ha | ha
    · exact hdropped a ha
    · simpa using List.mem_takeWhile_imp ha

theorem push (h : Keeps cutoff kept log) (a : α) : Keeps cutoff (kept ++ [a]) (log ++ [a]) := by
  obtain ⟨dropped, hlog, hdropped⟩ := h
  exact ⟨dropped, by rw [hlog, List.append_assoc], hdropped⟩

/-- Pruning first loses nothing a later pruning would have kept. -/
theorem recent_eq (h : Keeps cutoff kept log) :
    NestWebTransport.recent cutoff kept = NestWebTransport.recent cutoff log := by
  obtain ⟨dropped, hlog, hdropped⟩ := h
  rw [hlog, recent_append_of_le hdropped]

end Keeps

end Kept

/-- The number of times in the half-open window of width `width` that starts at `start`. -/
def inWindow (width start : Int) (log : List Int) : Nat :=
  log.countP fun a => decide (start ≤ a ∧ a < start + width)

/-- A time recorded while fewer than `n` unexpired ones were left keeps every window to `n`. -/
theorem Keeps.inWindow_push {width now a : Int} {kept log : List Int} {n : Nat}
    (h : Keeps (now - width) kept log) (hroom : kept.length < n) (hnow : now ≤ a)
    (hlog : ∀ start, inWindow width start log ≤ n) (start : Int) :
    inWindow width start (log ++ [a]) ≤ n := by
  have hold := hlog start
  rw [inWindow, List.countP_append]
  by_cases hin : start ≤ a ∧ a < start + width
  · obtain ⟨dropped, rfl, hdropped⟩ := h
    have hnone : dropped.countP (fun a => decide (start ≤ a ∧ a < start + width)) = 0 := by
      rw [List.countP_eq_zero]
      intro b hb
      have hle := hdropped b hb
      simp only [decide_eq_true_eq, not_and]
      omega
    have hkept := List.countP_le_length (l := kept)
      (p := fun a => decide (start ≤ a ∧ a < start + width))
    have hone := List.countP_le_length (l := [a])
      (p := fun a => decide (start ≤ a ∧ a < start + width))
    rw [List.length_singleton] at hone
    rw [List.countP_append, hnone]
    omega
  · have hzero : [a].countP (fun a => decide (start ≤ a ∧ a < start + width)) = 0 := by
      simp [hin]
    rw [hzero]
    exact hold

end NestWebTransport
