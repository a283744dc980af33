import NestWebTransport.Driver.ErrorMapper
import NestWebTransport.Foundation.History
import Mathlib.Data.List.Nodup

/-! The abort context a session hands to its streams, and how its listeners are told. -/
namespace NestWebTransport

/-- What happened to a context. `immediately` tells whether `subscribe` itself called the listener,
and an unsubscription is entered only if it took the listener out. -/
inductive ContextEntry
  | subscribed (listener : Nat) (immediately : Bool)
  | unsubscribed (listener : Nat)
  | aborted
  | notified (listener : Nat)
  deriving DecidableEq, Repr

/-- `streamAbortContext` with the signal behind it. Every call of `subscribe` brings a function of
its own, which is known by the number of the call; `streamAbortListeners` is in the order of
insertion. -/
structure AbortContext where
  aborted : Option Thrown
  listeners : List Nat
  subscriptions : Nat
  entries : List ContextEntry
  deriving DecidableEq, Repr

namespace AbortContext

variable (c : AbortContext) (listener : Nat) (reason : Thrown)

def new : AbortContext := ⟨none, [], 0, []⟩

def subscribe : AbortContext :=
  match c.aborted with
  | some _ =>
    { c with subscriptions := c.subscriptions + 1,
             entries := c.entries ++ [.subscribed c.subscriptions true] }
  | none =>
    { c with subscriptions := c.subscriptions + 1, listeners := c.listeners ++ [c.subscriptions],
             entries := c.entries ++ [.subscribed c.subscriptions false] }

/-- The function `subscribe` returned; it does nothing where the listener was never added. -/
def unsubscribe : AbortContext :=
  if listener ∈ c.listeners then
    { c with listeners := c.listeners.erase listener,
             entries := c.entries ++ [.unsubscribed listener] }
  else c

/-- `abortController.abort(reason)`, before its event is dispatched. -/
def abort : AbortContext :=
  { c with aborted := some reason, entries := c.entries ++ [.aborted] }

/-- The loop calls a listener. -/
def notify : AbortContext := { c with entries := c.entries ++ [.notified listener] }

def clear : AbortContext := { c with listeners := [] }

end AbortContext

/-- The entry records a call of the listener. -/
def ContextEntry.calls (listener : Nat) : ContextEntry → Bool
  | .subscribed k immediately => k == listener && immediately
  | .notified k => k == listener
  | .unsubscribed _ | .aborted => false

/-- How often a listener was called. -/
def callCount (listener : Nat) (entries : List ContextEntry) : Nat :=
  entries.countP (ContextEntry.calls listener)

/-- A listener was taken out before it had been called. -/
def withdrawn (listener : Nat) : List ContextEntry → Bool
  | [] => false
  | entry :: rest =>
    entry == .unsubscribed listener || !entry.calls listener && withdrawn listener rest

section Entries

variable {l : Nat} {entries : List ContextEntry} {entry : ContextEntry}

theorem callCount_snoc : callCount l (entries ++ [entry]) =
    callCount l entries + if entry.calls l then 1 else 0 := by
  rw [callCount, List.countP_append, List.countP_singleton]
  rfl

theorem withdrawn_snoc : withdrawn l (entries ++ [entry]) =
    (withdrawn l entries || (callCount l entries == 0 && entry == .unsubscribed l)) := by
  induction entries with
  | nil => simp [withdrawn, callCount]
  | cons first rest ih =>
    rw [List.cons_append, withdrawn, withdrawn, ih]
    cases hcalls : first.calls l with
    | false => simp [callCount, hcalls, Bool.or_assoc]
    | true => simp [callCount, hcalls]

/-- An entry that neither calls a listener nor takes it out changes nothing for it. -/
theorem entry_irrelevant (hcalls : entry.calls l = false) (hout : entry ≠ .unsubscribed l) :
    callCount l (entries ++ [entry]) = callCount l entries ∧
      withdrawn l (entries ++ [entry]) = withdrawn l entries := by
  rw [callCount_snoc, withdrawn_snoc, hcalls, beq_eq_false_iff_ne.mpr hout]
  simp

end Entries

namespace AbortContext

variable {c : AbortContext} {l k : Nat} {todo : List Nat} {reason : Thrown}

/-- How a listener can stand, with the listeners whose turn is still to come: it waits, it was
withdrawn, or it was called once. -/
inductive Stands (c : AbortContext) (todo : List Nat) (l : Nat) : Prop
  | waits (hin : l ∈ c.listeners) (hturn : l ∈ todo) (hcalls : callCount l c.entries = 0)
      (hwithdrawn : withdrawn l c.entries = false)
  | withdrew (hout : l ∉ c.listeners) (hcalls : callCount l c.entries = 0)
      (hwithdrawn : withdrawn l c.entries = true)
  | called (hturn : l ∉ todo) (hcalls : callCount l c.entries = 1)
      (hwithdrawn : withdrawn l c.entries = false)

/-- Nothing is known of a function that was never subscribed. -/
structure Unknown (c : AbortContext) (l : Nat) : Prop where
  out : l ∉ c.listeners
  uncalled : callCount l c.entries = 0
  kept : withdrawn l c.entries = false

/-- `subscribe` calls a listener itself exactly when the signal is aborted. -/
def Prompt (entries : List ContextEntry) : Prop :=
  Always (fun pre entry => ∀ l immediately, entry = .subscribed l immediately →
    (immediately = true ↔ ContextEntry.aborted ∈ pre)) entries

/-- The set is one, each listener stands in one of the three ways, and the log agrees with the
signal. -/
structure Fates (c : AbortContext) (todo : List Nat) : Prop where
  nodup : c.listeners.Nodup
  known : ∀ l < c.subscriptions, Stands c todo l
  unknown : ∀ l, c.subscriptions ≤ l → l ∉ todo ∧ Unknown c l
  prompt : Prompt c.entries
  aborted : ContextEntry.aborted ∈ c.entries ↔ c.aborted.isSome = true

theorem Fates.new : Fates new [] where
  nodup := List.nodup_nil
  known _ h := absurd h (Nat.not_lt_zero _)
  unknown _ _ := ⟨List.not_mem_nil, List.not_mem_nil, rfl, rfl⟩
  prompt := Always.nil
  aborted := by simp [AbortContext.new]

theorem Stands.of_irrelevant {d : AbortContext} (h : Stands c todo l)
    (hlisteners : l ∈ d.listeners ↔ l ∈ c.listeners)
    (hcalls : callCount l d.entries = callCount l c.entries)
    (hwithdrawn : withdrawn l d.entries = withdrawn l c.entries) : Stands d todo l := by
  cases h with
  | waits hin hturn h0 hno =>
    exact .waits (hlisteners.mpr hin) hturn (hcalls.trans h0) (hwithdrawn.trans hno)
  | withdrew hout h0 hyes =>
    exact .withdrew (fun h => hout (hlisteners.mp h)) (hcalls.trans h0) (hwithdrawn.trans hyes)
  | called hturn h1 hno => exact .called hturn (hcalls.trans h1) (hwithdrawn.trans hno)

theorem Unknown.of_irrelevant {d : AbortContext} (h : Unknown c l)
    (hlisteners : l ∈ d.listeners ↔ l ∈ c.listeners)
    (hcalls : callCount l d.entries = callCount l c.entries)
    (hwithdrawn : withdrawn l d.entries = withdrawn l c.entries) : Unknown d l where
  out hin := h.out (hlisteners.mp hin)
  uncalled := hcalls.trans h.uncalled
  kept := hwithdrawn.trans h.kept

/-- No listener is known twice, so the set a loop starts from holds every turn to come. -/
theorem Fates.refresh (h : Fates c todo) (hsub : c.listeners ⊆ todo) : Fates c c.listeners :=
  { h with
    known := fun l hl => by
      cases h.known l hl with
      | waits hin _ h0 hno => exact .waits hin hin h0 hno
      | withdrew hout h0 hyes => exact .withdrew hout h0 hyes
      | called hturn h1 hno => exact .called (fun hin => hturn (hsub hin)) h1 hno
    unknown := fun l hl => ⟨(h.unknown l hl).2.out, (h.unknown l hl).2⟩ }

/-- Behind an open context a new listener waits with the others. -/
theorem subscribe_open (hopen : c.aborted = none) (h : Fates c c.listeners) :
    Fates c.subscribe c.subscribe.listeners := by
  have hentry : ∀ l, ContextEntry.calls l (.subscribed c.subscriptions false) = false := by
    intro l
    simp [ContextEntry.calls]
  have hsame : ∀ l,
      callCount l (c.entries ++ [ContextEntry.subscribed c.subscriptions false]) =
        callCount l c.entries ∧
      withdrawn l (c.entries ++ [ContextEntry.subscribed c.subscriptions false]) =
        withdrawn l c.entries :=
    fun l => entry_irrelevant (hentry l) (by simp)
  have hfresh := (h.unknown _ (Nat.le_refl _)).2
  simp only [subscribe, hopen]
  refine ⟨?_, fun l hl => ?_, fun l hl => ?_, ?_, ?_⟩
  · exact h.nodup.append (List.nodup_singleton _) (List.disjoint_singleton.mpr hfresh.out)
  · rcases Nat.lt_succ_iff_lt_or_eq.mp hl with hlt | rfl
    · have hne : l ≠ c.subscriptions := Nat.ne_of_lt hlt
      have hmem : l ∈ c.listeners ++ [c.subscriptions] ↔ l ∈ c.listeners := by simp [hne]
      cases h.known l hlt with
      | waits hin _ h0 hno =>
        exact .waits (hmem.mpr hin) (hmem.mpr hin) ((hsame l).1.trans h0) ((hsame l).2.trans hno)
      | withdrew hout h0 hyes =>
        exact .withdrew (fun hin => hout (hmem.mp hin)) ((hsame l).1.trans h0)
          ((hsame l).2.trans hyes)
      | called hturn h1 hno =>
        exact .called (fun hin => hturn (hmem.mp hin)) ((hsame l).1.trans h1)
          ((hsame l).2.trans hno)
    · have hin : c.subscriptions ∈ c.listeners ++ [c.subscriptions] := by simp
      exact .waits hin hin ((hsame _).1.trans hfresh.uncalled) ((hsame _).2.trans hfresh.kept)
  · have hne : l ≠ c.subscriptions := by
      intro heq
      simp only at hl
      omega
    have hmem : l ∈ c.listeners ++ [c.subscriptions] ↔ l ∈ c.listeners := by simp [hne]
    have hunknown := (h.unknown l (Nat.le_of_succ_le hl)).2
    exact ⟨fun hin => hunknown.out (hmem.mp hin),
      hunknown.of_irrelevant hmem (hsame l).1 (hsame l).2⟩
  · refine h.prompt.snoc fun l immediately heq => ?_
    cases heq
    rw [h.aborted, hopen]
    simp
  · rw [List.mem_append, h.aborted, hopen]
    simp

/-- A listener that comes too late is called at once. -/
theorem subscribe_aborted (haborted : c.aborted = some reason) (h : Fates c todo) :
    Fates c.subscribe todo := by
  have hfresh := h.unknown _ (Nat.le_refl _)
  have hsame : ∀ l, l ≠ c.subscriptions →
      callCount l (c.entries ++ [ContextEntry.subscribed c.subscriptions true]) =
        callCount l c.entries ∧
      withdrawn l (c.entries ++ [ContextEntry.subscribed c.subscriptions true]) =
        withdrawn l c.entries :=
    fun l hne => entry_irrelevant (by simpa [ContextEntry.calls] using hne.symm) (by simp)
  simp only [subscribe, haborted]
  refine ⟨h.nodup, fun l hl => ?_, fun l hl => ?_, ?_, ?_⟩
  · rcases Nat.lt_succ_iff_lt_or_eq.mp hl with hlt | rfl
    · exact (h.known l hlt).of_irrelevant Iff.rfl (hsame l (Nat.ne_of_lt hlt)).1
        (hsame l (Nat.ne_of_lt hlt)).2
    · refine .called hfresh.1 ?_ ?_
      · simp [callCount_snoc, hfresh.2.uncalled, ContextEntry.calls]
      · simp [withdrawn_snoc, hfresh.2.kept]
  · have hne : l ≠ c.subscriptions := by
      intro heq
      simp only at hl
      omega
    have hunknown := h.unknown l (Nat.le_of_succ_le hl)
    exact ⟨hunknown.1, hunknown.2.of_irrelevant Iff.rfl (hsame l hne).1 (hsame l hne).2⟩
  · refine h.prompt.snoc fun l immediately heq => ?_
    cases heq
    rw [h.aborted, haborted]
    simp
  · rw [List.mem_append, h.aborted, haborted]
    simp

/-- An entry other than a subscription breaks no promptness. -/
theorem Fates.prompt_snoc {entry : ContextEntry} (h : Fates c todo)
    (hentry : ∀ l immediately, entry ≠ .subscribed l immediately) :
    Prompt (c.entries ++ [entry]) :=
  h.prompt.snoc fun l immediately heq => absurd heq (hentry l immediately)

/-- A listener that is taken out before its turn is not called. -/
theorem unsubscribe_fates (h : Fates c todo) : Fates (c.unsubscribe k) todo := by
  by_cases hin : k ∈ c.listeners
  · have hsame : ∀ l, l ≠ k →
        callCount l (c.entries ++ [ContextEntry.unsubscribed k]) = callCount l c.entries ∧
        withdrawn l (c.entries ++ [ContextEntry.unsubscribed k]) = withdrawn l c.entries :=
      fun l hne => entry_irrelevant rfl (by simpa using hne.symm)
    have hmem : ∀ l, l ≠ k → (l ∈ c.listeners.erase k ↔ l ∈ c.listeners) :=
      fun l hne => List.mem_erase_of_ne hne
    have hcalls : callCount k (c.entries ++ [ContextEntry.unsubscribed k]) =
        callCount k c.entries := by
      simp [callCount_snoc, ContextEntry.calls]
    have hwithdrawn : withdrawn k (c.entries ++ [ContextEntry.unsubscribed k]) =
        (withdrawn k c.entries || callCount k c.entries == 0) := by
      simp [withdrawn_snoc]
    simp only [unsubscribe, hin, if_true]
    refine ⟨h.nodup.erase k, fun l hl => ?_, fun l hl => ?_, h.prompt_snoc (by simp), ?_⟩
    · by_cases hne : l = k
      · subst hne
        have hout : l ∉ c.listeners.erase l := h.nodup.not_mem_erase
        cases h.known l hl with
        | waits _ _ h0 hno => exact .withdrew hout (hcalls.trans h0) (by simp [hwithdrawn, h0])
        | withdrew hgone => exact absurd hin hgone
        | called hturn h1 hno =>
          exact .called hturn (hcalls.trans h1) (by simp [hwithdrawn, h1, hno])
      · exact (h.known l hl).of_irrelevant (hmem l hne) (hsame l hne).1 (hsame l hne).2
    · have hunknown := h.unknown l hl
      have hne : l ≠ k := fun heq => hunknown.2.out (heq ▸ hin)
      exact ⟨hunknown.1, hunknown.2.of_irrelevant (hmem l hne) (hsame l hne).1 (hsame l hne).2⟩
    · rw [List.mem_append, h.aborted]
      simp
  · rwa [unsubscribe, if_neg hin]

theorem abort_fates (h : Fates c todo) : Fates (c.abort reason) todo := by
  have hsame : ∀ l, callCount l (c.entries ++ [ContextEntry.aborted]) = callCount l c.entries ∧
      withdrawn l (c.entries ++ [ContextEntry.aborted]) = withdrawn l c.entries :=
    fun l => entry_irrelevant rfl (by simp)
  exact ⟨h.nodup, fun l hl => (h.known l hl).of_irrelevant Iff.rfl (hsame l).1 (hsame l).2,
    fun l hl => ⟨(h.unknown l hl).1,
      (h.unknown l hl).2.of_irrelevant Iff.rfl (hsame l).1 (hsame l).2⟩,
    h.prompt_snoc (by simp), by simp [abort]⟩

/-- A listener that is still in when its turn comes waited for it. -/
theorem notify_fates (h : Fates c (k :: todo)) (hturn : k ∉ todo) (hin : k ∈ c.listeners) :
    Fates (c.notify k) todo := by
  have hsame : ∀ l, l ≠ k →
      callCount l (c.entries ++ [ContextEntry.notified k]) = callCount l c.entries ∧
      withdrawn l (c.entries ++ [ContextEntry.notified k]) = withdrawn l c.entries :=
    fun l hne => entry_irrelevant (by simpa [ContextEntry.calls] using hne.symm) (by simp)
  refine ⟨h.nodup, fun l hl => ?_, fun l hl => ?_, h.prompt_snoc (by simp), ?_⟩
  · have hstands := h.known l hl
    by_cases hne : l = k
    · subst hne
      cases hstands with
      | waits _ _ h0 hno =>
        refine .called hturn ?_ ?_
        · simp [notify, callCount_snoc, h0, ContextEntry.calls]
        · simp [notify, withdrawn_snoc, hno]
      | withdrew hout => exact absurd hin hout
      | called hno => exact absurd List.mem_cons_self hno
    · have hmem : l ∈ k :: todo ↔ l ∈ todo := by simp [hne]
      have hstands' : Stands c todo l := by
        cases hstands with
        | waits hin hturn h0 hno => exact .waits hin (hmem.mp hturn) h0 hno
        | withdrew hout h0 hyes => exact .withdrew hout h0 hyes
        | called hturn h1 hno => exact .called (fun h => hturn (hmem.mpr h)) h1 hno
      exact hstands'.of_irrelevant Iff.rfl (hsame l hne).1 (hsame l hne).2
  · have hunknown := h.unknown l hl
    have hne : l ≠ k := fun heq => hunknown.1 (heq ▸ List.mem_cons_self)
    exact ⟨fun hmem => hunknown.1 (List.mem_cons_of_mem _ hmem),
      hunknown.2.of_irrelevant Iff.rfl (hsame l hne).1 (hsame l hne).2⟩
  · simp only [notify, List.mem_append, h.aborted]
    simp

/-- A listener that is out when its turn comes waits no longer. -/
theorem Fates.skip (h : Fates c (k :: todo)) (hout : k ∉ c.listeners) : Fates c todo :=
  { h with
    known := fun l hl => by
      cases h.known l hl with
      | waits hin hturn h0 hno =>
        have hne : l ≠ k := fun heq => hout (heq ▸ hin)
        exact .waits hin ((List.mem_cons.mp hturn).resolve_left hne) h0 hno
      | withdrew hgone h0 hyes => exact .withdrew hgone h0 hyes
      | called hturn h1 hno =>
        exact .called (fun hmem => hturn (List.mem_cons_of_mem _ hmem)) h1 hno
    unknown := fun l hl =>
      ⟨fun hmem => (h.unknown l hl).1 (List.mem_cons_of_mem _ hmem), (h.unknown l hl).2⟩ }

theorem clear_fates (h : Fates c []) : Fates c.clear [] where
  nodup := List.nodup_nil
  known l hl := by
    cases h.known l hl with
    | waits _ hturn => cases hturn
    | withdrew _ h0 hyes => exact .withdrew List.not_mem_nil h0 hyes
    | called hturn h1 hno => exact .called hturn h1 hno
  unknown l hl := ⟨List.not_mem_nil, List.not_mem_nil, (h.unknown l hl).2.uncalled,
    (h.unknown l hl).2.kept⟩
  prompt := h.prompt
  aborted := h.aborted

/-- With no turn to come every listener was called once, or withdrawn before its turn. -/
theorem Fates.settled (h : Fates c []) (hl : l < c.subscriptions) :
    callCount l c.entries = if withdrawn l c.entries then 0 else 1 := by
  cases h.known l hl with
  | waits _ hturn => cases hturn
  | withdrew _ h0 hyes => rw [h0, hyes, if_pos rfl]
  | called _ h1 hno => rw [h1, hno, if_neg Bool.false_ne_true]

end AbortContext

end NestWebTransport
