import NestWebTransport.Driver.CommandMoves

/-! How the kept promises of `start` and `stop` stand to the state and the server. -/
namespace NestWebTransport

/-- The operation waits for the native server of `a`. -/
def StopOperation.Holds (a : Nat) : StopOperation → Prop
  | .draining b => b = a
  | .closing b _ _ => b = a
  | _ => False

/-- The operation has stopped the driver. -/
def StopOperation.Succeeded : StopOperation → Prop
  | .settled succeeded => succeeded = true
  | .cleared succeeded => succeeded = true
  | _ => False

theorem StopOperation.Holds.uncleared {operation : StopOperation} {a : Nat}
    (h : operation.Holds a) :
    operation.isCleared = false := by
  cases operation with
  | draining b => rfl
  | closing b start sessions => rfl
  | settled succeeded => cases h
  | cleared succeeded => cases h

namespace DriverCommands

/-- Only the kept promises are not cleared, and STOPPED, or while a start waits for a stop that has
succeeded, there is no server. -/
structure Ordered (c : DriverCommands) : Prop where
  starts : ∀ i, (c.start i).isCleared = false → c.startPromise = some i
  stops : ∀ j, (c.stop j).isCleared = false → c.stopPromise = some j
  keptStop : ∀ j, c.stopPromise = some j → j < c.stopCount ∧ (c.stop j).isCleared = false
  starting : c.state = .starting → ∃ i a, c.start i = .performing a ∧ c.server = some a
  performing : ∀ i a, c.start i = .performing a → c.server = some a ∨ c.server = none
  holding : ∀ j a, (c.stop j).Holds a → c.server = some a ∨ c.server = none
  settled : ∀ j, c.stop j = .settled true →
    c.server = none ∨ c.state = .starting ∨ c.state = .running
  queued : ∀ i j signal, c.start i = .queued j signal → j < c.stopCount ∧
    ((c.stop j).Succeeded → c.server = none ∧ ∀ k a, ¬ (c.stop k).Holds a)
  stopped : c.state = .stopped → c.server = none

variable {c d : DriverCommands} {k : Option Command} {i i' j j' a : Nat}

namespace Ordered

theorem start_unique (h : Ordered c) (hi : (c.start i).isCleared = false)
    (hi' : (c.start i').isCleared = false) : i = i' :=
  Option.some.inj ((h.starts i hi).symm.trans (h.starts i' hi'))

theorem stop_unique (h : Ordered c) (hj : (c.stop j).isCleared = false)
    (hj' : (c.stop j').isCleared = false) : j = j' :=
  Option.some.inj ((h.stops j hj).symm.trans (h.stops j' hj'))

theorem start_cleared (h : Ordered c) (hstart : c.startPromise = none) (i : Nat) :
    (c.start i).isCleared = true := by
  by_contra hi
  have hkept := h.starts i (by simpa using hi)
  rw [hstart] at hkept
  cases hkept

theorem stop_cleared (h : Ordered c) (hstop : c.stopPromise = none) (j : Nat) :
    (c.stop j).isCleared = true := by
  by_contra hj
  have hkept := h.stops j (by simpa using hj)
  rw [hstop] at hkept
  cases hkept

/-- Without a kept stop, or with one that has settled, no stop waits for a server. -/
theorem free (h : Ordered c) (hstop : ∀ j, c.stopPromise = some j → ∀ a, ¬ (c.stop j).Holds a) :
    ∀ j a, ¬ (c.stop j).Holds a :=
  fun j a hj => hstop j (h.stops j hj.uncleared) a hj

theorem callStart (h : Ordered c) (hstart : c.startPromise = none) : Ordered c.callStart := by
  have hcleared := h.start_cleared hstart
  refine { h with starts := fun i hi => ?_ }
  have hi' := hcleared i
  rw [show (c.start i).isCleared = false from hi] at hi'
  cases hi'

/-- The kept start gets a server of its own, while no stop waits for one. -/
theorem performs (h : Ordered c) (hkept : c.startPromise = some i)
    (hothers : ∀ i', i' ≠ i → (c.start i').isCleared = true) (hfree : ∀ j a, ¬ (c.stop j).Holds a) :
    Ordered (c.performs i) := by
  have hstart : ∀ i', (c.performs i).start i' =
      if i' = i then .performing c.adapterCount else c.start i' := Function.update_apply _ _ _
  constructor
  · intro i' hi'
    rw [hstart] at hi'
    split_ifs at hi' with he
    · exact he ▸ hkept
    · rw [hothers i' he] at hi'
      cases hi'
  · exact h.stops
  · exact h.keptStop
  · intro _
    exact ⟨i, c.adapterCount, by rw [hstart, if_pos rfl], rfl⟩
  · intro i' a hi'
    rw [hstart] at hi'
    split_ifs at hi' with he
    · cases hi'
      exact Or.inl rfl
    · have hcleared := hothers i' he
      rw [hi'] at hcleared
      cases hcleared
  · exact fun j a hj => absurd hj (hfree j a)
  · exact fun j _ => Or.inr (Or.inl rfl)
  · intro i' j signal hi'
    rw [hstart] at hi'
    split_ifs at hi' with he
    have hcleared := hothers i' he
    rw [hi'] at hcleared
    cases hcleared
  · nofun

theorem start_others (h : Ordered c) (hi : (c.start i).isCleared = false) (hne : i' ≠ i) :
    (c.start i').isCleared = true := by
  by_contra hi'
  exact hne (h.start_unique (by simpa using hi') hi)

theorem stop_others (h : Ordered c) (hj : (c.stop j).isCleared = false) (hne : j' ≠ j) :
    (c.stop j').isCleared = true := by
  by_contra hj'
  exact hne (h.stop_unique (by simpa using hj') hj)

/-- A start waits for the kept stop. -/
theorem queues (h : Ordered c) (hstate : c.state ≠ .running) (hstart : c.startPromise = none)
    (hstop : c.stopPromise = some j) (signal : StartSignal) : Ordered { c.callStart with
      start := Function.update c.start c.startCount (.queued j signal) } := by
  have hcleared := h.start_cleared hstart
  have hnot : c.state ≠ .starting := by
    intro hstarting
    obtain ⟨i, a, hi, -⟩ := h.starting hstarting
    have hi' := hcleared i
    rw [hi] at hi'
    cases hi'
  obtain ⟨hj, huncleared⟩ := h.keptStop j hstop
  refine { h with starts := ?_, starting := fun hs => absurd hs hnot, performing := ?_,
                  queued := ?_ }
  · intro i hi
    simp only [Function.update_apply] at hi
    split_ifs at hi with he
    · rw [he]
      rfl
    · rw [hcleared i] at hi
      cases hi
  · intro i a hi
    simp only [Function.update_apply] at hi
    split_ifs at hi with he
    have hi' := hcleared i
    rw [hi] at hi'
    cases hi'
  · intro i k signal' hi
    simp only [Function.update_apply] at hi
    split_ifs at hi with he
    · cases hi
      refine ⟨hj, fun hsucceeded => ?_⟩
      replace hsucceeded : (c.stop j).Succeeded := hsucceeded
      have hsettled : c.stop j = .settled true := by
        cases hcase : c.stop j with
        | draining a => rw [hcase] at hsucceeded; cases hsucceeded
        | closing a start sessions => rw [hcase] at hsucceeded; cases hsucceeded
        | settled succeeded => rw [hcase] at hsucceeded; rw [show succeeded = true from hsucceeded]
        | cleared succeeded => rw [hcase] at huncleared; cases huncleared
      refine ⟨((h.settled j hsettled).resolve_right ?_), h.free ?_⟩
      · rintro (hs | hs)
        · exact hnot hs
        · exact hstate hs
      · intro k hk a hholds
        rw [hstop] at hk
        cases hk
        rw [hsettled] at hholds
        cases hholds
    · have hi' := hcleared i
      rw [hi] at hi'
      cases hi'

/-- The promise of a start settles. -/
theorem startSettles (h : Ordered c) (hi : (c.start i).isCleared = false) (succeeded : Bool)
    {state : ServerState} {server : Option Nat} (hstate : state ≠ .starting)
    (hserver : server = c.server ∨ server = none)
    (hsettled : ∀ j, c.stop j = .settled true → server = none ∨ state = .running)
    (hstopped : state = .stopped → server = none) :
    Ordered { c with
      state := state
      server := server
      start := Function.update c.start i (.settled succeeded) } := by
  have hothers : ∀ i', i' ≠ i → (c.start i').isCleared = true := fun i' hne => h.start_others hi hne
  refine { h with starts := ?_, starting := fun hs => absurd hs hstate, performing := ?_,
                  holding := ?_, settled := ?_, queued := ?_, stopped := hstopped }
  · intro i' hi'
    simp only [Function.update_apply] at hi'
    split_ifs at hi' with he
    · exact he ▸ h.starts i hi
    · rw [hothers i' he] at hi'
      cases hi'
  · intro i' a hi'
    simp only [Function.update_apply] at hi'
    split_ifs at hi' with he
    have hcleared := hothers i' he
    rw [hi'] at hcleared
    cases hcleared
  · intro j a hj
    rcases hserver with rfl | rfl
    · exact h.holding j a hj
    · exact Or.inr rfl
  · intro j hj
    rcases hsettled j hj with hnone | hrunning
    · exact Or.inl hnone
    · exact Or.inr (Or.inr hrunning)
  · intro i' j signal hi'
    simp only [Function.update_apply] at hi'
    split_ifs at hi' with he
    have hcleared := hothers i' he
    rw [hi'] at hcleared
    cases hcleared

theorem startClears (h : Ordered c) {succeeded : Bool} (hsettled : c.start i = .settled succeeded) :
    Ordered { c with
      start := Function.update c.start i (.cleared succeeded)
      startPromise := none } := by
  have hi : (c.start i).isCleared = false := by rw [hsettled]; rfl
  have hall : ∀ i', (Function.update c.start i (.cleared succeeded) i').isCleared = true := by
    intro i'
    rw [Function.update_apply]
    split_ifs with he
    · rfl
    · exact h.start_others hi he
  refine { h with starts := ?_, starting := ?_, performing := ?_, queued := ?_ }
  · intro i' hi'
    rw [hall i'] at hi'
    cases hi'
  · intro hs
    obtain ⟨i', a, hi', -⟩ := h.starting hs
    have he := h.start_unique hi (by rw [hi']; rfl)
    rw [← he, hsettled] at hi'
    cases hi'
  · intro i' a hi'
    have hcleared := hall i'
    rw [show Function.update c.start i (.cleared succeeded) i' = _ from hi'] at hcleared
    cases hcleared
  · intro i' j signal hi'
    have hcleared := hall i'
    rw [show Function.update c.start i (.cleared succeeded) i' = _ from hi'] at hcleared
    cases hcleared

/-- A call of `stop` keeps a promise of its own. -/
theorem callStop (h : Ordered c) (hstop : c.stopPromise = none) {state : ServerState}
    {operation : StopOperation} (hstate : state = .starting → c.state = .starting)
    (huncleared : operation.isCleared = false) (hholds : ∀ a, operation.Holds a → c.server = some a)
    (hsettled : operation = .settled true → c.server = none)
    (hstopped : state = .stopped → c.server = none) :
    Ordered (c.callStop state operation) := by
  have hcleared := h.stop_cleared hstop
  have hget : ∀ j, (c.callStop state operation).stop j =
      if j = c.stopCount then operation else c.stop j := Function.update_apply _ _ _
  refine { h with stops := ?_, keptStop := ?_, starting := fun hs => h.starting (hstate hs),
                  holding := ?_, settled := ?_, queued := ?_, stopped := hstopped }
  · intro j hj
    rw [hget] at hj
    split_ifs at hj with he
    · exact he ▸ rfl
    · rw [hcleared j] at hj
      cases hj
  · rintro j ⟨⟩
    refine ⟨Nat.lt_succ_self _, ?_⟩
    rw [hget, if_pos rfl]
    exact huncleared
  · intro j a hj
    rw [hget] at hj
    split_ifs at hj with he
    · exact Or.inl (hholds a hj)
    · exact h.holding j a hj
  · intro j hj
    rw [hget] at hj
    split_ifs at hj with he
    · exact Or.inl (hsettled hj)
    · have hj' := hcleared j
      rw [hj] at hj'
      cases hj'
  · intro i j signal hi
    obtain ⟨hlt, hqueued⟩ := h.queued i j signal hi
    refine ⟨Nat.lt_succ_of_lt hlt, fun hsucceeded => ?_⟩
    rw [hget, if_neg (Nat.ne_of_lt hlt)] at hsucceeded
    obtain ⟨hserver, hfree⟩ := hqueued hsucceeded
    refine ⟨hserver, fun k a hk => ?_⟩
    rw [hget] at hk
    split_ifs at hk
    · have hsome := hholds a hk
      rw [hserver] at hsome
      cases hsome
    · exact hfree k a hk

/-- The kept stop, which waits for its server, goes on or settles. -/
theorem stopMoves (h : Ordered c) (hj : (c.stop j).Holds a) {state : ServerState}
    {server : Option Nat} {operation : StopOperation} (hstate : state ≠ .starting)
    (huncleared : operation.isCleared = false) (hserver : server = c.server ∨ server = none)
    (hholds : ∀ b, operation.Holds b → b = a) (hsucceeded : operation.Succeeded → server = none)
    (hstopped : state = .stopped → server = none) :
    Ordered { c with
      state := state
      server := server
      stop := Function.update c.stop j operation } := by
  have hothers : ∀ j', j' ≠ j → (c.stop j').isCleared = true :=
    fun j' hne => h.stop_others hj.uncleared hne
  refine { h with stops := ?_, keptStop := ?_, starting := fun hs => absurd hs hstate,
                  performing := ?_, holding := ?_, settled := ?_, queued := ?_,
                  stopped := hstopped }
  · intro j' hj'
    simp only [Function.update_apply] at hj'
    split_ifs at hj' with he
    · exact he ▸ h.stops j hj.uncleared
    · rw [hothers j' he] at hj'
      cases hj'
  · intro j' hj'
    obtain ⟨hlt, hkept⟩ := h.keptStop j' hj'
    refine ⟨hlt, ?_⟩
    simp only [Function.update_apply]
    split_ifs
    · exact huncleared
    · exact hkept
  · intro i a' hi
    rcases hserver with rfl | rfl
    · exact h.performing i a' hi
    · exact Or.inr rfl
  · intro j' b hj'
    simp only [Function.update_apply] at hj'
    split_ifs at hj' with he
    · rcases hserver with rfl | rfl
      · exact hholds b hj' ▸ h.holding j a hj
      · exact Or.inr rfl
    · have hcleared := hothers j' he
      rw [hj'.uncleared] at hcleared
      cases hcleared
  · intro j' hj'
    simp only [Function.update_apply] at hj'
    split_ifs at hj' with he
    · exact Or.inl (hsucceeded (by rw [hj']; rfl))
    · have hcleared := hothers j' he
      rw [hj'] at hcleared
      cases hcleared
  · intro i j' signal hi
    obtain ⟨hlt, hqueued⟩ := h.queued i j' signal hi
    refine ⟨hlt, fun hs => ?_⟩
    simp only [Function.update_apply] at hs
    split_ifs at hs with he
    · refine ⟨hsucceeded hs, fun k b hk => ?_⟩
      simp only [Function.update_apply] at hk
      split_ifs at hk with hkj
      · cases operation with
        | draining b => cases hs
        | closing b start sessions => cases hs
        | settled succeeded => cases hk
        | cleared succeeded => cases hk
      · have hcleared := hothers k hkj
        rw [hk.uncleared] at hcleared
        cases hcleared
    · exact absurd hj ((hqueued hs).2 j a)

theorem stopClears (h : Ordered c) {succeeded : Bool} (hsettled : c.stop j = .settled succeeded) :
    Ordered { c with
      stop := Function.update c.stop j (.cleared succeeded)
      stopPromise := none } := by
  have hj : (c.stop j).isCleared = false := by rw [hsettled]; rfl
  have hall : ∀ j', (Function.update c.stop j (.cleared succeeded) j').isCleared = true := by
    intro j'
    rw [Function.update_apply]
    split_ifs with he
    · rfl
    · exact h.stop_others hj he
  have hfree : ∀ k a, ¬ (Function.update c.stop j (.cleared succeeded) k).Holds a := by
    intro k a hk
    have hcleared := hall k
    rw [hk.uncleared] at hcleared
    cases hcleared
  refine { h with stops := ?_, keptStop := nofun, holding := ?_, settled := ?_, queued := ?_ }
  · intro j' hj'
    rw [hall j'] at hj'
    cases hj'
  · exact fun j' a hj' => absurd hj' (hfree j' a)
  · intro j' hj'
    have hcleared := hall j'
    rw [show Function.update c.stop j (.cleared succeeded) j' = _ from hj'] at hcleared
    cases hcleared
  · intro i j' signal hi
    obtain ⟨hlt, hqueued⟩ := h.queued i j' signal hi
    refine ⟨hlt, fun hs => ⟨(hqueued ?_).1, hfree⟩⟩
    simp only [Function.update_apply] at hs
    split_ifs at hs with he
    · rw [he, hsettled]
      exact hs
    · exact hs

end Ordered

/-- One case per move; what a move assigns to a promise is the operation that is latest of its
kind. -/
theorem ordered_moves (hm : c.Moves k d) (h : Ordered c) : Ordered d := by
  cases hm with
  | rests => exact h
  | startAnswered _ => exact h
  | startPerforms hstate hstart hstop =>
    refine (h.callStart hstart).performs rfl (fun i' _ => h.start_cleared hstart i') ?_
    exact h.free fun j hj => by rw [hstop] at hj; cases hj
  | startQueues hstate hstart hstop => exact h.queues hstate hstart hstop _
  | @startBegins i j signal hi hqueued hstop =>
    obtain ⟨-, hfree⟩ := (h.queued i j signal hqueued).2 (by rw [hstop]; rfl)
    have huncleared : (c.start i).isCleared = false := by rw [hqueued]; rfl
    exact h.performs (h.starts _ huncleared) (fun i' hne => h.start_others huncleared hne) hfree
  | @startRefused i j signal hi hqueued hstop =>
    have huncleared : (c.start i).isCleared = false := by rw [hqueued]; rfl
    have hnot : c.state ≠ .starting := by
      intro hs
      obtain ⟨i', a, hi', -⟩ := h.starting hs
      have he := h.start_unique huncleared (by rw [hi']; rfl)
      rw [← he, hqueued] at hi'
      cases hi'
    refine h.startSettles huncleared false hnot (Or.inl rfl) (fun j hj => ?_) h.stopped
    rcases h.settled j hj with hnone | hs | hs
    · exact Or.inl hnone
    · exact absurd hs hnot
    · exact Or.inr hs
  | @startFulfils i a hi hperforming =>
    have huncleared : (c.start i).isCleared = false := by rw [hperforming]; rfl
    have hruns : c.state = .starting → c.server = some a := by
      intro hs
      obtain ⟨i', a', hi', hserver⟩ := h.starting hs
      have he := h.start_unique huncleared (by rw [hi']; rfl)
      rw [← he, hperforming] at hi'
      cases hi'
      exact hserver
    refine h.startSettles huncleared true ?_ (Or.inl rfl) (fun j hj => ?_) fun hs => ?_
    · split_ifs with hcase
      · nofun
      · exact fun hs => hcase ⟨hruns hs, hs⟩
    · rcases h.settled j hj with hnone | hs | hs
      · exact Or.inl hnone
      · exact Or.inr (if_pos ⟨hruns hs, hs⟩)
      · refine Or.inr ?_
        rw [hs]
        exact if_neg (by rintro ⟨-, ⟨⟩⟩)
    · split_ifs at hs
      exact h.stopped hs
  | @startRejects i a hi hperforming =>
    have huncleared : (c.start i).isCleared = false := by rw [hperforming]; rfl
    have hgone : (if c.server = some a then none else c.server) = none := by
      rcases h.performing i a hperforming with hs | hs
      · exact if_pos hs
      · rw [hs]
        exact ite_self _
    exact h.startSettles huncleared false nofun (Or.inr hgone) (fun _ _ => Or.inl hgone)
      fun _ => hgone
  | startClears hi hsettled => exact h.startClears hsettled
  | stopAnswered _ => exact h
  | stopInvalid hstop => exact h.callStop hstop id rfl nofun nofun h.stopped
  | stopEmpty hstop hserver =>
    exact h.callStop hstop nofun rfl nofun (fun _ => hserver) fun _ => hserver
  | stopDrains hstop hserver hstarting =>
    exact h.callStop hstop nofun rfl (fun b hb => by rw [hserver, ← show _ = b from hb]) nofun nofun
  | stopCloses hstop hserver =>
    exact h.callStop hstop nofun rfl (fun b hb => by rw [hserver, ← show _ = b from hb]) nofun nofun
  | stopDrained hj hdraining =>
    refine h.stopMoves (by rw [hdraining]; rfl) nofun rfl (Or.inl rfl) (fun b hb => ?_) nofun nofun
    exact (show _ = b from hb).symm
  | stopFulfils hj hclosing hstart =>
    exact h.stopMoves (by rw [hclosing]; rfl) nofun rfl (Or.inr rfl) nofun (fun _ => rfl)
      fun _ => rfl
  | stopRejects hj hclosing =>
    exact h.stopMoves (by rw [hclosing]; rfl) nofun rfl (Or.inl rfl) nofun nofun nofun
  | stopClears hj hsettled => exact h.stopClears hsettled

end DriverCommands

end NestWebTransport
