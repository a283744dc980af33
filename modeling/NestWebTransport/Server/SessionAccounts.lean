import NestWebTransport.Server.RetiredSessions
import NestWebTransport.Server.SessionRefusals

/-! Every surfaced session is answered once, and the counters of the runtime say how. -/
namespace NestWebTransport.WebTransportRuntime

variable {deps : RuntimeDependencies} {s t : RuntimeState} {e : RuntimeEvent}
  {es : List RuntimeEvent} {j k : Nat}

/-- The calls that turn sessions away. -/
def refusalCalls (s : RuntimeState) : List CloseCall := s.closeCalls.filter CloseCall.turnsAway

/-- How often session `k` was turned away. -/
def refusals (s : RuntimeState) (k : Nat) : Nat :=
  (refusalCalls s).countP fun call => decide (call.managed = some k)

/-- The sessions turned away before they became managed. -/
def unmanagedRefusals (s : RuntimeState) : Nat :=
  (refusalCalls s).countP fun call => call.managed.isNone

def isSurfaced : RuntimeEvent → Bool
  | .surfaced _ => true
  | _ => false

/-! ### One step -/

/-- Between two of its resumptions `acceptSession` only learns that its race is over. -/
theorem Turn.waits (h : Turn deps s e t) (hk : k < s.plane.managedCount)
    (he : e ≠ .continueAdmission k) :
    (t.managed k).accept = (s.managed k).accept ∨
      (s.managed k).accept = .racing ∧ AcceptPhase.raceOver (t.managed k).accept = true := by
  have hlasts : ∀ {m m' : ManagedSession}, m.Lasts m' → m.accept = (s.managed k).accept →
      m'.accept = (s.managed k).accept ∨
        (s.managed k).accept = .racing ∧ AcceptPhase.raceOver m'.accept = true := by
    intro m m' h hm
    rcases h.accept with heq | ⟨hracing, error, heq⟩
    · exact Or.inl (heq.trans hm)
    · exact Or.inr ⟨hm ▸ hracing, by rw [heq]; rfl⟩
  cases h with
  | closing h => exact hlasts (h.managed k).toLasts rfl
  | refused hrecords h => exact hlasts (h.managed k).toLasts rfl
  | opened hchecks hopen hrecords h =>
    apply hlasts (h.managed k).toLasts
    rw [hopen.managed, Function.update_of_ne (Nat.ne_of_lt hk)]
  | admitting hj hadmits h hwork =>
    exact Or.inl (field_of_others (·.accept) h.others (by rw [h.session]) k)
  | @observed i hi hadmission hsettled =>
    by_cases hik : k = i
    · subst hik
      rw [admissionObserved, managed_update, if_pos rfl]
      by_cases hracing : (s.managed k).accept = .racing
      · right
        refine ⟨hracing, ?_⟩
        simp only [if_pos hracing]
        split
        · rfl
        · rfl
        · rfl
      · left
        simp only [if_neg hracing]
    · left
      rw [admissionObserved, managed_update, if_neg hik]
  | @returned i t hi hrace h =>
    have hne : k ≠ i := by
      rintro rfl
      exact he rfl
    apply hlasts (h.managed k).toLasts
    rw [managed_update, if_neg hne]
  | @accepted i t hi hrace hopen hrunning h =>
    have hne : k ≠ i := by
      rintro rfl
      exact he rfl
    left
    rw [h.others k hne, WebTransportRuntime.accepted, managed_update, if_neg hne]
  | retired hi hready =>
    left
    rw [retired_managed, update_field (·.accept) rfl k]
  | detached hw hp => exact Or.inl rfl
  | ended hw hp hover => exact Or.inl rfl
  | pumping hi hactive h =>
    obtain ⟨u, hpump, hease⟩ := h
    apply hlasts (hease.managed k).toLasts
    exact field_of_others (·.accept) hpump.others (by rw [hpump.pumps.kept]) k

/-- An admission that was won and is still let go ends with the intake of its session. -/
theorem won_continueAdmission (hs : Kept deps s) (hk : k < s.plane.managedCount)
    (hrace : (s.managed k).accept = .raceFulfilled) :
    (s.managed k).intakeAborted = true ∨
      ((continueAdmission s k).managed k).accept = .accepted := by
  by_cases haborted : (s.managed k).sessionAborted = true
  · exact Or.inl ((hs.stands.standing k).ended haborted)
  · by_cases hclosed : (s.managed k).intakeAborted = true ∨ s.lifecycle.state ≠ .running
    · left
      rcases hclosed with hintake | hstate
      · exact hintake
      · by_cases hout : k ∈ s.outstandingSessions
        · exact hs.stands.halted hstate k hout
        · exact (hs.finalized hk hout).2.2
    · right
      have hcontinued : continueAdmission s k = startPumps (accepted s k) k := by
        unfold continueAdmission
        rw [hrace]
        simp only
        rw [if_neg haborted, if_neg hclosed]
        rfl
      have hlaunch : Launching deps.options k (accepted s k) (startPumps (accepted s k) k) :=
        launching_startPumps
      rw [hcontinued, hlaunch.session, accepted, managed_update, if_pos rfl]

/-! ### The accounts -/

/-- What the counters and the calls of a state say about its sessions. -/
structure Accounts (s : RuntimeState) : Prop where
  calls : (refusalCalls s).length = s.rejectedSessions
  reasons : (rejectionCodes.map s.rejections).sum = s.rejectedSessions
  others : ∀ code, code ∉ rejectionCodes → s.rejections code = 0
  managed : ∀ call ∈ refusalCalls s, ∀ k, call.managed = some k → k < s.plane.managedCount
  once : ∀ k < s.plane.managedCount, refusals s k ≤ 1
  refused : ∀ k < s.plane.managedCount, 0 < refusals s k → (s.managed k).accept = .returned
  returned : ∀ k < s.plane.managedCount, (s.managed k).accept = .returned →
    0 < refusals s k ∨ (s.managed k).intakeAborted = true

theorem accounts_new (deps : RuntimeDependencies) : Accounts (new deps) where
  calls := rfl
  reasons := by
    change (rejectionCodes.map fun _ => 0).sum = 0
    simp
  others := fun _ _ => rfl
  managed := nofun
  once := fun k hk => absurd hk (Nat.not_lt_zero k)
  refused := fun k hk => absurd hk (Nat.not_lt_zero k)
  returned := fun k hk => absurd hk (Nat.not_lt_zero k)

/-- The refusals are a matter of `turnedAway`. -/
theorem turnedAway_parts (h : turnedAway t = turnedAway s) :
    t.rejectedSessions = s.rejectedSessions ∧ t.rejections = s.rejections ∧
      refusalCalls t = refusalCalls s := by
  unfold refusalCalls
  simpa only [turnedAway, Prod.mk.injEq] using h

theorem refusals_congr (h : refusalCalls t = refusalCalls s) : refusals t k = refusals s k := by
  unfold refusals
  rw [h]

/-- No session beyond the managed ones was turned away by its number. -/
theorem Accounts.unmanaged (h : Accounts s) (hk : s.plane.managedCount ≤ k) : refusals s k = 0 := by
  apply List.countP_eq_zero.mpr
  intro call hcall
  rw [decide_eq_true_eq]
  intro heq
  have hlt := h.managed call hcall k heq
  omega

/-- One more session is counted under one reason. -/
theorem sum_rejections {code : String} (hcode : code ∈ rejectionCodes) (f : String → Nat) :
    (rejectionCodes.map (Function.update f code (f code + 1))).sum =
      (rejectionCodes.map f).sum + 1 := by
  have hnodup : rejectionCodes.Nodup := by decide
  generalize rejectionCodes = codes at hcode hnodup
  induction codes with
  | nil => cases hcode
  | cons x xs ih =>
    obtain ⟨hx, hxs⟩ := List.nodup_cons.mp hnodup
    simp only [List.map_cons, List.sum_cons]
    rcases List.mem_cons.mp hcode with rfl | hmem
    · have hrest : xs.map (Function.update f code (f code + 1)) = xs.map f := by
        apply List.map_congr_left
        intro y hy
        apply Function.update_of_ne
        rintro rfl
        exact hx hy
      rw [Function.update_self, hrest]
      omega
    · have hne : x ≠ code := by
        rintro rfl
        exact hx hmem
      rw [Function.update_of_ne hne, ih hmem hxs]
      omega

/-- Session `k` is turned away: what is counted of it. -/
theorem TurnsAway.counts {managed : Option Nat} (h : TurnsAway managed s t) (ha : Accounts s) :
    t.rejectedSessions = s.rejectedSessions + 1 ∧
      (rejectionCodes.map t.rejections).sum = t.rejectedSessions ∧
      (∀ code, code ∉ rejectionCodes → t.rejections code = 0) ∧
      ∃ call : CloseCall, call.managed = managed ∧ refusalCalls t = refusalCalls s ++ [call] := by
  obtain ⟨code, hcode, call, hmanaged, heq⟩ := h
  simp only [turnedAway, Prod.mk.injEq] at heq
  obtain ⟨hcount, hreasons, hcalls⟩ := heq
  refine ⟨hcount, ?_, ?_, call, hmanaged, hcalls⟩
  · rw [hreasons, sum_rejections hcode, ha.reasons, hcount]
  · intro other hother
    rw [hreasons, Function.update_of_ne]
    · exact ha.others other hother
    · rintro rfl
      exact hother hcode

/-- `acceptSession` returns once. -/
theorem returned_judged {accept : AcceptPhase} (h : Judged deps s k e accept)
    (hs : (s.managed k).accept = .returned) : accept = .returned := by
  cases h with
  | same => exact hs
  | fulfilled hrace hstage =>
    rw [hs] at hrace
    cases hrace
  | rejected hrace =>
    rw [hs] at hrace
    cases hrace
  | returned hrace => rfl
  | accepted h =>
    have hrace := h.race
    rw [hs] at hrace
    cases hrace

/-- A step that turns nobody away keeps the accounts, if those it lets go have no intake left. -/
theorem Accounts.keep (ha : Accounts s) (h : Turn deps s e t) (hsame : turnedAway t = turnedAway s)
    (hle : s.plane.managedCount ≤ t.plane.managedCount)
    (hlets : ∀ k < t.plane.managedCount, (t.managed k).accept = .returned →
      k < s.plane.managedCount ∧ (s.managed k).accept = .returned ∨
        (t.managed k).intakeAborted = true) : Accounts t := by
  obtain ⟨hcount, hreasons, hcalls⟩ := turnedAway_parts hsame
  constructor
  · rw [hcalls, hcount]
    exact ha.calls
  · rw [hreasons, hcount]
    exact ha.reasons
  · intro code hcode
    rw [hreasons]
    exact ha.others code hcode
  · intro call hcall k heq
    rw [hcalls] at hcall
    have hlt := ha.managed call hcall k heq
    omega
  · intro k hk
    rw [refusals_congr hcalls]
    by_cases hlt : k < s.plane.managedCount
    · exact ha.once k hlt
    · rw [ha.unmanaged (Nat.not_lt.mp hlt)]
      omega
  · intro k hk hpos
    rw [refusals_congr hcalls] at hpos
    by_cases hlt : k < s.plane.managedCount
    · exact returned_judged (h.judged hlt) (ha.refused k hlt hpos)
    · rw [ha.unmanaged (Nat.not_lt.mp hlt)] at hpos
      omega
  · intro k hk hreturned
    rw [refusals_congr hcalls]
    rcases hlets k hk hreturned with ⟨hlt, hbefore⟩ | hintake
    · rcases ha.returned k hlt hbefore with hpos | hintake
      · exact Or.inl hpos
      · exact Or.inr ((h.ages hlt).intakeAborted hintake)
    · exact Or.inr hintake

/-- A step that turns a session away keeps the accounts: a managed one is turned away for the first
time and its `acceptSession` returns. -/
theorem Accounts.turnsAway {managed : Option Nat} (ha : Accounts s) (h : Turn deps s e t)
    (hcount : t.plane.managedCount = s.plane.managedCount) (haway : TurnsAway managed s t)
    (hown : ∀ j, managed = some j → j < s.plane.managedCount ∧ refusals s j = 0 ∧
      (t.managed j).accept = .returned)
    (hwaits : ∀ k < s.plane.managedCount, managed ≠ some k → (t.managed k).accept = .returned →
      (s.managed k).accept = .returned) : Accounts t := by
  obtain ⟨hrejected, hreasons, hothers, call, hof, hcalls⟩ := haway.counts ha
  have hself : ∀ k, managed = some k → refusals t k = 1 := by
    intro k hk
    have hfirst := (hown k hk).2.1
    unfold refusals at hfirst ⊢
    rw [hcalls, List.countP_append, hfirst]
    simp [hof, hk]
  have hrest : ∀ k, managed ≠ some k → refusals t k = refusals s k := by
    intro k hk
    unfold refusals
    rw [hcalls, List.countP_append]
    simp [hof, hk]
  constructor
  · rw [hcalls, List.length_append, ha.calls, hrejected]
    rfl
  · exact hreasons
  · exact hothers
  · intro other hother k heq
    rw [hcalls, List.mem_append, List.mem_singleton] at hother
    rw [hcount]
    rcases hother with hold | rfl
    · exact ha.managed other hold k heq
    · exact (hown k (hof.symm.trans heq)).1
  · intro k hk
    by_cases hmanaged : managed = some k
    · rw [hself k hmanaged]
    · rw [hrest k hmanaged]
      exact ha.once k (hcount ▸ hk)
  · intro k hk hpos
    by_cases hmanaged : managed = some k
    · exact (hown k hmanaged).2.2
    · rw [hrest k hmanaged] at hpos
      have hlt : k < s.plane.managedCount := hcount ▸ hk
      exact returned_judged (h.judged hlt) (ha.refused k hlt hpos)
  · intro k hk hreturned
    have hlt : k < s.plane.managedCount := hcount ▸ hk
    by_cases hmanaged : managed = some k
    · rw [hself k hmanaged]
      exact Or.inl Nat.one_pos
    · rw [hrest k hmanaged]
      rcases ha.returned k hlt (hwaits k hlt hmanaged hreturned) with hpos | hintake
      · exact Or.inl hpos
      · exact Or.inr ((h.ages hlt).intakeAborted hintake)

/-- Only a surfaced session becomes managed. -/
theorem managedCount_of_not_surfaced (h : Turn deps s e t) (hs : Sound s)
    (hsurfaced : ∀ offer, e ≠ .surfaced offer) :
    t.plane.managedCount = s.plane.managedCount := by
  rcases h.managedCount hs with heq | ⟨-, offer, readers, u, he, -⟩
  · exact heq
  · exact absurd he (hsurfaced offer)

/-- A newcomer waits for its admission, or its signal has aborted already. -/
theorem newcomer_lets (h : (machine deps).Step s e t) (hs : Kept deps s)
    (hle : s.plane.managedCount ≤ k) (hk : k < t.plane.managedCount)
    (hreturned : (t.managed k).accept = .returned) : (t.managed k).intakeAborted = true := by
  have hsound := hs.stands.winds.sound
  rcases (turn_of_step hsound h).managedCount hsound with
    heq | ⟨heq, offer, readers, u, -, -, hopen, -, hclose⟩
  · omega
  · obtain rfl : k = s.plane.managedCount := by omega
    have hcloses := hclose.managed s.plane.managedCount
    rw [hopen.newcomer] at hcloses
    cases hoffer : offer.aborted with
    | none =>
      have hracing : (newcomer offer readers s.plane.workCount).accept = .racing := by
        unfold newcomer
        rw [hoffer]
      exfalso
      rcases hcloses.accept with hsame | ⟨-, error, hrejected⟩
      · rw [hreturned, hracing] at hsame
        cases hsame
      · rw [hreturned] at hrejected
        cases hrejected
    | some reason =>
      have haborted : (newcomer offer readers s.plane.workCount).sessionAborted = true := by
        unfold newcomer
        rw [hoffer]
      exact (((hs.step h).stands.standing s.plane.managedCount).ended
        (hcloses.sessionAborted haborted))

/-- Each step counts a refusal once, with its reason and its call. -/
theorem accounts_step (h : (machine deps).Step s e t) (hs : Kept deps s) (ha : Accounts s) :
    Accounts t := by
  have hsound := hs.stands.winds.sound
  have hturn := turn_of_step hsound h
  have hwaits : ∀ k < s.plane.managedCount, e ≠ .continueAdmission k →
      (t.managed k).accept = .returned → (s.managed k).accept = .returned := by
    intro k hk he hreturned
    rcases hturn.waits hk he with hsame | ⟨-, hover⟩
    · exact hsame ▸ hreturned
    · rw [hreturned] at hover
      cases hover
  by_cases hsurfaced : ∃ offer, e = .surfaced offer
  · obtain ⟨offer, rfl⟩ := hsurfaced
    have hnext : t = acceptSession deps s offer := h.2
    rcases turnedAway_acceptSession hsound offer with ⟨haway, hcount⟩ | ⟨hsame, hcount⟩
    · rw [← hnext] at haway hcount
      exact ha.turnsAway hturn hcount haway nofun fun k hk _ => hwaits k hk nofun
    · rw [← hnext] at hsame hcount
      refine ha.keep hturn hsame (by omega) ?_
      intro k hk hreturned
      by_cases hlt : k < s.plane.managedCount
      · exact Or.inl ⟨hlt, hwaits k hlt nofun hreturned⟩
      · exact Or.inr (newcomer_lets h hs (Nat.not_lt.mp hlt) hk hreturned)
  · have hcount := managedCount_of_not_surfaced hturn hsound fun offer he => hsurfaced ⟨offer, he⟩
    by_cases hcontinued : ∃ j, e = .continueAdmission j
    · obtain ⟨j, rfl⟩ := hcontinued
      have henabled := h.1
      have hnext : t = continueAdmission s j := h.2
      simp only [enabled, Bool.and_eq_true, decide_eq_true_eq] at henabled
      obtain ⟨hj, hover⟩ := henabled
      rcases turnedAway_continueAdmission with ⟨error, hrace, haway, hreturned⟩ | ⟨hwon, hsame⟩
      · rw [← hnext] at haway hreturned
        refine ha.turnsAway hturn hcount haway ?_ ?_
        · rintro k heq
          cases heq
          refine ⟨hj, ?_, hreturned⟩
          by_contra hne
          have hbefore := ha.refused j hj (Nat.pos_of_ne_zero hne)
          rw [hrace] at hbefore
          cases hbefore
        · intro k hk hother
          apply hwaits k hk
          intro heq
          cases heq
          exact hother rfl
      · rw [← hnext] at hsame
        refine ha.keep hturn hsame hcount.ge ?_
        intro k hk hreturned
        by_cases hkj : k = j
        · subst hkj
          have hrace : (s.managed k).accept = .raceFulfilled := by
            cases haccept : (s.managed k).accept with
            | raceFulfilled => rfl
            | raceRejected error => exact absurd haccept (hwon error)
            | _ =>
              rw [haccept] at hover
              cases hover
          rcases won_continueAdmission hs hj hrace with hintake | haccepted
          · exact Or.inr ((hturn.ages hj).intakeAborted hintake)
          · rw [hnext, haccepted] at hreturned
            cases hreturned
        · have hlt : k < s.plane.managedCount := hcount ▸ hk
          refine Or.inl ⟨hlt, hwaits k hlt ?_ hreturned⟩
          intro heq
          cases heq
          exact hkj rfl
    · have hsame := turnedAway_step h (fun offer he => hsurfaced ⟨offer, he⟩)
        fun j he => hcontinued ⟨j, he⟩
      refine ha.keep hturn hsame hcount.ge ?_
      intro k hk hreturned
      have hlt : k < s.plane.managedCount := hcount ▸ hk
      exact Or.inl ⟨hlt, hwaits k hlt (fun he => hcontinued ⟨k, he⟩) hreturned⟩

/-! ### Over runs -/

/-- The sessions that were surfaced: those that became managed and those turned away before. -/
def offered (s : RuntimeState) : Nat := s.plane.managedCount + unmanagedRefusals s

/-- Only a surfaced session is counted as offered. -/
theorem offered_step (h : (machine deps).Step s e t) (hs : Sound s) (ha : Accounts s) :
    offered t = offered s + if isSurfaced e then 1 else 0 := by
  have hturn := turn_of_step hs h
  have hkeeps : turnedAway t = turnedAway s → unmanagedRefusals t = unmanagedRefusals s := by
    intro hsame
    unfold unmanagedRefusals
    rw [(turnedAway_parts hsame).2.2]
  have haways : ∀ {managed : Option Nat}, TurnsAway managed s t →
      unmanagedRefusals t = unmanagedRefusals s + if managed.isNone then 1 else 0 := by
    rintro managed haway
    obtain ⟨-, -, -, call, hof, hcalls⟩ := haway.counts ha
    unfold unmanagedRefusals
    rw [hcalls, List.countP_append]
    simp [hof]
  unfold offered
  by_cases hsurfaced : ∃ offer, e = .surfaced offer
  · obtain ⟨offer, rfl⟩ := hsurfaced
    have hnext : t = acceptSession deps s offer := h.2
    rcases turnedAway_acceptSession hs offer with ⟨haway, hcount⟩ | ⟨hsame, hcount⟩
    · rw [← hnext] at haway hcount
      rw [hcount, haways haway]
      rfl
    · rw [← hnext] at hsame hcount
      rw [hcount, hkeeps hsame]
      simp only [isSurfaced, if_true]
      omega
  · have hcount := managedCount_of_not_surfaced hturn hs fun offer he => hsurfaced ⟨offer, he⟩
    have hnone : isSurfaced e = false := by
      cases e with
      | surfaced offer => exact absurd ⟨offer, rfl⟩ hsurfaced
      | _ => rfl
    rw [hcount, hnone]
    by_cases hcontinued : ∃ j, e = .continueAdmission j
    · obtain ⟨j, rfl⟩ := hcontinued
      have hnext : t = continueAdmission s j := h.2
      rcases turnedAway_continueAdmission with ⟨error, -, haway, -⟩ | ⟨-, hsame⟩
      · rw [← hnext] at haway
        rw [haways haway]
        rfl
      · rw [← hnext] at hsame
        rw [hkeeps hsame]
        rfl
    · have hsame := turnedAway_step h (fun offer he => hsurfaced ⟨offer, he⟩)
        fun j he => hcontinued ⟨j, he⟩
      rw [hkeeps hsame]
      rfl

/-- What holds of every reachable state. -/
structure Balanced (deps : RuntimeDependencies) (s : RuntimeState) : Prop where
  kept : Kept deps s
  accounts : Accounts s

/-- The accounts and what they rest on are kept together. -/
theorem Balanced.step (hs : Balanced deps s) (h : (machine deps).Step s e t) : Balanced deps t :=
  ⟨hs.kept.step h, accounts_step h hs.kept hs.accounts⟩

/-- A run offers as many sessions as it surfaces. -/
theorem offered_run (h : (machine deps).Run s es t) (hs : Balanced deps s) :
    Balanced deps t ∧ offered t = offered s + es.countP isSurfaced := by
  induction h with
  | refl => exact ⟨hs, rfl⟩
  | stepL hst hrest ih =>
    obtain ⟨ht, hcount⟩ := ih (hs.step hst)
    have hstep := offered_step hst hs.kept.stands.winds.sound hs.accounts
    refine ⟨ht, ?_⟩
    rw [List.countP_cons]
    omega

/-- The managed sessions whose `acceptSession` has yet to go on. -/
def underway (s : RuntimeState) : Finset Nat :=
  (Finset.range s.plane.managedCount).filter fun k =>
    (s.managed k).accept ≠ .accepted ∧ (s.managed k).accept ≠ .returned

/-- The managed sessions whose `acceptSession` returned without a word. -/
def letGo (s : RuntimeState) : Finset Nat :=
  (Finset.range s.plane.managedCount).filter fun k =>
    (s.managed k).accept = .returned ∧ refusals s k = 0

/-- Each call turns away one managed session or a session that was never managed. -/
theorem sum_refusals {calls : List CloseCall} {n : Nat}
    (h : ∀ call ∈ calls, ∀ k, call.managed = some k → k < n) :
    (∑ k ∈ Finset.range n, calls.countP fun call => decide (call.managed = some k)) +
      calls.countP (fun call => call.managed.isNone) = calls.length := by
  induction calls with
  | nil => simp
  | cons call calls ih =>
    have hrest := ih fun other hother => h other (List.mem_cons_of_mem _ hother)
    simp only [List.countP_cons, Finset.sum_add_distrib, List.length_cons]
    cases hof : call.managed with
    | none =>
      simp
      omega
    | some j =>
      have hj := h call List.mem_cons_self j hof
      have hsingle :
          (∑ k ∈ Finset.range n, if decide (some j = some k) = true then 1 else 0) = 1 := by
        rw [Finset.sum_eq_single j]
        · simp
        · intro k _ hk
          simp [Ne.symm hk]
        · intro hnot
          exact absurd (Finset.mem_range.mpr hj) hnot
      rw [hsingle]
      simp
      omega

/-- A managed session is accepted, turned away once, let go, or its admission is under way. -/
theorem Accounts.splits (h : Accounts s) (hk : k < s.plane.managedCount) :
    (if (s.managed k).accept = .accepted then 1 else 0) +
      (if (s.managed k).accept ≠ .accepted ∧ (s.managed k).accept ≠ .returned then 1 else 0) +
      (if (s.managed k).accept = .returned ∧ refusals s k = 0 then 1 else 0) +
      refusals s k = 1 := by
  have honce := h.once k hk
  have hrefused := h.refused k hk
  by_cases hreturned : (s.managed k).accept = .returned
  · rw [hreturned]
    by_cases hzero : refusals s k = 0
    · simp [hzero]
    · simp [hzero]
      omega
  · have hzero : refusals s k = 0 := by
      by_contra hne
      exact hreturned (hrefused (Nat.pos_of_ne_zero hne))
    by_cases haccepted : (s.managed k).accept = .accepted
    · simp [haccepted, hzero]
    · simp [haccepted, hreturned, hzero]

/-- Each session the driver surfaced is counted once: as accepted, as rejected under one reason,
or it is still being admitted or was let go because its intake had ended meanwhile. A managed
session is turned away at most once, and none that is accepted. -/
theorem sessionAccounts_run (h : (machine deps).Run (new deps) es s) :
    es.countP isSurfaced =
        s.acceptedSessions + s.rejectedSessions + (underway s).card + (letGo s).card ∧
      (rejectionCodes.map s.rejections).sum = s.rejectedSessions ∧
      (∀ code, code ∉ rejectionCodes → s.rejections code = 0) ∧
      (refusalCalls s).length = s.rejectedSessions ∧
      ∀ k < s.plane.managedCount, refusals s k ≤ 1 ∧
        ((s.managed k).accept = .accepted → refusals s k = 0) ∧
        (k ∈ letGo s → (s.managed k).intakeAborted = true) := by
  obtain ⟨⟨-, ha⟩, hoffered⟩ := offered_run h ⟨kept_of_run .refl, accounts_new deps⟩
  have haccepted : s.acceptedSessions =
      ∑ k ∈ Finset.range s.plane.managedCount,
        if (s.managed k).accept = .accepted then 1 else 0 := by
    have hcounted := (screened_run h).gated.counted
    unfold tally ManagedSession.acceptances at hcounted
    exact_mod_cast hcounted
  have hsum : (∑ k ∈ Finset.range s.plane.managedCount, refusals s k) + unmanagedRefusals s =
      (refusalCalls s).length := sum_refusals ha.managed
  have hsplit : ∑ k ∈ Finset.range s.plane.managedCount,
      ((if (s.managed k).accept = .accepted then 1 else 0) +
        (if (s.managed k).accept ≠ .accepted ∧ (s.managed k).accept ≠ .returned then 1 else 0) +
        (if (s.managed k).accept = .returned ∧ refusals s k = 0 then 1 else 0) +
        refusals s k) = s.plane.managedCount := by
    rw [Finset.sum_congr rfl fun k hk => ha.splits (Finset.mem_range.mp hk)]
    simp
  simp only [Finset.sum_add_distrib] at hsplit
  refine ⟨?_, ha.reasons, ha.others, ha.calls, ?_⟩
  · have hnew : offered (new deps) = 0 := rfl
    have hunderway : (underway s).card = ∑ k ∈ Finset.range s.plane.managedCount,
        if (s.managed k).accept ≠ .accepted ∧ (s.managed k).accept ≠ .returned then 1 else 0 :=
      Finset.card_filter _ _
    have hletGo : (letGo s).card = ∑ k ∈ Finset.range s.plane.managedCount,
        if (s.managed k).accept = .returned ∧ refusals s k = 0 then 1 else 0 :=
      Finset.card_filter _ _
    have hlength := ha.calls
    rw [hnew] at hoffered
    unfold offered at hoffered
    omega
  · intro k hk
    refine ⟨ha.once k hk, ?_, ?_⟩
    · intro haccept
      by_contra hne
      have hreturned := ha.refused k hk (Nat.pos_of_ne_zero hne)
      rw [haccept] at hreturned
      cases hreturned
    · intro hmem
      obtain ⟨-, hreturned, hzero⟩ := Finset.mem_filter.mp hmem
      rcases ha.returned k hk hreturned with hpos | hintake
      · omega
      · exact hintake

/-- One session is accepted, one has no route and one has gone before it is registered. -/
def smallArrivals : List RuntimeEvent :=
  smallAdmission ++ [
    RuntimeEvent.surfaced { smallOffer "b" with session := ⟨"b", "/none", none, [], 64⟩ },
    .surfaced { smallOffer "c" with aborted := some .abort }]

theorem sessionAccounts_run_small :
    ∃ s : RuntimeState, s.acceptedSessions = 1 ∧ s.rejections "no-route" = 1 ∧
      (letGo s).card = 1 ∧ smallArrivals.countP isSurfaced =
        s.acceptedSessions + s.rejectedSessions + (underway s).card + (letGo s).card := by
  obtain ⟨s, hrun, haccepted, hrejected, hletGo⟩ := exists_run datagramServer (new datagramServer)
    smallArrivals (fun s => s.acceptedSessions = 1 ∧ s.rejections "no-route" = 1 ∧
      (letGo s).card = 1) (by decide +kernel)
  exact ⟨s, haccepted, hrejected, hletGo, (sessionAccounts_run hrun).1⟩

end NestWebTransport.WebTransportRuntime
