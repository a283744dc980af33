import NestWebTransport.Server.RuntimeStanding

/-! No datagram is stranded: the drain loop of a session runs while its queue holds one. -/
namespace NestWebTransport.WebTransportRuntime

variable {deps : RuntimeDependencies} {s t u : RuntimeState} {e : RuntimeEvent}
  {es : List RuntimeEvent} {k j : Nat} {kind : StreamKind}

/-! ### Who moves the drain loop -/

/-- The drain loop of session `k` is where it was. -/
def DrainKept (k : Nat) (s t : RuntimeState) : Prop := (t.managed k).drain = (s.managed k).drain

theorem DrainKept.trans (h : DrainKept k s t) (h' : DrainKept k t u) : DrainKept k s u :=
  Eq.trans h' h

theorem Quiets.drainKept (h : Quiets s t) : DrainKept k s t := (h.intake k).drain

theorem drainKept_update {f : ManagedSession → ManagedSession}
    (h : (f (s.managed j)).drain = (s.managed j).drain) : DrainKept k s (update s j f) :=
  update_field ManagedSession.drain h k

theorem drainKept_endDatagramPump : DrainKept k s (endDatagramPump s j) := drainKept_update rfl

theorem drainKept_setStreamPump (pump : StreamPump) :
    DrainKept k s (update s j (·.setStreamPump kind pump)) := drainKept_update rfl

theorem drainKept_endStreamPump (done : Bool) : DrainKept k s (endStreamPump s j kind done) := by
  cases kind with
  | bidirectional => exact drainKept_update rfl
  | unidirectional => exact drainKept_update rfl

theorem drainKept_streamLoop : DrainKept k s (streamLoop s j kind) := by
  unfold streamLoop
  split_ifs
  · exact drainKept_endStreamPump false
  · exact drainKept_setStreamPump .awaitingCapacity

theorem drainKept_pumpFailed (error : Failure) : DrainKept k s (pumpFailed deps s j error) := by
  unfold pumpFailed
  split_ifs
  · exact (Quiets.refl s).drainKept
  · exact (quiets_handleRuntimeError error).drainKept

theorem drainKept_streamPumpFailed (error : Failure) :
    DrainKept k s (streamPumpFailed deps s j kind error) :=
  (drainKept_setStreamPump .closing).trans (drainKept_pumpFailed error)

theorem drainKept_streamRead (aborted : Bool) :
    DrainKept k s (streamRead deps s j kind aborted) := by
  unfold streamRead
  split_ifs
  · exact drainKept_setStreamPump .discarding
  · exact drainKept_setStreamPump .refusing
  · have htrack : DrainKept k s (trackStream s j kind aborted) :=
      (quiets_trackStream aborted).drainKept
    simp only
    split_ifs
    · exact htrack.trans (drainKept_setStreamPump .submitted)
    · exact htrack.trans (drainKept_setStreamPump .submitted)

/-- A datagram that arrives while a drain loop runs starts no second one. -/
theorem drainKept_datagramRead (hbusy : (s.managed k).drain ≠ .idle) (n : Nat) (now : Int) :
    DrainKept k s (datagramRead deps s k n now) := by
  unfold datagramRead
  split_ifs
  · exact drainKept_update rfl
  · simp only
    split
    · rfl
    · have hclosing : ∀ p, DrainKept k { s with plane := p }
          (update { s with plane := p } k ({ · with datagramPump := .closing })) :=
        fun _ => drainKept_update rfl
      exact hclosing _
    · unfold startDrain
      rw [if_neg hbusy]
      rfl

theorem drainKept_startPumps : DrainKept k s (startPumps s j) := by
  have hloop : ∀ (u : RuntimeState) (b : Bool) (kind : StreamKind),
      DrainKept k u (if b then streamLoop u j kind else u) := by
    intro u b kind
    cases b with
    | true => exact drainKept_streamLoop
    | false => exact (Quiets.refl u).drainKept
  have hdatagrams : DrainKept k s
      (if (s.managed j).datagramReader then
        update s j fun m => { m with datagramPump := if m.isIntakeOver then .ended else .reading }
      else s) := by
    split_ifs
    · exact drainKept_update rfl
    · exact (Quiets.refl s).drainKept
  exact (hdatagrams.trans (hloop _ _ .bidirectional)).trans (hloop _ _ .unidirectional)

theorem drainKept_streamResumed : DrainKept k s (streamResumed s j kind) := by
  unfold streamResumed
  split_ifs
  · exact drainKept_endStreamPump false
  · exact drainKept_streamLoop
  · exact drainKept_setStreamPump .reading

/-- The pumps of a session leave a running drain loop alone. -/
theorem drain_pump (h : (machine deps).Step s e t) (hpump : e.pump = some k)
    (hbusy : (s.managed k).drain ≠ .idle) :
    DrainKept k s t ∨ e = .drainResumed k ∨ e = .drainContinued k := by
  obtain ⟨-, rfl⟩ := h
  cases e <;> cases hpump
  case datagramRead n now => exact Or.inl (drainKept_datagramRead hbusy n now)
  case datagramsDone => exact Or.inl drainKept_endDatagramPump
  case datagramReadFailed error =>
    have hset : DrainKept k s (update s k ({ · with datagramPump := .closing })) :=
      drainKept_update rfl
    exact Or.inl (hset.trans (drainKept_pumpFailed error))
  case datagramPumpClosed => exact Or.inl drainKept_endDatagramPump
  case drainResumed => exact Or.inr (Or.inl rfl)
  case drainContinued => exact Or.inr (Or.inr rfl)
  case streamResumed kind => exact Or.inl drainKept_streamResumed
  case streamRead kind aborted => exact Or.inl (drainKept_streamRead aborted)
  case streamsDone kind => exact Or.inl (drainKept_endStreamPump true)
  case streamReadFailed kind error => exact Or.inl (drainKept_streamPumpFailed error)
  case streamRefused kind failure =>
    cases failure with
    | none => exact Or.inl drainKept_streamLoop
    | some error => exact Or.inl (drainKept_streamPumpFailed error)
  case streamDiscarded kind failure =>
    cases failure with
    | none => exact Or.inl (drainKept_endStreamPump false)
    | some error => exact Or.inl (drainKept_streamPumpFailed error)
  case streamSubmitted kind => exact Or.inl drainKept_streamLoop
  case streamPumpClosed kind => exact Or.inl (drainKept_endStreamPump false)

/-- While the drain loop of a session runs, it alone moves it on. -/
theorem drain_step (h : (machine deps).Step s e t) (hs : Stands s) (hk : k < s.plane.managedCount)
    (hbusy : (s.managed k).drain ≠ .idle) :
    DrainKept k s t ∨ e = .drainResumed k ∨ e = .drainContinued k := by
  cases hpump : e.pump with
  | some i =>
    by_cases hi : i = k
    · exact drain_pump h (hi ▸ hpump) hbusy
    · exact Or.inl (((feeds_step h hpump).others k (Ne.symm hi)).drain)
  | none =>
    left
    by_cases hsurfaced : ∃ offer, e = .surfaced offer
    · obtain ⟨offer, rfl⟩ := hsurfaced
      obtain ⟨-, rfl⟩ := h
      rcases surfaced_cases deps s offer with hquiet | ⟨-, hadmitted⟩
      · exact hquiet.drainKept
      · exact (hadmitted.old k (Nat.ne_of_lt hk)).drain
    · by_cases haccepted : ∃ i, e = .continueAdmission i
      · obtain ⟨i, rfl⟩ := haccepted
        obtain ⟨henabled, rfl⟩ := h
        simp only [enabled, Bool.and_eq_true, decide_eq_true_eq] at henabled
        rcases quiets_continueAdmission hs.winds henabled.1 with hquiet | ⟨-, -, heq⟩
        · exact hquiet.drainKept
        · have haccept : DrainKept k s (accepted s i) :=
            update_field ManagedSession.drain rfl k
          simp only [next, heq]
          exact haccept.trans drainKept_startPumps
      · exact (quiets_step h hs.winds hs.fits hs.halted hpump
          (fun offer he => hsurfaced ⟨offer, he⟩) fun i he => haccepted ⟨i, he⟩).drainKept

/-! ### Over runs -/

/-- What keeps a drain loop going: it may resume, it goes on once its submission is answered and
any session close it asked for is over, or it waits for capacity that is not there. -/
def Draining (deps : RuntimeDependencies) (s : RuntimeState) (k : Nat) : Prop :=
  enabled deps s (.drainResumed k) = true ∨ enabled deps s (.drainContinued k) = true ∨
    (s.managed k).drain = .awaitingCapacity ∧ .drain ∈ (s.plane.scheduler k).capacityWaiters ∧
      (s.plane.scheduler k).hasCapacity = false

theorem draining_of_stands (hs : Stands s) (hk : k < s.plane.managedCount)
    (hbusy : (s.managed k).drain ≠ .idle) : Draining deps s k := by
  cases hdrain : (s.managed k).drain with
  | idle => exact absurd hdrain hbusy
  | submitted => exact Or.inr (Or.inl (by simp [enabled, hk, hdrain]))
  | awaitingCapacity =>
    by_cases hwaiting : .drain ∈ (s.plane.scheduler k).capacityWaiters
    · exact Or.inr (Or.inr ⟨hdrain, hwaiting, (hs.standing k).alert (List.ne_nil_of_mem hwaiting)⟩)
    · exact Or.inl (by simp [enabled, hk, hdrain, hwaiting])

/-- No datagram is stranded, and no session has two drain loops: a loop that runs is moved on by
itself alone, and it is registered as a waiter at most once. -/
theorem drainLoop_run (h : (machine deps).Run (new deps) es s) (k : Nat)
    (hk : k < s.plane.managedCount) :
    (s.plane.queue k ≠ [] → (s.managed k).isIntakeOver = false →
      (s.managed k).drain ≠ .idle ∧ Draining deps s k) ∧
    (s.plane.scheduler k).capacityWaiters.count .drain ≤ 1 ∧
    ∀ e t, (machine deps).Step s e t → (s.managed k).drain ≠ .idle →
      (t.managed k).drain ≠ (s.managed k).drain → e = .drainResumed k ∨ e = .drainContinued k := by
  have hs : Stands s := stands_run h
  have hstanding := hs.standing k
  refine ⟨fun hqueue hopen => ?_, ?_, fun e t hst hbusy hmoved => ?_⟩
  · have hbusy : (s.managed k).drain ≠ .idle := by
      intro hidle
      rcases hstanding.idle hidle with hover | hempty
      · rw [show (s.intake k).isOver = (s.managed k).isIntakeOver from rfl, hopen] at hover
        cases hover
      · exact hqueue hempty
    exact ⟨hbusy, draining_of_stands hs hk hbusy⟩
  · refine hstanding.single.trans ?_
    split_ifs
    · exact Nat.le_refl 1
    · exact Nat.zero_le 1
  · rcases drain_step hst hs hk hbusy with hkept | hown
    · exact absurd hkept hmoved
    · exact hown

/-- The only task slots of session `0` are taken; its third datagram waits for one. -/
theorem drainLoop_run_small :
    ∃ t, (machine datagramServer).Run (new datagramServer)
        (smallAdmission ++ [.datagramRead 0 5 0, .drainResumed 0, .drainContinued 0,
          .datagramRead 0 5 0]) t ∧
      0 < t.plane.managedCount ∧ t.plane.queue 0 ≠ [] ∧ Draining datagramServer t 0 := by
  obtain ⟨t, hrun, ht⟩ := exists_run datagramServer (new datagramServer)
    (smallAdmission ++ [.datagramRead 0 5 0, .drainResumed 0, .drainContinued 0,
      .datagramRead 0 5 0])
    (fun t => 0 < t.plane.managedCount ∧ t.plane.queue 0 ≠ [] ∧ (t.managed 0).isIntakeOver = false)
    (by decide)
  obtain ⟨hk, hqueue, hopen⟩ := ht
  exact ⟨t, hrun, hk, hqueue, ((drainLoop_run hrun 0 hk).1 hqueue hopen).2⟩

end NestWebTransport.WebTransportRuntime
