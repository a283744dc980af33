import NestWebTransport.Driver.ReceiveRelay

/-! A stream's bridge comes to rest, and no chunk or lock is left behind then. -/
namespace NestWebTransport

namespace ReceiveBridgeEvent

/-- The promises of the bridge and of both streams, which settle by themselves. -/
def isInternal : ReceiveBridgeEvent → Bool
  | .nativeStarted | .nativePullSettled | .readerFailed | .readableStarted | .pullResumed
  | .pullSettled | .cancelled => true
  | _ => false

end ReceiveBridgeEvent

namespace ReceiveBridge

variable {s t : ReceiveBridge} {e : ReceiveBridgeEvent} {es : List ReceiveBridgeEvent}

/-! ### At rest -/

theorem enabled_of_atRest (hrest : machine.AtRest (·.isInternal = true) s)
    (he : e.isInternal = true) : s.enabled e = false := by
  by_contra henabled
  exact hrest e (s.next e) he ⟨Bool.not_eq_false _ ▸ henabled, rfl⟩

theorem rests_of_atRest (hrest : machine.AtRest (·.isInternal = true) s) : s.relay.Rests := by
  intro e he
  cases e with
  | sourceFailed => exact enabled_of_atRest (e := .readerFailed) hrest rfl
  | started => exact enabled_of_atRest (e := .readableStarted) hrest rfl
  | pullResumed stops => exact enabled_of_atRest (e := .pullResumed) hrest rfl
  | pullSettled => exact enabled_of_atRest (e := .pullSettled) hrest rfl
  | unlocked =>
    have hpending : s.finishPending = false := enabled_of_atRest (e := .cancelled) hrest rfl
    change (s.finishPending && !s.finished) = false
    rw [hpending]
    rfl
  | _ => cases he

theorem native_of_atRest (hrest : machine.AtRest (·.isInternal = true) s) :
    NativeReceiveStream.machine.AtRest (·.isInternal = true) s.native := by
  rintro e t he ⟨henabled, -⟩
  cases e with
  | started =>
    have hnot : s.native.enabled .started = false :=
      enabled_of_atRest (e := .nativeStarted) hrest rfl
    exact absurd (hnot.symm.trans henabled) nofun
  | pullSettled =>
    have hnot : s.native.enabled .pullSettled = false :=
      enabled_of_atRest (e := .nativePullSettled) hrest rfl
    exact absurd (hnot.symm.trans henabled) nofun
  | _ => cases he

/-- A read that waits at rest waits for the peer: the native stream is open, runs, and has
nothing. -/
theorem read_waits (hs : s.relay.Steady) (hn : NativeReceiveStream.Sound s.native)
    (hrest : machine.AtRest (·.isInternal = true) s) (hreads : 0 < s.readable.stream.reads) :
    s.native.registered = true ∧ s.native.paused = false ∧
      s.readable.delivered = s.native.arrived := by
  obtain ⟨hstate, hempty, hwaits, hall⟩ := hs.starves (rests_of_atRest hrest) hreads
  have hopen : s.native.readable.stream.closeRequested = false := (hs.source.waiting hwaits).2.2
  have hregistered : s.native.registered = true := by
    rw [hn.live]
    exact Bool.and_eq_true_iff.mpr ⟨beq_iff_eq.mpr hstate, by simpa using hopen⟩
  refine ⟨hregistered, ?_, hall.trans hn.arrives⟩
  by_contra hpaused
  have hfull := (hn.paused_iff (native_of_atRest hrest) hregistered).mp
    (Bool.not_eq_false _ ▸ hpaused)
  have hnone : s.native.readable.stream.queue = [] := hempty
  rw [hnone] at hfull
  exact absurd hfull (by decide)

/-! ### An end of the readable is one of the native stream -/

def Ended (n : NativeReceiveStream) : Prop := n.readable.stream.state ≠ .readable

/-- No event opens a native stream that has ended. -/
theorem ended_next {n : NativeReceiveStream} (m : ReceiveStreamEvent) (h : Ended n) :
    Ended (n.next m) := by
  have hreset : Ended n.onReset := by
    unfold NativeReceiveStream.onReset
    split_ifs
    · exact ReadableStream.error_ne_readable _
    · exact h
  cases m with
  | data chunk =>
    change Ended (n.onData chunk)
    by_cases hregistered : n.registered = true
    · unfold Ended
      rw [readable_onData hregistered, Delivery.state_enqueue]
      exact h
    · unfold NativeReceiveStream.onData
      rwa [if_neg hregistered]
  | fin =>
    change Ended n.onFin
    unfold NativeReceiveStream.onFin
    split_ifs
    · intro hopen
      rcases n.readable.close_cases with ⟨-, heq⟩ | ⟨hstate, -⟩ | ⟨hstate, -⟩
      · exact h (heq ▸ hopen)
      · exact h hstate
      · exact h hstate
    · exact h
  | reset => exact hreset
  | sessionClose => exact hreset
  | read =>
    intro hopen
    change n.read.readable.stream.state = .readable at hopen
    rw [readable_read] at hopen
    exact h (Delivery.readable_of_read hopen)
  | cancel =>
    change Ended n.cancel
    unfold NativeReceiveStream.cancel
    rwa [if_neg h]
  | release => exact h
  | started =>
    change Ended (n.pulled _)
    unfold Ended
    rwa [readable_setPulled]
  | pullSettled =>
    change Ended (n.pulled _)
    unfold Ended
    rwa [readable_setPulled]

theorem Reads.ended {n n' : NativeReceiveStream} (hreads : Reads n n') (h : Ended n) :
    Ended n' := by
  obtain ⟨ms, hrun, -⟩ := hreads
  refine hrun.invariant (P := Ended) ?_ h
  rintro n m n' ⟨-, rfl⟩ h
  exact ended_next m h

/-- A reader that is cancelled ends the native stream, one that was let go has seen its end. -/
theorem ended_cancelReader (h : s.finished = true → Ended s.native) :
    Ended s.cancelReader.native := by
  unfold cancelReader
  split_ifs with hfinished
  · exact h hfinished
  · change Ended s.native.cancel
    unfold Ended
    rw [readable_cancel]
    rcases s.native.readable.cancel_cases with ⟨hstate, heq⟩ | ⟨-, heq⟩
    · rwa [heq]
    · rw [heq]
      nofun

theorem ended_abort (h : s.finished = true ∨ s.aborted = true → Ended s.native) :
    Ended s.abort.native := by
  unfold abort handleAbort
  split_ifs with haborted hfinished
  · exact h (.inr haborted)
  · exact h (.inl hfinished)
  · exact ended_cancelReader (s := { s with aborted := true, readable := s.readable.error })
      fun hnow => h (.inl hnow)

/-- Where the readable takes nothing any more, or the bridge or the lifecycle is through, the native
stream has ended. -/
def Shut (s : ReceiveBridge) : Prop :=
  ¬ s.readable.stream.canCloseOrEnqueue = true ∨ s.finished = true ∨ s.aborted = true →
    Ended s.native

theorem Shut.of_ended (h : Ended s.native) : Shut s := fun _ => h

theorem Shut.same (h : Shut s) (hended : Ended s.native → Ended t.native)
    (htakes : t.readable.stream.canCloseOrEnqueue = s.readable.stream.canCloseOrEnqueue)
    (hfinished : t.finished = s.finished) (haborted : t.aborted = s.aborted) : Shut t := by
  unfold Shut
  rw [htakes, hfinished, haborted]
  exact fun hshut => hended (h hshut)

theorem Shut.pulled (h : Shut s) (result : Bool × PullLoop) : Shut (s.pulled result) := by
  refine h.same (reads_pulled rfl result).ended ?_ ?_ ?_
  all_goals
    unfold ReceiveBridge.pulled beginPull
    simp only
    split_ifs <;> rfl

theorem Shut.pullCaught (h : Shut s) : Ended s.pullCaught.native :=
  (reads_finish rfl).ended
    (ended_abort (s := { s with readable := s.readable.error }) fun hshut => h (.inr hshut))

/-- A pull that ends the readable comes from the end of the native stream, or aborts the
lifecycle. -/
theorem Shut.pullResumed (h : Shut s) (hs : s.relay.Steady) : Shut s.pullResumed := by
  unfold ReceiveBridge.pullResumed
  split
  · rename_i chunk hpull
    have hcounted : Shut { s with received := s.received ++ [chunk], pull := some .finished } :=
      h.same id rfl rfl rfl
    simp only
    split_ifs
    · have hpassed : Shut { s with
          received := s.received ++ [chunk], pull := some .finished
          readable := s.readable.enqueue chunk } := by
        refine h.same id ?_ rfl rfl
        change (s.readable.enqueue chunk).stream.canCloseOrEnqueue = _
        rw [Delivery.stream_enqueue, ReadableStream.enqueue_canCloseOrEnqueue]
      exact hpassed.pulled _
    · exact .of_ended hcounted.pullCaught
  · rename_i hpull
    have hclosed : Ended s.native := by
      have hstate : s.native.readable.stream.state = .closed := hs.done hpull
      unfold Ended
      rw [hstate]
      nofun
    have hdone : Shut { s with pull := some .finished } := h.same id rfl rfl rfl
    simp only
    split_ifs
    · exact .of_ended ((reads_finish rfl).ended hclosed)
    · exact .of_ended hdone.pullCaught
  · have hfailed : Shut { s with pull := some .finished } := h.same id rfl rfl rfl
    exact .of_ended hfailed.pullCaught

theorem Shut.read (h : Shut s) : Shut s.read := by
  have hread : Shut { s with readable := s.readable.read } := by
    refine h.same id ?_ rfl rfl
    change s.readable.read.stream.canCloseOrEnqueue = _
    rw [Delivery.stream_read, ReadableStream.read_canCloseOrEnqueue]
  unfold ReceiveBridge.read
  simp only
  split_ifs
  · exact hread.pulled _
  · exact hread

/-- Whatever ends the readable cancels the native stream, or comes from its end. -/
theorem Shut.step (h : Shut s) (hs : s.relay.Steady) (hstep : machine.Step s e t) : Shut t := by
  obtain ⟨he, rfl⟩ := hstep
  have hreset : Shut s.onReset := by
    unfold onReset
    split_ifs
    · exact h.same (ended_next .reset) rfl rfl rfl
    · exact h
  cases e with
  | data chunk => exact h.same (ended_next (.data chunk)) rfl rfl rfl
  | fin =>
    change Shut s.onFin
    unfold onFin
    split_ifs
    · exact h.same (ended_next .fin) rfl rfl rfl
    · exact h
  | reset => exact hreset
  | sessionClose => exact hreset
  | nativeStarted => exact h.same (ended_next .started) rfl rfl rfl
  | nativePullSettled => exact h.same (ended_next .pullSettled) rfl rfl rfl
  | read => exact h.read
  | cancel =>
    change Shut s.cancel
    unfold cancel
    split_ifs
    · refine .of_ended ?_
      exact ended_cancelReader (s := { s with readable := s.readable.cancel })
        fun hfinished => h (.inr (.inl hfinished))
    · exact h
  | abort => exact .of_ended (ended_abort fun hshut => h (.inr hshut))
  | readerFailed =>
    have herrored : Ended s.native := by
      have hstate := beq_iff_eq.mp (Bool.and_eq_true_iff.mp he).1
      unfold Ended
      rw [hstate]
      nofun
    refine .of_ended ((reads_abort rfl).ended ((reads_finish ?_).ended herrored))
    rfl
  | readableStarted => exact h.pulled _
  | pullResumed => exact h.pullResumed hs
  | pullSettled =>
    have hsettled : Shut { s with pull := none } := h.same id rfl rfl rfl
    exact hsettled.pulled _
  | cancelled =>
    -- the reader was cancelled when the readable had ended, or the bridge has finished since
    refine .of_ended ((reads_finish rfl).ended (h ?_))
    cases hfinished : s.finished with
    | true => exact .inr (.inl rfl)
    | false =>
      refine .inl (hs.released (.inr ?_))
      exact Bool.and_eq_true_iff.mpr ⟨he, by rw [hfinished]; rfl⟩

/-- In no reachable state the readable has ended over an open native stream. -/
theorem shut_of_reachable (h : machine.Reachable s) : Shut s := by
  have hboth : s.relay.Steady ∧ Shut s := by
    refine h.invariant (P := fun s => s.relay.Steady ∧ Shut s) ?_ ?_
    · rintro _ rfl
      refine ⟨Relay.steady_new, fun hshut => ?_⟩
      rcases hshut with htakes | hfinished | haborted
      · exact absurd rfl htakes
      · cases hfinished
      · cases haborted
    · rintro s e t hstep ⟨hs, hshut⟩
      obtain ⟨ms, hrun, -⟩ := relays.simulates s e t hstep
      exact ⟨hs.run hrun, hshut.step hs hstep⟩
  exact hboth.2

/-- Chunks that no pull asks for are behind one that no read has asked for. -/
theorem stalls_of_atRest (h : machine.Reachable s)
    (hrest : machine.AtRest (·.isInternal = true) s)
    (hqueue : s.native.readable.stream.queue ≠ []) :
    s.readable.stream.queue.length = 1 ∧ s.readable.stream.reads = 0 := by
  have hs := steady_of_reachable h
  refine hs.stalls (rests_of_atRest hrest) ?_ hqueue
  by_contra hended
  exact hqueue (hs.source.ended (shut_of_reachable h (.inl hended)))

/-! ### The way to rest -/

/-- What is left to do beside the relay. -/
def ownLoad (s : ReceiveBridge) : Nat := s.native.pulls.load + if s.finishPending then 1 else 0

/-- What is left to do by itself. -/
def load (s : ReceiveBridge) : Nat := 2 * s.relay.load + s.ownLoad

theorem pulls_pulled (native : NativeReceiveStream) (result : Bool × PullLoop) :
    (native.pulled result).pulls = result.2 := by
  unfold NativeReceiveStream.pulled
  simp only
  split <;> rfl

theorem load_read (native : NativeReceiveStream) :
    native.read.pulls.load ≤ native.pulls.load + 1 := by
  unfold NativeReceiveStream.read NativeReceiveStream.callPullIfNeeded
  simp only
  split
  · rw [pulls_pulled]
    exact PullLoop.load_callPullIfNeeded _ _
  · exact Nat.le_succ _

theorem pulls_cancel (native : NativeReceiveStream) : native.cancel.pulls = native.pulls := by
  unfold NativeReceiveStream.cancel
  split_ifs <;> rfl

theorem ownLoad_pulled (s : ReceiveBridge) (result : Bool × PullLoop) :
    (s.pulled result).ownLoad ≤ s.ownLoad + 1 := by
  have hread := load_read s.native
  unfold pulled beginPull ownLoad
  simp only
  split_ifs <;> simp only <;> omega

theorem ownLoad_finish (s : ReceiveBridge) : s.finish.ownLoad = s.ownLoad := by
  unfold finish
  split_ifs <;> rfl

theorem ownLoad_cancelReader (s : ReceiveBridge) : s.cancelReader.ownLoad = s.ownLoad := by
  unfold cancelReader
  split_ifs
  · rfl
  · change s.native.cancel.pulls.load + _ = s.native.pulls.load + _
    rw [pulls_cancel]
    rfl

theorem ownLoad_pending (s : ReceiveBridge) :
    ownLoad { s with finishPending := true } ≤ s.ownLoad + 1 := by
  unfold ownLoad
  simp only [if_true]
  omega

theorem ownLoad_abort (s : ReceiveBridge) : s.abort.ownLoad ≤ s.ownLoad + 1 := by
  have hcancelled := ownLoad_cancelReader { s with aborted := true, readable := s.readable.error }
  unfold abort handleAbort
  split_ifs
  · exact Nat.le_succ _
  · exact Nat.le_succ _
  · exact Nat.le_trans (ownLoad_pending _) (Nat.succ_le_succ (Nat.le_of_eq hcancelled))

theorem ownLoad_pullCaught (s : ReceiveBridge) : s.pullCaught.ownLoad ≤ s.ownLoad + 1 := by
  unfold pullCaught
  rw [ownLoad_finish]
  exact ownLoad_abort _

theorem ownLoad_pullResumed (s : ReceiveBridge) : s.pullResumed.ownLoad ≤ s.ownLoad + 1 := by
  unfold pullResumed
  split
  · simp only
    split_ifs
    · exact ownLoad_pulled _ _
    · exact ownLoad_pullCaught _
  · simp only
    split_ifs
    · exact Nat.le_succ_of_le (Nat.le_of_eq (ownLoad_finish _))
    · exact ownLoad_pullCaught _
  · exact ownLoad_pullCaught _

/-- A step the bridge takes by itself unloads the relay, where it is one of the relay's. -/
theorem relay_load_next (hs : s.relay.Steady) (he : s.enabled e = true)
    {m : RelayEvent (List UInt8)} (hm : m.isInternal = true) (hevent : s.relayEvent e = some m) :
    (s.next e).relay.load < s.relay.load := by
  rw [relay_next, hevent]
  exact hs.load_next (relay_enabled s e m he hevent) hm

/-- The relay counts twice, since one of its steps may leave a promise of the native stream or of
`finish`. -/
theorem load_next (hs : s.relay.Steady) (he : s.enabled e = true)
    (hinternal : e.isInternal = true) : (s.next e).load < s.load := by
  have hnative : ∀ result : Bool × PullLoop, result.2.load < s.native.pulls.load →
      load { s with native := s.native.pulled result } < s.load := by
    intro result hless
    have hsame : relay { s with native := s.native.pulled result } = s.relay := by
      simp only [relay, readable_setPulled]
    unfold load ownLoad
    rw [hsame, pulls_pulled]
    simp only
    omega
  unfold load
  cases e with
  | nativeStarted => exact hnative _ (PullLoop.load_start (Bool.not_eq_true' _ ▸ he) _)
  | nativePullSettled => exact hnative _ (PullLoop.load_settle he _)
  | readerFailed =>
    have hless := relay_load_next hs he (m := .sourceFailed) rfl rfl
    have hown : (s.next .readerFailed).ownLoad ≤ s.ownLoad + 1 := by
      refine Nat.le_trans (ownLoad_abort _) ?_
      rw [ownLoad_finish]
      exact Nat.le_of_eq rfl
    omega
  | readableStarted =>
    have hless := relay_load_next hs he (m := .started) rfl rfl
    have hown : (s.next .readableStarted).ownLoad ≤ s.ownLoad + 1 := ownLoad_pulled _ _
    omega
  | pullResumed =>
    have hless := relay_load_next hs he (m := .pullResumed (!s.aborted)) rfl rfl
    have hown : (s.next .pullResumed).ownLoad ≤ s.ownLoad + 1 := ownLoad_pullResumed s
    omega
  | pullSettled =>
    have hless := relay_load_next hs he (m := .pullSettled) rfl rfl
    have hown : (s.next .pullSettled).ownLoad ≤ s.ownLoad + 1 := ownLoad_pulled _ _
    omega
  | cancelled =>
    have hpending : s.finishPending = true := he
    have hown : (s.next .cancelled).ownLoad + 1 = s.ownLoad := by
      have hfinish := ownLoad_finish s
      have hkept : s.finish.finishPending = s.finishPending := by
        unfold finish
        split_ifs <;> rfl
      unfold ownLoad at hfinish ⊢
      rw [hkept, hpending] at hfinish
      rw [hpending]
      change s.finish.native.pulls.load + 0 + 1 = _
      exact hfinish
    have hle : (s.next .cancelled).relay.load ≤ s.relay.load := by
      by_cases hfinished : s.finished = true
      · rw [relay_next, show s.relayEvent .cancelled = none from if_pos hfinished]
        exact Nat.le_of_eq rfl
      · exact Nat.le_of_lt (relay_load_next hs he (m := .unlocked) rfl (if_neg hfinished))
    omega
  | _ => cases hinternal

theorem unloads : machine.Unloads (·.isInternal = true) (·.relay.Steady) load := by
  intro s e t hs h hinternal
  obtain ⟨ms, hrun, -⟩ := relays.simulates s e t hs
  obtain ⟨he, rfl⟩ := hs
  exact ⟨h.run hrun, load_next h he hinternal⟩

/-- Left to itself a stream's bridge comes to rest, in whatever order its promises settle. A read
then waits only while the peer's end is open and flows and all that came was delivered, chunks stay
behind only where the bridge holds one that no read has asked for, and the native stream is locked
just while the bridge takes chunks. -/
theorem chunks_at_rest (h : machine.Reachable s) :
    (∃ es t, machine.Run s es t ∧ (∀ e ∈ es, e.isInternal = true) ∧
      machine.AtRest (·.isInternal = true) t) ∧
    ∀ es t, machine.Run s es t → (∀ e ∈ es, e.isInternal = true) →
      es.length + t.load ≤ s.load ∧
      (machine.AtRest (·.isInternal = true) t →
        (0 < t.readable.stream.reads → t.native.registered = true ∧ t.native.paused = false ∧
          t.readable.delivered = t.native.arrived) ∧
        (t.native.readable.stream.queue ≠ [] →
          t.readable.stream.queue.length = 1 ∧ t.readable.stream.reads = 0) ∧
        (t.finished = false ↔ t.readable.stream.canCloseOrEnqueue = true) ∧
        (t.finished = false → t.native.readable.stream.state ≠ .errored)) := by
  have hs := steady_of_reachable h
  refine ⟨unloads.exists_rest hs, fun es t hrun hinternal => ⟨?_, fun hrest => ?_⟩⟩
  · exact unloads.length_add_load_le hrun hinternal hs
  · have hreachable := h.run hrun
    have ht := steady_of_reachable hreachable
    obtain ⟨hlocked, hintact⟩ := ht.locked_iff (rests_of_atRest hrest)
    exact ⟨read_waits ht (native_of_reachable hreachable) hrest,
      stalls_of_atRest hreachable hrest, hlocked, hintact⟩

/-- Two chunks and the end come before the bridge has started, and a read behind them. -/
def lateStart : List ReceiveBridgeEvent := [.data [1], .data [2, 3], .fin, .read]

theorem chunks_at_rest_after_late_start : ∃ s es t, machine.Reachable s ∧ 0 < s.load ∧
    machine.Run s es t ∧ machine.AtRest (·.isInternal = true) t ∧ es.length + t.load ≤ s.load ∧
    (0 < t.readable.stream.reads → t.readable.delivered = t.native.arrived) ∧
    (t.native.readable.stream.queue ≠ [] → t.readable.stream.queue.length = 1) ∧
    (t.finished = false ↔ t.readable.stream.canCloseOrEnqueue = true) := by
  obtain ⟨s, hrun, hload⟩ := program.exists_run lateStart new (fun s => 0 < s.load)
    (by decide +kernel)
  have hreachable : machine.Reachable s := ⟨new, lateStart, rfl, hrun⟩
  obtain ⟨⟨es, t, hsettles, hinternal, hrest⟩, hall⟩ := chunks_at_rest hreachable
  obtain ⟨hbound, hfacts⟩ := hall es t hsettles hinternal
  obtain ⟨hwaits, hstalls, hlocked, -⟩ := hfacts hrest
  exact ⟨s, es, t, hreachable, hload, hsettles, hrest, hbound, fun hreads => (hwaits hreads).2.2,
    fun hqueue => (hstalls hqueue).1, hlocked⟩

end ReceiveBridge

end NestWebTransport
