import NestWebTransport.Driver.ReceiveStream

/-! A receive stream loses no chunk, holds few, and is paused just while it is full. -/
namespace NestWebTransport

namespace ReceiveStreamEvent

/-- The promises of the stream's controller, which settle by themselves. -/
def isInternal : ReceiveStreamEvent → Bool
  | .started | .pullSettled => true
  | _ => false

end ReceiveStreamEvent

namespace NativeReceiveStream

variable {s t : NativeReceiveStream} {e : ReceiveStreamEvent} {es : List ReceiveStreamEvent}
  {readable : Delivery (List UInt8)} {chunk : List UInt8}

/-- The queue holds the high water mark of chunks at most, and behind a pause those that came in
spite of it. -/
def Bounded (s : NativeReceiveStream) : Prop :=
  if s.paused then s.readable.stream.queue.length ≤ highWaterMark + s.overrun
  else s.readable.stream.queue.length < highWaterMark

/-- A paused stream that wants a chunk will look again by itself. -/
def Resumes (s : NativeReceiveStream) : Prop :=
  s.paused = true → s.shouldCallPull = true → s.pulls.returns

structure Sound (s : NativeReceiveStream) : Prop where
  flows : s.readable.Flows
  pulls : s.pulls.Sound
  live : s.registered = s.readable.stream.canCloseOrEnqueue
  arrives : s.readable.supplied = s.arrived
  bounded : Bounded s
  resumes : Resumes s

theorem sound_new : Sound new where
  flows := Delivery.flows_new
  pulls := PullLoop.sound_new
  live := rfl
  arrives := rfl
  bounded := show 0 < highWaterMark by decide
  resumes hpaused := by cases hpaused

theorem length_lt_of_shouldCallPull (h : s.readable.Flows) (hshould : s.shouldCallPull = true) :
    s.readable.stream.queue.length < highWaterMark := by
  unfold shouldCallPull ReadableStream.shouldCallPull at hshould
  rw [Bool.and_eq_true, Bool.or_eq_true, decide_eq_true_eq, decide_eq_true_eq] at hshould
  rcases hshould.2 with hreads | hroom
  · rw [(h.waiting hreads).2.1]
    exact Nat.zero_lt_succ _
  · exact hroom

/-- The stream wants no chunk when its queue is at the mark. -/
theorem not_shouldCallPull (h : s.readable.Flows)
    (hfull : highWaterMark ≤ s.readable.stream.queue.length) : s.shouldCallPull = false := by
  by_contra hshould
  have hless := length_lt_of_shouldCallPull h (Bool.not_eq_false _ ▸ hshould)
  omega

/-! ### Pulls -/

theorem Bounded.of_paused (h : Bounded s) (hle : t.readable.stream.queue.length ≤
    s.readable.stream.queue.length) (hpaused : t.paused = s.paused)
    (hoverrun : t.overrun = s.overrun) : Bounded t := by
  unfold Bounded at h ⊢
  rw [hpaused, hoverrun]
  split at h
  · rename_i hp
    rw [if_pos hp]
    omega
  · rename_i hp
    rw [if_neg hp]
    omega

/-- The step of a pull loop that loses no wish. -/
theorem Sound.pulled (hflows : s.readable.Flows) (hlive : s.registered =
    s.readable.stream.canCloseOrEnqueue) (harrives : s.readable.supplied = s.arrived)
    (hbounded : Bounded s) {result : Bool × PullLoop} (hpulls : result.2.Sound)
    (hcalled : result.1 = true → s.shouldCallPull = true)
    (hwanted : s.paused = true → s.shouldCallPull = true → result.1 = true ∨ result.2.returns) :
    Sound (s.pulled result) := by
  unfold NativeReceiveStream.pulled
  simp only
  split
  · rename_i hcall
    refine ⟨hflows, hpulls, hlive, harrives, ?_, fun hpaused => by cases hpaused⟩
    have hless := length_lt_of_shouldCallPull hflows (hcalled hcall)
    unfold Bounded setPaused
    rw [if_neg nofun]
    exact hless
  · rename_i hquiet
    refine ⟨hflows, hpulls, hlive, harrives, hbounded, fun hpaused hshould => ?_⟩
    exact (hwanted hpaused hshould).resolve_left hquiet

theorem Sound.callPullIfNeeded (hflows : s.readable.Flows) (hpulls : s.pulls.Sound)
    (hlive : s.registered = s.readable.stream.canCloseOrEnqueue)
    (harrives : s.readable.supplied = s.arrived) (hbounded : Bounded s) :
    Sound s.callPullIfNeeded := by
  refine Sound.pulled hflows hlive harrives hbounded hpulls.callPullIfNeeded
    PullLoop.callPullIfNeeded_called fun _ hshould => ?_
  rw [hshould]
  exact PullLoop.callPullIfNeeded_wanted

theorem Sound.started (h : Sound s) : Sound (s.pulled (s.pulls.start s.shouldCallPull)) := by
  refine Sound.pulled h.flows h.live h.arrives h.bounded h.pulls.start
    PullLoop.callPullIfNeeded_called fun _ hshould => ?_
  rw [hshould]
  exact PullLoop.callPullIfNeeded_wanted

theorem Sound.settled (h : Sound s) (hpulling : s.pulls.pulling = true) :
    Sound (s.pulled (s.pulls.settle s.shouldCallPull)) := by
  refine Sound.pulled h.flows h.live h.arrives h.bounded (h.pulls.settle hpulling)
    PullLoop.settle_called fun hpaused hshould => ?_
  have hreturns := h.resumes hpaused hshould
  rw [hshould]
  exact PullLoop.settle_wanted h.pulls hpulling hreturns

/-! ### Chunks -/

theorem readable_callPullIfNeeded (s : NativeReceiveStream) :
    s.callPullIfNeeded.readable = s.readable := by
  unfold NativeReceiveStream.callPullIfNeeded NativeReceiveStream.pulled
  simp only
  split <;> rfl

theorem state_readable (h : s.readable.stream.canCloseOrEnqueue = true) :
    s.readable.stream.state = .readable := ReadableStream.state_of_canCloseOrEnqueue h

theorem isFull_eq (h : s.readable.stream.state = .readable) :
    s.isFull = decide (highWaterMark ≤ s.readable.stream.queue.length) := by
  unfold isFull
  rw [h]

/-- A pull loop that the stream wants nothing of. -/
theorem callPullIfNeeded_of_not_should (h : s.shouldCallPull = false) :
    s.callPullIfNeeded = s := by
  unfold NativeReceiveStream.callPullIfNeeded NativeReceiveStream.pulled PullLoop.callPullIfNeeded
  simp [h]

/-- The stream pauses behind the chunk that fills it. -/
theorem Sound.fills (hflows : s.readable.Flows) (hpulls : s.pulls.Sound)
    (hlive : s.registered = s.readable.stream.canCloseOrEnqueue)
    (harrives : s.readable.supplied = s.arrived)
    (hcan : s.readable.stream.canCloseOrEnqueue = true)
    (hbound : s.readable.stream.queue.length ≤ highWaterMark + s.overrun) :
    Sound (if s.callPullIfNeeded.isFull then s.callPullIfNeeded.setPaused true
      else s.callPullIfNeeded) := by
  have hstate := state_readable hcan
  have hfull : s.callPullIfNeeded.isFull =
      decide (highWaterMark ≤ s.readable.stream.queue.length) := by
    rw [isFull_eq (by rw [readable_callPullIfNeeded, hstate]), readable_callPullIfNeeded]
  rw [hfull]
  by_cases hmark : highWaterMark ≤ s.readable.stream.queue.length
  · rw [decide_eq_true hmark, if_pos rfl]
    have hshould := not_shouldCallPull hflows hmark
    rw [callPullIfNeeded_of_not_should hshould]
    refine ⟨hflows, hpulls, hlive, harrives, ?_, fun _ hwants => ?_⟩
    · unfold Bounded setPaused
      rw [if_pos rfl, if_pos rfl]
      exact hbound
    · exact absurd (hshould.symm.trans hwants) nofun
  · rw [decide_eq_false hmark, if_neg nofun]
    apply Sound.callPullIfNeeded hflows hpulls hlive harrives
    unfold Bounded
    split
    · exact hbound
    · exact Nat.lt_of_not_le hmark

/-- A chunk that comes in spite of a pause is counted as overrun; one that fills the queue pauses
the stream. -/
theorem Sound.onData (h : Sound s) (chunk : List UInt8) : Sound (s.onData chunk) := by
  unfold NativeReceiveStream.onData
  split
  · rename_i hregistered
    have hcan : s.readable.stream.canCloseOrEnqueue = true := h.live.symm.trans hregistered
    simp only
    rw [if_pos hcan]
    have hsupplied := Delivery.supplied_enqueue hcan chunk
    have hstill : (s.readable.enqueue chunk).stream.canCloseOrEnqueue = true := by
      rw [Delivery.stream_enqueue, ReadableStream.enqueue_canCloseOrEnqueue]
      exact hcan
    refine Sound.fills (h.flows.enqueue chunk) h.pulls (hregistered.trans hstill.symm) ?_ hstill ?_
    · change (s.readable.enqueue chunk).supplied = s.arrived ++ [chunk]
      rw [hsupplied, h.arrives]
    · change (s.readable.enqueue chunk).stream.queue.length ≤
        highWaterMark + if s.paused = true then s.overrun + 1 else s.overrun
      have hbounded := h.bounded
      unfold Bounded at hbounded
      have hlength : (s.readable.enqueue chunk).stream.queue.length ≤
          s.readable.stream.queue.length + 1 := by
        rcases Delivery.enqueue_cases hcan chunk with ⟨-, heq⟩ | ⟨-, heq⟩
        · rw [heq]
          exact Nat.le_succ _
        · rw [heq]
          exact Nat.le_of_eq List.length_append
      split at hbounded
      · rename_i hpaused
        rw [if_pos hpaused]
        omega
      · rename_i hpaused
        rw [if_neg hpaused]
        omega
  · exact h

/-! ### The end of the stream -/

/-- The stream takes no more chunks, and wants none. -/
theorem Sound.ends (h : Sound s) (hflows : readable.Flows)
    (hsupplied : readable.supplied = s.readable.supplied)
    (hlength : readable.stream.queue.length ≤ s.readable.stream.queue.length)
    (hclosed : readable.stream.canCloseOrEnqueue = false) (stopSent : Bool) :
    Sound { s with readable := readable, registered := false, stopSent := stopSent } := by
  refine ⟨hflows, h.pulls, hclosed.symm, hsupplied.trans h.arrives,
    h.bounded.of_paused hlength rfl rfl, fun _ hshould => ?_⟩
  unfold shouldCallPull ReadableStream.shouldCallPull at hshould
  simp only at hshould
  rw [hclosed] at hshould
  cases hshould

theorem Sound.onFin (h : Sound s) : Sound s.onFin := by
  unfold NativeReceiveStream.onFin
  split
  · exact h.ends h.flows.close rfl (Delivery.length_close_le _)
      ReadableStream.close_canCloseOrEnqueue _
  · exact h

theorem Sound.onReset (h : Sound s) : Sound s.onReset := by
  unfold NativeReceiveStream.onReset
  split
  · exact h.ends h.flows.error rfl (Delivery.length_error_le _)
      ReadableStream.error_canCloseOrEnqueue _
  · exact h

/-- A cancel empties the queue and takes the sink out. -/
theorem Sound.cancel (h : Sound s) : Sound s.cancel := by
  unfold NativeReceiveStream.cancel
  split
  · rename_i hstate
    have heq : s.readable.cancel =
        { s.readable with stream := s.readable.stream.terminate .closed, cancelled := true } := by
      rcases s.readable.cancel_cases with ⟨hne, -⟩ | ⟨-, heq⟩
      · exact absurd hstate hne
      · exact heq
    refine h.ends h.flows.cancel ?_ ?_ ?_ _
    · rw [heq]
    · rw [heq]
      exact Nat.zero_le _
    · rw [heq]
      rfl
  · exact h

/-! ### Reads -/

/-- A read may call `pull`, which lets the native stream go on. -/
theorem Sound.read (h : Sound s) : Sound s.read := by
  have hlength := s.readable.length_read_le
  have hcan : s.readable.read.stream.canCloseOrEnqueue =
      s.readable.stream.canCloseOrEnqueue := by
    rw [Delivery.stream_read, ReadableStream.read_canCloseOrEnqueue]
  have hlive : s.registered = s.readable.read.stream.canCloseOrEnqueue := h.live.trans hcan.symm
  have harrives : s.readable.read.supplied = s.arrived := Delivery.supplied_read.trans h.arrives
  have hbounded : Bounded { s with readable := s.readable.read } :=
    h.bounded.of_paused hlength rfl rfl
  unfold NativeReceiveStream.read
  simp only
  split
  · exact Sound.callPullIfNeeded h.flows.read h.pulls hlive harrives hbounded
  · rename_i hended
    refine ⟨h.flows.read, h.pulls, hlive, harrives, hbounded, fun _ hshould => ?_⟩
    unfold shouldCallPull ReadableStream.shouldCallPull at hshould
    exact absurd (state_readable (Bool.and_eq_true_iff.mp hshould).1) hended

theorem Sound.release (h : Sound s) : Sound s.release := by
  refine ⟨⟨h.flows.ordered, h.flows.whole, fun hreads => absurd hreads (Nat.lt_irrefl 0),
    h.flows.closing, h.flows.ended, h.flows.drained, h.flows.cut⟩, h.pulls, h.live, h.arrives,
    h.bounded, fun hpaused hshould => h.resumes hpaused ?_⟩
  unfold shouldCallPull ReadableStream.shouldCallPull at hshould ⊢
  rw [Bool.and_eq_true, Bool.or_eq_true] at hshould ⊢
  refine ⟨hshould.1, .inr (hshould.2.resolve_left ?_)⟩
  simp [NativeReceiveStream.release]

/-- The queue stays within the high water mark and the overrun of the last pause. -/
theorem Sound.step (h : Sound s) (hs : machine.Step s e t) : Sound t := by
  obtain ⟨he, rfl⟩ := hs
  cases e with
  | data chunk => exact h.onData chunk
  | fin => exact h.onFin
  | reset => exact h.onReset
  | sessionClose => exact h.onReset
  | read => exact h.read
  | cancel => exact h.cancel
  | release => exact h.release
  | started => exact h.started
  | pullSettled => exact h.settled he

/-- Every reachable receive stream is sound. -/
theorem sound_of_reachable (h : machine.Reachable s) : Sound s := by
  refine h.invariant ?_ fun _ _ _ hs h => h.step hs
  rintro _ rfl
  exact sound_new

theorem Sound.backlog (h : Sound s) :
    s.readable.stream.queue.length ≤ highWaterMark + s.overrun := by
  have hbounded := h.bounded
  unfold Bounded at hbounded
  split at hbounded
  · exact hbounded
  · omega

/-! ### At rest -/

theorem Sound.quiet (h : Sound s) (hrest : machine.AtRest (·.isInternal = true) s) :
    ¬ s.pulls.returns := by
  have hnot : ∀ e : ReceiveStreamEvent, e.isInternal = true → s.enabled e = false := by
    intro e he
    by_contra henabled
    exact hrest e (s.next e) he ⟨Bool.not_eq_false _ ▸ henabled, rfl⟩
  have hstarted : s.pulls.started = true := by simpa [enabled] using hnot .started rfl
  have hpulling : s.pulls.pulling = false := hnot .pullSettled rfl
  rintro (hfresh | hagain)
  · exact absurd (hfresh.symm.trans hstarted) nofun
  · exact absurd (hpulling.symm.trans (h.pulls.pullAgain hagain)) nofun

/-- At rest the native stream is paused just while the queue is full, and never under a read that
waits. -/
theorem Sound.paused_iff (h : Sound s) (hrest : machine.AtRest (·.isInternal = true) s)
    (hlive : s.registered = true) :
    s.paused = true ↔ highWaterMark ≤ s.readable.stream.queue.length := by
  have hcan : s.readable.stream.canCloseOrEnqueue = true := h.live.symm.trans hlive
  have hbounded := h.bounded
  unfold Bounded at hbounded
  constructor
  · intro hpaused
    by_contra hroom
    refine h.quiet hrest (h.resumes hpaused ?_)
    unfold shouldCallPull ReadableStream.shouldCallPull
    rw [hcan, decide_eq_true (Nat.lt_of_not_le hroom)]
    simp
  · intro hfull
    by_contra hpaused
    rw [if_neg hpaused] at hbounded
    omega

/-- Each promise of the stream that settles leaves less to do. -/
theorem unloads : machine.Unloads (·.isInternal = true) Sound fun s => s.pulls.load := by
  intro s e t hs h hinternal
  have ht := h.step hs
  obtain ⟨he, rfl⟩ := hs
  have hpulls : ∀ result, (s.pulled result).pulls = result.2 := by
    intro result
    unfold NativeReceiveStream.pulled
    simp only
    split <;> rfl
  refine ⟨ht, ?_⟩
  cases e with
  | started =>
    have hstarted : s.pulls.started = false := Bool.not_eq_true' _ ▸ he
    change (s.pulled _).pulls.load < _
    rw [hpulls]
    exact PullLoop.load_start hstarted _
  | pullSettled =>
    change (s.pulled _).pulls.load < _
    rw [hpulls]
    exact PullLoop.load_settle he _
  | _ => cases hinternal

/-- Whatever the peer, the session and the reader do: the reads get the chunks that arrived, in
order and, short of a reset or a cancel, all of them; the queue outgrows the mark only by chunks
that come in spite of a pause; and left to itself the stream comes to rest paused just while its
queue is full, so no read waits on a paused stream. -/
theorem receives_in_bounds (h : machine.Reachable s) :
    s.readable.delivered <+: s.arrived ∧
      (s.readable.stream.state = .readable →
        s.arrived = s.readable.delivered ++ s.readable.stream.queue) ∧
      (s.readable.stream.state = .closed → s.readable.cancelled = false →
        s.readable.delivered = s.arrived) ∧
      s.readable.stream.queue.length ≤ highWaterMark + s.overrun ∧
      (s.paused = false → s.readable.stream.queue.length < highWaterMark) ∧
      (∃ es t, machine.Run s es t ∧ (∀ e ∈ es, e.isInternal = true) ∧
        machine.AtRest (·.isInternal = true) t) ∧
      (machine.AtRest (·.isInternal = true) s → s.registered = true →
        (s.paused = true ↔ highWaterMark ≤ s.readable.stream.queue.length) ∧
        (0 < s.readable.stream.reads → s.paused = false)) := by
  have hs := sound_of_reachable h
  have hbounded := hs.bounded
  unfold Bounded at hbounded
  refine ⟨hs.arrives ▸ hs.flows.ordered, ?_, ?_, hs.backlog, ?_, unloads.exists_rest hs, ?_⟩
  · intro hstate
    exact hs.arrives.symm.trans (hs.flows.whole hstate)
  · intro hclosed hkept
    exact (hs.flows.drained hclosed hkept).trans hs.arrives
  · intro hrunning
    rw [if_neg (by simp [hrunning])] at hbounded
    exact hbounded
  · intro hrest hlive
    have hiff := hs.paused_iff hrest hlive
    refine ⟨hiff, fun hreads => ?_⟩
    by_contra hpaused
    have hfull := hiff.mp (Bool.not_eq_false _ ▸ hpaused)
    rw [(hs.flows.waiting hreads).2.1] at hfull
    exact absurd hfull (by decide)

/-- One chunk more than the queue is to hold. -/
def flood : List ReceiveStreamEvent :=
  [ReceiveStreamEvent.started, .pullSettled] ++ List.replicate 33 (.data [7]) ++ [.pullSettled]

theorem receives_in_bounds_of_flood : ∃ s, machine.Reachable s ∧
    machine.AtRest (·.isInternal = true) s ∧ s.paused = true ∧
    highWaterMark < s.readable.stream.queue.length ∧
    s.readable.stream.queue.length ≤ highWaterMark + s.overrun := by
  obtain ⟨s, hrun, hstarted, hpulling, hlive, hfull⟩ := program.exists_run flood new
    (fun s => s.pulls.started = true ∧ s.pulls.pulling = false ∧ s.registered = true ∧
      highWaterMark < s.readable.stream.queue.length) (by decide +kernel)
  have hreachable : machine.Reachable s := ⟨new, flood, rfl, hrun⟩
  have hrest : machine.AtRest (·.isInternal = true) s := by
    rintro e t hinternal ⟨he, -⟩
    cases e with
    | started =>
      unfold program enabled at he
      simp [hstarted] at he
    | pullSettled =>
      unfold program enabled at he
      simp [hpulling] at he
    | _ => cases hinternal
  obtain ⟨-, -, -, hbound, -, -, hatRest⟩ := receives_in_bounds hreachable
  exact ⟨s, hreachable, hrest, (hatRest hrest hlive).1.mpr (Nat.le_of_lt hfull), hfull, hbound⟩

end NativeReceiveStream

end NestWebTransport
