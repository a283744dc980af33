import NestWebTransport.Foundation.Relay

/-! Which chunks of its source a relay passes on, and in what order. -/
namespace NestWebTransport

namespace RelayPull

variable {α : Type*} {pull : Option (RelayPull α)} {state : ReadableState}

theorem held_ending : held (ending state pull) = held pull := by
  cases state <;> rcases pull with - | (- | result | -) <;> rfl

theorem ending_eq_none : ending state pull = none ↔ pull = none := by
  cases state <;> rcases pull with - | (- | result | -) <;> simp [ending]

theorem ending_eq_finished : ending state pull = some .finished ↔ pull = some .finished := by
  cases state <;> rcases pull with - | (- | result | -) <;> simp [ending]

theorem asked_ending (h : state ≠ .readable) : asked (ending state pull) = 0 := by
  cases state with
  | readable => exact absurd rfl h
  | closed => rcases pull with - | (- | result | -) <;> rfl
  | errored => rcases pull with - | (- | result | -) <;> rfl

theorem ending_readable : ending .readable pull = pull := by
  rcases pull with - | (- | result | -) <;> rfl

theorem done_ending (h : ending state pull = some (.resolved .done)) :
    pull = some (.resolved .done) ∨ pull = some .requested ∧ state = .closed := by
  cases state <;> rcases pull with - | (- | result | -) <;> simp_all [ending]

theorem asked_pos : 0 < asked pull ↔ pull = some .requested := by
  rcases pull with - | (- | result | -) <;> simp [asked]

theorem length_held_le (pull : Option (RelayPull α)) : (held pull).length ≤ 1 := by
  rcases pull with - | (- | (- | - | -) | -) <;> simp [held]

/-- The chunks the pull may still bring. -/
def pending : Option (RelayPull α) → Nat
  | some .requested | some (.resolved _) => 1
  | _ => 0

theorem pending_le (pull : Option (RelayPull α)) : pending pull ≤ 1 := by
  rcases pull with - | (- | result | -) <;> simp [pending]

theorem pending_ending : pending (ending state pull) = pending pull := by
  cases state <;> rcases pull with - | (- | result | -) <;> rfl

theorem pending_cases (pull : Option (RelayPull α)) :
    pending pull = 0 ∧ (pull = none ∨ pull = some .finished) ∨
      pending pull = 1 ∧ ∃ p, pull = some p ∧ p ≠ .finished := by
  rcases pull with - | (- | result | -)
  · exact .inl ⟨rfl, .inl rfl⟩
  · exact .inr ⟨rfl, _, rfl, nofun⟩
  · exact .inr ⟨rfl, _, rfl, nofun⟩
  · exact .inl ⟨rfl, .inr rfl⟩

end RelayPull

namespace Relay

variable {α : Type*} {r t : Relay α} {e : RelayEvent α} {es : List (RelayEvent α)}
  {source sink : Delivery α} {chunk : α}

/-- The sink takes chunks. -/
def Takes (r : Relay α) : Prop := r.sink.stream.canCloseOrEnqueue = true

/-- Chunks pass from the source's queue through `pull` into the sink's, one at a time. One that
`pull` was given is lost where the sink has ended meanwhile. -/
structure Sound (r : Relay α) : Prop where
  source : r.source.Flows
  sink : r.sink.Flows
  pulls : r.pulls.Sound
  bounded : r.sink.stream.queue.length ≤ 1
  answered : r.source.delivered = r.received ++ RelayPull.held r.pull
  requested : r.source.stream.reads = RelayPull.asked r.pull
  engaged : r.pull = none ↔ r.pulls.pulling = false
  empty : ∀ pull, r.pull = some pull → pull ≠ .finished → r.sink.stream.queue = []
  passed : r.received = r.sink.supplied ∨ (∃ chunk, r.received = r.sink.supplied ++ [chunk]) ∧
    ¬ Takes r ∧ (r.pull = none ∨ r.pull = some .finished)
  released : r.released = true ∨ r.releasePending = true → ¬ Takes r
  cut : r.source.cancelled = true →
    ¬ Takes r ∧ (r.sink.cancelled = true ∨ r.sink.stream.state = .errored)
  done : r.pull = some (.resolved .done) → r.source.stream.state = .closed
  graceful : ¬ Takes r → r.sink.cancelled = false → r.sink.stream.state ≠ .errored →
    r.source.stream.state = .closed ∧ r.source.supplied = r.sink.supplied ∧ r.released = true

theorem sound_new : Sound (new : Relay α) where
  source := Delivery.flows_new
  sink := Delivery.flows_new
  pulls := PullLoop.sound_new
  bounded := Nat.zero_le _
  answered := rfl
  requested := rfl
  engaged := ⟨fun _ => rfl, fun _ => rfl⟩
  empty _ hpull := by cases hpull
  passed := .inl rfl
  released hreleased := by rcases hreleased with hreleased | hreleased <;> cases hreleased
  cut hcut := by cases hcut
  done hdone := by cases hdone
  graceful htakes := absurd rfl htakes

/-! ### The source -/

/-- The source has been closed, errored or cancelled. -/
structure Halts (d d' : Delivery α) : Prop where
  flows : d'.Flows
  supplied : d'.supplied = d.supplied
  delivered : d'.delivered = d.delivered
  reads : d'.stream.state = .readable → d'.stream.reads = d.stream.reads
  closed : d.stream.state = .closed → d'.stream.state = .closed

theorem halts_close (h : source.Flows) : Halts source source.close := by
  rcases source.close_cases with ⟨-, heq⟩ | ⟨hstate, -, heq⟩ | ⟨-, -, heq⟩
  · exact ⟨h.close, by rw [heq], by rw [heq], fun _ => by rw [heq], fun hc => by rw [heq]; exact hc⟩
  · refine ⟨h.close, by rw [heq], by rw [heq], fun hopen => ?_, fun hc => by rw [heq]; rfl⟩
    rw [heq] at hopen
    cases hopen
  · exact ⟨h.close, by rw [heq], by rw [heq], fun _ => by rw [heq], fun hc => by rw [heq]; exact hc⟩

theorem halts_error (h : source.Flows) : Halts source source.error := by
  rcases source.error_cases with ⟨-, heq⟩ | ⟨hstate, heq⟩
  · exact ⟨h.error, by rw [heq], by rw [heq], fun _ => by rw [heq], fun hc => by rw [heq]; exact hc⟩
  · refine ⟨h.error, by rw [heq], by rw [heq], fun hopen => ?_, fun hc => ?_⟩
    · rw [heq] at hopen
      cases hopen
    · exact absurd (hstate.symm.trans hc) nofun

theorem halts_cancel (h : source.Flows) : Halts source source.cancel := by
  rcases source.cancel_cases with ⟨-, heq⟩ | ⟨hstate, heq⟩
  · exact ⟨h.cancel, by rw [heq], by rw [heq], fun _ => by rw [heq],
      fun hc => by rw [heq]; exact hc⟩
  · refine ⟨h.cancel, by rw [heq], by rw [heq], fun hopen => ?_, fun hc => by rw [heq]; rfl⟩
    rw [heq] at hopen
    cases hopen

/-- What the source and the pull of a sound relay may become while its other parts stay. -/
theorem Sound.feeds (h : Sound r) (hflows : source.Flows) {pull : Option (RelayPull α)}
    (hanswered : source.delivered = r.received ++ RelayPull.held pull)
    (hrequested : source.stream.reads = RelayPull.asked pull)
    (hnone : pull = none ↔ r.pull = none)
    (hfinished : pull = some .finished ↔ r.pull = some .finished)
    (hcut : source.cancelled = true →
      ¬ Takes r ∧ (r.sink.cancelled = true ∨ r.sink.stream.state = .errored))
    (hdone : pull = some (.resolved .done) → source.stream.state = .closed)
    (hended : r.source.stream.state = .closed →
      source.stream.state = .closed ∧ source.supplied = r.source.supplied) :
    Sound { r with source := source, pull := pull } := by
  refine ⟨hflows, h.sink, h.pulls, h.bounded, hanswered, hrequested, hnone.trans h.engaged,
    fun other hother hne => ?_, ?_, h.released, hcut, hdone, fun htakes hkept hstate => ?_⟩
  · cases hpull : r.pull with
    | none => exact absurd ((hnone.mpr hpull).symm.trans hother) nofun
    | some before =>
      refine h.empty before hpull fun heq => hne ?_
      subst heq
      exact Option.some_inj.mp (hother.symm.trans (hfinished.mpr hpull))
  · exact h.passed.imp id (And.imp id (And.imp id (Or.imp hnone.mpr hfinished.mpr)))
  · obtain ⟨hclosed, hall, hreleased⟩ := h.graceful htakes hkept hstate
    obtain ⟨hstill, hsame⟩ := hended hclosed
    exact ⟨hstill, hsame.trans hall, hreleased⟩

/-- A source that ends answers the read that waits. -/
theorem Sound.withSource (h : Sound r) (hhalts : Halts r.source source)
    (hcut : source.cancelled = true →
      ¬ Takes r ∧ (r.sink.cancelled = true ∨ r.sink.stream.state = .errored)) :
    Sound (r.withSource source) := by
  refine h.feeds hhalts.flows ?_ ?_ RelayPull.ending_eq_none RelayPull.ending_eq_finished hcut ?_
    fun hclosed => ⟨hhalts.closed hclosed, hhalts.supplied⟩
  · rw [hhalts.delivered, RelayPull.held_ending]
    exact h.answered
  · by_cases hstate : source.stream.state = .readable
    · rw [hhalts.reads hstate, hstate, RelayPull.ending_readable]
      exact h.requested
    · rw [hhalts.flows.reads_eq_zero hstate, RelayPull.asked_ending hstate]
  · intro hdone
    rcases RelayPull.done_ending hdone with hbefore | ⟨-, hclosed⟩
    · exact hhalts.closed (h.done hbefore)
    · exact hclosed

theorem Sound.closeSource (h : Sound r) : Sound (r.withSource r.source.close) :=
  h.withSource (halts_close h.source) h.cut

theorem Sound.errorSource (h : Sound r) : Sound (r.withSource r.source.error) :=
  h.withSource (halts_error h.source) h.cut

theorem Sound.cancelSource (h : Sound r) (hended : ¬ Takes r)
    (hcut : r.sink.cancelled = true ∨ r.sink.stream.state = .errored) : Sound r.cancelSource := by
  unfold Relay.cancelSource
  split_ifs
  · exact h
  · exact h.withSource (halts_cancel h.source) fun _ => ⟨hended, hcut⟩

/-- A chunk of the source answers the pull that waits, or is queued. -/
theorem Sound.enqueue (h : Sound r) (chunk : α) : Sound (r.enqueue chunk) := by
  unfold Relay.enqueue
  split_ifs with hopen hreads
  · have hrequested : r.pull = some .requested := by
      rw [h.requested] at hreads
      exact RelayPull.asked_pos.mp hreads
    have hstate := ReadableStream.state_of_canCloseOrEnqueue hopen
    obtain ⟨-, heq⟩ := (Delivery.enqueue_cases hopen chunk).resolve_right fun hnot =>
      absurd hnot.1 (Nat.ne_of_gt hreads)
    refine h.feeds (h.source.enqueue chunk) ?_ ?_ ?_ ?_ (fun hcut => ?_) nofun fun hclosed => ?_
    · rw [heq]
      change r.source.delivered ++ [chunk] = r.received ++ [chunk]
      rw [h.answered, hrequested]
      exact congrArg (· ++ [chunk]) (List.append_nil _)
    · rw [heq]
      change r.source.stream.reads - 1 = 0
      rw [h.requested, hrequested]
      rfl
    · rw [hrequested]
      exact ⟨nofun, nofun⟩
    · rw [hrequested]
      exact ⟨nofun, nofun⟩
    · rw [Delivery.cancelled_enqueue] at hcut
      exact h.cut hcut
    · exact absurd (hstate.symm.trans hclosed) nofun
  · have hstate := ReadableStream.state_of_canCloseOrEnqueue hopen
    obtain ⟨-, heq⟩ := (Delivery.enqueue_cases hopen chunk).resolve_left fun hnot => hreads hnot.1
    refine h.feeds (h.source.enqueue chunk) ?_ ?_ Iff.rfl Iff.rfl (fun hcut => ?_) ?_
      fun hclosed => ?_
    · rw [heq]
      exact h.answered
    · rw [heq]
      exact h.requested
    · rw [Delivery.cancelled_enqueue] at hcut
      exact h.cut hcut
    · rw [Delivery.state_enqueue]
      exact h.done
    · exact absurd (hstate.symm.trans hclosed) nofun
  · exact h

/-! ### The lock -/

/-- A lock is given back only behind the end of the sink. -/
theorem Sound.release (h : Sound r) (hended : ¬ Takes r) : Sound r.release := by
  unfold Relay.release
  split_ifs
  · exact h
  · have hfed : Sound { r with
        source := { r.source with stream := { r.source.stream with reads := 0 } }
        pull := RelayPull.ending .errored r.pull } := by
      refine h.feeds ?_ ?_ ?_ RelayPull.ending_eq_none RelayPull.ending_eq_finished h.cut ?_
        fun hclosed => ⟨hclosed, rfl⟩
      · exact ⟨h.source.ordered, h.source.whole, fun hreads => absurd hreads (Nat.lt_irrefl 0),
          h.source.closing, h.source.ended, h.source.drained, h.source.cut⟩
      · rw [RelayPull.held_ending]
        exact h.answered
      · have hne : ReadableState.errored ≠ .readable := nofun
        exact (RelayPull.asked_ending hne).symm
      · intro hdone
        rcases RelayPull.done_ending hdone with hbefore | ⟨-, hclosed⟩
        · exact h.done hbefore
        · cases hclosed
    exact ⟨hfed.source, hfed.sink, hfed.pulls, hfed.bounded, hfed.answered, hfed.requested,
      hfed.engaged, hfed.empty, hfed.passed, fun _ => hended, hfed.cut,
      hfed.done, fun htakes hkept hstate =>
        ⟨(hfed.graceful htakes hkept hstate).1, (hfed.graceful htakes hkept hstate).2.1, rfl⟩⟩

/-- The sink has been cancelled or errored. -/
theorem Sound.withSink (h : Sound r) (hflows : sink.Flows)
    (hsupplied : sink.supplied = r.sink.supplied) (hqueue : sink.stream.queue = [])
    (hfull : sink.stream.canCloseOrEnqueue = false)
    (hcut : sink.cancelled = true ∨ sink.stream.state = .errored) :
    Sound { r with sink := sink } := by
  have hended : ¬ Takes { r with sink := sink } := by
    intro htakes
    exact absurd (hfull.symm.trans htakes) nofun
  refine ⟨h.source, hflows, h.pulls, ?_, h.answered, h.requested, h.engaged,
    fun _ _ _ => hqueue, ?_, fun _ => hended, fun _ => ⟨hended, hcut⟩, h.done,
    fun _ hkept hintact => ?_⟩
  · rw [hqueue]
    exact Nat.zero_le 1
  · rw [hsupplied]
    exact h.passed.imp id (And.imp id (And.imp (fun _ => hended) id))
  · rcases hcut with hcancelled | herrored
    · exact absurd (hkept.symm.trans hcancelled) nofun
    · exact absurd herrored hintact

theorem not_takes_of_state (hstate : r.sink.stream.state ≠ .readable) : ¬ Takes r :=
  fun htakes => hstate (ReadableStream.state_of_canCloseOrEnqueue htakes)

theorem Sound.errored (h : Sound r) : Sound { r with sink := r.sink.error } ∧
    ¬ Takes { r with sink := r.sink.error } := by
  rcases r.sink.error_cases with ⟨hstate, heq⟩ | ⟨-, heq⟩
  · rw [heq]
    exact ⟨h, not_takes_of_state hstate⟩
  · have hflows := h.sink.error
    rw [heq] at hflows ⊢
    exact ⟨h.withSink hflows rfl rfl rfl (.inr rfl), nofun⟩

theorem Sound.releasing (h : Sound r) (hended : ¬ Takes r) (pending : Bool) :
    Sound { r with releasePending := pending } :=
  ⟨h.source, h.sink, h.pulls, h.bounded, h.answered, h.requested, h.engaged, h.empty, h.passed,
    fun _ => hended, h.cut, h.done, h.graceful⟩

@[simp] theorem sink_cancelSource : r.cancelSource.sink = r.sink := by
  unfold cancelSource
  split_ifs <;> rfl

@[simp] theorem sink_release : r.release.sink = r.sink := by
  unfold release
  split_ifs <;> rfl

theorem takes_congr (h : t.sink = r.sink) : Takes t ↔ Takes r := by
  unfold Takes
  rw [h]

/-- The sink fails, and the source with it. -/
theorem Sound.stopped (h : Sound r) : Sound (Relay.cancelSource { r with sink := r.sink.error }) ∧
    ¬ Takes (Relay.cancelSource { r with sink := r.sink.error }) := by
  obtain ⟨herrored, hended⟩ := h.errored
  refine ⟨?_, (takes_congr sink_cancelSource).not.mpr hended⟩
  by_cases hreleased : r.released = true
  · unfold Relay.cancelSource
    rw [if_pos hreleased]
    exact herrored
  · refine herrored.cancelSource hended ?_
    by_contra hcut
    rw [not_or, Bool.not_eq_true] at hcut
    exact hreleased (herrored.graceful hended hcut.1 hcut.2).2.2

theorem Sound.cancelled (h : Sound r) (hstate : r.sink.stream.state = .readable) :
    Sound (Relay.cancelSource { r with sink := r.sink.cancel }) ∧
      ¬ Takes (Relay.cancelSource { r with sink := r.sink.cancel }) := by
  have hflows := h.sink.cancel
  have heq := r.sink.cancel_cases.resolve_left fun hne => hne.1 hstate
  rw [heq.2] at hflows ⊢
  have hcancelled := h.withSink hflows rfl rfl rfl (.inl rfl)
  exact ⟨hcancelled.cancelSource nofun (.inl rfl), (takes_congr sink_cancelSource).not.mpr nofun⟩

theorem Sound.cancel (h : Sound r) : Sound r.cancel := by
  unfold Relay.cancel
  split_ifs with hstate
  · exact (h.cancelled hstate).1.releasing (h.cancelled hstate).2 _
  · exact h

theorem Sound.abort (h : Sound r) : Sound r.abort :=
  h.stopped.1.releasing h.stopped.2 _

theorem Sound.pullCaught (h : Sound r) (stops : Bool) : Sound (r.pullCaught stops) := by
  unfold Relay.pullCaught
  cases stops with
  | false => exact h.errored.1.release h.errored.2
  | true => exact h.stopped.1.release h.stopped.2

theorem Sound.sourceFailed (h : Sound r) : Sound r.sourceFailed :=
  h.errored.1.release h.errored.2

/-! ### `pull` -/

theorem Sound.unreleased (h : Sound r) (htakes : Takes r) : r.released = false := by
  by_contra hreleased
  rw [Bool.not_eq_false] at hreleased
  exact h.released (.inl hreleased) htakes

theorem Sound.supplied_eq (h : Sound r) (htakes : Takes r) : r.received = r.sink.supplied :=
  h.passed.resolve_right fun hlost => hlost.2.1 htakes

theorem takes_of_shouldCallPull (h : r.shouldCallPull = true) : Takes r :=
  (Bool.and_eq_true_iff.mp h).1

/-- A stream of the default strategy wants a chunk only when it has none. -/
theorem Sound.queue_of_shouldCallPull (h : Sound r) (hshould : r.shouldCallPull = true) :
    r.sink.stream.queue = [] := by
  unfold shouldCallPull ReadableStream.shouldCallPull at hshould
  rw [Bool.and_eq_true, Bool.or_eq_true, decide_eq_true_iff, decide_eq_true_iff] at hshould
  rcases hshould.2 with hreads | hroom
  · exact (h.sink.waiting hreads).2.1
  · exact List.eq_nil_of_length_eq_zero (Nat.lt_one_iff.mp hroom)

theorem Sound.withPulls (h : Sound r) {pulls : PullLoop} (hpulls : pulls.Sound)
    (hengaged : r.pull = none ↔ pulls.pulling = false) : Sound { r with pulls := pulls } :=
  ⟨h.source, h.sink, hpulls, h.bounded, h.answered, h.requested, hengaged, h.empty, h.passed,
    h.released, h.cut, h.done, h.graceful⟩

/-- What a read of the source brings: its answer, and the source behind it. -/
theorem Sound.asks (h : Sound r) (hpull : r.pull = none) :
    r.source.read.delivered = r.received ++
        RelayPull.held (some ((r.source.stream.read.1.map .resolved).getD .requested)) ∧
      r.source.read.stream.reads =
        RelayPull.asked (some ((r.source.stream.read.1.map .resolved).getD .requested)) ∧
      ((r.source.stream.read.1.map .resolved).getD .requested = RelayPull.resolved .done →
        r.source.read.stream.state = .closed) := by
  have hreads : r.source.stream.reads = 0 := by
    rw [h.requested, hpull]
    rfl
  have hheld : r.source.delivered = r.received := by
    rw [h.answered, hpull]
    exact List.append_nil _
  rcases r.source.read_cases with ⟨hstate, heq⟩ | ⟨hstate, hqueue, heq⟩ |
    ⟨chunk, rest, hstate, hqueue, heq⟩
  · rw [heq, hheld, hreads]
    cases hnow : r.source.stream.state with
    | readable => exact absurd hnow hstate
    | closed =>
      rw [ReadableStream.read_of_closed hnow]
      exact ⟨(List.append_nil _).symm, rfl, fun _ => rfl⟩
    | errored =>
      rw [ReadableStream.read_of_errored hnow]
      exact ⟨(List.append_nil _).symm, rfl, nofun⟩
  · rw [ReadableStream.read_of_nil hstate hqueue, heq]
    refine ⟨hheld.trans (List.append_nil _).symm, ?_, nofun⟩
    change r.source.stream.reads + 1 = 1
    rw [hreads]
  · rw [ReadableStream.read_of_cons hstate hqueue, heq]
    refine ⟨congrArg (· ++ [chunk]) hheld, ?_, nofun⟩
    simp only
    split_ifs
    · rfl
    · exact hreads

/-- A pull begins with one read of the source. -/
theorem Sound.beginPull (h : Sound r) (hpull : r.pull = none) {pulls : PullLoop}
    (hpulls : pulls.Sound) (hpulling : pulls.pulling = true) (hshould : r.shouldCallPull = true) :
    Sound { r with pulls := pulls }.beginPull := by
  have htakes := takes_of_shouldCallPull hshould
  obtain ⟨hanswered, hrequested, hdone⟩ := h.asks hpull
  unfold Relay.beginPull
  rw [if_neg (by simp [h.unreleased htakes])]
  refine ⟨h.source.read, h.sink, hpulls, h.bounded, hanswered, hrequested,
    ⟨nofun, fun hquiet => absurd (hpulling.symm.trans hquiet) nofun⟩,
    fun _ _ _ => h.queue_of_shouldCallPull hshould, .inl (h.supplied_eq htakes), h.released,
    fun hcancelled => ?_, fun hresolved => hdone (Option.some_inj.mp hresolved),
    fun hended => absurd htakes hended⟩
  rw [Delivery.cancelled_read] at hcancelled
  exact h.cut hcancelled

theorem Sound.pulled (h : Sound r) {result : Bool × PullLoop} (hpulls : result.2.Sound)
    (hcalled : result.1 = true →
      r.pull = none ∧ result.2.pulling = true ∧ r.shouldCallPull = true)
    (hquiet : result.1 = false → (r.pull = none ↔ result.2.pulling = false)) :
    Sound (r.pulled result) := by
  unfold Relay.pulled
  simp only
  split_ifs with hcall
  · obtain ⟨hpull, hpulling, hshould⟩ := hcalled hcall
    exact h.beginPull hpull hpulls hpulling hshould
  · exact h.withPulls hpulls (hquiet (eq_false_of_ne_true hcall))

theorem Sound.callPullIfNeeded (h : Sound r) : Sound r.callPullIfNeeded := by
  refine h.pulled h.pulls.callPullIfNeeded (fun hcalled => ?_) fun hquiet => ?_
  · rcases r.pulls.callPullIfNeeded_cases r.shouldCallPull with ⟨-, hidle, hpulling⟩ | ⟨hnot, -⟩
    · exact ⟨h.engaged.mpr hidle, hpulling, PullLoop.callPullIfNeeded_called hcalled⟩
    · exact absurd (hnot.symm.trans hcalled) nofun
  · rcases r.pulls.callPullIfNeeded_cases r.shouldCallPull with ⟨hcalled, -⟩ | ⟨-, hsame⟩
    · exact absurd (hquiet.symm.trans hcalled) nofun
    · rw [hsame]
      exact h.engaged

/-- The first pull may begin as the sink has started. -/
theorem Sound.started (h : Sound r) (hstarted : r.pulls.started = false) :
    Sound (r.pulled (r.pulls.start r.shouldCallPull)) := by
  have hidle : r.pulls.pulling = false := by
    by_contra hpulling
    rw [Bool.not_eq_false] at hpulling
    exact absurd (hstarted.symm.trans (h.pulls.pulling hpulling)) nofun
  refine h.pulled h.pulls.start (fun hcalled => ?_) fun hquiet => ?_
  · rcases PullLoop.callPullIfNeeded_cases { r.pulls with started := true } r.shouldCallPull with
      ⟨-, -, hpulling⟩ | ⟨hnot, -⟩
    · exact ⟨h.engaged.mpr hidle, hpulling, PullLoop.callPullIfNeeded_called hcalled⟩
    · exact absurd (hnot.symm.trans hcalled) nofun
  · rcases PullLoop.callPullIfNeeded_cases { r.pulls with started := true } r.shouldCallPull with
      ⟨hcalled, -⟩ | ⟨-, hsame⟩
    · exact absurd (hquiet.symm.trans hcalled) nofun
    · exact h.engaged.trans (by rw [PullLoop.start, hsame])

theorem Sound.pulling (h : Sound r) {pull : RelayPull α} (hpull : r.pull = some pull) :
    r.pulls.pulling = true := by
  by_contra hidle
  exact absurd (hpull.symm.trans (h.engaged.mpr (eq_false_of_ne_true hidle))) nofun

/-- The next pull may begin as one has settled. -/
theorem Sound.settled (h : Sound r) (hfinished : r.pull = some .finished) :
    Sound (Relay.pulled { r with pull := none } (r.pulls.settle r.shouldCallPull)) := by
  have hanswered : r.source.delivered = r.received ++ [] := by
    rw [h.answered, hfinished]
    rfl
  have hrequested : r.source.stream.reads = 0 := by
    rw [h.requested, hfinished]
    rfl
  have hbase : Sound { r with
      pull := none, pulls := { r.pulls with pulling := false, pullAgain := false } } :=
    ⟨h.source, h.sink, ⟨nofun, nofun⟩, h.bounded, hanswered, hrequested,
      ⟨fun _ => rfl, fun _ => rfl⟩, nofun,
      h.passed.imp id (And.imp id (And.imp id fun _ => .inl rfl)), h.released, h.cut, nofun,
      h.graceful⟩
  refine hbase.pulled (h.pulls.settle (h.pulling hfinished)) (fun hcalled => ⟨rfl, ?_, ?_⟩)
    fun hquiet => ?_
  · rw [PullLoop.settle_pulling]
    exact hcalled
  · exact PullLoop.settle_called hcalled
  · rw [PullLoop.settle_pulling]
    exact ⟨fun _ => hquiet, fun _ => rfl⟩

/-- `pull` is about to return, its chunk counted if it holds one. -/
theorem Sound.finishing (h : Sound r) {result : ReadResult α}
    (hresolved : r.pull = some (.resolved result))
    (hkept : RelayPull.held r.pull = [] ∨ ¬ Takes r) :
    Sound { r with
      received := r.received ++ RelayPull.held r.pull, pull := some .finished } := by
  have hreads : r.source.stream.reads = 0 := by
    rw [h.requested, hresolved]
    rfl
  refine ⟨h.source, h.sink, h.pulls, h.bounded, h.answered.trans (List.append_nil _).symm, hreads,
    ⟨nofun, fun hidle => ?_⟩, fun pull hpull hne => ?_, ?_, h.released, h.cut, nofun, h.graceful⟩
  · exact absurd (hresolved.symm.trans (h.engaged.mpr hidle)) nofun
  · exact absurd (Option.some_inj.mp hpull).symm hne
  · have hsame : r.received = r.sink.supplied := by
      refine h.passed.resolve_right fun hlost => ?_
      rcases hlost.2.2 with hnone | hfinished
      · exact absurd (hresolved.symm.trans hnone) nofun
      · exact absurd (hresolved.symm.trans hfinished) nofun
    change r.received ++ RelayPull.held r.pull = r.sink.supplied ∨ _
    rw [hresolved] at hkept ⊢
    cases result with
    | value chunk =>
      rcases hkept with hnone | hended
      · cases hnone
      · exact .inr ⟨⟨chunk, congrArg (· ++ [chunk]) hsame⟩, hended, .inr rfl⟩
    | done => exact .inl ((List.append_nil _).trans hsame)
    | failed => exact .inl ((List.append_nil _).trans hsame)

/-- The chunk of the read is passed on. -/
theorem Sound.passOn (h : Sound r) (hvalue : r.pull = some (.resolved (.value chunk)))
    (htakes : Takes r) : Sound { r with
      received := r.received ++ [chunk]
      pull := some .finished
      sink := r.sink.enqueue chunk } := by
  have hsupplied := Delivery.supplied_enqueue htakes chunk
  have hempty := h.empty _ hvalue nofun
  have hreads : r.source.stream.reads = 0 := by
    rw [h.requested, hvalue]
    rfl
  have htakes' : (r.sink.enqueue chunk).stream.canCloseOrEnqueue = true := by
    rw [Delivery.stream_enqueue, ReadableStream.enqueue_canCloseOrEnqueue]
    exact htakes
  have hanswered : r.source.delivered = r.received ++ [chunk] ++ [] := by
    rw [h.answered, hvalue]
    exact (List.append_nil _).symm
  refine ⟨h.source, h.sink.enqueue chunk, h.pulls, ?_, hanswered, hreads, ⟨nofun, fun hidle => ?_⟩,
    fun pull hpull hne => ?_, .inl ?_, fun hreleased => ?_, fun hcancelled => ?_, nofun,
    fun hended => absurd htakes' hended⟩
  · change (r.sink.enqueue chunk).stream.queue.length ≤ 1
    rcases Delivery.enqueue_cases htakes chunk with ⟨-, heq⟩ | ⟨-, heq⟩
    · rw [heq, hempty]
      exact Nat.zero_le 1
    · rw [heq, hempty]
      exact Nat.le_refl 1
  · exact absurd (hvalue.symm.trans (h.engaged.mpr hidle)) nofun
  · exact absurd (Option.some_inj.mp hpull).symm hne
  · change r.received ++ [chunk] = (r.sink.enqueue chunk).supplied
    rw [hsupplied, h.supplied_eq htakes]
  · exact absurd htakes (h.released hreleased)
  · exact absurd htakes (h.cut hcancelled).1

/-- The source is at its end and so is the sink. -/
theorem Sound.closes (h : Sound r) (hdone : r.pull = some (.resolved .done)) (htakes : Takes r) :
    Sound (Relay.release { r with pull := some .finished, sink := r.sink.close }) := by
  have hclosed := h.done hdone
  have hnot : ¬ r.sink.close.stream.canCloseOrEnqueue = true := by
    change ¬ r.sink.stream.close.canCloseOrEnqueue = true
    rw [ReadableStream.close_canCloseOrEnqueue]
    nofun
  have hall : r.source.supplied = r.sink.supplied := by
    have hcut : r.source.cancelled = false := by
      by_contra hcancelled
      rw [Bool.not_eq_false] at hcancelled
      exact (h.cut hcancelled).1 htakes
    rw [← h.source.drained hclosed hcut, h.answered, hdone, h.supplied_eq htakes]
    exact List.append_nil _
  have hanswered : r.source.delivered = r.received ++ [] := by
    rw [h.answered, hdone]
    rfl
  unfold Relay.release
  rw [if_neg (by simp [h.unreleased htakes])]
  refine ⟨⟨h.source.ordered, h.source.whole, fun hreads => absurd hreads (Nat.lt_irrefl 0),
    h.source.closing, h.source.ended, h.source.drained, h.source.cut⟩, h.sink.close, h.pulls,
    Nat.le_trans (Delivery.length_close_le _) h.bounded, hanswered, rfl,
    ⟨nofun, fun hidle => ?_⟩, fun pull hpull hne => ?_,
    .inl (h.supplied_eq htakes), fun _ => hnot, fun hcancelled => ?_, nofun,
    fun _ _ _ => ⟨hclosed, hall, rfl⟩⟩
  · exact absurd (hdone.symm.trans (h.engaged.mpr hidle)) nofun
  · exact absurd (Option.some_inj.mp hpull).symm hne
  · exact absurd htakes (h.cut hcancelled).1

/-- What `pull` may find when it goes on. -/
theorem pullResumed_cases (hresolved : r.pull.any (·.isResolved) = true) (stops : Bool) :
    (∃ chunk, r.pull = some (.resolved (.value chunk)) ∧ Takes r ∧
      r.pullResumed stops = callPullIfNeeded { r with
        received := r.received ++ [chunk], pull := some .finished, sink := r.sink.enqueue chunk }) ∨
    (r.pull = some (.resolved .done) ∧ Takes r ∧
      r.pullResumed stops = release { r with pull := some .finished, sink := r.sink.close }) ∨
    ∃ result, r.pull = some (.resolved result) ∧ (RelayPull.held r.pull = [] ∨ ¬ Takes r) ∧
      r.pullResumed stops = pullCaught { r with
        received := r.received ++ RelayPull.held r.pull, pull := some .finished } stops := by
  obtain ⟨pull, hpull, hresolved⟩ := (Option.any_eq_true _ _).mp hresolved
  unfold pullResumed
  cases pull with
  | requested => cases hresolved
  | finished => cases hresolved
  | resolved result =>
    rw [hpull]
    cases result with
    | value chunk =>
      by_cases htakes : Takes r
      · exact .inl ⟨chunk, rfl, htakes, if_pos htakes⟩
      · exact .inr (.inr ⟨_, rfl, .inr htakes, if_neg htakes⟩)
    | done =>
      by_cases htakes : Takes r
      · exact .inr (.inl ⟨rfl, htakes, if_pos htakes⟩)
      · refine .inr (.inr ⟨_, rfl, .inl rfl, ?_⟩)
        simp only [RelayPull.held, List.append_nil]
        exact if_neg htakes
    | failed =>
      refine .inr (.inr ⟨_, rfl, .inl rfl, ?_⟩)
      simp only [RelayPull.held, List.append_nil]

theorem Sound.pullResumed (h : Sound r) (hresolved : r.pull.any (·.isResolved) = true)
    (stops : Bool) : Sound (r.pullResumed stops) := by
  rcases pullResumed_cases hresolved stops with ⟨chunk, hpull, htakes, heq⟩ | ⟨hpull, htakes, heq⟩ |
    ⟨result, hpull, hkept, heq⟩
  · rw [heq]
    exact (h.passOn hpull htakes).callPullIfNeeded
  · rw [heq]
    exact h.closes hpull htakes
  · rw [heq]
    exact (h.finishing hpull hkept).pullCaught stops

theorem takes_read : Takes { r with sink := r.sink.read } ↔ Takes r := by
  unfold Takes
  simp only
  rw [Delivery.stream_read, ReadableStream.read_canCloseOrEnqueue]

/-- A read of the sink takes its chunk, or waits. -/
theorem Sound.withRead (h : Sound r) : Sound { r with sink := r.sink.read } := by
  have hsupplied : r.sink.read.supplied = r.sink.supplied := Delivery.supplied_read
  have hcancelled : r.sink.read.cancelled = r.sink.cancelled := Delivery.cancelled_read
  have hlength := r.sink.length_read_le
  refine ⟨h.source, h.sink.read, h.pulls, Nat.le_trans hlength h.bounded, h.answered, h.requested,
    h.engaged, fun pull hpull hne => ?_, ?_, fun hreleased => ?_, fun hcut => ?_, h.done,
    fun hended hkept hintact => ?_⟩
  · rw [h.empty pull hpull hne] at hlength
    exact List.eq_nil_of_length_eq_zero (Nat.le_zero.mp hlength)
  · rw [hsupplied]
    exact h.passed.imp id (And.imp id (And.imp takes_read.not.mpr id))
  · exact takes_read.not.mpr (h.released hreleased)
  · obtain ⟨hended, hgone⟩ := h.cut hcut
    exact ⟨takes_read.not.mpr hended, hgone.imp hcancelled.trans (Delivery.read_errored _).mpr⟩
  · rw [hsupplied]
    exact h.graceful (takes_read.not.mp hended) (hcancelled.symm.trans hkept)
      ((Delivery.read_errored _).not.mp hintact)

theorem Sound.read (h : Sound r) : Sound r.read := by
  unfold Relay.read
  simp only
  split_ifs
  · exact h.withRead.callPullIfNeeded
  · exact h.withRead

theorem finished_of_enabled (h : r.enabled .pullSettled = true) : r.pull = some .finished := by
  obtain ⟨pull, hpull, hfinished⟩ := (Option.any_eq_true _ _).mp h
  cases pull with
  | requested => cases hfinished
  | resolved result => cases hfinished
  | finished => exact hpull

/-- One case per event; a chunk moves from the source through `pull` to the sink and never back. -/
theorem Sound.step (h : Sound r) (hs : machine.Step r e t) : Sound t := by
  obtain ⟨he, rfl⟩ := hs
  cases e with
  | enqueue chunk => exact h.enqueue chunk
  | close => exact h.closeSource
  | fail => exact h.errorSource
  | read => exact h.read
  | cancel => exact h.cancel
  | abort => exact h.abort
  | sourceFailed => exact h.sourceFailed
  | started => exact h.started (Bool.not_eq_true' _ ▸ he)
  | pullResumed stops => exact h.pullResumed he stops
  | pullSettled => exact h.settled (finished_of_enabled he)
  | unlocked => exact h.release (h.released (.inr he))

/-! ### What passes -/

theorem Sound.delivered_prefix (h : Sound r) :
    r.sink.delivered <+: r.received ∧ r.received <+: r.source.supplied := by
  have hsupplied : r.sink.supplied <+: r.received := by
    rcases h.passed with heq | ⟨⟨chunk, heq⟩, -⟩
    · exact heq ▸ List.prefix_refl _
    · rw [heq]
      exact List.prefix_append _ _
  have hreceived : r.received <+: r.source.delivered := by
    rw [h.answered]
    exact List.prefix_append _ _
  exact ⟨h.sink.ordered.trans hsupplied, hreceived.trans h.source.ordered⟩

theorem Sound.received_le (h : Sound r) : r.received.length ≤ r.sink.supplied.length + 1 := by
  rcases h.passed with heq | ⟨⟨chunk, heq⟩, -⟩
  · rw [heq]
    exact Nat.le_succ _
  · rw [heq, List.length_append]
    exact Nat.le_of_eq rfl

theorem Sound.conserves (h : Sound r) (htakes : Takes r)
    (hstate : r.source.stream.state = .readable) :
    ∃ held : List α, held.length ≤ 1 ∧ r.source.supplied =
      r.sink.delivered ++ r.sink.stream.queue ++ held ++ r.source.stream.queue := by
  refine ⟨RelayPull.held r.pull, RelayPull.length_held_le _, ?_⟩
  · rw [← h.sink.whole (ReadableStream.state_of_canCloseOrEnqueue htakes), ← h.supplied_eq htakes,
      ← h.answered]
    exact h.source.whole hstate

/-- A sink that has ended by itself has given all of the source. -/
theorem Sound.delivers_all (h : Sound r) (hclosed : r.sink.stream.state = .closed)
    (hkept : r.sink.cancelled = false) : r.sink.delivered = r.source.supplied := by
  have hintact : r.sink.stream.state ≠ .errored := by
    rw [hclosed]
    nofun
  have hended : ¬ Takes r := not_takes_of_state (by rw [hclosed]; nofun)
  rw [h.sink.drained hclosed hkept, (h.graceful hended hkept hintact).2.1]

/-! ### What is lost -/

/-- A chunk counted is with the reader or in the queue, or it is the one that was in the queue, or
in a pull, when the sink ended. -/
structure Spares (r : Relay α) : Prop where
  kept : r.sink.stream.state = .readable → r.received.length ≤ r.sink.kept
  lost : r.received.length + RelayPull.pending r.pull ≤ r.sink.kept + 1

theorem spares_new : Spares (new : Relay α) where
  kept _ := Nat.le_refl 0
  lost := Nat.zero_le 1

theorem Spares.of_same (h : Spares r) (hreceived : t.received = r.received)
    (hsink : t.sink = r.sink) (hpull : RelayPull.pending t.pull = RelayPull.pending r.pull) :
    Spares t := by
  refine ⟨?_, ?_⟩
  · rw [hreceived, hsink]
    exact h.kept
  · rw [hreceived, hsink, hpull]
    exact h.lost

theorem Spares.withSource (h : Spares r) (source : Delivery α) : Spares (r.withSource source) :=
  h.of_same rfl rfl RelayPull.pending_ending

theorem Spares.cancelSource (h : Spares r) : Spares r.cancelSource := by
  unfold Relay.cancelSource
  split_ifs
  · exact h
  · exact h.withSource _

theorem Spares.release (h : Spares r) : Spares r.release := by
  unfold Relay.release
  split_ifs
  · exact h
  · exact h.of_same rfl rfl RelayPull.pending_ending

theorem Spares.enqueue (h : Spares r) (hs : Sound r) (chunk : α) : Spares (r.enqueue chunk) := by
  unfold Relay.enqueue
  split_ifs with hopen hreads
  · refine h.of_same rfl rfl ?_
    rw [hs.requested] at hreads
    rw [RelayPull.asked_pos.mp hreads]
    rfl
  · exact h.of_same rfl rfl rfl
  · exact h

/-- A pull in progress has found the queue empty, so that the end of the sink costs one chunk at
most. -/
theorem Spares.ends (h : Spares r) (hs : Sound r) (hstate : r.sink.stream.state = .readable)
    (hsink : sink.stream.state ≠ .readable) (hdelivered : sink.delivered = r.sink.delivered) :
    Spares { r with sink := sink } := by
  refine ⟨fun hopen => absurd hopen hsink, ?_⟩
  have hkept : r.sink.delivered.length ≤ sink.kept := by
    rw [Delivery.kept, hdelivered]
    exact Nat.le_add_right _ _
  change r.received.length + RelayPull.pending r.pull ≤ sink.kept + 1
  rcases RelayPull.pending_cases r.pull with ⟨hpending, -⟩ | ⟨hpending, pull, hpull, hunfinished⟩
  · have hreceived := h.kept hstate
    have hbounded := hs.bounded
    rw [Delivery.kept] at hreceived
    omega
  · have hlost := h.lost
    rw [Delivery.kept, hs.empty pull hpull hunfinished, List.length_nil] at hlost
    omega

theorem Spares.errored (h : Spares r) (hs : Sound r) : Spares { r with sink := r.sink.error } := by
  rcases r.sink.error_cases with ⟨-, heq⟩ | ⟨hstate, heq⟩
  · rw [heq]
    exact h
  · rw [heq]
    exact h.ends hs hstate nofun rfl

theorem Spares.cancel (h : Spares r) (hs : Sound r) : Spares r.cancel := by
  unfold Relay.cancel
  split_ifs with hstate
  · have heq := (r.sink.cancel_cases.resolve_left fun hne => hne.1 hstate).2
    have hcancelled : Spares { r with sink := r.sink.cancel } := by
      rw [heq]
      exact h.ends hs hstate nofun rfl
    exact hcancelled.cancelSource.of_same rfl rfl rfl
  · exact h

theorem Spares.abort (h : Spares r) (hs : Sound r) : Spares r.abort :=
  (h.errored hs).cancelSource.of_same rfl rfl rfl

/-- No chunk has been lost while the sink is open, whatever the read of the source brings. -/
theorem Spares.beginPull (h : Spares r) (hopen : r.sink.stream.state = .readable) :
    Spares r.beginPull := by
  have hlost (pull : Option (RelayPull α)) :
      r.received.length + RelayPull.pending pull ≤ r.sink.kept + 1 :=
    Nat.add_le_add (h.kept hopen) (RelayPull.pending_le pull)
  unfold Relay.beginPull
  split_ifs
  · exact ⟨h.kept, hlost _⟩
  · exact ⟨h.kept, hlost _⟩

theorem Spares.pulled (h : Spares r) {result : Bool × PullLoop}
    (hcalled : result.1 = true → r.shouldCallPull = true) : Spares (r.pulled result) := by
  have hpulls : Spares { r with pulls := result.2 } := h.of_same rfl rfl rfl
  unfold Relay.pulled
  simp only
  split_ifs with hcall
  · exact hpulls.beginPull
      (ReadableStream.state_of_canCloseOrEnqueue (takes_of_shouldCallPull (hcalled hcall)))
  · exact hpulls

theorem Spares.callPullIfNeeded (h : Spares r) : Spares r.callPullIfNeeded :=
  h.pulled fun hcalled => PullLoop.callPullIfNeeded_called hcalled

/-- The chunk that a pull still held when the sink ended is lost; the queue lost none. -/
theorem Spares.pullCaught (h : Spares r) (hs : Sound r) {result : ReadResult α}
    (hresolved : r.pull = some (.resolved result)) (stops : Bool) :
    Spares (Relay.pullCaught { r with
      received := r.received ++ RelayPull.held r.pull, pull := some .finished } stops) := by
  have hlost := h.lost
  have hheld := RelayPull.length_held_le r.pull
  have hpending : RelayPull.pending r.pull = 1 := by
    rw [hresolved]
    rfl
  have hempty := hs.empty _ hresolved nofun
  have herrored : Spares { r with
      received := r.received ++ RelayPull.held r.pull, pull := some .finished
      sink := r.sink.error } := by
    refine ⟨fun hopen => absurd hopen (ReadableStream.error_ne_readable _), ?_⟩
    change (r.received ++ RelayPull.held r.pull).length + 0 ≤ r.sink.error.kept + 1
    have hkept : r.sink.error.kept = r.sink.kept := by
      rcases r.sink.error_cases with ⟨-, heq⟩ | ⟨-, heq⟩
      · rw [heq]
      · rw [heq, Delivery.kept, Delivery.kept, hempty]
        rfl
    rw [hkept, List.length_append]
    omega
  unfold Relay.pullCaught
  cases stops with
  | false => exact herrored.release
  | true => exact herrored.cancelSource.release

/-- A chunk that a pull brings is kept where the sink takes it, and lost where the sink has
ended. -/
theorem Spares.pullResumed (h : Spares r) (hs : Sound r)
    (hresolved : r.pull.any (·.isResolved) = true) (stops : Bool) :
    Spares (r.pullResumed stops) := by
  have hlost := h.lost
  rcases pullResumed_cases hresolved stops with ⟨chunk, hpull, htakes, heq⟩ | ⟨hpull, htakes, heq⟩ |
    ⟨result, hpull, -, heq⟩
  · have hkept := h.kept (ReadableStream.state_of_canCloseOrEnqueue htakes)
    have hpassed : Spares { r with
        received := r.received ++ [chunk]
        pull := some .finished
        sink := r.sink.enqueue chunk } := by
      have hcount : (r.received ++ [chunk]).length ≤ (r.sink.enqueue chunk).kept := by
        rw [Delivery.kept_enqueue htakes, List.length_append]
        exact Nat.succ_le_succ hkept
      exact ⟨fun _ => hcount, Nat.le_succ_of_le hcount⟩
    rw [heq]
    exact hpassed.callPullIfNeeded
  · have hkept := h.kept (ReadableStream.state_of_canCloseOrEnqueue htakes)
    have hclosed : Spares { r with pull := some .finished, sink := r.sink.close } := by
      have hcount : r.received.length ≤ r.sink.close.kept := by
        rw [Delivery.kept_close]
        exact hkept
      exact ⟨fun _ => hcount, Nat.le_succ_of_le hcount⟩
    rw [heq]
    exact hclosed.release
  · rw [heq]
    exact h.pullCaught hs hpull stops

/-- A read gives a chunk to the reader that was in the queue. -/
theorem Spares.read (h : Spares r) : Spares r.read := by
  have hread : Spares { r with sink := r.sink.read } := by
    refine ⟨fun hopen => ?_, ?_⟩
    · change r.received.length ≤ r.sink.read.kept
      rw [Delivery.kept_read]
      exact h.kept (Delivery.readable_of_read hopen)
    · change r.received.length + RelayPull.pending r.pull ≤ r.sink.read.kept + 1
      rw [Delivery.kept_read]
      exact h.lost
  unfold Relay.read
  simp only
  split_ifs
  · exact hread.callPullIfNeeded
  · exact hread

/-- Only the end of the sink and a pull behind it lose a chunk, and never both. -/
theorem Spares.step (h : Spares r) (hs : Sound r) (hstep : machine.Step r e t) : Spares t := by
  obtain ⟨he, rfl⟩ := hstep
  cases e with
  | enqueue chunk => exact h.enqueue hs chunk
  | close => exact h.withSource _
  | fail => exact h.withSource _
  | read => exact h.read
  | cancel => exact h.cancel hs
  | abort => exact h.abort hs
  | sourceFailed => exact (h.errored hs).release
  | started => exact h.pulled PullLoop.callPullIfNeeded_called
  | pullResumed stops => exact h.pullResumed hs he stops
  | pullSettled =>
    have hfinished := finished_of_enabled he
    have hidle : Spares { r with pull := none } :=
      h.of_same rfl rfl (by rw [hfinished]; rfl)
    exact hidle.pulled PullLoop.settle_called
  | unlocked => exact h.release

/-- At most one chunk that was counted is lost. -/
theorem received_le_of_reachable (h : machine.Reachable r) :
    r.received.length ≤ r.sink.delivered.length + r.sink.stream.queue.length + 1 := by
  have hboth : Sound r ∧ Spares r := by
    refine h.invariant (P := fun r => Sound r ∧ Spares r) (fun s hs => ?_)
      fun s e t hstep hs => ⟨hs.1.step hstep, hs.2.step hs.1 hstep⟩
    obtain rfl : s = new := hs
    exact ⟨sound_new, spares_new⟩
  exact Nat.le_trans (Nat.le_add_right _ _) hboth.2.lost

end Relay

end NestWebTransport
