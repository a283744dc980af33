import NestWebTransport.Driver.NativeStreamQueue

/-! Where the native streams of a collection end up. -/
namespace NestWebTransport

namespace IncomingStreamQueue

variable {bidi : Bool} {q t : IncomingStreamQueue} {e : StreamQueueEvent}
  {es : List StreamQueueEvent} {all accepted delivered discarded : List Nat}

/-- The ids are told apart, so that each is in one place. -/
structure Kept (bidi : Bool) (q : IncomingStreamQueue) : Prop where
  bounded : q.queue.length ≤ 256
  distinct : q.accepted.Nodup
  accounted : q.accepted.Perm
    (q.delivered ++ q.queue ++ (q.discarded ++ q.refused ++ q.dropped))
  ordered : (q.delivered ++ q.queue).Sublist q.accepted
  held : q.readable.queue = []
  released : q.commands = q.discarded.flatMap (releases bidi)

theorem Sound.kept (h : Sound bidi q) : Kept bidi q :=
  ⟨h.bounded, h.nodup, h.conserves.accounted, h.conserves.ordered, h.direct.queue, h.released⟩

theorem Sound.queue_of_ended (h : Sound bidi q) (hstate : q.readable.state ≠ .readable) :
    q.queue = [] := by
  cases hcancelled : q.cancelled with
  | true => exact h.emptied hcancelled
  | false =>
    by_contra hqueue
    exact hstate (h.going hcancelled (.inr hqueue))

theorem Sound.shut_of_ended (h : Sound bidi q) (hstate : q.readable.state ≠ .readable) :
    q.cancelled = true ∨ q.ended = true := by
  cases hcancelled : q.cancelled with
  | true => exact .inl rfl
  | false =>
    right
    by_contra hended
    exact hstate (h.going hcancelled (.inl (by simpa using hended)))

/-- An id that comes too late is discarded. -/
theorem accept_of_shut {id : Nat} (hshut : q.cancelled = true ∨ q.ended = true) :
    q.accept bidi id = { q with accepted := q.accepted ++ [id] }.discard bidi id := by
  refine if_pos ?_
  rcases hshut with hshut | hshut <;> simp [hshut]

/-! ### Behind a cancellation -/

/-- The collection has ended: since it did, every id has been discarded and none delivered. -/
structure Ended (accepted delivered discarded : List Nat) (q : IncomingStreamQueue) : Prop where
  state : q.readable.state ≠ .readable
  delivered : q.delivered = delivered
  later : ∃ later, q.accepted = accepted ++ later ∧ q.discarded = discarded ++ later

/-- Behind the end nothing is delivered any more: what comes is discarded. -/
theorem Ended.next (h : Ended accepted delivered discarded q) (hsound : Sound bidi q)
    (he : q.enabled e = true) : Ended accepted delivered discarded (q.next bidi e) := by
  have hqueue := hsound.queue_of_ended h.state
  obtain ⟨later, haccepted, hdiscarded⟩ := h.later
  cases e with
  | accept id =>
    change Ended _ _ _ (q.accept bidi id)
    rw [accept_of_shut (hsound.shut_of_ended h.state)]
    refine ⟨h.state, h.delivered, later ++ [id], ?_, ?_⟩
    · change q.accepted ++ [id] = _
      rw [haccepted, List.append_assoc]
    · change q.discarded ++ [id] = _
      rw [hdiscarded, List.append_assoc]
  | read =>
    rcases hsound.direct.read with ⟨-, hread⟩ | ⟨hstate, -⟩
    · change Ended _ _ _ { q with readable := q.readable.read.2 }
      rw [hread]
      exact h
    · exact absurd hstate h.state
  | pull =>
    have hstate := (hsound.direct.shouldCallPull_iff.mp he).1
    exact absurd hstate h.state
  | cancel =>
    change Ended _ _ _ (q.cancel bidi)
    unfold IncomingStreamQueue.cancel
    rw [if_neg h.state]
    exact h
  | close =>
    change Ended _ _ _ q.close
    unfold IncomingStreamQueue.close
    simp only
    rw [if_pos hqueue]
    exact ⟨hsound.direct.close.2, h.delivered, h.later⟩
  | error => exact ⟨hsound.direct.error.2, h.delivered, h.later⟩
  | coreClosed => exact ⟨h.state, h.delivered, h.later⟩

theorem ended_cancel (h : Sound bidi q) :
    Ended q.accepted q.delivered (q.discarded ++ q.queue) (q.cancel bidi) := by
  unfold IncomingStreamQueue.cancel
  split
  · rename_i hstate
    have hcancel : q.readable.cancel = q.readable.terminate .closed := if_pos hstate
    simp only [foldl_discard]
    refine ⟨?_, rfl, [], (List.append_nil _).symm, (List.append_nil _).symm⟩
    change q.readable.cancel.state ≠ .readable
    rw [hcancel]
    nofun
  · rename_i hstate
    refine ⟨hstate, rfl, [], (List.append_nil _).symm, ?_⟩
    rw [h.queue_of_ended hstate, List.append_nil, List.append_nil]

/-- An ended collection stays ended through any run. -/
theorem ended_run (h : (machine bidi).Run q es t) (hsound : Sound bidi q)
    (hq : Ended accepted delivered discarded q) :
    Sound bidi t ∧ Ended accepted delivered discarded t := by
  have hstep : ∀ q e t, (machine bidi).Step q e t →
      Sound bidi q ∧ Ended accepted delivered discarded q →
        Sound bidi t ∧ Ended accepted delivered discarded t := by
    rintro q e t ⟨he, rfl⟩ ⟨hsound, hq⟩
    exact ⟨hsound.next he, hq.next hsound he⟩
  exact h.invariant (P := fun q => Sound bidi q ∧ Ended accepted delivered discarded q) hstep
    ⟨hsound, hq⟩

/-! ### Behind a close -/

def KeepsQueued : StreamQueueEvent → Prop
  | .cancel | .error => False
  | .accept _ | .read | .pull | .close | .coreClosed => True

/-- A queue that takes no more ids and has yet to deliver the last of `all`. -/
structure Emptying (all : List Nat) (q : IncomingStreamQueue) : Prop where
  ended : q.ended = true
  rest : q.delivered ++ q.queue = all

theorem emptying_close (q : IncomingStreamQueue) : Emptying (q.delivered ++ q.queue) q.close := by
  unfold IncomingStreamQueue.close
  simp only
  split
  · exact ⟨rfl, rfl⟩
  · exact ⟨rfl, rfl⟩

/-- A closed collection delivers what it holds, in order, as long as nothing drops it. -/
theorem Emptying.next (h : Emptying all q) (hsound : Sound bidi q) (he : q.enabled e = true)
    (hkeeps : KeepsQueued e) : Emptying all (q.next bidi e) := by
  cases e with
  | accept id =>
    change Emptying all (q.accept bidi id)
    rw [accept_of_shut (.inr h.ended)]
    exact ⟨h.ended, h.rest⟩
  | read => exact ⟨h.ended, h.rest⟩
  | pull =>
    have hstate := (hsound.direct.shouldCallPull_iff.mp he).1
    change Emptying all q.pull
    cases hqueue : q.queue with
    | nil => exact absurd hstate (hsound.finished (.inr ⟨h.ended, hqueue⟩))
    | cons id rest =>
      have hrest : (q.delivered ++ [id]) ++ rest = all := by
        rw [← h.rest, hqueue, List.append_assoc]
        rfl
      rw [pull_cons hqueue, enqueue_eq (by exact hsound.direct) (by exact hstate)]
      split
      · exact ⟨h.ended, hrest⟩
      · exact ⟨h.ended, hrest⟩
  | cancel => exact hkeeps.elim
  | close => exact h.rest ▸ emptying_close q
  | error => exact hkeeps.elim
  | coreClosed => exact ⟨h.ended, h.rest⟩

/-- A run without a cancel or an error only delivers what a closed collection holds. -/
theorem emptying_run (h : (machine bidi).Run q es t) (hsound : Sound bidi q)
    (hq : Emptying all q) (hes : ∀ e ∈ es, KeepsQueued e) : Sound bidi t ∧ Emptying all t := by
  have hstep : ∀ q e t, KeepsQueued e → (machine bidi).Step q e t →
      Sound bidi q ∧ Emptying all q → Sound bidi t ∧ Emptying all t := by
    rintro q e t hkeeps ⟨he, rfl⟩ ⟨hsound, hq⟩
    exact ⟨hsound.next he, hq.next hsound he hkeeps⟩
  exact h.invariant_of_events (P := fun q => Sound bidi q ∧ Emptying all q) KeepsQueued hstep hes
    ⟨hsound, hq⟩

/-! ### Overflow -/

theorem enqueue_refused (id : Nat) : (q.enqueue id).refused = q.refused := by
  unfold enqueue
  split <;> rfl

/-- A stream is refused only by a queue that is open and full, with no read waiting. -/
theorem refused_of_accept {id : Nat} (h : (q.accept bidi id).refused ≠ q.refused) :
    q.cancelled = false ∧ q.ended = false ∧ q.isClosed = false ∧ q.waiting = false ∧
      256 ≤ q.queue.length := by
  unfold accept at h
  simp only at h
  split at h
  · exact absurd rfl h
  · rename_i hopen
    simp only [Bool.or_eq_true, not_or, Bool.not_eq_true] at hopen
    split at h
    · rename_i hfull
      simp only [Bool.and_eq_true, Bool.not_eq_true', decide_eq_true_eq] at hfull
      exact ⟨hopen.1.1, hopen.1.2, hopen.2, hfull.1, hfull.2⟩
    · split at h
      · exact absurd (enqueue_refused id) h
      · exact absurd rfl h

/-- The streams are conserved in every state of a run. Once the collection is cancelled the streams
it holds and all that come later are discarded; once it is closed, what it holds is delivered before
it ends; and it overflows only while it is open and full, with no read that waits: a read that finds
nothing calls `pull`, and `waiting` holds until that pull is answered. -/
theorem streams_conserved (bidi : Bool) (es : List StreamQueueEvent) (q : IncomingStreamQueue)
    (h : (machine bidi).Run new es q) :
    Kept bidi q ∧
      (∀ fs t, (machine bidi).Run (q.cancel bidi) fs t →
        t.queue = [] ∧ t.delivered = q.delivered ∧
          ∃ later, t.accepted = q.accepted ++ later ∧
            t.discarded = q.discarded ++ q.queue ++ later) ∧
      (∀ fs t, (∀ e ∈ fs, KeepsQueued e) → (machine bidi).Run q.close fs t →
        t.delivered ++ t.queue = q.delivered ++ q.queue ∧
          (t.readable.state ≠ .readable → t.delivered = q.delivered ++ q.queue)) ∧
      ∀ id, (q.accept bidi id).refused ≠ q.refused →
        q.cancelled = false ∧ q.ended = false ∧ q.isClosed = false ∧ q.waiting = false ∧
          q.queue.length = 256 := by
  have hsound := sound_run h sound_new
  refine ⟨hsound.kept, fun fs t hrun => ?_, fun fs t hkeeps hrun => ?_, fun id hrefused => ?_⟩
  · obtain ⟨ht, hended⟩ := ended_run hrun hsound.cancel (ended_cancel hsound)
    exact ⟨ht.queue_of_ended hended.state, hended.delivered, hended.later⟩
  · obtain ⟨ht, hemptying⟩ := emptying_run hrun hsound.close (emptying_close q) hkeeps
    refine ⟨hemptying.rest, fun hstate => ?_⟩
    have hrest := hemptying.rest
    rwa [ht.queue_of_ended hstate, List.append_nil] at hrest
  · obtain ⟨hcancelled, hended, hclosed, hwaiting, hfull⟩ := refused_of_accept hrefused
    exact ⟨hcancelled, hended, hclosed, hwaiting, Nat.le_antisymm hsound.bounded hfull⟩

/-- Two streams, of which the first meets a read that waits; the second is delivered after the
close, and the third one comes too late. -/
theorem streams_conserved_close :
    ∃ q t, (machine true).Run new [.read, .pull, .accept 4, .accept 8] q ∧
      (machine true).Run q.close [.accept 12, .read, .pull] t ∧ q.queue = [8] ∧
        t.readable.state ≠ .readable ∧ t.delivered = [4, 8] := by
  obtain ⟨q, hrun, ⟨hqueue, hdelivered⟩, t, hrest, hended⟩ :
      ∃ q, (machine true).Run new [.read, .pull, .accept 4, .accept 8] q ∧
        (q.queue = [8] ∧ q.delivered = [4]) ∧
          ∃ t, (machine true).Run q.close [.accept 12, .read, .pull] t ∧
            t.readable.state ≠ .readable := by
    refine ⟨_, (program true).execute_run rfl, ⟨rfl, rfl⟩, ?_⟩
    exact (program true).exists_run _ _ (fun t => t.readable.state ≠ .readable) (by decide +kernel)
  obtain ⟨-, -, hclose, -⟩ := streams_conserved true _ q hrun
  refine ⟨q, t, hrun, hrest, hqueue, hended, ?_⟩
  rw [(hclose _ t (by simp [KeepsQueued]) hrest).2 hended, hdelivered, hqueue]
  rfl

end IncomingStreamQueue

end NestWebTransport
