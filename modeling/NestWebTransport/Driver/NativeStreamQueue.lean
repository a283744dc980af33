import NestWebTransport.Foundation.Conveyor
import NestWebTransport.Foundation.Program
import NestWebTransport.Foundation.ReadableStream
import Mathlib.Data.List.Nodup

/-! `incomingStreamQueue` of the vendored session: the native streams its collections hold back. -/
namespace NestWebTransport

/-- What `discard` asks of the session core. -/
inductive CoreCommand
  | stopSending (id : Nat)
  | unregisterReceive (id : Nat)
  | resetStream (id : Nat)
  | unregisterSend (id : Nat)
  deriving DecidableEq, Repr

/-- The queue, with `core.isClosed`, the ids that `accept` was called with, and what became of them:
`delivered` to a read, `discarded`, `refused` by `overflow`, `dropped` by `error`. `waiting` while a
`pull` that found nothing is unanswered. -/
structure IncomingStreamQueue where
  readable : ReadableStream Nat
  waiting : Bool
  cancelled : Bool
  ended : Bool
  queue : List Nat
  isClosed : Bool
  commands : List CoreCommand
  accepted : List Nat
  delivered : List Nat
  discarded : List Nat
  refused : List Nat
  dropped : List Nat

/-- The reader never releases its lock with a read pending. -/
inductive StreamQueueEvent
  | accept (id : Nat)
  | read
  | pull
  | cancel
  | close
  | error
  | coreClosed
  deriving DecidableEq, Repr

namespace IncomingStreamQueue

variable (bidi : Bool) (q : IncomingStreamQueue) (id : Nat)

def new : IncomingStreamQueue where
  readable := .new
  waiting := false
  cancelled := false
  ended := false
  queue := []
  isClosed := false
  commands := []
  accepted := []
  delivered := []
  discarded := []
  refused := []
  dropped := []

def releases : List CoreCommand :=
  [.stopSending id, .unregisterReceive id] ++
    if bidi then [.resetStream id, .unregisterSend id] else []

def discard : IncomingStreamQueue :=
  { q with commands := q.commands ++ releases bidi id, discarded := q.discarded ++ [id] }

/-- `controller.enqueue`, which throws where the collection is closed. -/
def enqueue : IncomingStreamQueue :=
  if q.readable.canCloseOrEnqueue then
    { q with readable := q.readable.enqueue id, delivered := q.delivered ++ [id] }
  else q

/-- The session is asked to close. -/
def overflow : IncomingStreamQueue := { q with refused := q.refused ++ [id] }

def safeClose : IncomingStreamQueue := { q with readable := q.readable.close }

def accept : IncomingStreamQueue :=
  let q := { q with accepted := q.accepted ++ [id] }
  if q.cancelled || q.ended || q.isClosed then q.discard bidi id
  else if !q.waiting && 256 ≤ q.queue.length then q.overflow id
  else if q.waiting then { q with waiting := false }.enqueue id
  else { q with queue := q.queue ++ [id] }

def pull : IncomingStreamQueue :=
  match q.queue with
  | id :: rest =>
    let q := { q with queue := rest }.enqueue id
    if q.ended && q.queue = [] then q.safeClose else q
  | [] => if q.ended then q.safeClose else { q with waiting := true }

/-- The `cancel` of the stream, which it calls unless it has ended. -/
def cancel : IncomingStreamQueue :=
  if q.readable.state = .readable then
    let q := { q with readable := q.readable.cancel, cancelled := true, waiting := false }
    { q.queue.foldl (discard bidi) q with queue := [] }
  else q

def close : IncomingStreamQueue :=
  let q := { q with ended := true }
  if q.queue = [] then q.safeClose else q

def error : IncomingStreamQueue :=
  { q with
    ended := true
    dropped := q.dropped ++ q.queue
    queue := []
    readable := q.readable.error }

/-- Every id is accepted once, and `pull` runs where the stream wants one. -/
def enabled : StreamQueueEvent → Bool
  | .accept id => !q.accepted.contains id
  | .pull => q.readable.shouldCallPull 0
  | _ => true

def next : StreamQueueEvent → IncomingStreamQueue
  | .accept id => q.accept bidi id
  | .read => { q with readable := q.readable.read.2 }
  | .pull => q.pull
  | .cancel => q.cancel bidi
  | .close => q.close
  | .error => q.error
  | .coreClosed => { q with isClosed := true }

def program : Program IncomingStreamQueue StreamQueueEvent := ⟨new, enabled, next bidi⟩

def machine : Machine IncomingStreamQueue StreamQueueEvent := (program bidi).machine

/-! ### What the queue keeps -/

variable {bidi} {q t : IncomingStreamQueue} {id : Nat} {e : StreamQueueEvent}
  {es : List StreamQueueEvent}

structure Sound (bidi : Bool) (q : IncomingStreamQueue) : Prop where
  direct : q.readable.Direct
  bounded : q.queue.length ≤ 256
  going : q.cancelled = false → q.ended = false ∨ q.queue ≠ [] → q.readable.state = .readable
  finished : q.cancelled = true ∨ (q.ended = true ∧ q.queue = []) → q.readable.state ≠ .readable
  emptied : q.cancelled = true → q.queue = []
  waiting : q.waiting = true →
    q.queue = [] ∧ (q.ended = false → q.cancelled = false ∧ 0 < q.readable.reads)
  nodup : q.accepted.Nodup
  conserves : Conserves q.accepted q.delivered q.queue (q.discarded ++ q.refused ++ q.dropped)
  released : q.commands = q.discarded.flatMap (releases bidi)

theorem sound_new : Sound bidi new where
  direct := ⟨rfl, rfl, fun _ => rfl⟩
  bounded := Nat.zero_le _
  going _ _ := rfl
  finished := by
    rintro (h | ⟨h, -⟩) <;> cases h
  emptied _ := rfl
  waiting := nofun
  nodup := List.nodup_nil
  conserves := .nil
  released := rfl

theorem enqueue_eq (hdirect : q.readable.Direct) (hstate : q.readable.state = .readable) :
    q.enqueue id =
      { q with readable := q.readable.enqueue id, delivered := q.delivered ++ [id] } := by
  refine if_pos ?_
  simp [ReadableStream.canCloseOrEnqueue, hstate, hdirect.unrequested]

theorem pull_cons {rest : List Nat} (hqueue : q.queue = id :: rest) :
    q.pull =
      if ({ q with queue := rest }.enqueue id).ended &&
          ({ q with queue := rest }.enqueue id).queue = [] then
        ({ q with queue := rest }.enqueue id).safeClose
      else { q with queue := rest }.enqueue id := by
  unfold pull
  rw [hqueue]

theorem foldl_discard (ids : List Nat) (q : IncomingStreamQueue) :
    ids.foldl (discard bidi) q =
      { q with
        commands := q.commands ++ ids.flatMap (releases bidi)
        discarded := q.discarded ++ ids } := by
  induction ids generalizing q with
  | nil => simp
  | cons id ids ih =>
    rw [List.foldl_cons, ih, List.flatMap_cons]
    simp [discard]

theorem Sound.nodup_accept (h : Sound bidi q) (hid : id ∉ q.accepted) :
    (q.accepted ++ [id]).Nodup := by
  rw [← List.concat_eq_append]
  exact h.nodup.concat hid

/-- A stream that is discarded has its place among the discarded, once. -/
theorem Sound.discard (h : Sound bidi q) (hid : id ∉ q.accepted) :
    Sound bidi ({ q with accepted := q.accepted ++ [id] }.discard bidi id) where
  direct := h.direct
  bounded := h.bounded
  going := h.going
  finished := h.finished
  emptied := h.emptied
  waiting := h.waiting
  nodup := h.nodup_accept hid
  conserves := by
    refine (h.conserves.lose id).congr ?_
    change (_ ++ [id]).Perm (q.discarded ++ [id] ++ q.refused ++ q.dropped)
    simp only [List.append_assoc]
    refine List.Perm.append_left _ ?_
    rw [← List.append_assoc]
    exact List.perm_append_comm
  released := by
    change q.commands ++ releases bidi id = (q.discarded ++ [id]).flatMap (releases bidi)
    rw [h.released, List.flatMap_append, List.flatMap_singleton]

/-- A stream that overflows has its place among the refused, once. -/
theorem Sound.overflow (h : Sound bidi q) (hid : id ∉ q.accepted) :
    Sound bidi ({ q with accepted := q.accepted ++ [id] }.overflow id) where
  direct := h.direct
  bounded := h.bounded
  going := h.going
  finished := h.finished
  emptied := h.emptied
  waiting := h.waiting
  nodup := h.nodup_accept hid
  conserves := by
    refine (h.conserves.lose id).congr ?_
    change (_ ++ [id]).Perm (q.discarded ++ (q.refused ++ [id]) ++ q.dropped)
    simp only [List.append_assoc]
    refine List.Perm.append_left _ (List.Perm.append_left _ ?_)
    exact List.perm_append_comm
  released := h.released

/-- A new stream is discarded, refused, delivered to the pull that waits or queued. -/
theorem Sound.accept (h : Sound bidi q) (hid : id ∉ q.accepted) :
    Sound bidi (q.accept bidi id) := by
  have hnodup := h.nodup_accept hid
  unfold IncomingStreamQueue.accept
  simp only
  split
  · exact h.discard hid
  · rename_i hopen
    simp only [Bool.or_eq_true, not_or, Bool.not_eq_true] at hopen
    obtain ⟨⟨hcancelled, hended⟩, -⟩ := hopen
    have hstate := h.going hcancelled (.inl hended)
    split
    · exact h.overflow hid
    · rename_i hroom
      cases hwaiting : q.waiting with
      | true =>
        obtain ⟨hqueue, hreads⟩ := h.waiting hwaiting
        obtain ⟨hdirect, hkept⟩ := h.direct.enqueue (hreads hended).2 id
        have hcons := h.conserves
        rw [hqueue] at hcons
        rw [if_pos rfl, enqueue_eq (by exact h.direct) (by exact hstate)]
        refine ⟨hdirect, h.bounded, fun _ _ => hkept.trans hstate, fun hover => ?_, h.emptied,
          nofun, hnodup, ?_, h.released⟩
        · exact absurd hstate (h.finished hover)
        · change Conserves (q.accepted ++ [id]) (q.delivered ++ [id]) q.queue _
          rw [hqueue]
          exact hcons.handDirectly id
      | false =>
        rw [hwaiting] at hroom
        simp only [Bool.not_false, Bool.true_and, decide_eq_true_eq, Nat.not_le] at hroom
        rw [if_neg Bool.false_ne_true]
        refine ⟨h.direct, ?_, fun _ _ => hstate, ?_, fun hover => ?_, nofun, hnodup,
          h.conserves.store id, h.released⟩
        · change (q.queue ++ [id]).length ≤ 256
          rw [List.length_append, List.length_singleton]
          exact hroom
        · rintro (hover | ⟨hover, -⟩)
          · exact absurd (hcancelled.symm.trans hover) Bool.false_ne_true
          · exact absurd (hended.symm.trans hover) Bool.false_ne_true
        · exact absurd (hcancelled.symm.trans hover) Bool.false_ne_true

/-- A pull takes the first stream of the queue, or waits at an empty one. -/
theorem Sound.pull (h : Sound bidi q) (hpull : q.readable.shouldCallPull 0 = true) :
    Sound bidi q.pull := by
  obtain ⟨hstate, hreads⟩ := h.direct.shouldCallPull_iff.mp hpull
  have hcancelled : q.cancelled = false := by
    by_contra hnot
    exact h.finished (.inl (by simpa using hnot)) hstate
  cases hqueue : q.queue with
  | nil =>
    cases hended : q.ended with
    | true => exact absurd hstate (h.finished (.inr ⟨hended, hqueue⟩))
    | false =>
      have hwaits : q.pull = { q with waiting := true } := by
        unfold IncomingStreamQueue.pull
        rw [hqueue, hended]
        rfl
      rw [hwaits]
      exact ⟨h.direct, h.bounded, h.going, h.finished, h.emptied,
        fun _ => ⟨hqueue, fun _ => ⟨hcancelled, hreads⟩⟩, h.nodup, h.conserves, h.released⟩
  | cons id rest =>
    have hwaiting : q.waiting = false := by
      by_contra hnot
      have hempty := (h.waiting (by simpa using hnot)).1
      rw [hqueue] at hempty
      cases hempty
    obtain ⟨hdirect, hkept⟩ := h.direct.enqueue hreads id
    have hcons := h.conserves
    rw [hqueue] at hcons
    have hbounded := h.bounded
    rw [hqueue] at hbounded
    rw [pull_cons hqueue, enqueue_eq (by exact h.direct) (by exact hstate)]
    split
    · rename_i hlast
      simp only [Bool.and_eq_true, decide_eq_true_eq] at hlast
      obtain ⟨hended, hrest⟩ := hlast
      refine ⟨hdirect.close.1, Nat.le_of_succ_le hbounded, fun _ => ?_,
        fun _ => hdirect.close.2, fun _ => hrest,
        fun hw => absurd (hwaiting.symm.trans hw) Bool.false_ne_true, h.nodup, hcons.handFirst,
        h.released⟩
      rintro (hopen | hmore)
      · exact absurd (hopen.symm.trans hended) Bool.false_ne_true
      · exact absurd hrest hmore
    · rename_i hmore
      simp only [Bool.and_eq_true, decide_eq_true_eq] at hmore
      refine ⟨hdirect, Nat.le_of_succ_le hbounded, fun _ _ => hkept.trans hstate, ?_,
        fun hc => absurd (hcancelled.symm.trans hc) Bool.false_ne_true,
        fun hw => absurd (hwaiting.symm.trans hw) Bool.false_ne_true, h.nodup, hcons.handFirst,
        h.released⟩
      rintro (hc | hlast)
      · exact absurd (hcancelled.symm.trans hc) Bool.false_ne_true
      · exact absurd hlast hmore

/-- A cancel discards what the queue holds. -/
theorem Sound.cancel (h : Sound bidi q) : Sound bidi (q.cancel bidi) := by
  unfold IncomingStreamQueue.cancel
  split
  · rename_i hstate
    simp only [foldl_discard]
    have hcancel : q.readable.cancel = q.readable.terminate .closed := if_pos hstate
    refine ⟨?_, Nat.zero_le _, nofun, fun _ => ?_, fun _ => rfl, nofun, h.nodup, ?_, ?_⟩
    · exact hcancel ▸ h.direct.terminate _
    · change q.readable.cancel.state ≠ .readable
      rw [hcancel]
      nofun
    · refine h.conserves.loseAll.congr ?_
      simp only [List.append_assoc]
      refine List.Perm.append_left _ ?_
      rw [← List.append_assoc]
      exact List.perm_append_comm
    · rw [h.released, List.flatMap_append]
  · exact h

/-- A close leaves the queue to the reads; an empty one ends at once. -/
theorem Sound.close (h : Sound bidi q) : Sound bidi q.close := by
  have hqueued : q.queue ≠ [] → Sound bidi { q with ended := true } := fun hqueue =>
    ⟨h.direct, h.bounded, fun hcancelled _ => h.going hcancelled (.inr hqueue), by
      rintro (hcancelled | ⟨-, hempty⟩)
      · exact h.finished (.inl hcancelled)
      · exact absurd hempty hqueue, h.emptied,
      fun hwaiting => absurd (h.waiting hwaiting).1 hqueue, h.nodup, h.conserves, h.released⟩
  unfold IncomingStreamQueue.close
  simp only
  split
  · rename_i hqueue
    refine ⟨h.direct.close.1, h.bounded, fun _ => ?_, fun _ => h.direct.close.2, h.emptied,
      fun _ => ⟨hqueue, nofun⟩, h.nodup, h.conserves, h.released⟩
    rintro (hopen | hmore)
    · cases hopen
    · exact absurd hqueue hmore
  · exact hqueued ‹_›

theorem Sound.error (h : Sound bidi q) : Sound bidi q.error := by
  refine ⟨h.direct.error.1, Nat.zero_le _, fun _ => ?_, fun _ => h.direct.error.2, fun _ => rfl,
    fun _ => ⟨rfl, nofun⟩, h.nodup, ?_, h.released⟩
  · rintro (hopen | hmore)
    · cases hopen
    · exact absurd rfl hmore
  · refine h.conserves.loseAll.congr ?_
    rw [List.append_assoc]
    exact .refl _

theorem Sound.read (h : Sound bidi q) : Sound bidi { q with readable := q.readable.read.2 } := by
  rcases h.direct.read with ⟨-, hread⟩ | ⟨hstate, hread⟩
  · rw [hread]
    exact h
  · rw [hread]
    refine ⟨⟨h.direct.queue, h.direct.unrequested, fun hne => absurd hstate hne⟩, h.bounded,
      h.going, h.finished, h.emptied, fun hwaiting => ?_, h.nodup, h.conserves, h.released⟩
    obtain ⟨hqueue, hreads⟩ := h.waiting hwaiting
    exact ⟨hqueue, fun hended => ⟨(hreads hended).1, Nat.succ_pos _⟩⟩

/-- Each event keeps every stream in one place, and a read waits only at an empty queue. -/
theorem Sound.next (h : Sound bidi q) (he : q.enabled e = true) : Sound bidi (q.next bidi e) := by
  cases e with
  | accept id => exact h.accept (by simpa [enabled] using he)
  | read => exact h.read
  | pull => exact h.pull he
  | cancel => exact h.cancel
  | close => exact h.close
  | error => exact h.error
  | coreClosed => exact { h with }

/-- A sound collection stays sound through any run. -/
theorem sound_run (h : (machine bidi).Run q es t) (hq : Sound bidi q) : Sound bidi t :=
  h.invariant (fun _ e _ hstep hs => by
    obtain ⟨he, rfl⟩ := hstep
    exact hs.next he) hq

end IncomingStreamQueue

end NestWebTransport
