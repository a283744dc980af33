import NestWebTransport.Testing.BytePipeWakeups

/-! A reader that reads often enough gets all that an open byte pipe was given. -/
namespace NestWebTransport

namespace BytePipeEvent

/-- What happens while the pipe is only read. -/
def drains : BytePipeEvent → Bool
  | .read => true
  | e => e.isInternal

end BytePipeEvent

namespace PipeChunk

/-- The sink takes the chunk. -/
def Fits (o : BytePipeOptions) (chunk : PipeChunk) : Prop :=
  ∃ value, chunk = .bytes value ∧ value.length ≤ o.maxChunkSize.value

end PipeChunk

namespace BoundedBytePipe

variable {o : BytePipeOptions} {s t : BoundedBytePipe} {e : BytePipeEvent} {es : List BytePipeEvent}
  {w : WritableStream PipeChunk} {value : List UInt8} {phase : WritePhase}
  {chunks : List PipeChunk} {asked : Nat}

/-- The writer has closed the pipe behind its last chunk. -/
structure Finished (s : BoundedBytePipe) : Prop where
  closed : s.state = .closed
  write : s.write = none
  started : s.writable.started = true
  all : s.readable.supplied.map .bytes = s.writable.accepted
  full : s.readable.stream.canCloseOrEnqueue = false

/-- `chunks` is what the pipe was given and `asked` counts the reads that were not turned away. -/
structure Draining (o : BytePipeOptions) (chunks : List PipeChunk) (asked : Nat)
    (s : BoundedBytePipe) : Prop extends Balanced o s where
  accepted : s.writable.accepted = chunks
  fits : ∀ chunk ∈ chunks, chunk.Fits o
  serving : s.state = .open ∨ Finished s
  kept : s.readable.cancelled = false
  intact : s.readable.stream.state ≠ .errored
  reads : s.readable.stream.state = .readable → s.readable.asked = asked

theorem Balanced.draining (h : Balanced o s) (hopen : s.state = .open)
    (hfits : ∀ chunk ∈ s.writable.accepted, chunk.Fits o) :
    Draining o s.writable.accepted s.readable.asked s := by
  have hstate := h.opened_state hopen
  refine ⟨h, rfl, hfits, .inl hopen, ?_, fun herrored => ?_, fun _ => rfl⟩
  · by_contra hcut
    exact h.flows.cut (by simpa using hcut) hstate
  · exact absurd (hstate.symm.trans herrored) nofun

/-- What was asked for has been delivered once the pipe rests, if it was given as much. -/
theorem Draining.delivered (h : Draining o chunks asked s) (hquiet : Quiet s)
    (hasked : chunks.length ≤ asked) : s.readable.delivered.map .bytes = chunks := by
  have hordered : s.readable.delivered.map .bytes <+: chunks := by
    rw [← h.accepted]
    exact (h.flows.ordered.map PipeChunk.bytes).trans (h.ordered.trans h.writable.ordered)
  cases hstate : s.readable.stream.state with
  | errored => exact absurd hstate h.intact
  | closed =>
    rw [h.flows.drained hstate h.kept]
    rcases h.serving with hopen | hfinished
    · exact absurd ((h.opened_state hopen).symm.trans hstate) nofun
    · exact hfinished.all.trans h.accepted
  | readable =>
    by_cases hreads : 0 < s.readable.stream.reads
    · rw [← h.accepted]
      rcases h.serving with hopen | hfinished
      · exact h.toBalanced.starves hquiet hopen hreads
      · obtain ⟨-, hqueue, -⟩ := h.flows.waiting hreads
        rw [← hfinished.all, h.flows.whole hstate, hqueue, List.append_nil]
    · refine hordered.eq_of_length_le ?_
      have hcount := h.reads hstate
      unfold Delivery.asked at hcount
      rw [List.length_map]
      omega

/-! ### Steps of a pipe that drains -/

/-- What a step but a read makes of a pipe that drains and of its readable. -/
inductive Serves (readable : Delivery (List UInt8)) (t : BoundedBytePipe) : Prop
  | rests (hstate : t.state = .open ∨ Finished t) (hreadable : t.readable = readable)
  | enqueues (value : List UInt8) (hstate : t.state = .open)
      (hreadable : t.readable = readable.enqueue value)
  | finishes (hfinished : Finished t) (hreadable : t.readable = readable.close)

theorem Draining.serves (h : Draining o chunks asked s) (ht : Balanced o t)
    (haccepted : t.writable.accepted = s.writable.accepted) (hserves : Serves s.readable t) :
    Draining o chunks asked t := by
  have hgiven := haccepted.trans h.accepted
  cases hserves with
  | rests hstate hreadable =>
    exact ⟨ht, hgiven, h.fits, hstate, hreadable ▸ h.kept, hreadable ▸ h.intact,
      hreadable ▸ h.reads⟩
  | enqueues value hstate hreadable =>
    refine ⟨ht, hgiven, h.fits, .inl hstate, ?_, ?_, ?_⟩
    · rw [hreadable, Delivery.cancelled_enqueue]
      exact h.kept
    · rw [hreadable, Delivery.state_enqueue]
      exact h.intact
    · rw [hreadable, Delivery.state_enqueue, Delivery.asked_enqueue]
      exact h.reads
  | finishes hfinished hreadable =>
    refine ⟨ht, hgiven, h.fits, .inr hfinished, hreadable ▸ h.kept, ?_, fun hstate => ?_⟩
    · rw [hreadable]
      unfold Delivery.close ReadableStream.close
      split_ifs
      · exact nofun
      · exact h.intact
      · exact h.intact
    · rw [hreadable] at hstate ⊢
      rw [Delivery.asked_close hstate]
      refine h.reads ?_
      unfold Delivery.close ReadableStream.close at hstate
      split_ifs at hstate
      · cases hstate
      · exact hstate
      · exact hstate

theorem readable_pulled (result : Bool × PullLoop) : (s.pulled result).readable = s.readable := by
  unfold pulled releaseCapacityWaiter settleCapacityWaiter
  simp only
  split_ifs <;> rfl

theorem state_pulled (result : Bool × PullLoop) : (s.pulled result).state = s.state := by
  unfold pulled releaseCapacityWaiter settleCapacityWaiter
  simp only
  split_ifs <;> rfl

/-- A finished pipe does not mind its pull loop. -/
theorem Finished.pulled (h : Finished s) (hs : Sound o s) (result : Bool × PullLoop) :
    Finished (s.pulled result) := by
  rw [pulled_of_unwaited (hs.unwaited h.write)]
  exact ⟨h.closed, h.write, h.started, h.all, h.full⟩

theorem Finished.withRead (h : Finished s) : Finished { s with readable := s.readable.read } := by
  refine ⟨h.closed, h.write, h.started, ?_, ?_⟩
  · change s.readable.read.supplied.map .bytes = s.writable.accepted
    rw [Delivery.supplied_read]
    exact h.all
  · change s.readable.read.stream.canCloseOrEnqueue = false
    rw [Delivery.stream_read, ReadableStream.read_canCloseOrEnqueue]
    exact h.full

theorem Draining.read (h : Draining o chunks asked s) (ht : Balanced o (s.read o)) :
    Draining o chunks (asked + 1) (s.read o) := by
  have hreadable : (s.read o).readable = s.readable.read := by
    unfold BoundedBytePipe.read
    simp only
    split_ifs
    · exact readable_pulled _
    · rfl
  have hserving : (s.read o).state = .open ∨ Finished (s.read o) := by
    unfold BoundedBytePipe.read
    simp only
    rcases h.serving with hopen | hfinished
    · split_ifs
      · exact .inl ((state_pulled _).trans hopen)
      · exact .inl hopen
    · split_ifs
      · exact .inr (hfinished.withRead.pulled h.withRead _)
      · exact .inr hfinished.withRead
  have haccepted : (s.read o).writable.accepted = chunks := by
    unfold BoundedBytePipe.read
    simp only
    split_ifs
    · exact (congrArg _ (writable_pulled _)).trans h.accepted
    · exact h.accepted
  refine ⟨ht, haccepted, h.fits, hserving, ?_, ?_, fun hstate => ?_⟩
  · rw [hreadable, Delivery.cancelled_read]
    exact h.kept
  · rw [hreadable]
    rcases s.readable.read_cases with ⟨-, heq⟩ | ⟨-, -, heq⟩ | ⟨chunk, rest, -, -, heq⟩
    · rw [heq]
      exact h.intact
    · rw [heq]
      exact h.intact
    · rw [heq]
      simp only
      split_ifs
      · exact nofun
      · exact h.intact
  · rw [hreadable] at hstate ⊢
    rw [Delivery.asked_read hstate, h.reads]
    rw [Delivery.stream_read] at hstate
    exact ReadableStream.read_state hstate

theorem Coherent.closePipe_of_unwaited (h : Coherent o s) (hopen : s.state = .open)
    (hwaiter : s.capacityWaiter = false) : s.closePipe = { s with
      state := .closed
      readable := s.readable.close
      terminalNotified := true
      terminals := s.terminals + 1 } := by
  have hsilent : s.terminalNotified = false := by
    by_contra hnotified
    exact h.notified.mp (by simpa using hnotified) hopen
  rw [closePipe_eq hopen]
  unfold settleCapacityWaiter notifyTerminal
  simp [hwaiter, hsilent]

/-- The sink of an open pipe is called while it drains. -/
theorem Sound.serves (h : Sound o s) (hopen : s.state = .open) (hw : w.Sound)
    {call : Option (SinkCall PipeChunk)} (hturns : s.writable.Turns call w)
    (hlive : w.state = .writable) (hfits : ∀ chunk ∈ w.accepted, chunk.Fits o) :
    (s.turn o (call, w)).writable.accepted = w.accepted ∧
      Serves s.readable (s.turn o (call, w)) := by
  cases hturns with
  | quiet => exact ⟨rfl, .rests (.inl hopen) rfl⟩
  | aborts _ _ _ _ hstate => exact absurd (hlive.symm.trans hstate) nofun
  | @writes _ chunk hflight hflight' htaken hstate =>
    have hmem : chunk ∈ w.accepted := hw.ordered.subset (htaken ▸ List.mem_concat_self)
    obtain ⟨value, rfl, hsmall⟩ := hfits chunk hmem
    change (beginWrite o { s with writable := w } (.bytes value)).writable.accepted = w.accepted ∧
      Serves s.readable (beginWrite o { s with writable := w } (.bytes value))
    unfold BoundedBytePipe.beginWrite BoundedBytePipe.waitForCapacity
    simp only
    rw [if_neg (Nat.not_lt.mpr hsmall)]
    split_ifs
    · exact ⟨rfl, .rests (.inl hopen) rfl⟩
    · exact ⟨rfl, .rests (.inl hopen) rfl⟩
    · exact ⟨rfl, .rests (.inl hopen) rfl⟩
  | closes hflight hflight' htaken hclosing hstate =>
    have hwrite := h.engaged.mpr hflight
    have hwaiter := h.unwaited hwrite
    obtain ⟨hstarted, hall, -⟩ := hw.closing hclosing
    change (BoundedBytePipe.closePipe { s with writable := w }).writable.accepted = w.accepted ∧
      Serves s.readable (BoundedBytePipe.closePipe { s with writable := w })
    have hcoherent := h.toCoherent.withWritable hw (htaken ▸ List.prefix_refl _) fun _ => hlive
    rw [hcoherent.closePipe_of_unwaited hopen hwaiter]
    refine ⟨rfl, .finishes ⟨rfl, hwrite, hstarted, ?_, ReadableStream.close_canCloseOrEnqueue⟩ rfl⟩
    change s.readable.supplied.map .bytes = w.accepted
    rw [hall, htaken, h.idle hwrite (.inl hstate.1)]

theorem Sound.serves_resume (h : Sound o s) (hopen : s.state = .open)
    (hresumes : s.write.any (·.resumes) = true) :
    (s.resume o).writable.accepted = s.writable.accepted ∧ Serves s.readable (s.resume o) := by
  obtain ⟨phase, hphase, hresumes⟩ := (Option.any_eq_true _ _).mp hresumes
  cases phase with
  | waiting => cases hresumes
  | stored => cases hresumes
  | failed => cases hresumes
  | refused => exact absurd hopen (h.failed (.inr hphase))
  | woken =>
    unfold BoundedBytePipe.resume BoundedBytePipe.waitForCapacity
    rw [hphase]
    simp only
    split_ifs with hended
    · exact absurd hopen hended
    · exact ⟨rfl, .rests (.inl hopen) rfl⟩
    · exact ⟨rfl, .rests (.inl hopen) rfl⟩
  | ready =>
    obtain ⟨value, hengaged⟩ := h.holds hphase rfl
    unfold BoundedBytePipe.resume BoundedBytePipe.enqueueChunk
    rw [hphase, hengaged.inFlight]
    simp only
    rw [if_pos ⟨hopen, h.opened hopen⟩]
    exact ⟨congrArg _ (writable_pulled _),
      .enqueues value ((state_pulled _).trans hopen) (readable_pulled _)⟩

theorem Sound.serves_writeSettled (h : Sound o s) (hopen : s.state = .open)
    (hsettled : s.write.any (·.isSettled) = true)
    (hfits : ∀ chunk ∈ s.writable.accepted, chunk.Fits o) :
    (s.writeSettled o).writable.accepted = s.writable.accepted ∧
      Serves s.readable (s.writeSettled o) := by
  obtain ⟨phase, hphase, hsettled⟩ := (Option.any_eq_true _ _).mp hsettled
  have hstored : s.write = some .stored := by
    cases phase with
    | stored => exact hphase
    | failed => exact absurd hopen (h.failed (.inl hphase))
    | _ => cases hsettled
  obtain ⟨chunk, hflight⟩ : ∃ chunk, s.writable.inFlight = some chunk := by
    cases hflight : s.writable.inFlight with
    | none => exact absurd (hphase.symm.trans (h.engaged.mpr hflight)) nofun
    | some chunk => exact ⟨chunk, rfl⟩
  obtain ⟨hw, hturns⟩ := h.writable.writeSettled hflight true
  have haccepted := s.writable.accepted_writeSettled true
  have hserves := (h.landed hflight hstored).serves hopen hw hturns
    (WritableStream.writeSettled_state (h.live hopen)) (haccepted.symm ▸ hfits)
  unfold BoundedBytePipe.writeSettled
  rw [hstored]
  exact ⟨hserves.1.trans haccepted, hserves.2⟩

/-- No promise that settles takes a chunk back or answers more reads than were asked. -/
theorem Draining.step (h : Draining o chunks asked s) (hs : (machine o).Step s e t)
    (he : e.isInternal = true) : Draining o chunks asked t := by
  have ht := h.toBalanced.step hs
  obtain ⟨henabled, rfl⟩ := hs
  have hrests : ∀ result,
      Balanced o (s.pulled result) → Draining o chunks asked (s.pulled result) := by
    intro result hb
    refine h.serves hb (congrArg _ (writable_pulled _)) (.rests ?_ (readable_pulled _))
    exact h.serving.imp (state_pulled _).trans (·.pulled h.toSound result)
  cases e with
  | readableStarted => exact hrests _ ht
  | pullSettled => exact hrests _ ht
  | writableStarted =>
    have hstarted : s.writable.started = false := Bool.not_eq_true' _ ▸ henabled
    rcases h.serving with hopen | hfinished
    · obtain ⟨hw, hturns⟩ := h.writable.start hstarted
      have haccepted := WritableStream.accepted_advanceQueueIfNeeded
        { s.writable with started := true }
      have hfits : ∀ chunk ∈ s.writable.start.2.accepted, chunk.Fits o := by
        intro chunk hchunk
        exact h.fits chunk (h.accepted ▸ haccepted ▸ hchunk)
      obtain ⟨hsame, hserves⟩ := h.toSound.serves hopen hw hturns
        (WritableStream.start_state (h.live hopen)) hfits
      exact h.serves ht (hsame.trans haccepted) hserves
    · exact absurd (hstarted.symm.trans hfinished.started) nofun
  | resumed =>
    rcases h.serving with hopen | hfinished
    · obtain ⟨hsame, hserves⟩ := h.toSound.serves_resume hopen henabled
      exact h.serves ht hsame hserves
    · change s.write.any (·.resumes) = true at henabled
      rw [hfinished.write] at henabled
      cases henabled
  | writeSettled =>
    rcases h.serving with hopen | hfinished
    · obtain ⟨hsame, hserves⟩ := h.toSound.serves_writeSettled hopen henabled
        (h.accepted ▸ h.fits)
      exact h.serves ht hsame hserves
    · change s.write.any (·.isSettled) = true at henabled
      rw [hfinished.write] at henabled
      cases henabled
  | closeSettled =>
    have hclosing : s.writable.closeRequest = .inFlight := beq_iff_eq.mp henabled
    rcases h.serving with hopen | hfinished
    · exact absurd hopen (h.closing hclosing)
    · exact h.serves ht rfl (.rests (.inr ⟨hfinished.closed, hfinished.write, hfinished.started,
        hfinished.all, hfinished.full⟩) rfl)
  | _ => cases he

/-- The reads of a run that drains count. -/
theorem Draining.run (h : Draining o chunks asked s) (hrun : (machine o).Run s es t)
    (hdrains : ∀ e ∈ es, e.drains = true) : Draining o chunks (asked + es.count .read) t := by
  induction hrun generalizing asked with
  | refl => exact h
  | @stepL s u t e es hs _ ih =>
    have hrest : ∀ e ∈ es, e.drains = true := fun e he => hdrains e (List.mem_cons_of_mem _ he)
    have he : e.drains = true := hdrains e List.mem_cons_self
    by_cases hread : e = .read
    · subst hread
      have hu := h.toBalanced.step hs
      obtain ⟨-, rfl⟩ := hs
      have hnext := ih (h.read hu) hrest
      rwa [List.count_cons_self, Nat.add_comm (es.count _), ← Nat.add_assoc]
    · have hinternal : e.isInternal = true := by
        cases e with
        | read => exact absurd rfl hread
        | _ => exact he
      rw [List.count_cons_of_ne hread]
      exact ih (h.step hs hinternal) hrest

/-- However the promises of an open pipe settle between the reads, a reader that reads often enough
gets every chunk that was accepted, if the sink takes them all. -/
theorem drains_accepted (h : (machine o).Reachable s) (hopen : s.state = .open)
    (hfits : ∀ chunk ∈ s.writable.accepted, chunk.Fits o) (hrun : (machine o).Run s es t)
    (hdrains : ∀ e ∈ es, e.drains = true) (hrest : (machine o).AtRest (·.isInternal = true) t)
    (hreads : s.writable.accepted.length ≤ s.readable.asked + es.count .read) :
    t.readable.delivered.map .bytes = s.writable.accepted := by
  have ht := ((balanced_of_reachable h).draining hopen hfits).run hrun hdrains
  exact ht.delivered (quiet_of_atRest hrest) hreads

def twoChunks : List PipeChunk := [.bytes [1], .bytes [2]]

theorem drains_accepted_of_two_reads : ∃ s es t, (machine smallPipe).Reachable s ∧
    (machine smallPipe).Run s es t ∧ s.writable.accepted = twoChunks ∧
    t.readable.delivered.map .bytes = s.writable.accepted := by
  obtain ⟨s, hrun, hopen, hchunks⟩ := (program smallPipe).exists_run
    [.write (.bytes [1]), .write (.bytes [2])] new
    (fun s => s.state = .open ∧ s.writable.accepted = twoChunks) (by decide +kernel)
  have hreachable : (machine smallPipe).Reachable s := ⟨new, _, rfl, hrun⟩
  have hreads : (machine smallPipe).Run s [.read, .read]
      ((s.next smallPipe .read).next smallPipe .read) :=
    .stepL ⟨rfl, rfl⟩ (.stepL ⟨rfl, rfl⟩ .refl)
  obtain ⟨es, t, hinternal, hes, hrest⟩ := (unloads smallPipe).exists_rest
    (balanced_of_reachable (hreachable.run hreads))
  refine ⟨s, [.read, .read] ++ es, t, hreachable, hreads.append hinternal, hchunks,
    drains_accepted hreachable hopen ?_ (hreads.append hinternal) ?_ hrest ?_⟩
  · rw [hchunks]
    intro chunk hchunk
    rcases List.mem_pair.mp hchunk with rfl | rfl
    · exact ⟨[1], rfl, by decide⟩
    · exact ⟨[2], rfl, by decide⟩
  · intro e he
    rcases List.mem_append.mp he with he | he
    · rcases List.mem_pair.mp he with rfl | rfl <;> rfl
    · have hown := hes e he
      cases e with
      | read => rfl
      | _ => exact hown
  · rw [hchunks, List.count_append]
    exact Nat.le_trans (Nat.le_add_right 2 _) (Nat.le_add_left _ _)

end BoundedBytePipe

end NestWebTransport
