import NestWebTransport.Driver.StreamBridges

/-! The halves of a stream, and what may abort the lifecycle they share. -/
namespace NestWebTransport

namespace StreamAdapter

variable {st st' : StreamAdapter} {half : StreamHalf}

/-- The writable half was errored, or it was asked to reset. -/
def disturbed (st : StreamAdapter) : Bool :=
  st.writable.any fun b => b.errored || b.resetPromise != .uncalled

/-- How many halves have not finished their part. -/
def unfinished (st : StreamAdapter) : Nat :=
  (if st.readable.isSome = true ∧ .readable ∉ st.parts then 1 else 0) +
    if st.writable.isSome = true ∧ .writable ∉ st.parts then 1 else 0

/-- The halves of the adapter have finished, both of them where it is bidirectional. -/
structure AllFinished (st : StreamAdapter) : Prop where
  readable : st.readable.all (·.finished) = true
  writable : st.writable.all (·.finished) = true
  both : st.kind = .bidirectional → st.readable.isSome = true ∧ st.writable.isSome = true

/-- An open lifecycle counts the halves that have not finished. -/
structure Halved (st : StreamAdapter) : Prop where
  both : st.kind = .bidirectional → st.readable.isSome = true ∧ st.writable.isSome = true
  marked : st.lifecycle.closed = st.lifecycle.aborted.isSome
  tidy : st.Tidy
  remaining : st.lifecycle.closed = false → st.lifecycle.remainingParts = st.unfinished
  finished : ∀ r, st.lifecycle.aborted = some (.finished, r) → st.unfinished = 0

theorem halved_absent : Halved .absent := ⟨nofun, rfl, tidy_absent, fun _ => rfl, nofun⟩

/-- Two adapters whose lifecycles and halves are the same. -/
structure Steady (st st' : StreamAdapter) : Prop where
  kind : st'.kind = st.kind
  session : st'.session = st.session
  lifecycle : st'.lifecycle = st.lifecycle
  parts : st'.parts = st.parts
  readable : st'.readable.isSome = st.readable.isSome
  writable : st'.writable.isSome = st.writable.isSome
  tidy : st.Tidy → st'.Tidy

theorem Steady.refl : Steady st st := ⟨rfl, rfl, rfl, rfl, rfl, rfl, id⟩

theorem Steady.unfinished (h : Steady st st') : st'.unfinished = st.unfinished := by
  unfold StreamAdapter.unfinished
  rw [h.parts, h.readable, h.writable]

theorem Halved.steady (h : st.Halved) (hsteady : Steady st st') : st'.Halved where
  both := by
    rw [hsteady.kind, hsteady.readable, hsteady.writable]
    exact h.both
  marked := by
    rw [hsteady.lifecycle]
    exact h.marked
  tidy := hsteady.tidy h.tidy
  remaining := by
    rw [hsteady.lifecycle, hsteady.unfinished]
    exact h.remaining
  finished := by
    rw [hsteady.lifecycle, hsteady.unfinished]
    exact h.finished

theorem steady_readable (f : ReadableBridge → ReadableBridge)
    (hf : ∀ b, b.finished = true → (f b).finished = true) :
    Steady st { st with readable := st.readable.map f } where
  kind := rfl
  session := rfl
  lifecycle := rfl
  parts := rfl
  readable := Option.isSome_map
  writable := rfl
  tidy htidy := by
    refine ⟨htidy.nodup, fun hmem => ?_, htidy.writable⟩
    obtain ⟨b, hb, hfinished⟩ := htidy.readable hmem
    exact ⟨f b, by rw [hb]; rfl, hf b hfinished⟩

theorem steady_writable (f : WritableBridge → WritableBridge)
    (hf : ∀ b, b.finished = true → (f b).finished = true) :
    Steady st { st with writable := st.writable.map f } where
  kind := rfl
  session := rfl
  lifecycle := rfl
  parts := rfl
  readable := rfl
  writable := Option.isSome_map
  tidy htidy := by
    refine ⟨htidy.nodup, htidy.readable, fun hmem => ?_⟩
    obtain ⟨b, hb, hfinished⟩ := htidy.writable hmem
    exact ⟨f b, by rw [hb]; rfl, hf b hfinished⟩

/-- The bridge of the half is there, and has finished. -/
def HalfFinished (st : StreamAdapter) : StreamHalf → Prop
  | .readable => ∃ b, st.readable = some b ∧ b.finished = true
  | .writable => ∃ b, st.writable = some b ∧ b.finished = true

theorem Tidy.finish (h : st.Tidy) (hnew : half ∉ st.parts) (hfinished : st.HalfFinished half) :
    Tidy { st with parts := st.parts ++ [half] } := by
  refine ⟨List.nodup_append.mpr ⟨h.nodup, List.nodup_singleton _, ?_⟩, fun hmem => ?_,
    fun hmem => ?_⟩
  · rintro a ha b hb rfl
    exact hnew (List.mem_singleton.mp hb ▸ ha)
  · rcases List.mem_append.mp hmem with hmem | hmem
    · exact h.readable hmem
    · obtain rfl := List.mem_singleton.mp hmem
      exact hfinished
  · rcases List.mem_append.mp hmem with hmem | hmem
    · exact h.writable hmem
    · obtain rfl := List.mem_singleton.mp hmem
      exact hfinished

theorem unfinished_finish (hnew : half ∉ st.parts) (hfinished : st.HalfFinished half) :
    unfinished { st with parts := st.parts ++ [half] } + 1 = st.unfinished := by
  unfold unfinished
  cases half with
  | readable =>
    obtain ⟨b, hb, -⟩ := hfinished
    simp [hb, hnew, Nat.add_comm]
  | writable =>
    obtain ⟨b, hb, -⟩ := hfinished
    simp [hb, hnew]

/-- Where no half is left unfinished, both bridges have finished. -/
theorem Halved.all_finished (h : st.Halved) (hnone : st.unfinished = 0) : st.AllFinished := by
  unfold unfinished at hnone
  refine ⟨?_, ?_, h.both⟩
  · cases hb : st.readable with
    | none => rfl
    | some b =>
      have hmem : .readable ∈ st.parts := by
        by_contra hnot
        rw [if_pos ⟨by rw [hb]; rfl, hnot⟩] at hnone
        omega
      obtain ⟨b', hb', hfinished⟩ := h.tidy.readable hmem
      rw [hb] at hb'
      cases hb'
      exact hfinished
  · cases hb : st.writable with
    | none => rfl
    | some b =>
      have hmem : .writable ∈ st.parts := by
        by_contra hnot
        rw [if_pos (c := _ ∧ StreamHalf.writable ∉ _) ⟨by rw [hb]; rfl, hnot⟩] at hnone
        omega
      obtain ⟨b', hb', hfinished⟩ := h.tidy.writable hmem
      rw [hb] at hb'
      cases hb'
      exact hfinished

end StreamAdapter

namespace StreamState

open StreamAdapter (Halved Steady HalfFinished steady_readable steady_writable)

variable {s t u : StreamState} {k : Nat} {w : StreamWork} {cause : AbortCause}
  {reason : Option Thrown} {half : StreamHalf} {P : AbortCause → Nat → Prop} {Q : Nat → Prop}

structure Halves (s : StreamState) : Prop where
  stream : ∀ i, (s.stream i).Halved
  ended : ∀ i r, (s.stream i).lifecycle.aborted = some (.sessionEnded, r) →
    (s.session (s.stream i).session).aborted.isSome = true
  parent : ∀ c, ∀ i ∈ (s.session c).listeners, (s.stream i).session = c
  told : ∀ i, .abortWritable i ∈ s.agenda → (s.stream i).lifecycle.aborted.isSome = true
  looped : ∀ c, ∀ w ∈ s.agenda, w.loops c = true → (s.session c).aborted.isSome = true

theorem halves_new : Halves new where
  stream _ := StreamAdapter.halved_absent
  ended _ _ haborted := nomatch haborted
  parent _ _ hmem := absurd hmem List.not_mem_nil
  told _ hmem := absurd hmem List.not_mem_nil
  looped _ _ hmem := absurd hmem List.not_mem_nil

/-- What a step may do: lifecycles are aborted for the causes of `P`, and writable halves are
disturbed where `Q` allows it. -/
structure Moves (P : AbortCause → Nat → Prop) (Q : Nat → Prop) (s t : StreamState) : Prop where
  halves : Halves t
  aborts : ∀ i, (t.stream i).lifecycle.aborted = (s.stream i).lifecycle.aborted ∨
    (s.stream i).lifecycle.aborted = none ∧
      ∃ c r, (t.stream i).lifecycle.aborted = some (c, r) ∧ P c i
  disturbs : ∀ i, (t.stream i).disturbed = true → (s.stream i).disturbed = true ∨ Q i

theorem Halves.refl_moves (h : Halves s) : Moves P Q s s :=
  ⟨h, fun _ => .inl rfl, fun _ hi => .inl hi⟩

theorem Moves.trans (h : Moves P Q s t) (h' : Moves P Q t u) : Moves P Q s u where
  halves := h'.halves
  aborts i := by
    rcases h'.aborts i with hsame | ⟨hnone, hnew⟩
    · rw [hsame]
      exact h.aborts i
    · rcases h.aborts i with hsame | ⟨-, c, r, hsome, -⟩
      · exact .inr ⟨hsame.symm.trans hnone, hnew⟩
      · rw [hnone] at hsome
        cases hsome
  disturbs i hi := by
    rcases h'.disturbs i hi with ht | hq
    · exact h.disturbs i ht
    · exact .inr hq

/-! ### What leaves the lifecycles alone -/

structure Framed (s t : StreamState) : Prop where
  session : t.session = s.session
  agenda : ∀ w ∈ t.agenda, w ∈ s.agenda
  stream : ∀ i, Steady (s.stream i) (t.stream i)

theorem Halves.framed (h : Halves s) (hframed : Framed s t) : Halves t where
  stream i := (h.stream i).steady (hframed.stream i)
  ended i := by
    rw [(hframed.stream i).lifecycle, hframed.session, (hframed.stream i).session]
    exact h.ended i
  parent c i := by
    rw [hframed.session, (hframed.stream i).session]
    exact h.parent c i
  told i hi := by
    rw [(hframed.stream i).lifecycle]
    exact h.told i (hframed.agenda _ hi)
  looped c w hw := by
    rw [hframed.session]
    exact h.looped c w (hframed.agenda w hw)

theorem Framed.moves (hframed : Framed s t) (h : Halves s)
    (hdisturbs : ∀ i, (t.stream i).disturbed = true → (s.stream i).disturbed = true ∨ Q i) :
    Moves P Q s t :=
  ⟨h.framed hframed, fun i => .inl (by rw [(hframed.stream i).lifecycle]), hdisturbs⟩

theorem framed_modify (f : StreamAdapter → StreamAdapter)
    (hf : Steady (s.stream k) (f (s.stream k))) : Framed s (s.modify k f) := by
  refine ⟨rfl, fun _ hw => hw, fun i => ?_⟩
  rw [modify_stream]
  split
  · rename_i hi
    rw [hi]
    exact hf
  · exact .refl

theorem Halves.readable (h : Halves s) (f : ReadableBridge → ReadableBridge)
    (hf : ∀ b, b.finished = true → (f b).finished = true) :
    Moves P Q s (s.modifyReadable k f) := by
  refine (framed_modify _ (steady_readable f hf)).moves h fun i hi => .inl ?_
  rw [modify_stream] at hi
  split at hi
  · rename_i hk
    rw [hk]
    exact hi
  · exact hi

/-- The change of a writable half disturbs it only where that is allowed. -/
theorem Halves.writable (h : Halves s) (f : WritableBridge → WritableBridge)
    (hf : ∀ b, b.finished = true → (f b).finished = true)
    (hdisturbs : ∀ b, (s.stream k).writable = some b →
      ((f b).errored || (f b).resetPromise != .uncalled) = true →
      (b.errored || b.resetPromise != .uncalled) = true ∨ Q k) :
    Moves P Q s (s.modifyWritable k f) := by
  refine (framed_modify _ (steady_writable f hf)).moves h fun i hi => ?_
  rw [modify_stream] at hi
  split at hi
  · rename_i hk
    rw [hk]
    unfold StreamAdapter.disturbed at hi ⊢
    cases hb : (s.stream k).writable with
    | none =>
      rw [hb] at hi
      cases hi
    | some b =>
      rw [hb] at hi
      exact hdisturbs b hb hi
  · exact .inl hi

theorem loops_of_isIdle (hidle : w.isIdle = true) {c : Nat} : w.loops c = false := by
  cases w <;> first | rfl | cases hidle

/-- An entry that aborts nothing by itself may be put off. -/
theorem Halves.push (h : Halves s) (hidle : w.isIdle = true) (hw : ∀ i, w ≠ .abortWritable i) :
    Moves P Q s (s.push [w]) := by
  refine ⟨⟨h.stream, h.ended, h.parent, fun i hi => ?_, fun c v hv hloop => ?_⟩,
    fun _ => .inl rfl, fun _ hi => .inl hi⟩
  · exact h.told i ((List.mem_cons.mp hi).resolve_left (hw i).symm)
  · rcases List.mem_cons.mp hv with rfl | hv
    · rw [loops_of_isIdle hidle] at hloop
      cases hloop
    · exact h.looped c v hv hloop

/-! ### Lifecycles -/

theorem unsubscribe_session (c : Nat) :
    ((s.unsubscribe k).session c).aborted = (s.session c).aborted ∧
      ∀ i ∈ ((s.unsubscribe k).session c).listeners, i ∈ (s.session c).listeners := by
  unfold unsubscribe
  rw [modifySession_session]
  split
  · rename_i hc
    rw [hc]
    exact ⟨rfl, fun i hi => List.mem_of_mem_erase hi⟩
  · exact ⟨rfl, fun i hi => hi⟩

/-- A lifecycle is closed for a cause that is allowed. -/
theorem Halves.markClosed (h : Halves s) {r : Thrown} (hP : P cause k)
    (hopen : (s.stream k).lifecycle.closed = false)
    (hfinished : cause = .finished → (s.stream k).unfinished = 0)
    (hended : cause = .sessionEnded → (s.session (s.stream k).session).aborted.isSome = true) :
    Moves P Q s (s.markClosed k cause r) := by
  have hstream := markClosed_stream (s := s) (k := k) cause r
  have hsame : ∀ i, ((s.markClosed k cause r).stream i).session = (s.stream i).session := by
    intro i
    rw [hstream]
    split
    · rename_i hi
      rw [hi]
    · rfl
  have hnone : (s.stream k).lifecycle.aborted = none := by
    rw [(h.stream k).marked] at hopen
    simpa using hopen
  refine ⟨⟨fun i => ?_, fun i r' hi => ?_, fun c i hi => ?_, fun i hi => ?_, h.looped⟩,
    fun i => ?_, fun i hi => ?_⟩
  · rw [hstream]
    split
    · refine ⟨(h.stream k).both, rfl, ?_, nofun, fun r' hr => hfinished ?_⟩
      · exact ⟨(h.stream k).tidy.nodup, (h.stream k).tidy.readable, (h.stream k).tidy.writable⟩
      · cases hr
        rfl
    · exact h.stream i
  · change (s.session ((s.markClosed k cause r).stream i).session).aborted.isSome = true
    rw [hsame]
    rw [hstream] at hi
    split at hi
    · rename_i hik
      cases hi
      rw [hik]
      exact hended rfl
    · exact h.ended i r' hi
  · rw [hsame]
    exact h.parent c i hi
  · rw [hstream]
    split
    · rfl
    · exact h.told i hi
  · rw [hstream]
    split
    · rename_i hi
      rw [hi]
      exact .inr ⟨hnone, cause, r, rfl, hP⟩
    · exact .inl rfl
  · rw [hstream] at hi
    split at hi
    · rename_i hik
      rw [hik]
      exact .inl hi
    · exact .inl hi

theorem Halves.unsubscribe (h : Halves s) : Halves (s.unsubscribe k) where
  stream := h.stream
  ended i r hi := by
    rw [(unsubscribe_session _).1]
    exact h.ended i r hi
  parent c i hi := h.parent c i ((unsubscribe_session c).2 i hi)
  told := h.told
  looped c w hw hloop := by
    rw [(unsubscribe_session c).1]
    exact h.looped c w hw hloop

/-- What an abort puts on the agenda finds the lifecycle aborted. -/
theorem Halves.push_aborted (h : Halves s)
    (haborted : (s.stream k).lifecycle.aborted.isSome = true) {ws : List StreamWork}
    (hws : ∀ w ∈ ws, w = .abortReadable k ∨ w = .abortWritable k ∨ w = .streamClosed k) :
    Halves (s.push ws) where
  stream := h.stream
  ended := h.ended
  parent := h.parent
  told i hi := by
    rcases List.mem_append.mp hi with hi | hi
    · rcases hws _ hi with heq | heq | heq
      · cases heq
      · cases heq
        exact haborted
      · cases heq
    · exact h.told i hi
  looped c w hw hloop := by
    rcases List.mem_append.mp hw with hw | hw
    · rcases hws _ hw with rfl | rfl | rfl <;> cases hloop
    · exact h.looped c w hw hloop

/-- An abort gives its cause to both halves of the stream, and to nothing else. -/
theorem Halves.abort (h : Halves s) (hP : P cause k)
    (hfinished : cause = .finished → (s.stream k).unfinished = 0)
    (hended : cause = .sessionEnded → (s.session (s.stream k).session).aborted.isSome = true) :
    Moves P Q s (s.abort k cause reason) := by
  unfold StreamState.abort
  split
  · exact h.refl_moves
  · rename_i hopen
    rw [Bool.not_eq_true] at hopen
    rw [abort_eq]
    generalize reason.getD defaultAbortReason = r
    have hmarked : Moves P Q s (s.markClosed k cause r) :=
      h.markClosed hP hopen hfinished hended
    have haborted : ((s.markClosed k cause r).stream k).lifecycle.aborted.isSome = true := by
      rw [markClosed_stream, if_pos rfl]
      rfl
    exact ⟨(hmarked.halves.push_aborted haborted (by simp)).unsubscribe, hmarked.aborts,
      hmarked.disturbs⟩

/-- The change of one adapter aborts nothing. -/
theorem Halves.modify (h : Halves s) (f : StreamAdapter → StreamAdapter)
    (hhalved : (f (s.stream k)).Halved) (hsession : (f (s.stream k)).session = (s.stream k).session)
    (haborted : (f (s.stream k)).lifecycle.aborted = (s.stream k).lifecycle.aborted)
    (hwritable : (f (s.stream k)).writable = (s.stream k).writable) :
    Moves P Q s (s.modify k f) := by
  have hsame : ∀ i, ((s.modify k f).stream i).session = (s.stream i).session ∧
      ((s.modify k f).stream i).lifecycle.aborted = (s.stream i).lifecycle.aborted ∧
      ((s.modify k f).stream i).writable = (s.stream i).writable := by
    intro i
    rw [modify_stream]
    split
    · rename_i hi
      rw [hi]
      exact ⟨hsession, haborted, hwritable⟩
    · exact ⟨rfl, rfl, rfl⟩
  refine ⟨⟨fun i => ?_, fun i r hi => ?_, fun c i hi => ?_, fun i hi => ?_, h.looped⟩,
    fun i => .inl (hsame i).2.1, fun i hi => ?_⟩
  · rw [modify_stream]
    split
    · exact hhalved
    · exact h.stream i
  · rw [(hsame i).2.1] at hi
    rw [(hsame i).1]
    exact h.ended i r hi
  · rw [(hsame i).1]
    exact h.parent c i hi
  · rw [(hsame i).2.1]
    exact h.told i hi
  · unfold StreamAdapter.disturbed at hi ⊢
    rw [(hsame i).2.2] at hi
    exact .inl hi

theorem modify_modify (f g : StreamAdapter → StreamAdapter) :
    (s.modify k f).modify k g = s.modify k fun st => g (f st) := by
  unfold StreamState.modify
  simp only [Function.update_self, Function.update_idem]

/-- A half finishes its part; the lifecycle is aborted with the last one. -/
theorem Halves.finishPart (h : Halves s) (hP : P .finished k) (hnew : half ∉ (s.stream k).parts)
    (hfinished : (s.stream k).HalfFinished half) : Moves P Q s (s.finishPart k half) := by
  have hold := h.stream k
  have htidy := hold.tidy.finish hnew hfinished
  have hcount := StreamAdapter.unfinished_finish hnew hfinished
  have hopen : ∀ r, (s.stream k).lifecycle.aborted ≠ some (.finished, r) := by
    intro r hr
    rw [hold.finished r hr] at hcount
    cases hcount
  have hself : ∀ f : StreamAdapter → StreamAdapter, (s.modify k f).stream k = f (s.stream k) :=
    fun f => by rw [modify_stream, if_pos rfl]
  unfold StreamState.finishPart modifyLifecycle
  simp only [modify_modify, hself]
  split
  · rename_i hclosed
    refine h.modify _ ⟨hold.both, hold.marked, htidy, fun hfalse => ?_,
      fun r hr => absurd hr (hopen r)⟩ rfl rfl rfl
    rw [show (s.stream k).lifecycle.closed = false from hfalse] at hclosed
    cases hclosed
  · rename_i hclosed
    have hremaining := hold.remaining (by simpa using hclosed)
    have hleft := congrArg (· - 1) (hremaining.trans hcount.symm)
    have hcounted := h.modify (P := P) (Q := Q) (k := k) (fun st =>
      { st with
        parts := st.parts ++ [half]
        lifecycle := { st.lifecycle with remainingParts := st.lifecycle.remainingParts - 1 } })
      ⟨hold.both, hold.marked, ⟨htidy.nodup, htidy.readable, htidy.writable⟩, fun _ => hleft,
        fun r hr => absurd hr (hopen r)⟩ rfl rfl rfl
    split
    · rename_i hlast
      refine hcounted.trans (hcounted.halves.abort hP (fun _ => ?_) nofun)
      rw [hself]
      exact hleft.symm.trans hlast
    · exact hcounted

end StreamState

end NestWebTransport
