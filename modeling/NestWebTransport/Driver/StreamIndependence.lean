import NestWebTransport.Driver.StreamHalves

/-! The halves of a bidirectional stream do not disturb each other. -/
namespace NestWebTransport

namespace StreamState

open StreamAdapter (HalfFinished)

variable {s t : StreamState} {k : Nat} {w : StreamWork} {e : StreamEvent} {cause : AbortCause}
  {reason : Option Thrown} {P : AbortCause → Nat → Prop} {Q : Nat → Prop}

/-! ### Readable bridges -/

/-- A readable that finishes ends the stream only as its last part. -/
theorem Halves.finishReadable (h : Halves s) (hP : P .finished k) (countAsPart : Bool) :
    Moves P Q s (s.finishReadable k countAsPart) := by
  unfold StreamState.finishReadable
  cases hb : (s.stream k).readable with
  | none => exact h.refl_moves
  | some b =>
    have hself := modifyReadable_self (s := s) (k := k)
      fun b : ReadableBridge => { b with finished := true }
    have hmarked : Moves P Q s (s.modifyReadable k fun b => { b with finished := true }) :=
      h.readable _ fun _ _ => rfl
    simp only
    split
    · rename_i hfirst
      rw [Bool.and_eq_true, Bool.not_eq_true'] at hfirst
      refine hmarked.trans (hmarked.halves.finishPart hP (fun hmem => ?_) ?_)
      · rw [hself] at hmem
        obtain ⟨b', hb', hfinished⟩ := (h.stream k).tidy.readable hmem
        rw [hb] at hb'
        cases hb'
        rw [hfirst.1] at hfinished
        cases hfinished
      · refine ⟨{ b with finished := true }, ?_, rfl⟩
        rw [hself, hb]
        rfl
    · exact hmarked

theorem Halves.errorReadable (h : Halves s) : Moves P Q s (s.errorReadable k) :=
  h.readable _ fun _ hb => hb

theorem Halves.stop (h : Halves s) : Moves P Q s (s.stop k) := by
  refine h.readable _ fun b hb => ?_
  cases b.stopPromise <;> exact hb

theorem Halves.abortReadable (h : Halves s) : Moves P Q s (s.abortReadable k) := by
  unfold StreamState.abortReadable
  cases (s.stream k).readable with
  | none => exact h.refl_moves
  | some b =>
    simp only
    split
    · exact h.refl_moves
    · have herrored : Moves P Q s (s.errorReadable k) := h.errorReadable
      exact herrored.trans herrored.halves.stop

/-- An awaited call of the native half settles, and the bridge finishes. -/
theorem Halves.settleReadable (h : Halves s) (hP : P .finished k)
    (f : ReadableBridge → ReadableBridge) (hf : ∀ b, b.finished = true → (f b).finished = true) :
    Moves P Q s ((s.modifyReadable k f).finishReadable k true) := by
  have hsettled : Moves P Q s (s.modifyReadable k f) := h.readable f hf
  exact hsettled.trans (hsettled.halves.finishReadable hP true)

theorem Halves.pullFailed (h : Halves s) (hP : P cause k)
    (hcause : cause = .nativeFailed ∨ cause = .controllerThrew) (error : Thrown) :
    Moves P Q s (s.pullFailed k cause error) := by
  have herrored : Moves P Q s (s.errorReadable k) := h.errorReadable
  have hpushed : Moves P Q (s.errorReadable k)
      ((s.errorReadable k).push [.finishReadable k false]) := herrored.halves.push rfl nofun
  refine (herrored.trans hpushed).trans (hpushed.halves.abort hP ?_ ?_)
  · rcases hcause with rfl | rfl <;> nofun
  · rcases hcause with rfl | rfl <;> nofun

/-- A pull disturbs its stream where the native read failed or the controller threw. -/
theorem Halves.pulled (h : Halves s) (result : PullResult) (hP : P .finished k)
    (hfailed : ∀ error, result = .failed error → P .nativeFailed k)
    (hthrew : (∀ error, result ≠ .failed error) →
      s.hasReadable k (·.readable.canCloseOrEnqueue) = false → P .controllerThrew k) :
    Moves P Q s (s.pulled k result) := by
  unfold StreamState.pulled
  cases hb : (s.stream k).readable with
  | none => exact h.refl_moves
  | some b =>
    have hsettled : Moves P Q s (s.modifyReadable k fun b => { b with reading := false }) :=
      h.readable _ fun _ hf => hf
    have hcannot : ¬ b.readable.canCloseOrEnqueue = true →
        s.hasReadable k (·.readable.canCloseOrEnqueue) = false := by
      intro hnot
      unfold hasReadable
      rw [hb]
      simpa using hnot
    cases result with
    | failed error =>
      exact hsettled.trans (hsettled.halves.pullFailed (hfailed error rfl) (.inl rfl) _)
    | done =>
      simp only
      split
      · have hclosed : Moves P Q _ _ := hsettled.halves.readable (k := k)
          (fun b => { b with readable := b.readable.close }) fun _ hf => hf
        exact (hsettled.trans hclosed).trans (hclosed.halves.finishReadable hP true)
      · rename_i hnot
        exact hsettled.trans
          (hsettled.halves.pullFailed (hthrew nofun (hcannot hnot)) (.inr rfl) _)
    | value byteLength =>
      have hreceived : Moves P Q (s.modifyReadable k fun b => { b with reading := false })
          { s.modifyReadable k fun b => { b with reading := false } with
            bytesReceived := s.bytesReceived + byteLength } :=
        Framed.moves ⟨rfl, fun _ hw => hw, fun _ => .refl⟩ hsettled.halves fun _ hi => .inl hi
      have hbefore := hsettled.trans hreceived
      simp only
      split
      · exact hbefore.trans (hreceived.halves.readable _ fun _ hf => hf)
      · rename_i hnot
        exact hbefore.trans
          (hreceived.halves.pullFailed (hthrew nofun (hcannot hnot)) (.inr rfl) _)

theorem Halves.readableFailed (h : Halves s) (hP : P .finished k) (hfailed : P .nativeFailed k)
    (error : Thrown) : Moves P Q s (s.readableFailed k error) := by
  unfold StreamState.readableFailed
  cases (s.stream k).readable with
  | none => exact h.refl_moves
  | some b =>
    have hsettled : Moves P Q s (s.modifyReadable k fun b => { b with closedSettled := true }) :=
      h.readable _ fun _ hf => hf
    simp only
    split
    · exact hsettled
    · have herrored := hsettled.trans (hsettled.halves.errorReadable (k := k))
      have hfinished := herrored.trans (herrored.halves.finishReadable hP false)
      exact hfinished.trans (hfinished.halves.abort hfailed nofun nofun)

/-! ### Writable bridges -/

/-- A writable that finishes ends the stream only as its last part. -/
theorem Halves.finishWritable (h : Halves s) (hP : P .finished k) :
    Moves P Q s (s.finishWritable k) := by
  unfold StreamState.finishWritable
  cases hb : (s.stream k).writable with
  | none => exact h.refl_moves
  | some b =>
    have hself := modifyWritable_self (s := s) (k := k)
      fun b : WritableBridge => { b with finished := true }
    have hmarked : Moves P Q s (s.modifyWritable k fun b => { b with finished := true }) :=
      h.writable _ (fun _ _ => rfl) fun _ _ hi => .inl hi
    simp only
    split
    · exact h.refl_moves
    · rename_i hopen
      refine hmarked.trans (hmarked.halves.finishPart hP (fun hmem => ?_) ?_)
      · rw [hself] at hmem
        obtain ⟨b', hb', hfinished⟩ := (h.stream k).tidy.writable hmem
        rw [hb] at hb'
        cases hb'
        exact hopen hfinished
      · refine ⟨{ b with finished := true }, ?_, rfl⟩
        rw [hself, hb]
        rfl

theorem Halves.settleWritable (h : Halves s) (hP : P .finished k)
    (f : WritableBridge → WritableBridge) (hf : ∀ b, b.finished = true → (f b).finished = true)
    (hdisturbs : ∀ b, (s.stream k).writable = some b →
      ((f b).errored || (f b).resetPromise != .uncalled) = true →
      (b.errored || b.resetPromise != .uncalled) = true ∨ Q k) :
    Moves P Q s ((s.modifyWritable k f).finishWritable k) := by
  have hsettled : Moves P Q s (s.modifyWritable k f) := h.writable f hf hdisturbs
  exact hsettled.trans (hsettled.halves.finishWritable hP)

theorem Halves.errorWritable (h : Halves s) (hQ : Q k) : Moves P Q s (s.errorWritable k) :=
  h.writable _ (fun _ hf => hf) fun _ _ _ => .inr hQ

theorem Halves.resetWritable (h : Halves s) (hQ : Q k) : Moves P Q s (s.resetWritable k) := by
  refine h.writable _ (fun b hb => ?_) fun _ _ _ => .inr hQ
  split
  · exact hb
  · cases b.resetPromise <;> exact hb

/-- A writable half that has finished takes no part in the abort of its lifecycle. -/
theorem Halves.abortWritable (h : Halves s) (hP : P .finished k)
    (haborted : (s.stream k).lifecycle.aborted.isSome = true)
    (hQ : ∀ c r, (s.stream k).lifecycle.aborted = some (c, r) → c ≠ .finished → Q k) :
    Moves P Q s (s.abortWritable k) := by
  unfold StreamState.abortWritable
  cases hb : (s.stream k).writable with
  | none => exact h.refl_moves
  | some b =>
    simp only
    split
    · exact h.refl_moves
    · rename_i hopen
      obtain ⟨⟨c, r⟩, hc⟩ := Option.isSome_iff_exists.mp haborted
      have hcause : c ≠ .finished := by
        rintro rfl
        have hall := ((h.stream k).all_finished ((h.stream k).finished r hc)).writable
        rw [hb] at hall
        exact hopen (Bool.or_eq_true_iff.mpr (.inl hall))
      have herrored : Moves P Q s (s.errorWritable k) := h.errorWritable (hQ c r hc hcause)
      split
      · exact herrored.trans (herrored.halves.finishWritable hP)
      · exact herrored.trans (herrored.halves.resetWritable (hQ c r hc hcause))

theorem Halves.writableFailed (h : Halves s) (hfailed : P .nativeFailed k) (error : Thrown)
    (operation : String) : Moves P Q s (s.writableFailed k error operation) := by
  have hpushed : Moves P Q s (s.push [.finishWritable k]) := h.push rfl nofun
  exact hpushed.trans (hpushed.halves.abort hfailed nofun nofun)

theorem Halves.wrote (h : Halves s) (error : Option Thrown)
    (hfailed : ∀ reason, error = some reason → P .nativeFailed k) :
    Moves P Q s (s.wrote k error) := by
  have hsettled : Moves P Q s (s.modifyWritable k fun b => { b with writing := none }) :=
    h.writable _ (fun _ hf => hf) fun _ _ hi => .inl hi
  cases error with
  | none =>
    exact hsettled.trans
      (Framed.moves ⟨rfl, fun _ hw => hw, fun _ => .refl⟩ hsettled.halves fun _ hi => .inl hi)
  | some reason => exact hsettled.trans (hsettled.halves.writableFailed (hfailed reason rfl) _ _)

theorem Halves.closeSettled (h : Halves s) (hP : P .finished k) (error : Option Thrown)
    (hfailed : ∀ reason, error = some reason → P .nativeFailed k) :
    Moves P Q s (s.closeSettled k error) := by
  have hsettled : Moves P Q s (s.modifyWritable k fun b => { b with closePromise := .settled }) :=
    h.writable _ (fun _ hf => hf) fun _ _ hi => .inl hi
  cases error with
  | none => exact hsettled.trans (hsettled.halves.finishWritable hP)
  | some reason => exact hsettled.trans (hsettled.halves.writableFailed (hfailed reason rfl) _ _)

/-- A close that fails disturbs its stream. -/
theorem Halves.writableClosed (h : Halves s) (hP : P .finished k) (error : Option Thrown)
    (hfailed : ∀ reason, error = some reason → P .nativeFailed k ∧ Q k) :
    Moves P Q s (s.writableClosed k error) := by
  unfold StreamState.writableClosed
  cases (s.stream k).writable with
  | none => exact h.refl_moves
  | some b =>
    have hsettled : Moves P Q s (s.modifyWritable k fun b => { b with closedSettled := true }) :=
      h.writable _ (fun _ hf => hf) fun _ _ hi => .inl hi
    cases error with
    | none => exact hsettled.trans (hsettled.halves.finishWritable hP)
    | some reason =>
      obtain ⟨hnative, hQ⟩ := hfailed reason rfl
      simp only
      split
      · exact hsettled
      · have herrored := hsettled.trans (hsettled.halves.errorWritable hQ)
        exact herrored.trans (herrored.halves.writableFailed hnative _ _)

theorem Halves.resetStream (h : Halves s) (hP : P .reset k) (hQ : Q k) :
    Moves P Q s (s.reset k) := by
  unfold StreamState.reset
  have hold := h.stream k
  have hcalled : Moves P Q s (s.modify k fun st => { st with resetCalled := true }) :=
    h.modify _ ⟨hold.both, hold.marked, ⟨hold.tidy.nodup, hold.tidy.readable, hold.tidy.writable⟩,
      hold.remaining, hold.finished⟩ rfl rfl rfl
  have hstopped := hcalled.trans (hcalled.halves.stop (k := k))
  have hreset := hstopped.trans (hstopped.halves.resetWritable hQ)
  exact hreset.trans (hreset.halves.abort hP nofun nofun)

/-! ### Sessions -/

/-- A new stream has its halves open. -/
theorem halved_adapt {st : StreamAdapter} {n : Nat} {native : NativeHalves}
    (h : native.adapt n = some st) :
    st.Halved ∧ st.lifecycle.aborted = none ∧ st.disturbed = false := by
  have htidy : st.Tidy := by
    have hparts := (adapt_new h).2.2.2.1
    refine ⟨by rw [hparts]; exact List.nodup_nil, fun hmem => ?_, fun hmem => ?_⟩ <;>
      rw [hparts] at hmem <;> cases hmem
  cases native with
  | receive id =>
    obtain ⟨_, _, rfl⟩ := Option.map_eq_some_iff.mp h
    exact ⟨⟨nofun, rfl, htidy, fun _ => rfl, nofun⟩, rfl, rfl⟩
  | send id =>
    obtain ⟨_, _, rfl⟩ := Option.map_eq_some_iff.mp h
    exact ⟨⟨nofun, rfl, htidy, fun _ => rfl, nofun⟩, rfl, rfl⟩
  | bidirectional readableId writableId =>
    change (if readableId ≠ writableId then none else _) = some st at h
    split at h
    · cases h
    · obtain ⟨_, _, rfl⟩ := Option.map_eq_some_iff.mp h
      exact ⟨⟨fun _ => ⟨rfl, rfl⟩, rfl, htidy, fun _ => rfl, nofun⟩, rfl, rfl⟩

/-- The adapter that a constructor puts in use. -/
theorem Halves.adopt (h : Halves s) (hsound : Sound s) {n : Nat} {native : NativeHalves}
    {st : StreamAdapter} (hadapt : native.adapt n = some st) :
    Moves P Q s { s with
      stream := Function.update s.stream s.streamCount st, streamCount := s.streamCount + 1,
      streamsActive := s.streamsActive + 1, streamsTotal := s.streamsTotal + 1 } := by
  obtain ⟨hhalved, haborted, hundisturbed⟩ := halved_adapt hadapt
  have hfresh := hsound.fresh s.streamCount (Nat.le_refl _)
  have hstream : ∀ i, Function.update s.stream s.streamCount st i = s.stream i ∧
      i ≠ s.streamCount ∨ Function.update s.stream s.streamCount st i = st ∧
        i = s.streamCount := by
    intro i
    by_cases hi : i = s.streamCount
    · rw [hi, Function.update_self]
      exact .inr ⟨rfl, rfl⟩
    · exact .inl ⟨Function.update_of_ne hi .., hi⟩
  have hsame : ∀ i, (Function.update s.stream s.streamCount st i).lifecycle.aborted =
      (s.stream i).lifecycle.aborted := by
    intro i
    rcases hstream i with ⟨heq, -⟩ | ⟨heq, rfl⟩
    · rw [heq]
    · rw [heq, haborted, hfresh]
      rfl
  refine ⟨⟨fun i => ?_, fun i r hi => ?_, fun c i hi => ?_, fun i hi => ?_, h.looped⟩,
    fun i => .inl (hsame i), fun i hi => ?_⟩
  · change (Function.update s.stream s.streamCount st i).Halved
    rcases hstream i with ⟨heq, -⟩ | ⟨heq, -⟩
    · rw [heq]
      exact h.stream i
    · rw [heq]
      exact hhalved
  · change (Function.update s.stream s.streamCount st i).lifecycle.aborted = _ at hi
    change (s.session (Function.update s.stream s.streamCount st i).session).aborted.isSome = true
    rcases hstream i with ⟨heq, -⟩ | ⟨heq, -⟩
    · rw [heq] at hi ⊢
      exact h.ended i r hi
    · rw [heq, haborted] at hi
      cases hi
  · change (Function.update s.stream s.streamCount st i).session = c
    have hlt := hsound.listeners c i hi
    rw [Function.update_of_ne (Nat.ne_of_lt hlt)]
    exact h.parent c i hi
  · change (Function.update s.stream s.streamCount st i).lifecycle.aborted.isSome = true
    rw [hsame]
    exact h.told i hi
  · change (Function.update s.stream s.streamCount st i).disturbed = true at hi
    rcases hstream i with ⟨heq, -⟩ | ⟨heq, -⟩
    · rw [heq] at hi
      exact .inl hi
    · rw [heq, hundisturbed] at hi
      cases hi

/-- The listeners of a session, and whether it has ended, may change with it. -/
theorem Halves.modifySession (h : Halves s) {n : Nat} (f : StreamSession → StreamSession)
    (haborted : (s.session n).aborted.isSome = true → (f (s.session n)).aborted.isSome = true)
    (hlisteners : ∀ i ∈ (f (s.session n)).listeners,
      i ∈ (s.session n).listeners ∨ (s.stream i).session = n) :
    Moves P Q s (s.modifySession n f) := by
  have hkept : ∀ c, (s.session c).aborted.isSome = true →
      ((s.modifySession n f).session c).aborted.isSome = true := by
    intro c hc
    rw [modifySession_session]
    split
    · rename_i hcn
      exact haborted (hcn ▸ hc)
    · exact hc
  refine ⟨⟨h.stream, fun i r hi => hkept _ (h.ended i r hi), fun c i hi => ?_, h.told,
    fun c w hw hloop => hkept c (h.looped c w hw hloop)⟩, fun _ => .inl rfl, fun _ hi => .inl hi⟩
  rw [modifySession_session] at hi
  split at hi
  · rename_i hcn
    rw [hcn]
    exact (hlisteners i hi).elim (h.parent n i) id
  · exact h.parent c i hi

/-- A stream that is built under an aborted session is aborted at once. -/
theorem Halves.construct (h : Halves s) (hsound : Sound s) {n : Nat} (native : NativeHalves)
    (hP : P .sessionEnded s.streamCount) : Moves P Q s (s.construct n native) := by
  unfold StreamState.construct
  cases hadapt : native.adapt n with
  | none => exact h.refl_moves
  | some st =>
    have hadopted : Moves P Q s _ := h.adopt hsound hadapt
    have hself : Function.update s.stream s.streamCount st s.streamCount = st :=
      Function.update_self ..
    have hn : st.session = n := (adapt_new hadapt).1
    cases haborted : (s.session n).aborted with
    | none =>
      refine hadopted.trans (hadopted.halves.modifySession _ id fun i hi => ?_)
      refine (List.mem_append.mp hi).imp_right fun hi => ?_
      rw [List.mem_singleton.mp hi]
      exact (congrArg StreamAdapter.session hself).trans hn
    | some reason =>
      have hmarked := hadopted.trans (hadopted.halves.markClosed (k := s.streamCount)
        (r := reason) hP ?_ nofun fun _ => ?_)
      · refine ⟨hmarked.halves.push_aborted (k := s.streamCount) ?_ (by simp), hmarked.aborts,
          hmarked.disturbs⟩
        rw [markClosed_stream, if_pos rfl]
        rfl
      · exact (congrArg (·.lifecycle.closed) hself).trans (adapt_new hadapt).2.1
      · have hsession := congrArg StreamAdapter.session hself
        change (s.session (Function.update s.stream _ st s.streamCount).session).aborted.isSome = _
        rw [hsession, hn, haborted]
        rfl

/-- The loop over the listeners of a session runs once the session has ended. -/
theorem Halves.push_loop (h : Halves s) {n : Nat} (hended : (s.session n).aborted.isSome = true)
    (hloop : w = .startNotify n ∨ ∃ todo, w = .notify n todo) : Moves P Q s (s.push [w]) := by
  refine ⟨⟨h.stream, h.ended, h.parent, fun i hi => ?_, fun c v hv hc => ?_⟩,
    fun _ => .inl rfl, fun _ hi => .inl hi⟩
  · rcases List.mem_cons.mp hi with rfl | hi
    · rcases hloop with heq | ⟨todo, heq⟩ <;> cases heq
    · exact h.told i hi
  · rcases List.mem_cons.mp hv with rfl | hv
    · have hcn : n = c := by
        rcases hloop with rfl | ⟨todo, rfl⟩ <;> exact beq_iff_eq.mp hc
      exact hcn ▸ hended
    · exact h.looped c v hv hc

theorem Halves.endSession (h : Halves s) (n : Nat) (r : Thrown) :
    Moves P Q s (s.endSession n r) := by
  unfold StreamState.endSession
  cases (s.session n).aborted with
  | some _ => exact h.refl_moves
  | none =>
    have hmarked : Moves P Q s (s.modifySession n fun c => { c with aborted := some r }) :=
      h.modifySession _ (fun _ => rfl) fun _ hi => .inl hi
    refine hmarked.trans (hmarked.halves.push_loop ?_ (.inl rfl))
    rw [modifySession_session, if_pos rfl]
    rfl

/-- The end of a session aborts its streams, each as ended with the session. -/
theorem Halves.notify (h : Halves s) {n : Nat} (todo : List Nat)
    (hended : (s.session n).aborted.isSome = true) (hP : ∀ i, P .sessionEnded i) :
    Moves P Q s (s.notify n todo) := by
  cases todo with
  | nil =>
    have hcleared : Moves P Q s (s.modifySession n fun c => { c with listeners := [] }) :=
      h.modifySession _ id nofun
    exact hcleared
  | cons l todo =>
    have hpushed : Moves P Q s (s.push [.notify n todo]) := h.push_loop hended (.inr ⟨todo, rfl⟩)
    unfold StreamState.notify
    simp only
    split
    · rename_i hlistens
      refine hpushed.trans (hpushed.halves.abort (hP l) nofun fun _ => ?_)
      change (s.session (s.stream l).session).aborted.isSome = true
      rw [h.parent n l hlistens]
      exact hended
    · exact hpushed

end StreamState

/-! ### Every step -/

namespace StreamEvent

/-- A native half of the stream fails, and the adapter sees it. -/
def nativeFails (k : Nat) : StreamEvent → Bool
  | .pulled l (.failed _) => l == k
  | .readableFailed l _ => l == k
  | .wrote l (some _) | .closeSettled l (some _) | .writableClosed l (some _) => l == k
  | _ => false

/-- A pull of the stream goes on with a chunk or with the end of the native half. -/
def continuesPull (k : Nat) : StreamEvent → Bool
  | .pulled l .done | .pulled l (.value _) => l == k
  | _ => false

end StreamEvent

namespace StreamState

open StreamAdapter (HalfFinished)

variable {s t : StreamState} {k : Nat} {w : StreamWork} {e : StreamEvent} {cause : AbortCause}
  {P : AbortCause → Nat → Prop} {Q : Nat → Prop} {es : List StreamEvent}

/-- The causes for which an event may abort a lifecycle. -/
def Allows (s : StreamState) (e : StreamEvent) : AbortCause → Nat → Prop
  | .finished, _ | .sessionEnded, _ => True
  | .reset, i => e = .reset i
  | .nativeFailed, i => e.nativeFails i = true
  | .controllerThrew, i => e.continuesPull i = true ∧
      s.hasReadable i (·.readable.canCloseOrEnqueue) = false

/-- The writable half is reset, aborted, or fails, or the lifecycle is aborted before both halves
have finished. -/
def Disturbs (s : StreamState) (e : StreamEvent) (i : Nat) : Prop :=
  e = .reset i ∨ e = .abortSink i ∨ e.nativeFails i = true ∨
    ∃ c r, (s.stream i).lifecycle.aborted = some (c, r) ∧ c ≠ .finished

theorem Halves.streamClosed (h : Halves s) : Moves P Q s (s.streamClosed k) := by
  have hold := h.stream k
  have hreported : Moves P Q s (s.modify k fun st => { st with closings := st.closings + 1 }) :=
    h.modify _ ⟨hold.both, hold.marked, ⟨hold.tidy.nodup, hold.tidy.readable, hold.tidy.writable⟩,
      hold.remaining, hold.finished⟩ rfl rfl rfl
  exact hreported.trans
    (Framed.moves ⟨rfl, fun _ hw => hw, fun _ => .refl⟩ hreported.halves fun _ hi => .inl hi)

/-- Work of the agenda ends a half for a reason it was put there with. -/
theorem Halves.work (h : Halves s) (hP : ∀ i, P .finished i ∧ P .sessionEnded i)
    (hQ : ∀ i c r, (s.stream i).lifecycle.aborted = some (c, r) → c ≠ .finished → Q i) :
    Moves P Q s s.work := by
  unfold StreamState.work
  cases hagenda : s.agenda with
  | nil => exact h.refl_moves
  | cons first rest =>
    have hmem : ∀ w ∈ rest, w ∈ s.agenda := fun w hw => hagenda ▸ List.mem_cons_of_mem _ hw
    have hfirst : first ∈ s.agenda := hagenda ▸ List.mem_cons_self
    have hpopped : Moves P Q s { s with agenda := rest } :=
      Framed.moves ⟨rfl, hmem, fun _ => .refl⟩ h fun _ hi => .inl hi
    refine hpopped.trans ?_
    cases first with
    | abortReadable k => exact hpopped.halves.abortReadable
    | abortWritable k => exact hpopped.halves.abortWritable (hP k).1 (h.told k hfirst) (hQ k)
    | finishReadable k countAsPart => exact hpopped.halves.finishReadable (hP k).1 countAsPart
    | finishWritable k => exact hpopped.halves.finishWritable (hP k).1
    | streamClosed k => exact hpopped.halves.streamClosed
    | startNotify n =>
      have hended := h.looped n _ hfirst (beq_self_eq_true n)
      exact hpopped.halves.push_loop hended (.inr ⟨_, rfl⟩)
    | notify n todo =>
      have hended := h.looped n _ hfirst (beq_self_eq_true n)
      exact hpopped.halves.notify todo hended fun i => (hP i).2

/-- Which events may end which half, one case per event. -/
theorem Halves.next (h : Halves s) (hsound : Sound s) (he : s.enabled e = true) :
    Moves (s.Allows e) (s.Disturbs e) s (s.next e) := by
  cases e with
  | work =>
    exact h.work (P := s.Allows .work) (Q := s.Disturbs .work) (fun _ => ⟨trivial, trivial⟩)
      fun i c r hc hne => .inr (.inr (.inr ⟨c, r, hc, hne⟩))
  | construct session native => exact h.construct hsound native trivial
  | endSession session reason => exact h.endSession session reason
  | reset k => exact h.resetStream rfl (.inl rfl)
  | pull k => exact h.readable _ fun _ hf => hf
  | pulled k result =>
    refine h.pulled result trivial (fun error herror => ?_) fun hresult hcannot => ⟨?_, hcannot⟩
    · rw [herror]
      exact beq_self_eq_true k
    · cases result with
      | failed error => exact absurd rfl (hresult error)
      | done => exact beq_self_eq_true k
      | value byteLength => exact beq_self_eq_true k
  | read k => exact h.readable _ fun _ hf => hf
  | cancel k => exact h.readable _ fun _ hf => hf
  | cancelSettled k => exact h.settleReadable trivial _ fun _ hf => hf
  | readableFailed k error => exact h.readableFailed trivial (beq_self_eq_true k) error
  | stopSettled k => exact h.settleReadable trivial _ fun _ hf => hf
  | write k byteLength => exact h.writable _ (fun _ hf => hf) fun _ _ hi => .inl hi
  | wrote k error =>
    refine h.wrote error fun reason hreason => ?_
    rw [hreason]
    exact beq_self_eq_true k
  | close k => exact h.writable _ (fun _ hf => hf) fun _ _ hi => .inl hi
  | closeSettled k error =>
    refine h.closeSettled trivial error fun reason hreason => ?_
    rw [hreason]
    exact beq_self_eq_true k
  | abortSink k =>
    exact h.writable _ (fun _ hf => hf) fun _ _ _ => .inr (.inr (.inl rfl))
  | abortSettled k => exact h.settleWritable trivial _ (fun _ hf => hf) fun _ _ hi => .inl hi
  | writableClosed k error =>
    refine h.writableClosed trivial error fun reason hreason => ?_
    rw [hreason]
    exact ⟨beq_self_eq_true k, .inr (.inr (.inl (beq_self_eq_true k)))⟩
  | resetSettled k =>
    refine h.settleWritable trivial _ (fun _ hf => hf) fun b hb _ => .inl ?_
    -- a reset that settles was asked for
    have hrunning : (s.stream k).writable.any (·.resetPromise == .running) = true := he
    rw [hb] at hrunning
    have hrunning : b.resetPromise = .running := beq_iff_eq.mp hrunning
    rw [hrunning]
    exact Bool.or_true _

/-! ### Runs -/

/-- Why a step may abort the lifecycle of a stream. -/
def Because (e : StreamEvent) (t : StreamState) (k : Nat) : AbortCause → Prop
  | .finished => (t.stream k).AllFinished
  | .reset => e = .reset k
  | .nativeFailed => e.nativeFails k = true
  | .controllerThrew => False
  | .sessionEnded => (t.session (t.stream k).session).aborted.isSome = true

/-- The lifecycle of the stream is aborted for a reason, and its writable half is disturbed only by
what concerns that half, or once the lifecycle is aborted before both halves have finished. -/
structure Independent (k : Nat) (s : StreamState) (e : StreamEvent) (t : StreamState) : Prop where
  aborts : ∀ c r, (s.stream k).lifecycle.aborted = none →
    (t.stream k).lifecycle.aborted = some (c, r) → Because e t k c
  disturbs : (s.stream k).disturbed = false → (t.stream k).disturbed = true →
    e = .reset k ∨ e = .abortSink k ∨ e.nativeFails k = true ∨
      ∃ c r, (t.stream k).lifecycle.aborted = some (c, r) ∧
        (c = .reset ∨ c = .nativeFailed ∨ c = .sessionEnded)

/-- A pull goes on while the readable half takes what was read, or once the lifecycle is closed. -/
def TakesPull (k : Nat) (s : StreamState) (e : StreamEvent) : Prop :=
  e.continuesPull k = true → (s.stream k).lifecycle.closed = false →
    s.hasReadable k (·.readable.canCloseOrEnqueue) = true

/-- No exception of the controller has aborted the lifecycle. -/
structure Unthrown (k : Nat) (s : StreamState) : Prop where
  sound : Sound s
  halves : Halves s
  unthrown : ∀ r, (s.stream k).lifecycle.aborted ≠ some (.controllerThrew, r)

/-- While the controller takes every end, no abort comes from it. -/
theorem Unthrown.allows {r : Thrown} (h : Unthrown k s) (he : s.enabled e = true)
    (hok : TakesPull k s e) (hnone : (s.stream k).lifecycle.aborted = none)
    (haborted : ((s.next e).stream k).lifecycle.aborted = some (cause, r)) :
    s.Allows e cause k ∧ cause ≠ .controllerThrew := by
  rcases (h.halves.next h.sound he).aborts k with hsame | ⟨-, c, r', hc, hallows⟩
  · rw [hsame, hnone] at haborted
    cases haborted
  · rw [haborted] at hc
    cases hc
    refine ⟨hallows, ?_⟩
    rintro rfl
    obtain ⟨hpull, hcannot⟩ := hallows
    have hopen : (s.stream k).lifecycle.closed = false := by
      rw [(h.halves.stream k).marked, hnone]
      rfl
    rw [hok hpull hopen] at hcannot
    cases hcannot

/-- Where the controller takes the end that a pull brings, nothing is thrown. -/
theorem Unthrown.next (h : Unthrown k s) (he : s.enabled e = true) (hok : TakesPull k s e) :
    Unthrown k (s.next e) := by
  have hmoves := h.halves.next h.sound he
  refine ⟨h.sound.next he, hmoves.halves, fun r hr => ?_⟩
  rcases hmoves.aborts k with hsame | ⟨hnone, -⟩
  · rw [hsame] at hr
    exact h.unthrown r hr
  · exact (h.allows he hok hnone hr).2 rfl

/-- While the controller takes every end, a half is ended only for a reason of its own stream. -/
theorem Unthrown.independent (h : Unthrown k s) (he : s.enabled e = true)
    (hok : TakesPull k s e) : Independent k s e (s.next e) := by
  have hmoves := h.halves.next h.sound he
  refine ⟨fun c r hnone haborted => ?_, fun hbefore hafter => ?_⟩
  · obtain ⟨hallows, hcause⟩ := h.allows he hok hnone haborted
    cases c with
    | finished =>
      have hhalved := hmoves.halves.stream k
      exact hhalved.all_finished (hhalved.finished r haborted)
    | reset => exact hallows
    | nativeFailed => exact hallows
    | controllerThrew => exact absurd rfl hcause
    | sessionEnded => exact hmoves.halves.ended k r haborted
  · rcases hmoves.disturbs k hafter with hdisturbed | hreset | hsink | hfails | ⟨c, r, hc, hne⟩
    · rw [hbefore] at hdisturbed
      cases hdisturbed
    · exact .inl hreset
    · exact .inr (.inl hsink)
    · exact .inr (.inr (.inl hfails))
    · refine .inr (.inr (.inr ⟨c, r, ?_, ?_⟩))
      · rcases hmoves.aborts k with hsame | ⟨hnone, -⟩
        · exact hsame.trans hc
        · rw [hnone] at hc
          cases hc
      · cases c with
        | finished => exact absurd rfl hne
        | controllerThrew => exact absurd hc (h.unthrown r)
        | reset => exact .inl rfl
        | nativeFailed => exact .inr (.inl rfl)
        | sessionEnded => exact .inr (.inr rfl)

theorem abort_aborted {reason : Option Thrown} (hopen : (s.stream k).lifecycle.closed = false) :
    ∃ r, ((s.abort k cause reason).stream k).lifecycle.aborted = some (cause, r) := by
  refine ⟨reason.getD defaultAbortReason, ?_⟩
  unfold StreamState.abort
  rw [if_neg (by rw [hopen]; exact Bool.false_ne_true), abort_eq]
  change ((s.markClosed k cause _).stream k).lifecycle.aborted = _
  rw [markClosed_stream, if_pos rfl]

theorem pullFailed_aborted (error : Thrown) (hopen : (s.stream k).lifecycle.closed = false) :
    ∃ r, ((s.pullFailed k cause error).stream k).lifecycle.aborted = some (cause, r) := by
  refine abort_aborted ?_
  change ((s.errorReadable k).stream k).lifecycle.closed = false
  rw [StreamState.errorReadable, modifyReadable_self]
  exact hopen

/-- What a pull goes on with aborts the lifecycle where the readable half does not take it. -/
theorem pulled_throws {result : PullResult} {b : ReadableBridge}
    (hb : (s.stream k).readable = some b) (hresult : ∀ error, result ≠ .failed error)
    (hopen : (s.stream k).lifecycle.closed = false)
    (hcannot : ¬ b.readable.canCloseOrEnqueue = true) :
    ∃ r, ((s.pulled k result).stream k).lifecycle.aborted = some (.controllerThrew, r) := by
  have hstill :
      ((s.modifyReadable k fun b => { b with reading := false }).stream k).lifecycle.closed =
        false := by
    rw [modifyReadable_self]
    exact hopen
  unfold StreamState.pulled
  rw [hb]
  cases result with
  | failed error => exact absurd rfl (hresult error)
  | done =>
    simp only
    rw [if_neg hcannot]
    exact pullFailed_aborted _ hstill
  | value byteLength =>
    simp only
    rw [if_neg hcannot]
    exact pullFailed_aborted _ hstill

/-- A chunk, or the end of the native half, that finds the readable half cancelled aborts the
lifecycle with what the controller throws. -/
theorem Unthrown.not_independent (h : Unthrown k s) (he : s.enabled e = true)
    (hok : ¬ TakesPull k s e) : ¬ Independent k s e (s.next e) := by
  unfold TakesPull at hok
  push Not at hok
  obtain ⟨hpull, hopen, hcannot⟩ := hok
  have hnone : (s.stream k).lifecycle.aborted = none := by
    rw [(h.halves.stream k).marked] at hopen
    simpa using hopen
  have hthrows : ∀ result, (∀ error, result ≠ .failed error) → e = .pulled k result →
      ∃ r, ((s.next e).stream k).lifecycle.aborted = some (.controllerThrew, r) := by
    rintro result hresult rfl
    obtain ⟨b, hb, -⟩ := Option.any_eq_true _ _ |>.mp he
    refine pulled_throws hb hresult hopen fun hcan => hcannot ?_
    unfold hasReadable
    rw [hb]
    exact hcan
  intro hindependent
  cases e with
  | pulled l result =>
    have hresult : (∀ error, result ≠ .failed error) ∧ l = k := by
      cases result with
      | failed error => cases hpull
      | done => exact ⟨nofun, beq_iff_eq.mp hpull⟩
      | value byteLength => exact ⟨nofun, beq_iff_eq.mp hpull⟩
    obtain ⟨r, hr⟩ := hthrows result hresult.1 (hresult.2 ▸ rfl)
    exact hindependent.aborts .controllerThrew r hnone hr
  | _ => cases hpull

/-- The halves of a stream are independent over exactly the runs in which no pull goes on after the
readable half was cancelled, while the lifecycle is still open. -/
theorem halves_independent_iff (k : Nat) (es : List StreamEvent) (t : StreamState) :
    (machine.restrict (TakesPull k)).Run new es t ↔
      (machine.restrict fun s e => Independent k s e (s.next e)).Run new es t := by
  refine Machine.Run.restrict_congr (P := Unthrown k) ?_ ?_ ⟨sound_new, halves_new, nofun⟩
  · rintro s e t ⟨he, rfl⟩ h hok
    exact h.next he hok
  · rintro s e t ⟨he, rfl⟩ h
    refine ⟨h.independent he, fun hindependent => ?_⟩
    by_contra hok
    exact h.not_independent he hok hindependent

/-- The application cancels the readable half of a bidirectional stream while a pull awaits the
native read, which the native cancellation fulfils with `done`. -/
def cancelledPull : List StreamEvent :=
  [.construct 0 (.bidirectional 4 4), .pull 0, .cancel 0, .pulled 0 .done, .work, .work, .work,
    .work, .cancelSettled 0]

/-- The lifecycle is aborted, and the writable half errored and reset. -/
theorem cancel_resets_writable : ∃ t, machine.Run new cancelledPull t ∧
    (t.stream 0).lifecycle.aborted.isSome = true ∧
    t.hasWritable 0 (fun b => b.errored && b.resetPromise == .running && !b.finished) = true ∧
    (t.stream 0).resetCalled = false ∧ (t.session 0).aborted = none ∧
    ∀ e ∈ cancelledPull, e.nativeFails 0 = false := by
  obtain ⟨t, hrun, haborted, hwritable, hreset, hsession⟩ := program.exists_run cancelledPull new
    (fun t => (t.stream 0).lifecycle.aborted.isSome = true ∧
      t.hasWritable 0 (fun b => b.errored && b.resetPromise == .running && !b.finished) = true ∧
      (t.stream 0).resetCalled = false ∧ (t.session 0).aborted.isSome = false)
    (by decide +kernel)
  refine ⟨t, hrun, haborted, hwritable, hreset, by simpa using hsession, ?_⟩
  decide

end StreamState

end NestWebTransport
