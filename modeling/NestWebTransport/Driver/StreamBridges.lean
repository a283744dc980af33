import NestWebTransport.Driver.StreamStanding

/-! Every event of a stream keeps what its driver counts. -/
namespace NestWebTransport

namespace StreamState

variable {s t : StreamState} {k l n : Nat} {w : StreamWork} {ws : List StreamWork}
  {cause : AbortCause} {reason : Option Thrown} {half : StreamHalf}

theorem Standing.lt_of_readable {b : ReadableBridge} (h : Sound s)
    (hb : (s.stream k).readable = some b) : k < s.streamCount := by
  by_contra hk
  rw [h.fresh k (Nat.not_lt.mp hk)] at hb
  cases hb

theorem Standing.lt_of_writable {b : WritableBridge} (h : Sound s)
    (hb : (s.stream k).writable = some b) : k < s.streamCount := by
  by_contra hk
  rw [h.fresh k (Nat.not_lt.mp hk)] at hb
  cases hb

theorem modifyReadable_self (f : ReadableBridge → ReadableBridge) :
    (s.modifyReadable k f).stream k =
      { s.stream k with readable := (s.stream k).readable.map f } := by
  rw [modifyReadable, modify_stream, if_pos rfl]

theorem modifyWritable_self (f : WritableBridge → WritableBridge) :
    (s.modifyWritable k f).stream k =
      { s.stream k with writable := (s.stream k).writable.map f } := by
  rw [modifyWritable, modify_stream, if_pos rfl]

/-- A readable finishes once, and counts as a part of its stream where it is told to. -/
theorem Standing.finishReadable (h : Sound s) (countAsPart : Bool) :
    Sound (s.finishReadable k countAsPart) := by
  unfold StreamState.finishReadable
  cases hb : (s.stream k).readable with
  | none => exact h
  | some b =>
    have hquiet : Quiet s (s.modifyReadable k fun b => { b with finished := true }) :=
      quiet_readable _ fun _ _ => rfl
    have hself := modifyReadable_self (s := s) (k := k)
      fun b : ReadableBridge => { b with finished := true }
    simp only
    split
    · rename_i hfirst
      rw [Bool.and_eq_true, Bool.not_eq_true'] at hfirst
      refine (h.quiet hquiet).finishPart (h.lt_of_readable hb) (fun hmem => ?_) ?_
      · rw [hself] at hmem
        obtain ⟨b', hb', hfinished⟩ := (h.tidy k).readable hmem
        rw [hb] at hb'
        cases hb'
        rw [hfirst.1] at hfinished
        cases hfinished
      · refine ⟨{ b with finished := true }, ?_, rfl⟩
        rw [hself, hb]
        rfl
    · exact h.quiet hquiet

/-- A writable finishes once, and counts as a part of its stream. -/
theorem Standing.finishWritable (h : Sound s) : Sound (s.finishWritable k) := by
  unfold StreamState.finishWritable
  cases hb : (s.stream k).writable with
  | none => exact h
  | some b =>
    have hquiet : Quiet s (s.modifyWritable k fun b => { b with finished := true }) :=
      quiet_writable _ fun _ _ => rfl
    have hself := modifyWritable_self (s := s) (k := k)
      fun b : WritableBridge => { b with finished := true }
    simp only
    split
    · exact h
    · rename_i hopen
      refine (h.quiet hquiet).finishPart (h.lt_of_writable hb) (fun hmem => ?_) ?_
      · rw [hself] at hmem
        obtain ⟨b', hb', hfinished⟩ := (h.tidy k).writable hmem
        rw [hb] at hb'
        cases hb'
        exact hopen hfinished
      · refine ⟨{ b with finished := true }, ?_, rfl⟩
        rw [hself, hb]
        rfl

theorem quiet_errorReadable : Quiet s (s.errorReadable k) := quiet_readable _ fun _ h => h

theorem quiet_errorWritable : Quiet s (s.errorWritable k) := quiet_writable _ fun _ h => h

theorem quiet_stop : Quiet s (s.stop k) := by
  refine quiet_readable _ fun b hb => ?_
  cases b.stopPromise <;> exact hb

theorem quiet_resetWritable : Quiet s (s.resetWritable k) := by
  refine quiet_writable _ fun b hb => ?_
  split
  · exact hb
  · cases b.resetPromise <;> exact hb

theorem Quiet.trans {u : StreamState} (h : Quiet s t) (h' : Quiet t u) : Quiet s u where
  session := h'.session.trans h.session
  streamCount := h'.streamCount.trans h.streamCount
  streamsActive := h'.streamsActive.trans h.streamsActive
  streamsTotal := h'.streamsTotal.trans h.streamsTotal
  agenda := h'.agenda.trans h.agenda
  stream k := (h.stream k).trans (h'.stream k)

theorem Standing.abortReadable (h : Sound s) : Sound (s.abortReadable k) := by
  unfold StreamState.abortReadable
  cases (s.stream k).readable with
  | none => exact h
  | some b =>
    simp only
    split
    · exact h
    · exact h.quiet (quiet_errorReadable.trans quiet_stop)

theorem Standing.abortWritable (h : Sound s) : Sound (s.abortWritable k) := by
  unfold StreamState.abortWritable
  cases (s.stream k).writable with
  | none => exact h
  | some b =>
    simp only
    split
    · exact h
    · split
      · exact (h.quiet quiet_errorWritable).finishWritable
      · exact h.quiet (quiet_errorWritable.trans quiet_resetWritable)

theorem Standing.pullFailed (error : Thrown) (h : Sound s) (hk : k < s.streamCount) :
    Sound (s.pullFailed k cause error) := by
  have hpushed :=
    (standing_push_idle (s := s.errorReadable k) (w := .finishReadable k false) rfl).mpr
    (h.quiet quiet_errorReadable)
  exact hpushed.abort_now _ _ hk

theorem Standing.writableFailed (error : Thrown) (operation : String) (h : Sound s)
    (hk : k < s.streamCount) : Sound (s.writableFailed k error operation) := by
  have hpushed := (standing_push_idle (s := s) (w := .finishWritable k) rfl).mpr h
  exact hpushed.abort_now _ _ hk

/-- A pull passes its chunk on, ends the readable or aborts the stream. -/
theorem Standing.pulled (h : Sound s) (result : PullResult) : Sound (s.pulled k result) := by
  unfold StreamState.pulled
  cases hb : (s.stream k).readable with
  | none => exact h
  | some b =>
    have hk := h.lt_of_readable hb
    have hsettled : Sound (s.modifyReadable k fun b => { b with reading := false }) :=
      h.quiet (quiet_readable _ fun _ hf => hf)
    cases result with
    | failed error => exact hsettled.pullFailed error hk
    | done =>
      simp only
      split
      · refine Standing.finishReadable ?_ true
        exact hsettled.quiet (quiet_readable _ fun _ hf => hf)
      · exact hsettled.pullFailed _ hk
    | value byteLength =>
      have hreceived : Quiet (s.modifyReadable k fun b => { b with reading := false })
          { s.modifyReadable k fun b => { b with reading := false } with
            bytesReceived := s.bytesReceived + byteLength } :=
        ⟨rfl, rfl, rfl, rfl, rfl, fun _ => .refl⟩
      simp only
      split
      · exact (hsettled.quiet hreceived).quiet (quiet_readable _ fun _ hf => hf)
      · exact (hsettled.quiet hreceived).pullFailed _ hk

theorem abort_count : (s.abort k cause reason).streamCount = s.streamCount := by
  unfold StreamState.abort
  split <;> rfl

theorem finishPart_count : (s.finishPart k half).streamCount = s.streamCount := by
  unfold StreamState.finishPart
  simp only
  split
  · rfl
  · split
    · exact abort_count
    · rfl

theorem finishReadable_count (countAsPart : Bool) :
    (s.finishReadable k countAsPart).streamCount = s.streamCount := by
  unfold StreamState.finishReadable
  cases (s.stream k).readable with
  | none => rfl
  | some b =>
    simp only
    split
    · exact finishPart_count
    · rfl

theorem Standing.readableFailed (error : Thrown) (h : Sound s) :
    Sound (s.readableFailed k error) := by
  unfold StreamState.readableFailed
  cases hb : (s.stream k).readable with
  | none => exact h
  | some b =>
    have hsettled : Sound (s.modifyReadable k fun b => { b with closedSettled := true }) :=
      h.quiet (quiet_readable _ fun _ hf => hf)
    simp only
    split
    · exact hsettled
    · refine ((hsettled.quiet quiet_errorReadable).finishReadable false).abort_now _ _ ?_
      rw [finishReadable_count]
      exact h.lt_of_readable hb

theorem Standing.wrote (h : Sound s) (hk : k < s.streamCount) (error : Option Thrown) :
    Sound (s.wrote k error) := by
  unfold StreamState.wrote
  have hsettled : Sound (s.modifyWritable k fun b => { b with writing := none }) :=
    h.quiet (quiet_writable _ fun _ hf => hf)
  cases error with
  | none => exact hsettled.quiet ⟨rfl, rfl, rfl, rfl, rfl, fun _ => .refl⟩
  | some error => exact hsettled.writableFailed error _ hk

theorem Standing.closeSettled (h : Sound s) (hk : k < s.streamCount) (error : Option Thrown) :
    Sound (s.closeSettled k error) := by
  unfold StreamState.closeSettled
  have hsettled : Sound (s.modifyWritable k fun b => { b with closePromise := .settled }) :=
    h.quiet (quiet_writable _ fun _ hf => hf)
  cases error with
  | none => exact hsettled.finishWritable
  | some error => exact hsettled.writableFailed error _ hk

/-- A writable whose close settles finishes, and aborts the stream where it failed. -/
theorem Standing.writableClosed (h : Sound s) (error : Option Thrown) :
    Sound (s.writableClosed k error) := by
  unfold StreamState.writableClosed
  cases hb : (s.stream k).writable with
  | none => exact h
  | some b =>
    have hk := h.lt_of_writable hb
    have hsettled : Sound (s.modifyWritable k fun b => { b with closedSettled := true }) :=
      h.quiet (quiet_writable _ fun _ hf => hf)
    cases error with
    | none => exact hsettled.finishWritable
    | some error =>
      simp only
      split
      · exact hsettled
      · exact (hsettled.quiet quiet_errorWritable).writableFailed error _ hk

/-- A lifecycle that is to be aborted may be reset. -/
theorem Standing.markReset {due : Option Nat} (h : Standing due s) (hk : k < s.streamCount)
    (hdoomed : Doomed due s k) :
    Standing due (s.modify k fun st => { st with resetCalled := true }) := by
  have hstream := modify_stream (s := s) (k := k)
    fun st : StreamAdapter => { st with resetCalled := true }
  have hself := hstream k
  rw [if_pos rfl] at hself
  have hclosed : ((s.modify k fun st =>
      { st with resetCalled := true }).stream k).lifecycle.closed =
        (s.stream k).lifecycle.closed := by rw [hself]
  have hclosings : ((s.modify k fun st => { st with resetCalled := true }).stream k).closings =
      (s.stream k).closings := by rw [hself]
  have htouch : Touches k s (s.modify k fun st => { st with resetCalled := true }) := by
    refine ⟨rfl, rfl, rfl, fun i hi => (hstream i).trans (if_neg hi), by rw [hself],
      fun htidy => ?_, fun h => hclosed.trans h, fun _ hw _ => hw, fun _ _ => rfl, fun _ => rfl⟩
    rw [hself]
    exact ⟨htidy.nodup, htidy.readable, htidy.writable⟩
  refine h.touched hk htouch (by rw [hclosings]; rfl) ?_ fun _ => hdoomed.imp_left htouch.closed
  rw [hclosings, hclosed]
  exact h.reports k

theorem Standing.resetStream (h : Sound s) (hk : k < s.streamCount) : Sound (s.reset k) := by
  unfold StreamState.reset
  have hmarked := (h.owe hk).markReset hk (.inr rfl)
  exact (hmarked.quiet (quiet_stop.trans quiet_resetWritable)).abort _ _

theorem Standing.perform (h : Sound (s.push [w])) : Sound (s.perform w) := by
  cases w with
  | abortReadable k => exact ((standing_push_idle rfl).mp h).abortReadable
  | abortWritable k => exact ((standing_push_idle rfl).mp h).abortWritable
  | finishReadable k countAsPart => exact ((standing_push_idle rfl).mp h).finishReadable countAsPart
  | finishWritable k => exact ((standing_push_idle rfl).mp h).finishWritable
  | streamClosed k => exact h.streamClosed.1
  | startNotify session => exact h.swap_loop _ (.inl rfl) fun i hi _ => .inl hi
  | notify session todo => exact h.notify

theorem Standing.work (h : Sound s) : Sound s.work := by
  unfold StreamState.work
  cases hagenda : s.agenda with
  | nil => exact h
  | cons first rest =>
    have hsame : ({ s with agenda := rest } : StreamState).push [first] = s := by
      change ({ s with agenda := first :: rest } : StreamState) = s
      rw [← hagenda]
    exact Standing.perform (hsame ▸ h)

theorem Standing.lt_of_hasWritable {p : WritableBridge → Bool} (h : Sound s)
    (hp : s.hasWritable k p = true) : k < s.streamCount := by
  obtain ⟨b, hb, _⟩ := Option.any_eq_true _ _ |>.mp hp
  exact h.lt_of_writable hb

/-- Each event, with what it leaves on the agenda, keeps every stream in good standing. -/
theorem Standing.next {e : StreamEvent} (h : Sound s) (he : s.enabled e = true) :
    Sound (s.next e) := by
  cases e with
  | work => exact h.work
  | construct session native => exact h.construct native
  | endSession session reason => exact h.endSession reason
  | reset k => exact h.resetStream (of_decide_eq_true he)
  | pull k => exact h.quiet (quiet_readable _ fun _ hf => hf)
  | pulled k result => exact h.pulled result
  | read k => exact h.quiet (quiet_readable _ fun _ hf => hf)
  | cancel k => exact h.quiet (quiet_readable _ fun _ hf => hf)
  | cancelSettled k => exact (h.quiet (quiet_readable
      (fun b => { b with cancelling := false }) fun _ hf => hf)).finishReadable true
  | readableFailed k error => exact h.readableFailed error
  | stopSettled k => exact (h.quiet (quiet_readable
      (fun b => { b with stopPromise := .settled }) fun _ hf => hf)).finishReadable true
  | write k byteLength => exact h.quiet (quiet_writable _ fun _ hf => hf)
  | wrote k error => exact h.wrote (h.lt_of_hasWritable he) error
  | close k => exact h.quiet (quiet_writable _ fun _ hf => hf)
  | closeSettled k error => exact h.closeSettled (h.lt_of_hasWritable he) error
  | abortSink k => exact h.quiet (quiet_writable _ fun _ hf => hf)
  | abortSettled k => exact (h.quiet (quiet_writable
      (fun b => { b with aborting := false }) fun _ hf => hf)).finishWritable
  | writableClosed k error => exact h.writableClosed error
  | resetSettled k => exact (h.quiet (quiet_writable
      (fun b => { b with resetPromise := .settled }) fun _ hf => hf)).finishWritable

/-- Every reachable state of the streams is sound. -/
theorem sound_of_reachable (h : machine.Reachable s) : Sound s := by
  refine h.invariant ?_ fun s e t hstep hs => ?_
  · rintro _ rfl
    exact sound_new
  · obtain ⟨he, rfl⟩ := hstep
    exact hs.next he

end StreamState

end NestWebTransport
