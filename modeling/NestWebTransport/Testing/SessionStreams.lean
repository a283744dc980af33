import NestWebTransport.Testing.MockSession

/-! Where the streams of a virtual session stand, whatever its listeners do. -/
namespace NestWebTransport

namespace MockSessionConnection

open MockStreamLifecycle (Advances)

variable {size : PositiveInteger} {c d : MockSessionConnection} {id j : Nat} {n : LifecycleNotice}
  {t : MockStreamLifecycle} {skip : Option Nat} {rest : List SessionFrame} {f : SessionFrame}
  {info : MockSessionCloseInfo} {e : MockSessionEvent}

/-- The stream is open, or a frame will see to it, or it has ended. -/
structure Standing (c : MockSessionConnection) (id : Nat) : Prop where
  sound : (c.streams id).Sound
  due : id ∈ c.tracked → (c.streams id).terminalNotified = true → .onTerminal id ∈ c.agenda
  resetting : (c.streams id).aborted = true → (c.streams id).terminalNotified = false →
    .finishReset id ∈ c.agenda
  finished : id ∉ c.tracked → (c.streams id).terminalNotified = true

/-- A termination will come to the stream. -/
def Awaits (c : MockSessionConnection) (id : Nat) : Prop :=
  ∃ f ∈ c.agenda, (∃ info, f = .snapshot info) ∨ ∃ info rest, f = .resets info rest ∧ id ∈ rest

def FrameSound (c : MockSessionConnection) : SessionFrame → Prop
  | .finishReset id => id < c.nextStreamId ∧ (c.streams id).aborted = true
  | .onTerminal id => id < c.nextStreamId ∧ (c.streams id).terminalNotified = true
  | .refused id => id < c.nextStreamId
  | .snapshot _ => c.state ≠ .connected
  | .resets _ rest => c.state ≠ .connected ∧ ∀ id ∈ rest, id < c.nextStreamId

/-- What holds between the steps of a connection, but for one stream that a step works on. -/
structure SoundBut (skip : Option Nat) (c : MockSessionConnection) : Prop where
  opened : c.opened = List.range c.nextStreamId
  paired : c.opened.Perm (c.ended ++ c.tracked)
  standing : ∀ id < c.nextStreamId, some id ≠ skip → c.Standing id
  ending : c.state ≠ .connected → ∀ id ∈ c.tracked, some id ≠ skip →
    (c.streams id).aborted = true ∨ c.Awaits id
  frames : ∀ f ∈ c.agenda, c.FrameSound f
  connected : c.state = .connected ↔ c.requests = []
  terminations : c.terminations ≠ [] → c.state ≠ .connected
  assigned : c.termination = true → c.state ≠ .connected
  finished : c.state = .closed → c.tracked = []
  onClosed : c.onClosed = [] ↔ c.state ≠ .closed

abbrev Sound (c : MockSessionConnection) : Prop := c.SoundBut none

theorem Standing.congr (h : c.Standing id) (hstreams : d.streams = c.streams)
    (htracked : d.tracked = c.tracked) (hagenda : d.agenda = c.agenda) : d.Standing id := by
  obtain ⟨hsound, hdue, hresetting, hfinished⟩ := h
  constructor
  · rw [hstreams]
    exact hsound
  · rw [hstreams, htracked, hagenda]
    exact hdue
  · rw [hstreams, hagenda]
    exact hresetting
  · rw [hstreams, htracked]
    exact hfinished

theorem FrameSound.congr (h : c.FrameSound f) (hnext : d.nextStreamId = c.nextStreamId)
    (hstreams : d.streams = c.streams) (hstate : d.state = c.state) : d.FrameSound f := by
  cases f with
  | finishReset id => exact ⟨hnext ▸ h.1, hstreams ▸ h.2⟩
  | onTerminal id => exact ⟨hnext ▸ h.1, hstreams ▸ h.2⟩
  | refused id => exact (hnext.symm ▸ h : id < d.nextStreamId)
  | snapshot info => exact fun hconnected => h (hstate.symm.trans hconnected)
  | resets info rest =>
    exact ⟨fun hconnected => h.1 (hstate.symm.trans hconnected), hnext.symm ▸ h.2⟩

theorem sound_new : Sound new where
  opened := rfl
  paired := .refl _
  standing _ h := absurd h (Nat.not_lt_zero _)
  ending h := absurd rfl h
  frames _ h := absurd h List.not_mem_nil
  connected := iff_of_true rfl rfl
  terminations h := absurd rfl h
  assigned := nofun
  finished := nofun
  onClosed := iff_of_true rfl nofun

theorem SoundBut.nodup (h : c.SoundBut skip) : c.tracked.Nodup := by
  have hall : (c.ended ++ c.tracked).Nodup := by
    rw [← h.paired.nodup_iff, h.opened]
    exact List.nodup_range
  exact (List.nodup_append.mp hall).2.1

theorem SoundBut.lt_of_tracked (h : c.SoundBut skip) (hid : id ∈ c.tracked) :
    id < c.nextStreamId := by
  have hmem := h.paired.mem_iff.mpr (List.mem_append_right _ hid)
  rw [h.opened] at hmem
  exact List.mem_range.mp hmem

/-! ### A stream moves on -/

theorem act_state (c : MockSessionConnection) (id : Nat) (n : LifecycleNotice)
    (t : MockStreamLifecycle) : (c.act id (n, t)).state = c.state ∧
    (c.act id (n, t)).nextStreamId = c.nextStreamId ∧ (c.act id (n, t)).opened = c.opened ∧
    (c.act id (n, t)).requests = c.requests ∧ (c.act id (n, t)).terminations = c.terminations ∧
    (c.act id (n, t)).onClosed = c.onClosed ∧
    (c.act id (n, t)).termination = c.termination := by
  cases n with
  | nothing => exact ⟨rfl, rfl, rfl, rfl, rfl, rfl, rfl⟩
  | resetting => exact ⟨rfl, rfl, rfl, rfl, rfl, rfl, rfl⟩
  | aborting => exact ⟨rfl, rfl, rfl, rfl, rfl, rfl, rfl⟩
  | terminal =>
    simp only [act, finishStream]
    split <;> exact ⟨rfl, rfl, rfl, rfl, rfl, rfl, rfl⟩

theorem act_streams : (c.act id (n, t)).streams = Function.update c.streams id t := by
  cases n with
  | nothing => rfl
  | resetting => rfl
  | aborting => rfl
  | terminal =>
    simp only [act, finishStream]
    split <;> rfl

theorem act_tracked : (c.act id (n, t)).tracked =
    if n = .terminal then c.tracked.erase id else c.tracked := by
  cases n with
  | nothing => rfl
  | resetting => rfl
  | aborting => rfl
  | terminal =>
    simp only [act, finishStream]
    split
    · rfl
    · rename_i hid
      exact (List.erase_of_not_mem hid).symm

theorem act_agenda : (c.act id (n, t)).agenda =
    match n with
    | .nothing | .terminal => c.agenda
    | .resetting => .finishReset id :: c.agenda
    | .aborting => .onTerminal id :: c.agenda := by
  cases n with
  | nothing => rfl
  | resetting => rfl
  | aborting => rfl
  | terminal =>
    simp only [act, finishStream]
    split <;> rfl

theorem mem_act_agenda (h : f ∈ c.agenda) : f ∈ (c.act id (n, t)).agenda := by
  rw [act_agenda]
  cases n with
  | nothing => exact h
  | resetting => exact List.mem_cons_of_mem _ h
  | aborting => exact List.mem_cons_of_mem _ h
  | terminal => exact h

theorem paired_finishStream (h : c.opened.Perm (c.ended ++ c.tracked)) :
    (c.finishStream id).opened.Perm ((c.finishStream id).ended ++ (c.finishStream id).tracked) := by
  unfold finishStream
  split
  · rename_i hid
    refine h.trans ?_
    rw [List.append_assoc]
    exact (List.perm_cons_erase hid).append_left _
  · exact h

theorem act_paired (h : c.opened.Perm (c.ended ++ c.tracked)) :
    (c.act id (n, t)).opened.Perm ((c.act id (n, t)).ended ++ (c.act id (n, t)).tracked) := by
  cases n with
  | nothing => exact h
  | resetting => exact h
  | aborting => exact h
  | terminal => exact paired_finishStream h

/-- Neither the signal nor the event is taken back. -/
def Later (s t : MockStreamLifecycle) : Prop :=
  (s.aborted = true → t.aborted = true) ∧ (s.terminalNotified = true → t.terminalNotified = true)

/-- What a notice that leaves a frame says of the stream. -/
def Leaves (n : LifecycleNotice) (t : MockStreamLifecycle) : Prop :=
  (n = .resetting → t.aborted = true) ∧ (n = .aborting → t.terminalNotified = true)

theorem leaves_of_advances {s : MockStreamLifecycle} (hmove : Advances s n t) : Leaves n t := by
  cases hmove with
  | stays _ _ => exact ⟨nofun, nofun⟩
  | resets _ after => exact ⟨fun _ => after.1, nofun⟩
  | aborts _ after => exact ⟨nofun, fun _ => after.2⟩
  | ends _ _ => exact ⟨nofun, nofun⟩

/-- What a move makes of the stream it is about. -/
theorem standing_act_self (hnodup : c.tracked.Nodup) (hsound : t.Sound)
    (hmove : Advances (c.streams id) n t)
    (hover : id ∉ c.tracked → (c.streams id).terminalNotified = true)
    (hdue : id ∈ c.tracked → (c.streams id).terminalNotified = true →
      .onTerminal id ∈ c.agenda)
    (hreset : (c.streams id).aborted = true → t.terminalNotified = false →
      .finishReset id ∈ c.agenda) : (c.act id (n, t)).Standing id := by
  have hstream : (c.act id (n, t)).streams id = t := by
    rw [act_streams, Function.update_self]
  refine ⟨by rw [hstream]; exact hsound, ?_, ?_, ?_⟩
  · rw [hstream, act_tracked, act_agenda]
    cases hmove with
    | stays _ hsame => exact fun hid hdone => hdue hid (hsame.symm.trans hdone)
    | resets _ after => exact fun _ hdone => absurd (after.2.symm.trans hdone) Bool.false_ne_true
    | aborts _ _ => exact fun _ _ => List.mem_cons_self
    | ends _ _ =>
      rw [if_pos rfl]
      exact fun hid => absurd hid hnodup.not_mem_erase
  · rw [hstream, act_agenda]
    cases hmove with
    | stays hsame _ => exact fun haborted hopen => hreset (hsame.symm.trans haborted) hopen
    | resets _ _ => exact fun _ _ => List.mem_cons_self
    | aborts _ after =>
      exact fun _ hopen => absurd (hopen.symm.trans after.2) Bool.false_ne_true
    | ends _ after => exact fun _ hopen => absurd (hopen.symm.trans after.2) Bool.false_ne_true
  · rw [hstream, act_tracked]
    cases hmove with
    | stays _ hsame => exact fun hid => hsame.trans (hover hid)
    | resets before _ =>
      exact fun hid => absurd (before.2.symm.trans (hover hid)) Bool.false_ne_true
    | aborts _ after => exact fun _ => after.2
    | ends _ after => exact fun _ => after.2

/-- The other streams stay as they are. -/
theorem Standing.act_other (h : c.Standing j) (hne : j ≠ id) : (c.act id (n, t)).Standing j := by
  have hstream : (c.act id (n, t)).streams j = c.streams j := by
    rw [act_streams, Function.update_of_ne hne]
  have htracked : j ∈ (c.act id (n, t)).tracked ↔ j ∈ c.tracked := by
    rw [act_tracked]
    split
    · exact List.mem_erase_of_ne hne
    · exact Iff.rfl
  refine ⟨?_, ?_, ?_, ?_⟩
  · rw [hstream]
    exact h.sound
  · rw [hstream, htracked]
    exact fun hid hdone => mem_act_agenda (h.due hid hdone)
  · rw [hstream]
    exact fun haborted hopen => mem_act_agenda (h.resetting haborted hopen)
  · rw [hstream, htracked]
    exact h.finished

theorem FrameSound.act (hmono : Later (c.streams id) t) (h : c.FrameSound f) :
    (c.act id (n, t)).FrameSound f := by
  obtain ⟨hstate, hnext, -⟩ := act_state c id n t
  have haborted : ∀ j, (c.streams j).aborted = true →
      ((c.act id (n, t)).streams j).aborted = true := by
    intro j hj
    rw [act_streams]
    by_cases hne : j = id
    · rw [hne, Function.update_self]
      exact hmono.1 (hne ▸ hj)
    · rw [Function.update_of_ne hne]
      exact hj
  have hnotified : ∀ j, (c.streams j).terminalNotified = true →
      ((c.act id (n, t)).streams j).terminalNotified = true := by
    intro j hj
    rw [act_streams]
    by_cases hne : j = id
    · rw [hne, Function.update_self]
      exact hmono.2 (hne ▸ hj)
    · rw [Function.update_of_ne hne]
      exact hj
  cases f with
  | finishReset j => exact ⟨hnext.symm ▸ h.1, haborted j h.2⟩
  | onTerminal j => exact ⟨hnext.symm ▸ h.1, hnotified j h.2⟩
  | refused j => exact (hnext.symm ▸ h : j < (c.act id (n, t)).nextStreamId)
  | snapshot info => exact fun hc => h (hstate.symm.trans hc)
  | resets info rest => exact ⟨fun hc => h.1 (hstate.symm.trans hc), hnext.symm ▸ h.2⟩

/-- A move of the stream that a step works on leaves all of them sound. -/
theorem SoundBut.act (h : c.SoundBut (some id)) (hid : id < c.nextStreamId)
    (hmono : Later (c.streams id) t) (hframe : Leaves n t) (hself : (c.act id (n, t)).Standing id)
    (hending : c.state ≠ .connected → id ∈ c.tracked → t.aborted = true ∨ c.Awaits id) :
    Sound (c.act id (n, t)) := by
  obtain ⟨hstate, hnext, hopened, hrequests, hterminations, honClosed, hassigned⟩ :=
    act_state c id n t
  have hsub : ∀ j ∈ (c.act id (n, t)).tracked, j ∈ c.tracked := by
    intro j hj
    rw [act_tracked] at hj
    split at hj
    · exact List.mem_of_mem_erase hj
    · exact hj
  refine ⟨?_, act_paired h.paired, ?_, ?_, ?_, ?_, ?_, ?_, ?_, ?_⟩
  · rw [hopened, hnext]
    exact h.opened
  · intro j hj _
    rw [hnext] at hj
    by_cases hne : j = id
    · rw [hne]
      exact hself
    · exact (h.standing j hj fun heq => hne (Option.some.inj heq)).act_other hne
  · intro hc j hj _
    have hawaits : c.Awaits j → (c.act id (n, t)).Awaits j := by
      rintro ⟨f, hf, hkind⟩
      exact ⟨f, mem_act_agenda hf, hkind⟩
    rw [hstate] at hc
    rw [act_streams]
    by_cases hne : j = id
    · rw [hne, Function.update_self]
      exact (hending hc (hsub _ (hne ▸ hj))).imp_right (hne ▸ hawaits)
    · rw [Function.update_of_ne hne]
      exact (h.ending hc j (hsub j hj) fun heq => hne (Option.some.inj heq)).imp_right hawaits
  · intro f hf
    have hold : f ∈ c.agenda → (c.act id (n, t)).FrameSound f :=
      fun hf => (h.frames f hf).act hmono
    rw [act_agenda] at hf
    cases n with
    | nothing => exact hold hf
    | terminal => exact hold hf
    | resetting =>
      rcases List.mem_cons.mp hf with rfl | hf
      · refine ⟨hid, ?_⟩
        rw [act_streams, Function.update_self]
        exact hframe.1 rfl
      · exact hold hf
    | aborting =>
      rcases List.mem_cons.mp hf with rfl | hf
      · refine ⟨hid, ?_⟩
        rw [act_streams, Function.update_self]
        exact hframe.2 rfl
      · exact hold hf
  · rw [hstate, hrequests]
    exact h.connected
  · rw [hstate, hterminations]
    exact h.terminations
  · rw [hstate, hassigned]
    exact h.assigned
  · intro hc
    have hnone := h.finished (hstate ▸ hc)
    rw [List.eq_nil_iff_forall_not_mem]
    intro j hj
    have hj := hsub j hj
    rw [hnone] at hj
    cases hj
  · rw [hstate, honClosed]
    exact h.onClosed

/-! ### What each operation keeps -/

theorem SoundBut.weaken (h : Sound c) (skip : Option Nat) : c.SoundBut skip :=
  { h with
    standing := fun id hid _ => h.standing id hid nofun
    ending := fun hc id hid _ => h.ending hc id hid nofun }

/-- A move of the one stream that the step works on. -/
theorem SoundBut.move (h : c.SoundBut (some id)) (hid : id < c.nextStreamId) (hsound : t.Sound)
    (hmove : Advances (c.streams id) n t)
    (hover : id ∉ c.tracked → (c.streams id).terminalNotified = true)
    (hdue : id ∈ c.tracked → (c.streams id).terminalNotified = true → .onTerminal id ∈ c.agenda)
    (hreset : (c.streams id).aborted = true → t.terminalNotified = false →
      .finishReset id ∈ c.agenda)
    (hending : c.state ≠ .connected → id ∈ c.tracked → t.aborted = true ∨ c.Awaits id) :
    Sound (c.act id (n, t)) :=
  h.act hid ⟨hmove.aborted, hmove.notified⟩ (leaves_of_advances hmove)
    (standing_act_self h.nodup hsound hmove hover hdue hreset) hending

/-- A move of a stream from between the steps. -/
theorem Sound.move (h : Sound c) (hid : id < c.nextStreamId) (hsound : t.Sound)
    (hmove : Advances (c.streams id) n t) : Sound (c.act id (n, t)) := by
  have hstanding := h.standing id hid nofun
  refine (SoundBut.weaken h (some id)).move hid hsound hmove hstanding.finished hstanding.due ?_ ?_
  · intro haborted hopen
    refine hstanding.resetting haborted ?_
    by_contra hdone
    exact absurd (hopen.symm.trans (hmove.notified (by simpa using hdone))) Bool.false_ne_true
  · exact fun hc htracked => (h.ending hc id htracked nofun).imp_left hmove.aborted

theorem Sound.resetStream (h : Sound c) (hid : id < c.nextStreamId) :
    Sound (c.resetStream id) := by
  obtain ⟨hsound, hmove⟩ := (h.standing id hid nofun).sound.reset
  exact h.move hid hsound hmove

theorem Sound.endPipe (h : Sound c) (hid : id < c.nextStreamId) (pipe : Nat) (abort : Bool) :
    Sound (c.act id ((c.streams id).endPipe pipe (if abort then .aborted else .closed))) := by
  have hstate : (if abort = true then PipeState.aborted else PipeState.closed) ≠ .open := by
    cases abort <;> nofun
  obtain ⟨hsound, hmove⟩ := (h.standing id hid nofun).sound.endPipe pipe _ hstate
  exact h.move hid hsound hmove

/-- The queues of the incoming streams have no part in it. -/
theorem SoundBut.withIncoming (h : c.SoundBut skip)
    (incoming : SessionEndpoint → Bool → BoundedValueQueue Nat) :
    SoundBut skip { c with incoming := incoming } :=
  { h with
    standing := fun id hid hne => (h.standing id hid hne).congr rfl rfl rfl
    frames := fun f hf => FrameSound.congr (h.frames f hf) rfl rfl rfl }

theorem Sound.startStream (h : Sound c) (hstate : c.state = .connected) (bidi : Bool) :
    Sound (c.startStream bidi) := by
  have hstreams : ∀ id < c.nextStreamId, (c.startStream bidi).streams id = c.streams id :=
    fun id hid => Function.update_of_ne (Nat.ne_of_lt hid) ..
  refine ⟨?_, ?_, ?_, fun hc => absurd hstate hc, ?_, h.connected, h.terminations, h.assigned, ?_,
    h.onClosed⟩
  · change c.opened ++ [c.nextStreamId] = List.range (c.nextStreamId + 1)
    rw [h.opened, List.range_succ]
  · change (c.opened ++ [c.nextStreamId]).Perm (c.ended ++ (c.tracked ++ [c.nextStreamId]))
    rw [← List.append_assoc]
    exact h.paired.append_right _
  · intro id hid _
    by_cases hnew : id = c.nextStreamId
    · have hstream : (c.startStream bidi).streams id = .new bidi := by
        rw [hnew]
        exact Function.update_self ..
      have hlive : (MockStreamLifecycle.new bidi).aborted = false ∧
          (MockStreamLifecycle.new bidi).terminalNotified = false := ⟨rfl, rfl⟩
      refine ⟨?_, ?_, ?_, ?_⟩
      · rw [hstream]
        exact MockStreamLifecycle.sound_new bidi
      · rw [hstream, hlive.2]
        exact fun _ hdone => absurd hdone Bool.false_ne_true
      · rw [hstream, hlive.1]
        exact fun haborted => absurd haborted Bool.false_ne_true
      · exact fun hout => absurd (hnew ▸ List.mem_append_right _ List.mem_cons_self) hout
    · have hid : id < c.nextStreamId := by
        have hlt : id < c.nextStreamId + 1 := hid
        omega
      have hstanding := h.standing id hid nofun
      have htracked : id ∈ (c.startStream bidi).tracked → id ∈ c.tracked := fun hin =>
        (List.mem_append.mp hin).resolve_right fun hin => hnew (List.mem_singleton.mp hin)
      refine ⟨?_, ?_, ?_, ?_⟩
      · rw [hstreams id hid]
        exact hstanding.sound
      · rw [hstreams id hid]
        exact fun hin => hstanding.due (htracked hin)
      · rw [hstreams id hid]
        exact hstanding.resetting
      · rw [hstreams id hid]
        exact fun hout => hstanding.finished fun hin => hout (List.mem_append_left _ hin)
  · intro f hf
    have hframe := h.frames f hf
    cases f with
    | finishReset id =>
      refine ⟨hframe.1.trans (Nat.lt_succ_self _), ?_⟩
      rw [hstreams id hframe.1]
      exact hframe.2
    | onTerminal id =>
      refine ⟨hframe.1.trans (Nat.lt_succ_self _), ?_⟩
      rw [hstreams id hframe.1]
      exact hframe.2
    | refused id => exact Nat.lt_succ_of_lt hframe
    | snapshot info => exact hframe
    | resets info rest => exact ⟨hframe.1, fun id hid => Nat.lt_succ_of_lt (hframe.2 id hid)⟩
  · intro hc
    change c.state = .closed at hc
    rw [hstate] at hc
    cases hc

/-- The agenda may lose what the others do not need. -/
theorem Sound.replace (h : Sound c) (agenda : List SessionFrame)
    (hdue : ∀ j, some j ≠ skip → .onTerminal j ∈ c.agenda → .onTerminal j ∈ agenda)
    (hreset : ∀ j, some j ≠ skip → .finishReset j ∈ c.agenda → .finishReset j ∈ agenda)
    (hawaits : ∀ j ∈ c.tracked, some j ≠ skip → c.Awaits j →
      Awaits { c with agenda := agenda } j)
    (hframes : ∀ f ∈ agenda, c.FrameSound f) : SoundBut skip { c with agenda := agenda } :=
  { h with
    standing := fun id hid hne =>
      have hstanding := h.standing id hid nofun
      ⟨hstanding.sound, fun hin hdone => hdue id hne (hstanding.due hin hdone),
        fun haborted hopen => hreset id hne (hstanding.resetting haborted hopen),
        hstanding.finished⟩
    ending := fun hc id hid hne => (h.ending hc id hid nofun).imp_right (hawaits id hid hne)
    frames := fun f hf => FrameSound.congr (hframes f hf) rfl rfl rfl }

theorem Sound.push (h : Sound c) (hf : c.FrameSound f) :
    Sound { c with agenda := f :: c.agenda } := by
  refine h.replace (f :: c.agenda) (fun j _ hj => List.mem_cons_of_mem _ hj)
    (fun j _ hj => List.mem_cons_of_mem _ hj) ?_ ?_
  · rintro j - - ⟨g, hg, hkind⟩
    exact ⟨g, List.mem_cons_of_mem _ hg, hkind⟩
  · intro g hg
    rcases List.mem_cons.mp hg with rfl | hg
    · exact hf
    · exact h.frames g hg

/-- A creation fails at once, or it starts a stream that the peer takes or that is reset. -/
theorem createStream_cases (size : PositiveInteger) (c : MockSessionConnection)
    (owner : SessionEndpoint) (bidi : Bool) :
    c.createStream size owner bidi = c ∨
      c.state = .connected ∧ ∃ started queue,
        started = (c.startStream bidi).setIncoming owner.peer bidi queue ∧
          (c.createStream size owner bidi = started ∨
            c.createStream size owner bidi =
              { started with agenda := .refused c.nextStreamId :: started.agenda }.resetStream
                c.nextStreamId ∨
            c.createStream size owner bidi = started.resetStream c.nextStreamId) := by
  unfold MockSessionConnection.createStream
  split
  · exact .inl rfl
  · rename_i hstate
    simp only
    generalize BoundedValueQueue.push _ _ _ _ = pushed
    obtain ⟨result, queue⟩ := pushed
    refine .inr ⟨not_not.mp hstate, _, queue, rfl, ?_⟩
    cases result with
    | accepted dropped => exact .inl rfl
    | refused dropped => exact .inl rfl
    | full closesSession => exact .inr (.inl rfl)
    | closed => exact .inr (.inr rfl)

theorem Sound.createStream (h : Sound c) (owner : SessionEndpoint) (bidi : Bool) :
    Sound (c.createStream size owner bidi) := by
  rcases createStream_cases size c owner bidi with hcreate | ⟨hstate, started, queue, rfl, hcreate⟩
  · rw [hcreate]
    exact h
  · have hqueued := SoundBut.withIncoming (h.startStream hstate bidi)
      ((c.startStream bidi).setIncoming owner.peer bidi queue).incoming
    have hid : c.nextStreamId < (c.startStream bidi).nextStreamId := Nat.lt_succ_self _
    rcases hcreate with hcreate | hcreate | hcreate
    · rw [hcreate]
      exact hqueued
    · rw [hcreate]
      exact (Sound.push hqueued (f := .refused c.nextStreamId) hid).resetStream hid
    · rw [hcreate]
      exact Sound.resetStream hqueued hid

/-- Once a termination has begun it will come to every stream. -/
theorem Sound.terminate (h : Sound c) (hopen : c.state ≠ .closed) :
    Sound { c with
      requests := c.requests ++ [info]
      state := .closing
      closeInfo := some info
      agenda := .snapshot info :: c.agenda } := by
  have hpushed : ∀ id, c.Standing id → Standing { c with
      requests := c.requests ++ [info]
      state := .closing
      closeInfo := some info
      agenda := .snapshot info :: c.agenda } id := fun id hstanding =>
    ⟨hstanding.sound, fun hin hdone => List.mem_cons_of_mem _ (hstanding.due hin hdone),
      fun haborted hlive => List.mem_cons_of_mem _ (hstanding.resetting haborted hlive),
      hstanding.finished⟩
  refine ⟨h.opened, h.paired, fun id hid _ => hpushed id (h.standing id hid nofun),
    fun _ id _ _ => .inr ⟨.snapshot info, List.mem_cons_self, .inl ⟨info, rfl⟩⟩, ?_, ?_, nofun,
    nofun, nofun, ?_⟩
  · intro f hf
    rcases List.mem_cons.mp hf with rfl | hf
    · nofun
    · have hframe := h.frames f hf
      cases f with
      | finishReset id => exact hframe
      | onTerminal id => exact hframe
      | refused id => exact hframe
      | snapshot info => nofun
      | resets info rest => exact ⟨nofun, hframe.2⟩
  · exact iff_of_false nofun (List.append_ne_nil_of_right_ne_nil _ (List.cons_ne_nil _ _))
  · exact iff_of_true (h.onClosed.mpr hopen) nofun

theorem Sound.beginTermination (h : Sound c) : Sound (c.beginTermination info) := by
  have hrequests : c.requests ++ [info] ≠ [] :=
    List.append_ne_nil_of_right_ne_nil _ (List.cons_ne_nil _ _)
  have hasked (hstate : c.state ≠ .connected) :
      Sound { c with requests := c.requests ++ [info] } :=
    { h with
      standing := fun id hid hne => (h.standing id hid hne).congr rfl rfl rfl
      frames := fun f hf => FrameSound.congr (h.frames f hf) rfl rfl rfl
      connected := iff_of_false hstate hrequests }
  unfold MockSessionConnection.beginTermination
  simp only
  split
  · rename_i hassigned
    exact hasked (h.assigned hassigned)
  · unfold MockSessionConnection.terminate
    split
    · rename_i hclosed
      have hclosed : c.state = .closed := hclosed
      have hstate : c.state ≠ .connected := by
        rw [hclosed]
        nofun
      have hsound := hasked hstate
      exact { hsound with
        standing := fun id hid hne => (hsound.standing id hid hne).congr rfl rfl rfl
        frames := fun f hf => FrameSound.congr (hsound.frames f hf) rfl rfl rfl
        assigned := fun _ => hstate }
    · rename_i hopen
      exact h.terminate hopen

theorem finishStream_eq : c.finishStream id = c.act id (.terminal, c.streams id) := by
  unfold act
  simp only
  rw [Function.update_eq_self]

/-- The event of a stream has been raised, and it leaves the set. -/
theorem SoundBut.finishStream (h : c.SoundBut (some id)) (hid : id < c.nextStreamId)
    (hsound : (c.streams id).Sound) (hdone : (c.streams id).terminalNotified = true) :
    Sound (c.finishStream id) := by
  have hself : ((c.act id (.terminal, c.streams id))).Standing id := by
    have hstream : (c.act id (.terminal, c.streams id)).streams id = c.streams id := by
      rw [act_streams, Function.update_self]
    refine ⟨by rw [hstream]; exact hsound, fun hin => ?_, fun _ hlive => ?_, fun _ => ?_⟩
    · rw [act_tracked, if_pos rfl] at hin
      exact absurd hin h.nodup.not_mem_erase
    · rw [hstream, hdone] at hlive
      cases hlive
    · rw [hstream]
      exact hdone
  rw [finishStream_eq]
  refine h.act hid ⟨fun haborted => haborted, fun hnotified => hnotified⟩ ⟨nofun, nofun⟩ hself ?_
  exact fun _ _ => .inl (hsound.notified hdone).1

/-- A frame that is taken up leaves the others. -/
theorem mem_rest (h : f ∈ c.agenda) {g : SessionFrame} (hagenda : c.agenda = g :: rest)
    (hne : f ≠ g) : f ∈ rest := by
  rw [hagenda] at h
  exact (List.mem_cons.mp h).resolve_left hne

/-- The innermost frame is about one stream, or about none. -/
theorem Sound.pop (h : Sound c) {g : SessionFrame} (hagenda : c.agenda = g :: rest)
    (hskip : ∀ j, g = .finishReset j ∨ g = .onTerminal j → skip = some j)
    (hawaits : ∀ j ∈ c.tracked, some j ≠ skip →
      ¬ ((∃ info, g = .snapshot info) ∨ ∃ info rest, g = .resets info rest ∧ j ∈ rest)) :
    SoundBut skip { c with agenda := rest } := by
  refine h.replace rest (fun j hne hj => mem_rest hj hagenda fun heq => ?_)
    (fun j hne hj => mem_rest hj hagenda fun heq => ?_) ?_ ?_
  · exact hne (hskip j (.inr heq.symm)).symm
  · exact hne (hskip j (.inl heq.symm)).symm
  · rintro j hj hne ⟨f, hf, hkind⟩
    refine ⟨f, mem_rest hf hagenda fun heq => ?_, hkind⟩
    exact hawaits j hj hne (heq ▸ hkind)
  · intro f hf
    exact h.frames f (hagenda ▸ List.mem_cons_of_mem _ hf)

theorem Sound.proceed_finishReset (h : Sound c) (hagenda : c.agenda = .finishReset id :: rest) :
    Sound ({ c with agenda := rest }.act id (c.streams id).finishReset) := by
  obtain ⟨hid, haborted⟩ := h.frames (.finishReset id) (hagenda ▸ List.mem_cons_self)
  have hstanding := h.standing id hid nofun
  obtain ⟨hsound, hmove, hdone⟩ := hstanding.sound.finishReset haborted
  have hpopped : SoundBut (some id) { c with agenda := rest } := by
    refine h.pop hagenda (fun j hj => ?_) (fun j _ _ hkind => ?_)
    · rcases hj with hj | hj
      · cases hj
        rfl
      · cases hj
    · rcases hkind with ⟨info, heq⟩ | ⟨info, rest, heq, -⟩ <;> cases heq
  refine hpopped.move hid hsound hmove hstanding.finished (fun hin hnotified => ?_)
    (fun _ hlive => ?_) (fun _ _ => .inl (hmove.aborted haborted))
  · exact mem_rest (hstanding.due hin hnotified) hagenda nofun
  · exact absurd (hlive.symm.trans hdone) Bool.false_ne_true

theorem Sound.proceed_onTerminal (h : Sound c) (hagenda : c.agenda = .onTerminal id :: rest) :
    Sound ({ c with agenda := rest }.finishStream id) := by
  obtain ⟨hid, hdone⟩ := h.frames (.onTerminal id) (hagenda ▸ List.mem_cons_self)
  have hpopped : SoundBut (some id) { c with agenda := rest } := by
    refine h.pop hagenda (fun j hj => ?_) (fun j _ _ hkind => ?_)
    · rcases hj with hj | hj
      · cases hj
      · cases hj
        rfl
    · rcases hkind with ⟨info, heq⟩ | ⟨info, rest, heq, -⟩ <;> cases heq
  exact hpopped.finishStream hid (h.standing id hid nofun).sound hdone

theorem Sound.proceed_refused (h : Sound c) (hagenda : c.agenda = .refused id :: rest) :
    Sound ({ c with agenda := rest }.resetStream id) := by
  have hid : id < c.nextStreamId := h.frames (.refused id) (hagenda ▸ List.mem_cons_self)
  have hpopped : Sound { c with agenda := rest } := by
    refine h.pop hagenda (fun j hj => ?_) (fun j _ _ hkind => ?_)
    · rcases hj with hj | hj <;> cases hj
    · rcases hkind with ⟨info, heq⟩ | ⟨info, rest, heq, -⟩ <;> cases heq
  exact hpopped.resetStream hid

/-- The streams that `terminate` resets are all there are. -/
theorem Sound.proceed_snapshot (h : Sound c) (hagenda : c.agenda = .snapshot info :: rest) :
    Sound { c with agenda := .resets info c.tracked :: rest } := by
  have hstate : c.state ≠ .connected :=
    h.frames (.snapshot info) (hagenda ▸ List.mem_cons_self)
  refine h.replace _ (fun j _ hj => ?_) (fun j _ hj => ?_) (fun j hj _ _ => ?_) fun f hf => ?_
  · exact List.mem_cons_of_mem _ (mem_rest hj hagenda nofun)
  · exact List.mem_cons_of_mem _ (mem_rest hj hagenda nofun)
  · exact ⟨_, List.mem_cons_self, .inr ⟨info, c.tracked, rfl, hj⟩⟩
  · rcases List.mem_cons.mp hf with rfl | hf
    · exact ⟨hstate, fun id hid => h.lt_of_tracked hid⟩
    · exact h.frames f (hagenda ▸ List.mem_cons_of_mem _ hf)

theorem Sound.proceed_resets {ids : List Nat} (h : Sound c)
    (hagenda : c.agenda = .resets info (id :: ids) :: rest) :
    Sound ({ c with agenda := .resets info ids :: rest }.resetStream id) := by
  obtain ⟨hstate, hids⟩ := h.frames (.resets info (id :: ids)) (hagenda ▸ List.mem_cons_self)
  have hid : id < c.nextStreamId := hids id List.mem_cons_self
  have hstanding := h.standing id hid nofun
  obtain ⟨hsound, hmove⟩ := hstanding.sound.reset
  have hpopped : SoundBut (some id) { c with agenda := .resets info ids :: rest } := by
    refine h.replace _ (fun j _ hj => ?_) (fun j _ hj => ?_) ?_ fun f hf => ?_
    · exact List.mem_cons_of_mem _ (mem_rest hj hagenda nofun)
    · exact List.mem_cons_of_mem _ (mem_rest hj hagenda nofun)
    · rintro j - hne ⟨f, hf, hkind⟩
      by_cases hfirst : f = .resets info (id :: ids)
      · rw [hfirst] at hkind
        rcases hkind with ⟨info', heq⟩ | ⟨info', ids', heq, hj⟩
        · cases heq
        · cases heq
          have hj := (List.mem_cons.mp hj).resolve_left fun heq => hne (congrArg some heq)
          exact ⟨_, List.mem_cons_self, .inr ⟨info, ids, rfl, hj⟩⟩
      · exact ⟨f, List.mem_cons_of_mem _ (mem_rest hf hagenda hfirst), hkind⟩
    · rcases List.mem_cons.mp hf with rfl | hf
      · exact ⟨hstate, fun j hj => hids j (List.mem_cons_of_mem _ hj)⟩
      · exact h.frames f (hagenda ▸ List.mem_cons_of_mem _ hf)
  refine hpopped.move hid hsound hmove hstanding.finished (fun hin hnotified => ?_)
    (fun haborted hlive => ?_) (fun _ _ => .inl (MockStreamLifecycle.reset_aborted _))
  · exact List.mem_cons_of_mem _ (mem_rest (hstanding.due hin hnotified) hagenda nofun)
  · have hlive' : (c.streams id).terminalNotified = false := by
      by_contra hdone
      exact absurd (hlive.symm.trans (hmove.notified (by simpa using hdone))) Bool.false_ne_true
    exact List.mem_cons_of_mem _ (mem_rest (hstanding.resetting haborted hlive') hagenda nofun)

theorem Sound.proceed_end (h : Sound c) (hagenda : c.agenda = .resets info [] :: rest) :
    Sound ({ c with agenda := rest }.endIncoming info) := by
  obtain ⟨hstate, -⟩ := h.frames (.resets info []) (hagenda ▸ List.mem_cons_self)
  have hpopped : Sound { c with agenda := rest } := by
    refine h.pop hagenda (fun j hj => ?_) (fun j _ _ hkind => ?_)
    · rcases hj with hj | hj <;> cases hj
    · rcases hkind with ⟨info, heq⟩ | ⟨info, ids, heq, hj⟩
      · cases heq
      · cases heq
        cases hj
  have hqueues := SoundBut.withIncoming hpopped
    (endIncoming { c with agenda := rest } info).incoming
  exact { hqueues with
    standing := fun id hid hne => (hqueues.standing id hid hne).congr rfl rfl rfl
    frames := fun f hf => FrameSound.congr (hqueues.frames f hf) rfl rfl rfl
    terminations := fun _ => hstate
    assigned := fun _ => hstate }

theorem Sound.proceed (h : Sound c) : Sound c.proceed := by
  unfold MockSessionConnection.proceed
  cases hagenda : c.agenda with
  | nil => exact h
  | cons f rest =>
    cases f with
    | finishReset id => exact h.proceed_finishReset hagenda
    | onTerminal id => exact h.proceed_onTerminal hagenda
    | refused id => exact h.proceed_refused hagenda
    | snapshot info => exact h.proceed_snapshot hagenda
    | resets info ids =>
      cases ids with
      | nil => exact h.proceed_end hagenda
      | cons id ids => exact h.proceed_resets hagenda

/-- When no operation is in progress, no stream is left behind a termination. -/
theorem Sound.tracked_nil (h : Sound c) (hagenda : c.agenda = []) (hstate : c.state ≠ .connected) :
    c.tracked = [] := by
  rw [List.eq_nil_iff_forall_not_mem]
  intro id hid
  have hstanding := h.standing id (h.lt_of_tracked hid) nofun
  have hlive : (c.streams id).terminalNotified = false := by
    by_contra hdone
    have hdue := hstanding.due hid (by simpa using hdone)
    rw [hagenda] at hdue
    cases hdue
  rcases h.ending hstate id hid nofun with haborted | ⟨f, hf, -⟩
  · have hreset := hstanding.resetting haborted hlive
    rw [hagenda] at hreset
    cases hreset
  · rw [hagenda] at hf
    cases hf

theorem Sound.settle (h : Sound c) (hagenda : c.agenda = []) : Sound c.settle := by
  unfold MockSessionConnection.settle
  cases hterminations : c.terminations with
  | nil => exact h
  | cons info rest =>
    have hstate : c.state ≠ .connected := h.terminations (hterminations ▸ List.cons_ne_nil _ _)
    have hnone := h.tracked_nil hagenda hstate
    have hrequests : c.requests ≠ [] := fun hnil => hstate (h.connected.mpr hnil)
    refine ⟨h.opened, h.paired, fun id hid hne => (h.standing id hid hne).congr rfl rfl rfl,
      fun _ => h.ending hstate, fun f hf => ?_, iff_of_false nofun hrequests, fun _ => nofun,
      fun _ => nofun, fun _ => hnone, ?_⟩
    · have hnil : f ∈ c.agenda := hf
      rw [hagenda] at hnil
      cases hnil
    · refine iff_of_false ?_ fun hne => hne rfl
      exact List.append_ne_nil_of_right_ne_nil _ (List.cons_ne_nil _ _)

/-- Each event of the connection, frames of the agenda included, keeps the streams counted. -/
theorem Sound.next (h : Sound c) (he : c.enabled e = true) : Sound (c.next size e) := by
  cases e with
  | create owner bidi => exact h.createStream owner bidi
  | endPipe id pipe abort => exact h.endPipe (of_decide_eq_true he) pipe abort
  | reset id => exact h.resetStream (of_decide_eq_true he)
  | request info => exact h.beginTermination
  | consume endpoint bidi event => exact SoundBut.withIncoming h _
  | proceed => exact h.proceed
  | settle =>
    have hagenda := (Bool.and_eq_true_iff.mp he).1
    exact h.settle (List.isEmpty_iff.mp hagenda)

end MockSessionConnection

end NestWebTransport
