import NestWebTransport.Testing.SessionStreams

/-! Which request decides how a virtual session closes. -/
namespace NestWebTransport

/-- The close info that a frame of `terminate` goes on with. -/
def SessionFrame.info? : SessionFrame → Option MockSessionCloseInfo
  | .snapshot info | .resets info _ => some info
  | .finishReset _ | .onTerminal _ | .refused _ => none

namespace MockSessionConnection

variable {size : PositiveInteger} {c d : MockSessionConnection} {id : Nat}
  {moved : LifecycleNotice × MockStreamLifecycle} {info : MockSessionCloseInfo}
  {e : MockSessionEvent}

/-- The close infos that are still to be put to use. -/
def pendingInfos (c : MockSessionConnection) : List MockSessionCloseInfo :=
  c.agenda.filterMap SessionFrame.info? ++ c.terminations

/-- The first request has decided wherever a close info is kept. -/
structure Decided (c : MockSessionConnection) : Prop where
  closeInfo : c.closeInfo = c.requests.head?
  pending : ∀ info ∈ c.pendingInfos, c.requests.head? = some info
  closed : ∀ info, c.closed = some info ∨ info ∈ c.onClosed → c.requests.head? = some info
  assigned : c.state = .closed ∨ c.terminations ≠ [] → c.termination = true

theorem decided_new : Decided new where
  closeInfo := rfl
  pending _ h := absurd h List.not_mem_nil
  closed := by
    rintro info (h | h) <;> cases h
  assigned := by
    rintro (h | h)
    · cases h
    · exact absurd rfl h

/-- Nothing but requests and terminations has a part in it. -/
theorem Decided.congr (h : Decided c) (hcloseInfo : d.closeInfo = c.closeInfo)
    (hrequests : d.requests = c.requests)
    (hpending : ∀ info ∈ d.pendingInfos, info ∈ c.pendingInfos)
    (hclosed : d.closed = c.closed) (honClosed : d.onClosed = c.onClosed)
    (hassigned : d.state = .closed ∨ d.terminations ≠ [] → d.termination = true) : Decided d where
  closeInfo := by rw [hcloseInfo, hrequests, h.closeInfo]
  pending info hinfo := by
    rw [hrequests]
    exact h.pending info (hpending info hinfo)
  closed info hinfo := by
    rw [hclosed, honClosed] at hinfo
    rw [hrequests]
    exact h.closed info hinfo
  assigned := hassigned

theorem Decided.finishStream (h : Decided c) : Decided (c.finishStream id) := by
  unfold MockSessionConnection.finishStream
  split
  · exact h.congr rfl rfl (fun _ hinfo => hinfo) rfl rfl h.assigned
  · exact h

theorem Decided.act (h : Decided c) : Decided (c.act id moved) := by
  obtain ⟨n, t⟩ := moved
  have hstreams : Decided { c with streams := Function.update c.streams id t } :=
    h.congr rfl rfl (fun _ hinfo => hinfo) rfl rfl h.assigned
  cases n with
  | nothing => exact hstreams
  | resetting => exact hstreams.congr rfl rfl (fun _ hinfo => hinfo) rfl rfl h.assigned
  | aborting => exact hstreams.congr rfl rfl (fun _ hinfo => hinfo) rfl rfl h.assigned
  | terminal => exact hstreams.finishStream

theorem Decided.createStream (h : Decided c) (owner : SessionEndpoint) (bidi : Bool) :
    Decided (c.createStream size owner bidi) := by
  rcases createStream_cases size c owner bidi with hcreate | ⟨-, started, queue, rfl, hcreate⟩
  · rw [hcreate]
    exact h
  · have hstarted : Decided ((c.startStream bidi).setIncoming owner.peer bidi queue) :=
      h.congr rfl rfl (fun _ hinfo => hinfo) rfl rfl h.assigned
    have hrefused : Decided { (c.startStream bidi).setIncoming owner.peer bidi queue with
        agenda := .refused c.nextStreamId :: c.agenda } :=
      h.congr rfl rfl (fun _ hinfo => hinfo) rfl rfl h.assigned
    rcases hcreate with hcreate | hcreate | hcreate
    · rw [hcreate]
      exact hstarted
    · rw [hcreate]
      exact hrefused.act
    · rw [hcreate]
      exact hstarted.act

/-- A request decides where it is the first, and changes nothing where it asks for the same. -/
theorem Decided.beginTermination (h : Decided c) (hsound : Sound c)
    (hok : ¬ c.Overtakes (.request info)) : Decided (c.beginTermination info) := by
  have hlater : c.requests ≠ [] → (c.requests ++ [info]).head? = c.requests.head? := by
    intro hrequests
    obtain ⟨first, rest, heq⟩ := List.exists_cons_of_ne_nil hrequests
    rw [heq]
    rfl
  have hasked : c.requests ≠ [] → ∀ termination,
      (c.state = .closed ∨ c.terminations ≠ [] → termination = true) →
        Decided { c with requests := c.requests ++ [info], termination := termination } := by
    intro hrequests termination hassigned
    refine ⟨?_, fun info' hinfo => ?_, fun info' hinfo => ?_, hassigned⟩
    · exact h.closeInfo.trans (hlater hrequests).symm
    · exact (hlater hrequests).trans (h.pending info' hinfo)
    · exact (hlater hrequests).trans (h.closed info' hinfo)
  have hbegun : c.state ≠ .connected → c.requests ≠ [] := fun hstate hnil =>
    hstate (hsound.connected.mpr hnil)
  unfold MockSessionConnection.beginTermination
  simp only
  split
  · rename_i htermination
    exact hasked (hbegun (hsound.assigned htermination)) c.termination h.assigned
  · rename_i htermination
    have htermination : c.termination = false := eq_false_of_ne_true htermination
    unfold MockSessionConnection.terminate
    split
    · rename_i hclosed
      exact absurd (htermination.symm.trans (h.assigned (.inl hclosed))) Bool.false_ne_true
    · have hfirst : (c.requests ++ [info]).head? = some info ∧
          ∀ info', c.requests.head? = some info' → info' = info := by
        by_cases hnil : c.requests = []
        · simp [hnil]
        · have hsame : c.closeInfo = some info := by
            by_contra hne
            exact hok ⟨hnil, htermination, hne⟩
          rw [hlater hnil, ← h.closeInfo, hsame]
          exact ⟨rfl, fun info' heq => (Option.some.inj heq).symm⟩
      have hold : ∀ info', c.requests.head? = some info' →
          (c.requests ++ [info]).head? = some info' := fun info' heq =>
        hfirst.2 info' heq ▸ hfirst.1
      refine ⟨hfirst.1.symm, fun info' hinfo => ?_, fun info' hinfo => ?_, ?_⟩
      · rcases List.mem_cons.mp hinfo with rfl | hinfo
        · exact hfirst.1
        · exact hold info' (h.pending info' hinfo)
      · exact hold info' (h.closed info' hinfo)
      · rintro (hclosed | hterminations)
        · cases hclosed
        · exact h.assigned (.inr hterminations)

theorem Decided.proceed (h : Decided c) : Decided c.proceed := by
  have hpopped : ∀ rest, (∀ f ∈ rest, f ∈ c.agenda) → Decided { c with agenda := rest } := by
    intro rest hrest
    refine h.congr rfl rfl (fun info hinfo => ?_) rfl rfl h.assigned
    rcases List.mem_append.mp hinfo with hinfo | hinfo
    · obtain ⟨f, hf, heq⟩ := List.mem_filterMap.mp hinfo
      exact List.mem_append_left _ (List.mem_filterMap.mpr ⟨f, hrest f hf, heq⟩)
    · exact List.mem_append_right _ hinfo
  unfold MockSessionConnection.proceed
  cases hagenda : c.agenda with
  | nil => exact h
  | cons f rest =>
    have hrest : Decided { c with agenda := rest } :=
      hpopped rest fun g hg => hagenda ▸ List.mem_cons_of_mem _ hg
    cases f with
    | finishReset id => exact hrest.act
    | onTerminal id => exact hrest.finishStream
    | refused id => exact hrest.act
    | snapshot info =>
      refine h.congr rfl rfl (fun info' hinfo => ?_) rfl rfl h.assigned
      rw [pendingInfos, hagenda]
      exact hinfo
    | resets info ids =>
      cases ids with
      | cons id ids =>
        have hnext : Decided { c with agenda := .resets info ids :: rest } := by
          refine h.congr rfl rfl (fun info' hinfo => ?_) rfl rfl h.assigned
          rw [pendingInfos, hagenda]
          exact hinfo
        exact hnext.act
      | nil =>
        refine h.congr rfl rfl (fun info' hinfo => ?_) rfl rfl fun _ => rfl
        rw [pendingInfos, hagenda]
        rcases List.mem_append.mp hinfo with hinfo | hinfo
        · exact List.mem_cons_of_mem _ (List.mem_append_left _ hinfo)
        · rcases List.mem_append.mp hinfo with hinfo | hinfo
          · exact List.mem_cons_of_mem _ (List.mem_append_right _ hinfo)
          · rw [List.mem_singleton.mp hinfo]
            exact List.mem_cons_self

theorem Decided.settle (h : Decided c) : Decided c.settle := by
  unfold MockSessionConnection.settle
  cases hterminations : c.terminations with
  | nil => exact h
  | cons info rest =>
    have hpending : ∀ info' ∈ c.terminations, c.requests.head? = some info' :=
      fun info' hinfo => h.pending info' (List.mem_append_right _ hinfo)
    have hinfo : c.requests.head? = some info := by
      refine hpending info ?_
      rw [hterminations]
      exact List.mem_cons_self
    have hassigned : c.termination = true := by
      refine h.assigned (.inr ?_)
      rw [hterminations]
      exact List.cons_ne_nil _ _
    refine ⟨h.closeInfo, fun info' hinfo' => ?_, fun info' hinfo' => ?_, fun _ => hassigned⟩
    · rcases List.mem_append.mp hinfo' with hinfo' | hinfo'
      · exact h.pending info' (List.mem_append_left _ hinfo')
      · refine hpending info' ?_
        rw [hterminations]
        exact List.mem_cons_of_mem _ hinfo'
    · rcases hinfo' with hclosed | honClosed
      · change c.closed.or (some info) = some info' at hclosed
        cases hold : c.closed with
        | none =>
          rw [hold] at hclosed
          exact hinfo.trans hclosed
        | some first =>
          rw [hold] at hclosed
          cases hclosed
          exact h.closed info' (.inl hold)
      · rcases List.mem_append.mp honClosed with honClosed | honClosed
        · exact h.closed info' (.inr honClosed)
        · rw [List.mem_singleton.mp honClosed]
          exact hinfo

/-- Unless a termination overtakes another, the first request has decided what is told. -/
theorem Decided.next (h : Decided c) (hsound : Sound c) (hok : ¬ c.Overtakes e) :
    Decided (c.next size e) := by
  cases e with
  | create owner bidi => exact h.createStream owner bidi
  | endPipe id pipe abort => exact h.act
  | reset id => exact h.act
  | request info => exact h.beginTermination hsound hok
  | consume endpoint bidi event => exact h.congr rfl rfl (fun _ hinfo => hinfo) rfl rfl h.assigned
  | proceed => exact h.proceed
  | settle => exact h.settle

/-! ### What follows for the session -/

theorem Sound.isTerminal (h : Sound c) (hid : id < c.nextStreamId) (hout : id ∉ c.tracked) :
    (c.streams id).IsTerminal :=
  have hstanding := h.standing id hid nofun
  hstanding.sound.isTerminal (hstanding.finished hout)

theorem kept (hsound : Sound c) (h : Decided c) : Kept size c where
  opened := hsound.opened
  paired := hsound.paired
  tracked hagenda id hid := by
    constructor
    · intro hin hterminal
      have hdue := (hsound.standing id hid nofun).due hin hterminal.1
      rw [hagenda] at hdue
      cases hdue
    · intro hopen
      by_contra hout
      exact hopen (hsound.isTerminal hid hout)
  closeInfo := h.closeInfo
  closed := h.closed
  refuses hrequests owner bidi :=
    if_pos fun hstate => hrequests (hsound.connected.mp hstate)
  finished hstate := by
    have hnone := hsound.finished hstate
    refine ⟨hnone, fun id hid => hsound.isTerminal hid ?_⟩
    rw [hnone]
    exact List.not_mem_nil

/-- A request that overtakes the first one is heard. -/
theorem not_kept_of_overtakes (h : Decided c) (hover : c.Overtakes (.request info)) :
    ¬ Kept size (c.beginTermination info) := by
  obtain ⟨hrequests, htermination, hother⟩ := hover
  have hopen : c.state ≠ .closed := fun hclosed =>
    absurd (htermination.symm.trans (h.assigned (.inl hclosed))) Bool.false_ne_true
  intro hkept
  have hfirst := hkept.closeInfo
  unfold MockSessionConnection.beginTermination at hfirst
  simp only at hfirst
  rw [if_neg (by rw [htermination]; exact Bool.false_ne_true)] at hfirst
  unfold MockSessionConnection.terminate at hfirst
  rw [if_neg (by exact hopen)] at hfirst
  obtain ⟨first, rest, heq⟩ := List.exists_cons_of_ne_nil hrequests
  refine hother ?_
  rw [h.closeInfo, heq]
  change some info = (c.requests ++ [info]).head? at hfirst
  rw [heq] at hfirst
  exact hfirst.symm

end MockSessionConnection

end NestWebTransport
