import NestWebTransport.Server.RuntimeSessions

/-! The order in which the admission work of a session calls into the application. -/
namespace NestWebTransport

/-- What the loop of `authenticateAndRunSessionHandlers` itself does, as opposed to what happens
inside one invocation. -/
def AdmissionEvent.isStep : AdmissionEvent → Bool
  | .guardDenied _ | .callbackApplied _ => false
  | _ => true

/-- A call of `authenticate`, of `invoke` for a session handler or of the handler itself. -/
def AdmissionEvent.isStart : AdmissionEvent → Bool
  | .authenticateStarted | .handlerStarted _ | .callbackApplied _ => true
  | _ => false

namespace WebTransportRuntime

variable {deps : RuntimeDependencies} {s t : RuntimeState} {e : RuntimeEvent} {k w n i : Nat}
  {m : ManagedSession} {principal : Principal}

/-! ### The script -/

/-- The first `n` session handlers, one after another. -/
def script (n : Nat) : List AdmissionEvent :=
  (List.range n).flatMap fun i => [.handlerStarted i, .handlerResolved i]

def authentication (deps : RuntimeDependencies) (principal : Principal) : List AdmissionEvent :=
  if deps.options.security.authenticate then [.authenticateStarted, .authenticated principal]
  else []

theorem script_succ (n : Nat) :
    script (n + 1) = script n ++ [.handlerStarted n, .handlerResolved n] := by
  unfold script
  rw [List.range_succ, List.flatMap_append]
  simp

theorem script_mono (h : i ≤ n) : script i <+: script n := by
  induction n, h using Nat.le_induction with
  | base => exact List.prefix_refl _
  | succ n hn ih =>
    rw [script_succ]
    exact ih.trans (List.prefix_append _ _)

theorem script_started (h : i < n) : script i ++ [.handlerStarted i] <+: script n := by
  refine List.IsPrefix.trans ?_ (script_mono h)
  rw [script_succ]
  exact ⟨[.handlerResolved i], by simp⟩

/-- How many session handlers the path of the session has. -/
def handlerCount (deps : RuntimeDependencies) (m : ManagedSession) : Nat :=
  (deps.registry.find m.session.path .session none).length

/-- The steps of the admission work so far. -/
def steps (m : ManagedSession) : List AdmissionEvent := m.log.filter AdmissionEvent.isStep

theorem steps_note (event : AdmissionEvent) :
    steps (m.note event) = steps m ++ if event.isStep then [event] else [] := by
  simp only [steps, ManagedSession.note, List.filter_append]
  cases hstep : event.isStep <;> simp [hstep]

/-- The script up to `rest`, where `authenticate` resolved to something other than `false`. -/
def Performed (deps : RuntimeDependencies) (rest : List AdmissionEvent) (m : ManagedSession) :
    Prop :=
  ∃ principal ≠ .refused, steps m = authentication deps principal ++ rest

/-- A part of the script, where `authenticate` has not resolved to `false`. -/
def OnScript (deps : RuntimeDependencies) (m : ManagedSession) : Prop :=
  ∃ principal ≠ .refused, steps m <+: authentication deps principal ++ script (handlerCount deps m)

theorem Performed.onScript {rest : List AdmissionEvent} (h : Performed deps rest m)
    (hrest : rest <+: script (handlerCount deps m)) : OnScript deps m := by
  obtain ⟨principal, hp, hsteps⟩ := h
  exact ⟨principal, hp, hsteps ▸ (List.prefix_append_right_inj _).mpr hrest⟩

/-- The steps so far are those the stage stands after. -/
def Follows (deps : RuntimeDependencies) (m : ManagedSession) : Prop :=
  match m.stage with
  | .queued => steps m = []
  | .authenticating =>
    deps.options.security.authenticate = true ∧ steps m = [.authenticateStarted]
  | .invoking i _ =>
    i < handlerCount deps m ∧ Performed deps (script i ++ [.handlerStarted i]) m
  | .invoked i => i < handlerCount deps m ∧ Performed deps (script (i + 1)) m
  | .fulfilled => Performed deps (script (handlerCount deps m)) m
  | .rejected _ => OnScript deps m

theorem Follows.onScript (h : Follows deps m) : OnScript deps m := by
  unfold Follows at h
  split at h
  · exact ⟨.absent, by simp, by rw [h]; exact List.nil_prefix⟩
  · refine ⟨.absent, by simp, ?_⟩
    rw [h.2, authentication, if_pos h.1]
    exact ⟨.authenticated .absent :: script (handlerCount deps m), by simp⟩
  · exact h.2.onScript (script_started h.1)
  · exact h.2.onScript (script_mono h.1)
  · exact h.onScript (List.prefix_refl _)
  · exact h

theorem follows_rejected (h : OnScript deps m) (error : Failure) :
    Follows deps { m with stage := .rejected error } := h

/-! ### The steps of the admission work -/

theorem follows_throwIfAdmissionEnded {next : RuntimeState} (h : OnScript deps (s.managed k))
    (hnext : (s.managed k).context = none → Follows deps (next.managed k)) :
    Follows deps ((throwIfAdmissionEnded s k next).managed k) := by
  unfold throwIfAdmissionEnded
  split_ifs with hended
  · rw [managed_update, if_pos rfl]
    exact follows_rejected h _
  · refine hnext ?_
    simp only [ManagedSession.isContextAborted, Bool.or_eq_true, not_or, Bool.not_eq_true,
      Option.isSome_eq_false_iff, Option.isNone_iff_eq_none] at hended
    exact hended.1

/-- Behind one handler the next one starts, or the work has fulfilled. -/
theorem follows_runSessionHandlers (hi : i ≤ handlerCount deps (s.managed k))
    (hperformed : Performed deps (script i) (s.managed k)) :
    Follows deps ((runSessionHandlers deps s k i).managed k) := by
  unfold runSessionHandlers
  split
  · rename_i hnone
    have heq : i = handlerCount deps (s.managed k) :=
      Nat.le_antisymm hi (List.getElem?_eq_none_iff.mp hnone)
    rw [managed_update, if_pos rfl]
    subst heq
    exact hperformed
  · rename_i handler hsome
    have hlt : i < handlerCount deps (s.managed k) := (List.getElem?_eq_some_iff.mp hsome).1
    refine follows_throwIfAdmissionEnded (hperformed.onScript (script_mono hi)) fun hcontext => ?_
    obtain ⟨principal, hp, hsteps⟩ := hperformed
    rw [invocationReached, managed_update, if_pos rfl, managed_update, if_pos rfl, hcontext]
    refine ⟨hlt, principal, hp, ?_⟩
    have hnote := steps_note (m := s.managed k) (.handlerStarted i)
    rw [hsteps, List.append_assoc] at hnote
    exact hnote

/-- The authenticator comes first, where there is one. -/
theorem follows_authenticate (hstage : (s.managed k).stage = .queued)
    (h : Follows deps (s.managed k)) :
    Follows deps ((authenticateAndRunSessionHandlers deps s k).managed k) := by
  have hnone : steps (s.managed k) = [] := by
    unfold Follows at h
    rwa [hstage] at h
  refine follows_throwIfAdmissionEnded h.onScript fun _ => ?_
  split_ifs with hauth
  · rw [managed_update, if_pos rfl]
    refine ⟨hauth, ?_⟩
    have hnote := steps_note (m := s.managed k) .authenticateStarted
    rw [hnone] at hnote
    exact hnote
  · refine follows_runSessionHandlers (Nat.zero_le _) ⟨.absent, by simp, ?_⟩
    rw [hnone, authentication, if_neg hauth]
    rfl

/-- An authenticator that is done hands over to the handlers; one that failed ends the work. -/
theorem follows_authenticateSettled (hstage : (s.managed k).stage = .authenticating)
    (result : Except Failure Principal) (h : Follows deps (s.managed k)) :
    Follows deps ((authenticateSettled deps s k result).managed k) := by
  unfold authenticateSettled
  cases result with
  | error error =>
    rw [managed_update, if_pos rfl]
    exact follows_rejected h.onScript _
  | ok principal =>
    refine follows_throwIfAdmissionEnded h.onScript fun _ => ?_
    split_ifs with hrefused
    · rw [managed_update, if_pos rfl]
      exact follows_rejected h.onScript _
    · obtain ⟨hauth, hsteps⟩ : deps.options.security.authenticate = true ∧
          steps (s.managed k) = [.authenticateStarted] := by
        unfold Follows at h
        rwa [hstage] at h
      have hnote := steps_note (m := s.managed k) (.authenticated principal)
      have hperformed : Performed deps (script 0)
          ((s.managed k).note (.authenticated principal)) := by
        refine ⟨principal, hrefused, hnote.trans ?_⟩
        rw [hsteps, authentication, if_pos hauth]
        rfl
      have hupdated : (update s k (·.note (.authenticated principal))).managed k =
          (s.managed k).note (.authenticated principal) := by rw [managed_update, if_pos rfl]
      exact follows_runSessionHandlers (Nat.zero_le _) (hupdated ▸ hperformed)

theorem follows_handlerReturned (hstage : (s.managed k).stage = .invoked i)
    (h : Follows deps (s.managed k)) :
    Follows deps ((handlerReturned deps s k i).managed k) := by
  refine follows_throwIfAdmissionEnded h.onScript fun _ => ?_
  unfold Follows at h
  rw [hstage] at h
  exact follows_runSessionHandlers h.1 h.2

/-- What happens inside an invocation is not a step of the loop. -/
theorem steps_pipelineNote (event : PipelineEvent) (index : Nat) (aborted : Option Failure) :
    steps (event.note index aborted m) = steps m ∧
      (event.note index aborted m).stage = m.stage ∧
      (event.note index aborted m).session = m.session := by
  unfold PipelineEvent.note
  split
  · exact ⟨by simp [steps_note, AdmissionEvent.isStep], rfl, rfl⟩
  · exact ⟨by simp [steps_note, AdmissionEvent.isStep], rfl, rfl⟩
  · split_ifs
    · exact ⟨by simp [steps_note, AdmissionEvent.isStep], rfl, rfl⟩
    · exact ⟨rfl, rfl, rfl⟩
  · exact ⟨rfl, rfl, rfl⟩

/-- A phase of a handler's pipeline stays between the start of this handler and the next. -/
theorem follows_pipelineStep (event : PipelineEvent) (h : Follows deps (s.managed k)) :
    Follows deps ((pipelineStep deps s k event).managed k) := by
  unfold pipelineStep
  split
  · rename_i index phase hstage
    split
    · exact h
    · rename_i handler hsome
      split
      · exact h
      · rename_i invocation hadvance
        obtain ⟨hlt, principal, hp, hsteps⟩ :
            index < handlerCount deps (s.managed k) ∧
              Performed deps (script index ++ [.handlerStarted index]) (s.managed k) := by
          unfold Follows at h
          rwa [hstage] at h
        obtain ⟨hnote, -, hsession⟩ :=
          steps_pipelineNote (m := s.managed k) event index (s.managed k).context
        rw [invocationReached, managed_update, if_pos rfl, managed_update, if_pos rfl]
        generalize event.note index (s.managed k).context (s.managed k) = m' at hnote hsession
        have hcount : handlerCount deps m' = handlerCount deps (s.managed k) := by
          rw [handlerCount, handlerCount, hsession]
        have hperformed : Performed deps (script index ++ [.handlerStarted index]) m' :=
          ⟨principal, hp, hnote.trans hsteps⟩
        cases invocation with
        | pending phase' => exact ⟨hcount ▸ hlt, hperformed⟩
        | fulfilled =>
          refine ⟨hcount ▸ hlt, principal, hp, ?_⟩
          have hresolved := steps_note (m := m') (.handlerResolved index)
          rw [hnote, hsteps] at hresolved
          refine hresolved.trans ?_
          rw [script_succ]
          simp [AdmissionEvent.isStep]
        | rejected error =>
          exact follows_rejected (hperformed.onScript (script_started (hcount ▸ hlt))) error
  · exact h

/-- The admission work stays on its script; work that is only now resumed has not begun it. -/
theorem follows_admits (h : Admits deps s k e t)
    (hqueued : ∀ w rest, s.plane.resumes = w :: rest → (s.plane.work w).owner = k →
      (s.plane.work w).kind = .admission → (s.managed k).stage = .queued)
    (hs : Follows deps (s.managed k)) : Follows deps (t.managed k) := by
  cases h with
  | authenticated hstage => exact follows_authenticateSettled hstage _ hs
  | pipeline hready => exact follows_pipelineStep _ hs
  | returned hstage => exact follows_handlerReturned hstage hs
  | @resumed w rest hresumes howner =>
    unfold resumeTask
    rw [hresumes]
    simp only [howner]
    split_ifs with hkind
    · have hstage := hqueued w rest hresumes howner hkind
      split
      · rw [managed_update, if_pos rfl]
        exact follows_rejected hs.onScript _
      · exact follows_authenticate hstage hs
    · exact hs

end WebTransportRuntime

end NestWebTransport
