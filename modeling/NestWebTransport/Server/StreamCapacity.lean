import NestWebTransport.Server.DrainLoop

/-! A stream pump observes capacity before it reads and uses it after. -/
namespace NestWebTransport

namespace Workload

variable {l : Workload} {k n : Nat} {kind : WorkKind} {overflow : HandlerOverflowPolicy}

/-- The workload has taken the next task of session `k`, started or queued. -/
def Accepts (k : Nat) (kind : WorkKind) (l l' : Workload) : Prop :=
  l'.workCount = l.workCount + 1 ∧ (l'.work l.workCount).owner = k ∧
    (l'.work l.workCount).kind = kind ∧
    ((l'.work l.workCount).phase = .starting ∨ (l'.work l.workCount).phase = .pending)

/-- With a reservation from the budget, a submission is accepted just where there is capacity. -/
theorem accepts_submit_iff (hl : Scheduled l) (hbudget : l.handlerBudget.reserve ≠ none) :
    Accepts k kind l (l.submit k overflow kind n).2 ↔ (l.scheduler k).hasCapacity = true := by
  have hactive := hl.active_le k
  have hpending := hl.pending_le k
  obtain ⟨hnone, -⟩ | ⟨r, budget, -, ⟨heq, hopen, hlt⟩ | ⟨heq, hopen, hge, hroom⟩ |
    ⟨refusal, -, hfull, heq⟩⟩ := l.submit_cases k overflow kind n
  · exact absurd hnone hbudget
  · rw [heq, BoundedTaskScheduler.hasCapacity_iff]
    refine ⟨fun _ => ⟨hopen, by omega⟩, fun _ => ⟨rfl, ?_⟩⟩
    simp [started, allocate, setScheduler]
  · rw [heq, BoundedTaskScheduler.hasCapacity_iff]
    refine ⟨fun _ => ⟨hopen, by omega⟩, fun _ => ⟨rfl, ?_⟩⟩
    simp [queued, allocate, setScheduler]
  · rw [heq, hfull]
    refine ⟨fun h => ?_, fun h => by cases h⟩
    have hcount : l.workCount = l.workCount + 1 := h.1
    omega

end Workload

namespace WebTransportRuntime

variable {deps : RuntimeDependencies} {s t : RuntimeState} {e : RuntimeEvent}
  {es : List RuntimeEvent} {k : Nat} {kind : StreamKind} {aborted : Bool}

theorem trackStream_plane : (trackStream s k kind aborted).plane = s.plane := by
  unfold trackStream
  simp only
  split_ifs
  · unfold releaseStream
    split_ifs
    · rfl
    · rfl
  · rfl

/-- An open intake reads a stream within the limits while the global budget has a place. -/
structure Admissible (deps : RuntimeDependencies) (s : RuntimeState) (k : Nat) (kind : StreamKind) :
    Prop where
  intake : (s.managed k).isIntakeOver = false
  limits : isOverStreamLimit deps s k kind = false
  budget : s.plane.handlerBudget.reserve ≠ none

theorem streamRead_workload (h : Admissible deps s k kind) :
    (streamRead deps s k kind aborted).plane.toWorkload =
      (s.plane.toWorkload.submit k deps.options.execution.overflow
        (.stream s.streamCount) 0).2 := by
  have hload := (trackStream s k kind aborted).plane.submit_toWorkload deps.options k
    (.stream s.streamCount) 0
  rw [trackStream_plane] at hload
  unfold streamRead
  simp only [h.intake, h.limits, Bool.false_eq_true, if_false, trackStream_plane]
  split_ifs
  · exact hload
  · exact hload

theorem accepts_streamRead_iff (hs : Sound s) (h : Admissible deps s k kind) :
    Workload.Accepts k (.stream s.streamCount) s.plane.toWorkload
        (streamRead deps s k kind aborted).plane.toWorkload ↔
      (s.plane.scheduler k).hasCapacity = true := by
  rw [streamRead_workload h]
  exact Workload.accepts_submit_iff hs.accounted.scheduled h.budget

/-- A stream the step reads and may take is accepted by the scheduler of its session. -/
def AcceptsStreams (deps : RuntimeDependencies) (s : RuntimeState) (e : RuntimeEvent) : Prop :=
  ∀ k kind aborted, e = .streamRead k kind aborted → Admissible deps s k kind →
    Workload.Accepts k (.stream s.streamCount) s.plane.toWorkload (next deps s e).plane.toWorkload

/-- No other loop of the session has taken the slot the pump observed before it read. -/
def FindsCapacity (deps : RuntimeDependencies) (s : RuntimeState) (e : RuntimeEvent) : Prop :=
  ∀ k kind aborted, e = .streamRead k kind aborted → Admissible deps s k kind →
    (s.plane.scheduler k).hasCapacity = true

/-- Every stream of a run is accepted just where each read returns to a scheduler that still has
the capacity its pump waited for. -/
theorem acceptsStreams_iff :
    ((machine deps).restrict (AcceptsStreams deps)).Run (new deps) es t ↔
      ((machine deps).restrict (FindsCapacity deps)).Run (new deps) es t := by
  refine Machine.Run.restrict_congr (P := Sound) (fun _ _ _ hst hs _ => sound_step hs hst)
    (fun s e t _ hs => ?_) (sound_new deps)
  constructor
  · rintro h k kind aborted rfl hadmissible
    exact (accepts_streamRead_iff hs hadmissible).mp (h k kind aborted rfl hadmissible)
  · rintro h k kind aborted rfl hadmissible
    exact (accepts_streamRead_iff hs hadmissible).mpr (h k kind aborted rfl hadmissible)

/-- A server with a handler for either kind of stream. -/
def streamServer : RuntimeDependencies :=
  smallServer [smallHandler .bidirectionalStream [], smallHandler .unidirectionalStream []] []

/-- Both stream pumps of session `0` observe its only slot; then a stream of each kind arrives. -/
def contendedStreams : List RuntimeEvent :=
  smallAdmission ++ [.streamResumed 0 .bidirectional, .streamResumed 0 .unidirectional,
    .streamRead 0 .bidirectional false]

theorem acceptsStreams_contended :
    ∃ s t, (machine streamServer).Run (new streamServer) contendedStreams s ∧
      (machine streamServer).Step s (.streamRead 0 .unidirectional false) t ∧
      Admissible streamServer s 0 .unidirectional ∧
      ¬ Workload.Accepts 0 (.stream s.streamCount) s.plane.toWorkload t.plane.toWorkload := by
  obtain ⟨s, hrun, henabled, hintake, hlimits, hbudget, hcount⟩ := exists_run streamServer
    (new streamServer) contendedStreams
    (fun s => enabled streamServer s (.streamRead 0 .unidirectional false) = true ∧
      (s.managed 0).isIntakeOver = false ∧
      isOverStreamLimit streamServer s 0 .unidirectional = false ∧
      s.plane.handlerBudget.reserve.isSome = true ∧
      (next streamServer s (.streamRead 0 .unidirectional false)).plane.workCount =
        s.plane.workCount) (by decide)
  refine ⟨s, _, hrun, ⟨henabled, rfl⟩, ⟨hintake, hlimits, ?_⟩, fun h => ?_⟩
  · exact Option.isSome_iff_ne_none.mp hbudget
  · have := h.1
    omega

end WebTransportRuntime

end NestWebTransport
