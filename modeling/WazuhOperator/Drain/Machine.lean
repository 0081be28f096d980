import WazuhOperator.Drain.Gate

namespace WazuhOperator
namespace Drain

open Procedure

/-!
# The phase machine behind the gate

What one drain check can do to the phase of a component, and what it tells the
controller, whatever the drainer, its memory and the answers of the outside
world.  Both components refine this machine, so an argument about phases is
made once.  The second half gives the part of the gate that watches a drain
under way as equations.

Two things are worth reading off the constructors.  The controller is told to
proceed without a completed drain from every phase but three; and no step
leaves `Complete`, `Failed`, `RollingBack` or an unknown phase.
-/

/-- The phase after a progress report.  From `Pending` there is no way on. -/
def watchedPhase (emptied : Bool) : DrainPhase -> DrainPhase
  | .draining => if emptied then .verifying else .draining
  | phase => phase

/-- The phase before a drain check, the verdict it amounts to, and the phase after it. -/
inductive PhaseStep : DrainPhase -> Verdict -> DrainPhase -> Prop where
  /-- No client, or a phase which `StartDrain` does not accept. -/
  | refused (start : phase = .idle ∨ phase = .unset) :
      PhaseStep phase .proceed phase
  /-- The first requests of the drain failed. -/
  | startFailed : PhaseStep .idle .proceed .pending
  | started : PhaseStep .idle .wait .draining
  | watched (under : phase = .pending ∨ phase = .draining) (emptied : Bool) :
      PhaseStep phase .wait (watchedPhase emptied phase)
  /-- The verification itself failed. -/
  | unverifiable : PhaseStep .verifying .proceed .verifying
  | notEmpty : PhaseStep .verifying .wait .verifying
  | verified : PhaseStep .verifying .proceedDrained .complete
  | alreadyComplete : PhaseStep .complete .proceedDrained .complete
  | passedOver (other : phase = .failed ∨ phase = .rollingBack ∨ ∃ text, phase = .unknown text) :
      PhaseStep phase .proceed phase

theorem PhaseStep.ne_idle
    (step : PhaseStep before decision after) (begun : before ≠ .idle) : after ≠ .idle := by
  cases step with
  | refused => exact begun
  | startFailed | started => exact absurd rfl begun
  | watched under emptied =>
    rcases under with rfl | rfl
    · simp [watchedPhase]
    · cases emptied <;> simp [watchedPhase]
  | unverifiable | notEmpty | verified | alreadyComplete => simp
  | passedOver => exact begun

theorem PhaseStep.eq_complete
    (step : PhaseStep before decision after) (complete : before = .complete) : after = .complete := by
  cases step with
  | watched under =>
    rcases under with pending | draining
    · simp [complete] at pending
    · simp [complete] at draining
  | startFailed | started | unverifiable | notEmpty => cases complete
  | refused | passedOver => exact complete
  | verified | alreadyComplete => rfl

theorem PhaseStep.ne_complete (step : PhaseStep before decision after)
    (undrained : decision ≠ .proceedDrained) (unfinished : before ≠ .complete) : after ≠ .complete := by
  cases step with
  | refused | passedOver => exact unfinished
  | watched under emptied =>
    rcases under with rfl | rfl
    · simp [watchedPhase]
    · cases emptied <;> simp [watchedPhase]
  | startFailed | started | unverifiable | notEmpty => simp
  | verified | alreadyComplete => exact absurd rfl undrained

/-- What the drain checks of both components have in common: they refine the phase machine, set no
retry time, begin by looking at the scale-down, and all their events belong to them. -/
structure CheckFrame (component : Component) (before : ComponentDrainStatus) (decision : Verdict)
    (after : ComponentDrainStatus) (log : List Event) : Prop where
  step : PhaseStep before.phase decision after.phase
  retry : after.nextRetryTime = before.nextRetryTime
  looked : .scaleDownEvaluated component before.phase ∈ log
  own : ∀ event ∈ log, event.ofGate component = true

namespace CheckFrame

variable (frame : CheckFrame component before decision after log)

include frame

theorem about : ∀ event ∈ log, event.about = some component :=
  fun event member => Event.about_of_ofGate (frame.own event member)

theorem quiet : ∀ event ∈ log, event.shrink = none ∧ event.completes component = false :=
  fun event member => Event.quiet_of_ofGate (frame.own event member)

end CheckFrame

def announced (now : Time) (info : ScaleDownInfo) (status : ComponentDrainStatus) :
    ComponentDrainStatus :=
  announcedStatus now status info.targetPodName info.currentReplicas info.targetReplicas

/-! ## Watching a drain under way -/

section Watching

variable {μ π : Type} (ops : DrainOperations μ π) (now : Time)

def reportedStatus (progress : π) (status : ComponentDrainStatus) : ComponentDrainStatus :=
  if ops.isComplete progress then
    orKeep (ops.recordProgress progress status)
      (transitionTo now (ops.recordProgress progress status) .verifying ops.verifyingMessage)
  else ops.recordProgress progress status

theorem reportedStatus_phase (progress : π)
    (under : status.phase = .pending ∨ status.phase = .draining) :
    (reportedStatus ops now progress status).phase =
      watchedPhase (ops.isComplete progress) status.phase := by
  have recorded := ops.recordProgress_phase progress status
  cases complete : ops.isComplete progress with
  | false => rcases under with phase | phase <;> simp [reportedStatus, complete, recorded, phase, watchedPhase]
  | true =>
    -- The edge to `Verifying` starts from `Draining`, so an announced drain stays where it is.
    rcases under with phase | phase <;>
      simp [reportedStatus, complete, orKeep, transitionTo, recorded, phase, isValidTransition,
        validTransitions, watchedPhase]

theorem reportedStatus_kept (progress : π) (status : ComponentDrainStatus) :
    (reportedStatus ops now progress status).targetPod = status.targetPod ∧
      (reportedStatus ops now progress status).nextRetryTime = status.nextRetryTime := by
  have target := ops.recordProgress_targetPod progress status
  have retry := ops.recordProgress_nextRetryTime progress status
  cases complete : ops.isComplete progress with
  | false => simp [reportedStatus, complete, target, retry]
  | true =>
    simp only [reportedStatus, complete, if_true, transitionTo]
    split <;> split <;> simp [orKeep, *]

variable {ops now}

theorem monitorDrainProgress_missing (absent : ops.hasDrainer state.memory = false) :
    monitorDrainProgress ops now node state = ⟨.error "drainer not initialized", state, []⟩ := by
  simp [monitorDrainProgress, absent]

theorem monitorDrainProgress_error (present : ops.hasDrainer state.memory)
    (watched : ops.monitor node state.memory = ⟨.error text, after, log⟩) :
    monitorDrainProgress ops now node state = ⟨.error text, { state with memory := after }, log⟩ := by
  simp [monitorDrainProgress, onMemory, present, watched]

theorem monitorDrainProgress_ok (present : ops.hasDrainer state.memory)
    (watched : ops.monitor node state.memory = ⟨.ok progress, after, log⟩) :
    monitorDrainProgress ops now node state =
      ⟨.ok progress, ⟨after, reportedStatus ops now progress state.status⟩, log⟩ := by
  cases complete : ops.isComplete progress <;>
    simp [monitorDrainProgress, onMemory, onStatus, present, watched, complete, reportedStatus]

end Watching

end Drain
end WazuhOperator
