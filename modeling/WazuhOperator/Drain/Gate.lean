import WazuhOperator.Library.Procedure
import WazuhOperator.Cluster.Events
import WazuhOperator.Drain.Detection

namespace WazuhOperator
namespace Drain

open Procedure Proc

/-!
# The scale-down gate

`IndexerReconciler.CheckScaleDownDrain` and `WorkerReconciler.CheckScaleDownDrain`
are one function written twice, with another drainer behind it.  It is stated
here once, over the operations of a drainer (`DrainOperations`); the two
members are obtained in the modules of their components.

The store of the gate is the memory of the reconciler, which outlives the
pass and is shared by all clusters, and the drain status in the working copy
of the cluster, which does not.
-/

/-- What the gate calls: the client and drainer kept in the reconciler's memory
`μ`, and the progress report `π` of its drainer. -/
structure DrainOperations (μ π : Type) where
  component : Component
  /-- Texts in which the two members differ. -/
  (clientError drainingMessage verifyingMessage : String)
  ensureClient : Proc μ Event Unit
  /-- Create the drainer if the memory holds none. -/
  ensureDrainer : μ -> μ
  hasDrainer : μ -> Bool
  startDrain : String -> Proc μ Event Unit
  monitor : String -> Proc μ Event π
  isComplete : π -> Bool
  recordProgress : π -> ComponentDrainStatus -> ComponentDrainStatus
  recordProgress_phase : forall progress status,
    (recordProgress progress status).phase = status.phase
  recordProgress_targetPod : forall progress status,
    (recordProgress progress status).targetPod = status.targetPod
  recordProgress_nextRetryTime : forall progress status,
    (recordProgress progress status).nextRetryTime = status.nextRetryTime
  verify : String -> Proc μ Event Bool
  cancelDrain : Proc μ Event Unit

structure DrainState (μ : Type) where
  memory : μ
  status : ComponentDrainStatus

/-- The store of the gate: the status may not have been initialised yet. -/
structure GateState (μ : Type) where
  memory : μ
  status : Option ComponentDrainStatus

structure DrainCheckResult (π : Type) where
  (needsDrain drainInProgress drainComplete : Bool := false)
  targetPod : String := ""
  progress : Option π := none
  error : Option String := none

section Operations

variable {μ π : Type} (ops : DrainOperations μ π) (now : Time)

def onMemory {α : Type} (inner : Proc μ Event α) : Proc (DrainState μ) Event α :=
  focus DrainState.memory (fun memory state => { state with memory := memory }) inner

def onStatus (change : ComponentDrainStatus -> ComponentDrainStatus) :
    Proc (DrainState μ) Event Unit :=
  modify (fun state => { state with status := change state.status })

/-- `startDrain`.  The error of the attempt to mark the drain as failed is
dropped, as is the error of the transition at the end. -/
def startDrainOperation (info : ScaleDownInfo) : Proc (DrainState μ) Event Unit := do
  onMemory (mapError (ops.clientError ++ ·) ops.ensureClient)
  onMemory (modify ops.ensureDrainer)
  let state ← read
  let announced ← mapError ("failed to transition drain state: " ++ ·)
    (ofExcept
      (startDrain now state.status info.targetPodName info.currentReplicas info.targetReplicas))
  onStatus (fun _ => announced)
  emit (.drainStarted ops.component info.targetPodName)
  match ← attempt (onMemory (ops.startDrain info.targetPodName)) with
  | .error text =>
    onStatus (fun status => orKeep status (markFailed now status ("Failed to start drain: " ++ text)))
    fail text
  | .ok () =>
    onStatus (fun status => orKeep status (transitionTo now status .draining ops.drainingMessage))

def monitorDrainProgress (nodeName : String) : Proc (DrainState μ) Event π := do
  let state ← read
  if ops.hasDrainer state.memory then
    let progress ← onMemory (ops.monitor nodeName)
    onStatus (ops.recordProgress progress)
    if ops.isComplete progress then
      onStatus (fun status =>
        orKeep status (transitionTo now status .verifying ops.verifyingMessage))
    return progress
  else
    fail "drainer not initialized"

/-- `verifyDrainComplete`.  A completed drain is cancelled, which for the
indexer withdraws the allocation exclusion, before the caller learns about it. -/
def verifyDrainComplete (nodeName : String) : Proc (DrainState μ) Event Bool := do
  let state ← read
  if ops.hasDrainer state.memory then
    let complete ← onMemory (ops.verify nodeName)
    if complete then
      emit (.drainVerified ops.component nodeName)
      onStatus (fun status => orKeep status (markComplete now status))
      let _ ← attempt (onMemory ops.cancelDrain)
    return complete
  else
    fail "drainer not initialized"

/-- The part of `CheckScaleDownDrain` which follows the detection, by the phase of
the status. -/
def checkPhase (info : ScaleDownInfo) : Proc (DrainState μ) Event (DrainCheckResult π) := do
  let state ← read
  let result : DrainCheckResult π := { needsDrain := true, targetPod := info.targetPodName }
  emit (.scaleDownEvaluated ops.component state.status.phase)
  match state.status.phase with
  | .idle | .unset =>
    startDrainOperation ops now info
    return { result with drainInProgress := true }
  | .pending | .draining =>
    match ← attempt (monitorDrainProgress ops now info.targetPodName) with
    | .error text => return { result with drainInProgress := true, error := some text }
    | .ok progress => return { result with drainInProgress := true, progress := some progress }
  | .verifying =>
    match ← attempt (verifyDrainComplete ops now info.targetPodName) with
    | .error text => return { result with error := some text }
    | .ok true => return { result with drainComplete := true }
    | .ok false => return { result with drainInProgress := true }
  | .complete => return { result with drainComplete := true }
  | .failed => return { result with error := some ("drain failed: " ++ state.status.message) }
  | .rollingBack | .unknown _ => return result

/-- `getOrInitDrainStatus`, around a procedure which works on the status. -/
def withDrainStatus {α : Type} (inner : Proc (DrainState μ) Event α) :
    Proc (GateState μ) Event α :=
  focus (fun state => ⟨state.memory, state.status.getD initializeDrainStatus⟩)
    (fun inside _ => ⟨inside.memory, some inside.status⟩) inner

/-- `CheckScaleDownDrain`.  `found` is the answer to reading the StatefulSet,
where a missing one is not an error. -/
def checkScaleDownDrain (enabled : Bool) (stsName : String)
    (found : Except String (Option StatefulSet)) (desiredReplicas : Nat) :
    Proc (GateState μ) Event (DrainCheckResult π) :=
  match found with
  | .error text => fail text
  | .ok none => pure {}
  | .ok (some sts) =>
    let info := detectStatefulSetScaleDown stsName sts desiredReplicas
    if info.detected then
      if enabled then withDrainStatus (checkPhase ops now info)
      else pure { targetPod := info.targetPodName }
    else pure {}

inductive Verdict where
  | proceed
  | wait
  | proceedDrained
  deriving DecidableEq

/-- The branches of the controller after a drain check.  An error is only logged. -/
def verdict : Except String (DrainCheckResult π) -> Verdict
  | .error _ => .proceed
  | .ok result =>
    if result.drainInProgress then .wait
    else if result.drainComplete then .proceedDrained
    else .proceed

end Operations

/-! ## The gate by phases

One lemma for each way through `startDrain`, and one for each group of phases
of `CheckScaleDownDrain`. -/

section Phases

attribute [local simp] onMemory

variable {μ π : Type} {ops : DrainOperations μ π} {now : Time} {info : ScaleDownInfo}
variable {state : DrainState μ} {memory : μ}

theorem startDrainOperation_clientError
    (failed : ops.ensureClient state.memory = ⟨.error text, memory, log⟩) :
    startDrainOperation ops now info state =
      ⟨.error (ops.clientError ++ text), { state with memory := memory }, log⟩ := by
  simp [startDrainOperation, failed]

variable (ensured : ops.ensureClient state.memory = ⟨.ok (), memory, log⟩)
include ensured

theorem startDrainOperation_notIdle (different : state.status.phase ≠ .idle) :
    startDrainOperation ops now info state =
      ⟨.error ("failed to transition drain state: " ++ ("cannot start drain: current phase is " ++
          state.status.phase.text ++ ", expected Idle")),
        { state with memory := ops.ensureDrainer memory }, log⟩ := by
  simp [startDrainOperation, ensured, startDrain, different]

theorem startDrainOperation_startError (idle : state.status.phase = .idle)
    (failed : ops.startDrain info.targetPodName (ops.ensureDrainer memory) =
      ⟨.error text, after, later⟩) :
    startDrainOperation ops now info state =
      ⟨.error text,
        ⟨after, announcedStatus now state.status info.targetPodName info.currentReplicas
          info.targetReplicas⟩,
        log ++ .drainStarted ops.component info.targetPodName :: later⟩ := by
  -- The table has no edge from `Pending` to `Failed`.
  simp [startDrainOperation, onStatus, ensured, startDrain, idle, failed, orKeep, markFailed, transitionTo,
    announcedStatus, isValidTransition, validTransitions]

theorem startDrainOperation_started (idle : state.status.phase = .idle)
    (started : ops.startDrain info.targetPodName (ops.ensureDrainer memory) =
      ⟨.ok (), after, later⟩) :
    startDrainOperation ops now info state =
      ⟨.ok (),
        ⟨after, entered now .draining ops.drainingMessage
          (announcedStatus now state.status info.targetPodName info.currentReplicas
            info.targetReplicas)⟩,
        log ++ .drainStarted ops.component info.targetPodName :: later⟩ := by
  simp [startDrainOperation, onStatus, ensured, startDrain, idle, started, orKeep, transitionTo,
    announcedStatus, entered, isValidTransition, validTransitions]

omit ensured

theorem verifyDrainComplete_missing (absent : ops.hasDrainer state.memory = false) :
    verifyDrainComplete ops now node state = ⟨.error "drainer not initialized", state, []⟩ := by
  simp [verifyDrainComplete, absent]

variable (present : ops.hasDrainer state.memory = true)
include present

theorem verifyDrainComplete_error
    (checked : ops.verify node state.memory = ⟨.error text, after, log⟩) :
    verifyDrainComplete ops now node state =
      ⟨.error text, { state with memory := after }, log⟩ := by
  simp [verifyDrainComplete, present, checked]

theorem verifyDrainComplete_notEmpty
    (checked : ops.verify node state.memory = ⟨.ok false, after, log⟩) :
    verifyDrainComplete ops now node state = ⟨.ok false, { state with memory := after }, log⟩ := by
  simp [verifyDrainComplete, present, checked]

theorem verifyDrainComplete_verified
    (checked : ops.verify node state.memory = ⟨.ok true, after, log⟩)
    (cancelled : ops.cancelDrain after = ⟨result, memory, later⟩) :
    verifyDrainComplete ops now node state =
      ⟨.ok true, ⟨memory, orKeep state.status (markComplete now state.status)⟩,
        log ++ .drainVerified ops.component node :: later⟩ := by
  simp [verifyDrainComplete, onStatus, present, checked, cancelled]

def baseResult (π : Type) (info : ScaleDownInfo) : DrainCheckResult π :=
  { needsDrain := true, targetPod := info.targetPodName }

attribute [local simp] checkPhase baseResult

omit present

theorem checkPhase_start (phase : state.status.phase = .idle ∨ state.status.phase = .unset) :
    checkPhase ops now info state =
      match startDrainOperation ops now info state with
      | ⟨.error text, after, log⟩ =>
        ⟨.error text, after, .scaleDownEvaluated ops.component state.status.phase :: log⟩
      | ⟨.ok (), after, log⟩ =>
        ⟨.ok { baseResult π info with drainInProgress := true }, after,
          .scaleDownEvaluated ops.component state.status.phase :: log⟩ := by
  rcases started : startDrainOperation ops now info state with ⟨result, after, log⟩
  rcases phase with phase | phase <;> cases result <;> simp [phase, started]

theorem checkPhase_error_of_proceed
    (phase : state.status.phase = .idle ∨ state.status.phase = .unset)
    (onward : verdict (checkPhase ops now info state).result = .proceed) :
    ∃ text, (checkPhase ops now info state).result = .error text := by
  rw [checkPhase_start phase] at onward ⊢
  rcases started : startDrainOperation ops now info state with ⟨result, after, log⟩
  rw [started] at onward
  cases result with
  | error text => exact ⟨text, rfl⟩
  | ok => simp [verdict] at onward

theorem checkPhase_monitor
    (phase : state.status.phase = .pending ∨ state.status.phase = .draining) :
    checkPhase ops now info state =
      match monitorDrainProgress ops now info.targetPodName state with
      | ⟨.error text, after, log⟩ =>
        ⟨.ok { baseResult π info with drainInProgress := true, error := some text }, after,
          .scaleDownEvaluated ops.component state.status.phase :: log⟩
      | ⟨.ok progress, after, log⟩ =>
        ⟨.ok { baseResult π info with drainInProgress := true, progress := some progress }, after,
          .scaleDownEvaluated ops.component state.status.phase :: log⟩ := by
  rcases monitored : monitorDrainProgress ops now info.targetPodName state with ⟨result, after, log⟩
  rcases phase with phase | phase <;> cases result <;>
    simp [phase, monitored]

theorem checkPhase_verify (phase : state.status.phase = .verifying) :
    checkPhase ops now info state =
      match verifyDrainComplete ops now info.targetPodName state with
      | ⟨.error text, after, log⟩ =>
        ⟨.ok { baseResult π info with error := some text }, after,
          .scaleDownEvaluated ops.component state.status.phase :: log⟩
      | ⟨.ok true, after, log⟩ =>
        ⟨.ok { baseResult π info with drainComplete := true }, after,
          .scaleDownEvaluated ops.component state.status.phase :: log⟩
      | ⟨.ok false, after, log⟩ =>
        ⟨.ok { baseResult π info with drainInProgress := true }, after,
          .scaleDownEvaluated ops.component state.status.phase :: log⟩ := by
  rcases verified : verifyDrainComplete ops now info.targetPodName state with ⟨result, after, log⟩
  cases result with
  | error => simp [phase, verified]
  | ok complete => cases complete <;> simp [phase, verified]

theorem checkPhase_complete (phase : state.status.phase = .complete) :
    checkPhase ops now info state =
      ⟨.ok { baseResult π info with drainComplete := true }, state,
        [.scaleDownEvaluated ops.component .complete]⟩ := by
  simp [phase]

theorem checkPhase_passedOver
    (phase : state.status.phase = .failed ∨ state.status.phase = .rollingBack ∨
      ∃ text, state.status.phase = .unknown text) :
    ∃ result, checkPhase ops now info state =
      ⟨.ok result, state, [.scaleDownEvaluated ops.component state.status.phase]⟩ ∧
        verdict (.ok result) = .proceed := by
  rcases phase with phase | phase | ⟨text, phase⟩ <;> simp [phase, verdict]

end Phases

end Drain
end WazuhOperator
