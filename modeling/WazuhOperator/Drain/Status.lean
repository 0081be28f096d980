import Mathlib.Algebra.Ring.Int.Defs
import Mathlib.Algebra.Ring.Nat

namespace WazuhOperator
namespace Drain

/-!
# The drain status of a component and its state machine

`internal/shared/drain/state.go`.  A drain status is the part of a
`WazuhCluster` status which records how far the drain before a scale-down has
come.  The functions below change it in memory only; whether the change
survives the reconcile pass is decided by the controller.

The phase is a string in the custom resource.  The seven values which the
operator writes are constructors of their own; the empty string of a status
whose phase was never set, and any other text a status may carry, are kept
apart because the code branches on them differently.
-/

/-- Instants and durations, in nanoseconds. -/
abbrev Time := Int

inductive DrainPhase where
  | unset
  | idle
  | pending
  | draining
  | verifying
  | complete
  | failed
  | rollingBack
  | unknown (text : String)
  deriving DecidableEq

namespace DrainPhase

def text : DrainPhase -> String
  | unset => ""
  | idle => "Idle"
  | pending => "Pending"
  | draining => "Draining"
  | verifying => "Verifying"
  | complete => "Complete"
  | failed => "Failed"
  | rollingBack => "RollingBack"
  | unknown other => other

end DrainPhase

structure ComponentDrainStatus where
  phase : DrainPhase
  targetPod : String := ""
  (previousReplicas targetReplicas : Option Nat := none)
  progress : Int32 := 0
  (startTime lastTransitionTime : Option Time := none)
  attemptCount : Nat := 0
  nextRetryTime : Option Time := none
  message : String := ""
  shardCount : Option Int32 := none
  queueDepth : Option Int64 := none
  deriving DecidableEq

/-- `ValidTransitions`: the phases that may follow a phase. -/
def validTransitions : DrainPhase -> List DrainPhase
  | .idle => [.pending]
  | .pending => [.draining, .idle]
  | .draining => [.verifying, .failed]
  | .verifying => [.complete, .failed]
  | .complete => [.idle]
  | .failed => [.rollingBack, .idle]
  | .rollingBack => [.pending, .failed, .idle]
  | .unset => []
  | .unknown _ => []

def isValidTransition (source target : DrainPhase) : Bool :=
  (validTransitions source).contains target

/-- `TransitionTo`.  An unset phase counts as `Idle`; the fields cleared or set
depend on the phase entered. -/
def transitionTo (now : Time) (status : ComponentDrainStatus) (target : DrainPhase)
    (message : String) : Except String ComponentDrainStatus :=
  let source := if status.phase = .unset then .idle else status.phase
  if isValidTransition source target then
    let moved := { status with phase := target, lastTransitionTime := some now, message := message }
    .ok (match target with
      | .idle =>
        { moved with
          targetPod := "", previousReplicas := none, targetReplicas := none, progress := 0,
          startTime := none, attemptCount := 0, nextRetryTime := none, shardCount := none,
          queueDepth := none }
      | .pending => { moved with startTime := some now, progress := 0 }
      | .complete => { moved with progress := 100 }
      | _ => moved)
  else
    .error ("invalid transition from " ++ source.text ++ " to " ++ target.text)

/-- `InitializeDrainStatus`, which `getOrInitDrainStatus` writes out again. -/
def initializeDrainStatus : ComponentDrainStatus := { phase := .idle }

def announcedStatus (now : Time) (status : ComponentDrainStatus) (targetPod : String)
    (previousReplicas targetReplicas : Nat) : ComponentDrainStatus :=
  { status with
    phase := .pending, targetPod := targetPod, previousReplicas := some previousReplicas,
    targetReplicas := some targetReplicas, startTime := some now, lastTransitionTime := some now,
    progress := 0, attemptCount := 1,
    message := "Scale-down detected: " ++ toString previousReplicas ++ " -> " ++
      toString targetReplicas ++ " replicas, draining pod " ++ targetPod }

/-- `StartDrain`.  Unlike `transitionTo` it accepts the phase `Idle` only, not
a phase that was never set. -/
def startDrain (now : Time) (status : ComponentDrainStatus) (targetPod : String)
    (previousReplicas targetReplicas : Nat) : Except String ComponentDrainStatus :=
  if status.phase = .idle then
    .ok (announcedStatus now status targetPod previousReplicas targetReplicas)
  else
    .error ("cannot start drain: current phase is " ++ status.phase.text ++ ", expected Idle")

/-- `UpdateProgress`, which clamps the percentage. -/
def updateProgress (status : ComponentDrainStatus) (progress : Int32) (message : String) :
    ComponentDrainStatus :=
  let raised := if progress < 0 then 0 else progress
  { status with progress := if 100 < raised then 100 else raised, message := message }

def updateShardCount (status : ComponentDrainStatus) (count : Int32) : ComponentDrainStatus :=
  { status with shardCount := some count }

def updateQueueDepth (status : ComponentDrainStatus) (depth : Int64) : ComponentDrainStatus :=
  { status with queueDepth := some depth }

def markFailed (now : Time) (status : ComponentDrainStatus) (reason : String) :
    Except String ComponentDrainStatus :=
  transitionTo now status .failed reason

def markComplete (now : Time) (status : ComponentDrainStatus) :
    Except String ComponentDrainStatus :=
  transitionTo now status .complete "Drain completed successfully"

def isTimeout (now : Time) (status : ComponentDrainStatus) (timeout : Time) : Bool :=
  match status.startTime with
  | none => false
  | some started => timeout < now - started

/-- `Reset`, which assigns every field. -/
def reset (now : Time) : ComponentDrainStatus :=
  { phase := .idle, lastTransitionTime := some now, message := "Reset to idle" }

/-- The status after a transition whose error the caller only logs. -/
def orKeep (status : ComponentDrainStatus) : Except String ComponentDrainStatus -> ComponentDrainStatus
  | .ok moved => moved
  | .error _ => status

/-! ## What the callers need to know about the machine -/

/-- The status after an accepted transition that touches no other field. -/
def entered (now : Time) (phase : DrainPhase) (message : String) (status : ComponentDrainStatus) :
    ComponentDrainStatus :=
  { status with phase := phase, lastTransitionTime := some now, message := message }

theorem orKeep_markComplete_of_verifying (now : Time)
    (verifying : status.phase = .verifying) :
    orKeep status (markComplete now status) =
      { entered now .complete "Drain completed successfully" status with progress := 100 } := by
  simp [orKeep, markComplete, transitionTo, verifying, isValidTransition, validTransitions, entered]

end Drain
end WazuhOperator
