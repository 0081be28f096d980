import WazuhOperator.Drain.Gate
import WazuhOperator.Worker.Drainer

namespace WazuhOperator
namespace Worker

open Procedure Proc Drain

/-!
# The scale-down gate of the manager workers

The drain part of `internal/wazuh/reconciler/worker_reconciler.go`.  The
cached client is replaced when the credentials of the cluster at hand hash
differently; its address is not looked at.
-/

/-- The fields of `WorkerReconciler` which outlive a pass. -/
structure WorkerReconciler where
  wazuhClient : Option Client := none
  wazuhClientCredentialsHash : String := ""
  drainer : Option ManagerDrainer := none

/-- `utils.HashStrings` of user name and password, with the digest left out. -/
def credentialsHash (credentials : Credentials) : String :=
  credentials.username ++ "\n" ++ credentials.password ++ "\n"

/-- `ensureWazuhClient`; `credentials` is the answer to reading the secret. -/
def ensureWazuhClient (baseURL : String) (credentials : Except String Credentials) :
    Proc WorkerReconciler Event Unit := do
  let own ← mapError ("failed to get Wazuh API credentials: " ++ ·) (ofExcept credentials)
  let reconciler ← read
  if reconciler.wazuhClient.isSome ∧
      reconciler.wazuhClientCredentialsHash = credentialsHash own then
    return ()
  else
    modify (fun r =>
      { r with
        wazuhClient := some { baseURL := baseURL, username := own.username, password := own.password },
        wazuhClientCredentialsHash := credentialsHash own })

def ensureDrainer (config : Option ManagerDrainConfig) (reconciler : WorkerReconciler) :
    WorkerReconciler :=
  match reconciler.drainer, reconciler.wazuhClient with
  | none, some client => { reconciler with drainer := some (newManagerDrainer client config) }
  | _, _ => reconciler

def onDrainer {α : Type} (inner : Proc ManagerDrainer Event α) :
    Proc WorkerReconciler Event α :=
  focusOption WorkerReconciler.drainer (fun drainer r => { r with drainer := some drainer })
    "drainer not initialized" inner

/-- What the workers' gate calls, for one cluster and the answers of one pass. -/
def drainOperations (now : Time) (key : ClusterKey) (config : Option ManagerDrainConfig)
    (baseURL : String) (credentials : Except String Credentials) (queue : Except String Int64) :
    DrainOperations WorkerReconciler ManagerDrainProgress where
  component := .manager
  clientError := "failed to create Wazuh client: "
  drainingMessage := "Draining event queue on worker"
  verifyingMessage := "Verifying queue drain completion"
  ensureClient := ensureWazuhClient baseURL credentials
  ensureDrainer := ensureDrainer config
  hasDrainer := fun reconciler => reconciler.drainer.isSome
  startDrain := fun node => onDrainer (ManagerDrainer.startDrain queue node)
  monitor := fun node => onDrainer (ManagerDrainer.monitorQueueDepth queue now key node)
  isComplete := ManagerDrainProgress.isComplete
  recordProgress := fun progress status =>
    updateQueueDepth (updateProgress status progress.percent progress.message) progress.queueDepth
  recordProgress_phase := fun _ _ => rfl
  recordProgress_targetPod := fun _ _ => rfl
  recordProgress_nextRetryTime := fun _ _ => rfl
  verify := fun node => onDrainer (ManagerDrainer.verifyQueueEmpty queue now key node)
  cancelDrain := onDrainer ManagerDrainer.cancelDrain

def WorkerReconciler.checkScaleDownDrain (now : Time) (key : ClusterKey) (spec : ClusterSpec)
    (baseURL : String) (credentials : Except String Credentials) (queue : Except String Int64)
    (found : Except String (Option StatefulSet)) (desiredReplicas : Nat) :
    Proc (GateState WorkerReconciler) Event (DrainCheckResult ManagerDrainProgress) :=
  Drain.checkScaleDownDrain
    (drainOperations now key (spec.drain.bind DrainConfiguration.manager) baseURL credentials queue)
    now spec.managerDrainEnabled (managerWorkerName key.name)
    (found.mapError ("failed to get worker StatefulSet: " ++ ·)) desiredReplicas

/-- `WorkerReconciler.ResetDrainState`: drainer and client are both dropped. -/
def WorkerReconciler.resetDrainState (now : Time) (state : GateState WorkerReconciler) :
    GateState WorkerReconciler :=
  { memory := {}, status := state.status.map (fun _ => reset now) }

end Worker
end WazuhOperator
