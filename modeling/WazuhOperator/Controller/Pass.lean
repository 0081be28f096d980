import WazuhOperator.Cluster.Workload
import WazuhOperator.Indexer.Restart
import WazuhOperator.Worker.Gate

namespace WazuhOperator
namespace Controller

open Procedure Proc Drain Indexer Worker

/-!
# One reconcile pass

`WazuhClusterReconciler.Reconcile` in `controllers/wazuhcluster_controller.go`,
from the moment a live cluster with its finalizer has been read.  Steps which
touch neither drains nor the StatefulSets of indexer and workers are inputs
that succeed or fail; the others are carried out.

A pass writes the drain status to the API server at most once, on the way it
takes: after a retry has become due, at the end of a dry run, when a drain
makes it wait, or at its very end.  Hence there is one answer for it.
-/

/-- The answers and observations which decide the course of a pass. -/
structure PassInput where
  now : Time
  /-- A step before the drain statuses are looked at ends the pass. -/
  endsEarly : Option (Except String Unit) := none
  /-- Reading the StatefulSets in order to verify a rollback. -/
  (indexerRollbackGet workerRollbackGet : Except String Unit := .ok ())
  /-- Reference resolution and certificates. -/
  preparation : Except String Unit := .ok ()
  /-- `status.indexer.replicas`, which only the dry run reads. -/
  reportedIndexerReplicas : Option Nat := none
  /-- Reading the indexer's StatefulSet, the secrets of its API, and the API itself. -/
  (indexerGet getClient : Except String Unit := .ok ())
  openSearch : OpenSearchAnswers
  indexer : WorkloadAnswers
  /-- The same for the workers; their preparation includes the master. -/
  (workerGet getCredentials : Except String Unit := .ok ())
  queue : Except String Int64
  worker : WorkloadAnswers
  /-- The manager's disruption budget, then dashboard, credentials, routes and policies. -/
  afterWorkers : Except String Unit := .ok ()
  restart : RestartInput
  statusWrite : WriteAnswer := .accepted

structure PassContext where
  domain : String
  key : ClusterKey
  /-- The specification with references resolved. -/
  spec : ClusterSpec
  (indexerCredentials apiCredentials : Credentials)
  input : PassInput

namespace PassContext

variable (ctx : PassContext)

def ownClient : Client := ctx.indexerCredentials.client (openSearchURL ctx.domain ctx.key)

/-- `GetClientForCluster`, given whether the secrets can be read. -/
def makeClient (secrets : Except String Unit) : Except String Client :=
  secrets.map (fun _ => ctx.ownClient)

def readCredentials : Except String Credentials :=
  ctx.input.getCredentials.map (fun _ => ctx.apiCredentials)

def indexerSts : String := indexerName ctx.key.name

def workerSts : String := managerWorkerName ctx.key.name

end PassContext

/-- The store of a pass.  `working` is the drain status in the working copy of the
cluster, `persisted` the one in the API server. -/
structure PassState where
  indexer : IndexerReconciler
  worker : WorkerReconciler
  (working persisted : DrainStatus)
  statefulSets : String -> Option StatefulSet

def PassState.indexerGate (state : PassState) : GateState IndexerReconciler :=
  ⟨state.indexer, state.working.indexer⟩

def PassState.setIndexerGate (gate : GateState IndexerReconciler) (state : PassState) :
    PassState :=
  { state with indexer := gate.memory, working := { state.working with indexer := gate.status } }

def PassState.workerGate (state : PassState) : GateState WorkerReconciler :=
  ⟨state.worker, state.working.manager⟩

def PassState.setWorkerGate (gate : GateState WorkerReconciler) (state : PassState) :
    PassState :=
  { state with worker := gate.memory, working := { state.working with manager := gate.status } }

def onStatefulSet {α : Type} (name : String) (inner : Proc (Option StatefulSet) Event α) :
    Proc PassState Event α :=
  focus (fun state => state.statefulSets name)
    (fun found state => { state with statefulSets := Function.update state.statefulSets name found })
    inner

/-- `updateDrainStatus`, and the drain part of `updateStatus`. -/
def writeStatus (answer : WriteAnswer) : Proc PassState Event Unit := do
  let state ← read
  if answer.applied then
    modify (fun s => { s with persisted := s.working })
    emit (.drainStatusWritten state.working)
  ofExcept answer.toExcept

section Pass

variable (ctx : PassContext)

/-! ## Rollbacks and retries -/

/-- The check of `VerifyRollbackComplete` for one component: all replicas the
StatefulSet had before are there and ready. -/
def rollbackComplete (get : Except String Unit) (found : Option StatefulSet) (fallback : Nat)
    (status : ComponentDrainStatus) : Except String Bool :=
  match get, found with
  | .error text, _ => .error text
  | .ok (), none => .error "not found"
  | .ok (), some sts =>
    let previous := status.previousReplicas.getD fallback
    .ok (sts.readyReplicas = previous && sts.statusReplicas = previous)

def afterRollbackCheck (status : ComponentDrainStatus) (complete : Bool) : ComponentDrainStatus :=
  if complete then
    { status with phase := .failed, message := "Rollback complete, waiting for retry" }
  else status

def verifyComponentRollback (get : Except String Unit) (found : Option StatefulSet)
    (fallback : Nat) (status : Option ComponentDrainStatus) :
    Except String (Option ComponentDrainStatus) :=
  match status with
  | none => .ok none
  | some status =>
    if status.phase = .rollingBack then
      (rollbackComplete get found fallback status).map
        (fun complete => some (afterRollbackCheck status complete))
    else .ok (some status)

/-- `verifyRollbackComplete`.  An error while checking the indexer, which the caller
only logs, leaves the manager unchecked. -/
def verifyRollbackComplete : Proc PassState Event Unit := do
  let state ← read
  let indexer ← ofExcept (verifyComponentRollback ctx.input.indexerRollbackGet
    (state.statefulSets ctx.indexerSts) 3 state.working.indexer)
  modify (fun s => { s with working := { s.working with indexer := indexer } })
  let manager ← ofExcept (verifyComponentRollback ctx.input.workerRollbackGet
    (state.statefulSets ctx.workerSts) 1 state.working.manager)
  modify (fun s => { s with working := { s.working with manager := manager } })

/-- What `checkAndHandleRetry` decides about one component. -/
inductive RetryDecision where
  | none
  | due (status : ComponentDrainStatus)
  | wait
  deriving DecidableEq

/-- `checkAndHandleRetry` on one component.  A failed drain without a retry time is
passed over, as is one whose retry time is this very instant. -/
def retryDecision (now : Time) (status : Option ComponentDrainStatus) : RetryDecision :=
  match status with
  | .none => .none
  | some status =>
    if status.phase = .failed ∨ status.phase = .rollingBack then
      match status.nextRetryTime with
      | .none => .none
      | some retryTime =>
        if retryTime < now then
          .due { status with
            phase := .pending
            message := "Retry attempt " ++ toString status.attemptCount ++ " starting" }
        else if now < retryTime then .wait
        else .none
    else .none

/-- `checkAndHandleRetry`: whether the pass ends here. -/
def checkAndHandleRetry : Proc PassState Event Bool := do
  let state ← read
  match retryDecision ctx.input.now state.working.indexer with
  | .due status =>
    modify (fun s => { s with working := { s.working with indexer := some status } })
    let _ ← attempt (writeStatus ctx.input.statusWrite)
    return true
  | .wait => return true
  | .none =>
    match retryDecision ctx.input.now state.working.manager with
    | .due status =>
      modify (fun s => { s with working := { s.working with manager := some status } })
      let _ ← attempt (writeStatus ctx.input.statusWrite)
      return true
    | .wait => return true
    | .none => return false

/-! ## Dry runs -/

/-- The node a dry run asks about: the target of a recorded drain, or else the pod a
scale-down from `current` would remove first. -/
def dryRunTarget (status : Option ComponentDrainStatus) (stsName : String)
    (desired current : Nat) : Option String :=
  let recorded := (status.map ComponentDrainStatus.targetPod).getD ""
  if recorded ≠ "" then some recorded
  else if desired < current then some (podName stsName (current - 1))
  else none

/-- The indexer part of `evaluateDryRun`, which reports to the status and never fails. -/
def indexerDryRun (target : String) : Proc IndexerReconciler Event Unit := do
  match ← cachedClient (ctx.makeClient ctx.input.getClient) with
  | none => return ()
  | some client => emit (.dryRun .indexer client target)

def managerDryRun (target : String) : Proc WorkerReconciler Event Unit := do
  match ← attempt (ensureWazuhClient (wazuhURL ctx.domain ctx.key) ctx.readCredentials) with
  | .error _ => return ()
  | .ok () =>
    let reconciler ← read
    match reconciler.wazuhClient with
    | none => return ()
    | some client => emit (.dryRun .manager client target)

def evaluateIndexerDryRun (working : DrainStatus) : Proc PassState Event Unit :=
  let desired := (ctx.spec.indexer.map IndexerSpec.desiredReplicas).getD defaultIndexerReplicas
  let target := dryRunTarget working.indexer ctx.indexerSts desired
    (ctx.input.reportedIndexerReplicas.getD 0)
  match ctx.spec.indexerDrainEnabled, target with
  | true, some target =>
    focus PassState.indexer (fun memory s => { s with indexer := memory })
      (indexerDryRun ctx target)
  | _, _ => pure ()

def evaluateManagerDryRun (working : DrainStatus) : Proc PassState Event Unit :=
  let desired := (ctx.spec.manager.map ManagerSpec.getReplicas).getD 0
  let previous := (working.manager.bind ComponentDrainStatus.previousReplicas).getD 0
  match ctx.spec.managerDrainEnabled, dryRunTarget working.manager ctx.workerSts desired previous with
  | true, some target =>
    focus PassState.worker (fun memory s => { s with worker := memory })
      (managerDryRun ctx target)
  | _, _ => pure ()

def evaluateDryRun : Proc PassState Event Unit := do
  let state ← read
  evaluateIndexerDryRun ctx state.working
  evaluateManagerDryRun ctx state.working

/-! ## The StatefulSets -/

/-- The object built for the indexer.  Its replica count ignores node pools. -/
def builtIndexer : StatefulSet where
  controller := some ctx.key
  component := .indexer
  replicas := some ((ctx.spec.indexer.map IndexerSpec.desiredReplicas).getD defaultIndexerReplicas)
  template := ctx.input.indexer.template

def reconcileIndexerNonBlocking : Proc PassState Event Unit := do
  ofExcept ctx.input.indexer.prepare
  mapError ("failed to reconcile indexer statefulset: " ++ ·)
    (onStatefulSet ctx.indexerSts
      (reconcileStatefulSet "indexer" indexerNeedsUpdate ctx.input.indexer (builtIndexer ctx)))

/-- The object built for the workers: without a manager section the count is zero. -/
def builtWorker : StatefulSet where
  controller := some ctx.key
  component := .manager
  replicas := some ((ctx.spec.manager.map ManagerSpec.getReplicas).getD 0)
  template := ctx.input.worker.template

/-- `ClusterReconciler.ReconcileManagerNonBlocking`, up to the workers. -/
def reconcileManagerNonBlocking : Proc PassState Event Unit := do
  ofExcept ctx.input.worker.prepare
  mapError ("failed to reconcile workers: " ++ ·)
    (onStatefulSet ctx.workerSts
      (reconcileStatefulSet "worker" workerNeedsUpdate ctx.input.worker (builtWorker ctx)))

/-! ## The gates -/

/-- The indexer's drain check, skipped where the cluster has no indexer section. -/
def indexerCheck : Proc PassState Event Verdict := do
  match ctx.spec.indexer with
  | none => return .proceed
  | some indexer =>
    let state ← read
    let result ← attempt (focus PassState.indexerGate PassState.setIndexerGate
      (IndexerReconciler.checkScaleDownDrain ctx.input.now ctx.key ctx.spec
        (ctx.makeClient ctx.input.getClient) ctx.input.openSearch
        (ctx.input.indexerGet.map (fun _ => state.statefulSets ctx.indexerSts))
        indexer.desiredReplicas))
    return verdict result

/-- The workers' drain check, skipped where the cluster has no manager section. -/
def workerCheck : Proc PassState Event Verdict := do
  match ctx.spec.manager with
  | none => return .proceed
  | some manager =>
    let state ← read
    let result ← attempt (focus PassState.workerGate PassState.setWorkerGate
      (WorkerReconciler.checkScaleDownDrain ctx.input.now ctx.key ctx.spec
        (wazuhURL ctx.domain ctx.key) ctx.readCredentials ctx.input.queue
        (ctx.input.workerGet.map (fun _ => state.statefulSets ctx.workerSts))
        manager.getReplicas))
    return verdict result

/-- Let a drain check decide how the pass goes on.  The reset after a completed drain
is deferred: it runs after the rest of the pass, the status update included. -/
def gated (component : Component) (check : Proc PassState Event Verdict)
    (resetDrainState : PassState -> PassState) (rest : Proc PassState Event Unit) :
    Proc PassState Event Unit := do
  match ← check with
  | .wait => writeStatus ctx.input.statusWrite
  | .proceedDrained =>
    emit (.drainComplete component)
    andFinally rest resetDrainState
  | .proceed => rest

def resetIndexer (state : PassState) : PassState :=
  state.setIndexerGate (IndexerReconciler.resetDrainState ctx.input.now state.indexerGate)

def resetWorker (state : PassState) : PassState :=
  state.setWorkerGate (WorkerReconciler.resetDrainState ctx.input.now state.workerGate)

/-- The end of the pass: what follows the workers, the rolling restart, whose error is
only logged, and the status update. -/
def finishPass : Proc PassState Event Unit := do
  ofExcept ctx.input.afterWorkers
  let _ ← attempt (focus PassState.indexer (fun memory s => { s with indexer := memory })
    (orchestrateRollingRestart ctx.spec (ctx.makeClient ctx.input.restart.getClient)
      ctx.input.restart))
  writeStatus ctx.input.statusWrite

/-- The rest of the pass once the workers' drain check lets it go on. -/
def afterWorkerCheck : Proc PassState Event Unit := do
  reconcileManagerNonBlocking ctx
  finishPass ctx

def reconcileManagerOnward : Proc PassState Event Unit :=
  gated ctx .manager (workerCheck ctx) (resetWorker ctx) (afterWorkerCheck ctx)

/-- The rest of the pass once the indexer's drain check lets it go on. -/
def afterIndexerCheck : Proc PassState Event Unit := do
  reconcileIndexerNonBlocking ctx
  reconcileManagerOnward ctx

def reconcileIndexerOnward : Proc PassState Event Unit :=
  gated ctx .indexer (indexerCheck ctx) (resetIndexer ctx) (afterIndexerCheck ctx)

def reconcile : Proc PassState Event Unit :=
  match ctx.input.endsEarly with
  | some result => ofExcept result
  | none => do
      let _ ← attempt (verifyRollbackComplete ctx)
      if ← checkAndHandleRetry ctx then
        return ()
      else
        ofExcept ctx.input.preparation
        if (ctx.spec.drain.map DrainConfiguration.dryRun).getD false then
          evaluateDryRun ctx
          writeStatus ctx.input.statusWrite
        else
          reconcileIndexerOnward ctx

end Pass

end Controller
end WazuhOperator
