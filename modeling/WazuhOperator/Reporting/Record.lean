import WazuhOperator.Library.FirstMatch
import WazuhOperator.Rolling.Orchestrator

namespace WazuhOperator
namespace Reporting

open Procedure Proc

/-!
# The status of a cluster and its last write

The steps of a pass record what they find on the working copy of the cluster
which the pass read at its beginning.  At its end `updateStatus` reads the
stored object again, replaces the statuses of the three components by what it
reads from their workloads, takes over a list of parts from the working copy,
and decides on the phase.  Everything which is not on that list keeps its
stored value.

Times, generations and the texts nothing reads are left out.  A write which
meets a conflict is tried again; the answer of the last attempt stands for all.
-/

/-! ## Conditions -/

inductive ConditionStatus where
  | conditionTrue
  | conditionFalse
  | conditionUnknown
  deriving DecidableEq

structure Condition where
  conditionType : String
  status : ConditionStatus
  (reason message : String)
  deriving DecidableEq

def conditionTypeReady : String := "Ready"

def conditionTypeProgressing : String := "Progressing"

def conditionTypeAvailable : String := "Available"

def conditionTypeSecurityReady : String := "SecurityReady"

/-- `updateCondition`: the first condition of the type is replaced, and a
condition of a new type is appended. -/
def updateCondition (conditionType : String) (status : ConditionStatus) (reason message : String)
    (conditions : List Condition) : List Condition :=
  FirstMatch.put (fun condition => condition.conditionType = conditionType)
    { conditionType := conditionType, status := status, reason := reason, message := message }
    conditions

def conditionOf (conditionType : String) (conditions : List Condition) : Option Condition :=
  conditions.find? (fun condition => condition.conditionType = conditionType)

@[simp] theorem conditionOf_updateCondition_self (conditionType : String)
    (status : ConditionStatus) (reason message : String) (conditions : List Condition) :
    conditionOf conditionType (updateCondition conditionType status reason message conditions) =
      some { conditionType := conditionType, status := status, reason := reason,
             message := message } :=
  FirstMatch.find_put_self (by simp) conditions

theorem conditionOf_updateCondition_other
    (different : conditionType ≠ sought) (status : ConditionStatus) (reason message : String)
    (conditions : List Condition) :
    conditionOf sought (updateCondition conditionType status reason message conditions) =
      conditionOf sought conditions := by
  apply FirstMatch.find_put_other
  · simpa using different
  · intro other described
    have typed : other.conditionType = conditionType := by simpa using described
    simpa [typed] using different

/-! ## The status record -/

inductive ClusterPhase where
  | pending
  | creating
  | running
  | failed
  | updating
  | deleting
  | upgrading
  deriving DecidableEq

inductive ComponentStatusPhase where
  | starting
  | ready
  | scaling
  | degraded
  deriving DecidableEq

inductive NodePoolPhase where
  | pending
  | creating
  | running
  | scaling
  | draining
  | failed
  deriving DecidableEq

structure NodePoolStatus where
  name : String
  (replicas readyReplicas : Nat := 0)
  phase : Option NodePoolPhase := none
  (message statefulSetName : String := "")
  deriving DecidableEq

/-- `v1.ComponentStatus`.  The map of nodePool statuses is the list of its
values, each of which carries its key as its name. -/
structure ComponentStatus where
  phase : Option ComponentStatusPhase := none
  (readyReplicas replicas desiredReplicas : Nat := 0)
  appliedSettingsHash : String := ""
  nodePoolStatuses : List NodePoolStatus := []
  topologyMode : String := ""
  deriving DecidableEq

structure SecurityStatus where
  initialized : Bool := false
  (defaultAdminUser defaultAdminSource : String := "")
  (syncedUsers syncedRoles syncedRoleMappings syncedTenants syncedActionGroups : Nat := 0)
  indexerRestartCount : Nat := 0
  (credentialsHash apiCredentialsHash authdCredentialsHash : String := "")
  deriving DecidableEq

structure PendingCertRollout where
  (component workloadName workloadType : String)
  reason : String := ""
  ready : Bool := false
  deriving DecidableEq

structure CertificateRolloutStatus where
  pendingRollouts : List PendingCertRollout := []
  rolloutsInProgress : Bool := false
  deriving DecidableEq

inductive ExpansionPhase where
  | pending
  | inProgress
  | completed
  | failed
  deriving DecidableEq

structure ComponentExpansionStatus where
  phase : ExpansionPhase
  (requestedSize currentSize message : String)
  (pvcsExpanded pvcsPending : List String := [])
  deriving DecidableEq

structure VolumeExpansionStatus where
  (indexerExpansion managerMasterExpansion : Option ComponentExpansionStatus := none)
  managerWorkersExpansion : Option ComponentExpansionStatus := none
  deriving DecidableEq

structure ComponentRollingRestart where
  phase : Rolling.RestartPhase
  (totalPods updatedPods : Nat)
  (currentPod message : String)
  deriving DecidableEq

structure RollingRestartStatus where
  (indexer managerMaster managerWorker : Option ComponentRollingRestart := none)
  inProgress : Bool := false
  deriving DecidableEq

structure ClusterStatus where
  phase : Option ClusterPhase := none
  conditions : List Condition := []
  (manager indexer dashboard : Option ComponentStatus := none)
  security : Option SecurityStatus := none
  certificateRollouts : Option CertificateRolloutStatus := none
  volumeExpansion : Option VolumeExpansionStatus := none
  drain : Option DrainStatus := none
  rollingRestart : Option RollingRestartStatus := none
  deriving DecidableEq

def ClusterStatus.IsReady (status : ClusterStatus) : Prop :=
  (conditionOf conditionTypeReady status.conditions).map Condition.status = some .conditionTrue
  deriving Decidable

/-! ## Reading the components -/

/-- The reported counts of a StatefulSet or a Deployment. -/
structure WorkloadStatus where
  (replicas readyReplicas updatedReplicas : Nat)
  deriving DecidableEq

/-- `getStatefulSetPhase` and `getDeploymentPhase`. -/
def workloadPhase (workload : WorkloadStatus) : ComponentStatusPhase :=
  if workload.readyReplicas = 0 then .starting
  else if workload.readyReplicas < workload.replicas then .degraded
  else if workload.updatedReplicas < workload.replicas then .scaling
  else .ready

/-- What the reads of one `updateStatus` answer: an error, nothing under the
name, or a workload. -/
structure WorkloadReads where
  (indexer master worker dashboard : Except String (Option WorkloadStatus))

structure RequestedCounts where
  indexer : Option Nat
  manager : Option ManagerSpec
  dashboard : Option Nat

def managerTotalReplicas (spec : ManagerSpec) : Nat := 1 + spec.getReplicas

def singleWorkloadStatus (desired : Option Nat) (found : Except String (Option WorkloadStatus)) :
    Except String (Option ComponentStatus) :=
  match found with
  | .error text => .error text
  | .ok none => .ok none
  | .ok (some workload) =>
    .ok (some { replicas := workload.replicas, readyReplicas := workload.readyReplicas,
                desiredReplicas := desired.getD 0, phase := some (workloadPhase workload) })

/-- `IndexerReconciler.GetStatus`, which reads the StatefulSet of the simple topology. -/
def indexerGetStatus (requested : RequestedCounts) (reads : WorkloadReads) :
    Except String (Option ComponentStatus) :=
  singleWorkloadStatus requested.indexer reads.indexer

def dashboardGetStatus (requested : RequestedCounts) (reads : WorkloadReads) :
    Except String (Option ComponentStatus) :=
  singleWorkloadStatus requested.dashboard reads.dashboard

/-- `GetManagerStatus`: the counts of the master and, where they can be read, of
the workers. -/
def getManagerStatus (requested : RequestedCounts) (reads : WorkloadReads) :
    Except String (Option ComponentStatus) :=
  match reads.master with
  | .error text => .error text
  | .ok none => .ok none
  | .ok (some master) =>
    let worker :=
      match reads.worker with
      | .ok (some worker) => worker
      | _ => { replicas := 0, readyReplicas := 0, updatedReplicas := 0 }
    .ok (some { replicas := master.replicas + worker.replicas,
                readyReplicas := master.readyReplicas + worker.readyReplicas,
                desiredReplicas := (requested.manager.map managerTotalReplicas).getD 0,
                phase := some (workloadPhase master) })

/-! ## The last write -/

def shown (read : Except String (Option ComponentStatus)) (stored : Option ComponentStatus) :
    Option ComponentStatus :=
  match read with
  | .error _ => stored
  | .ok status => status

def fallsShort (read : Except String (Option ComponentStatus)) : Bool :=
  match read with
  | .ok (some status) => status.readyReplicas < status.replicas
  | _ => false

/-- What `updateStatus` is given beside the two copies of the cluster. -/
structure StatusAnswers where
  requested : RequestedCounts
  fetch : Except String Unit := .ok ()
  reads : WorkloadReads
  write : WriteAnswer := .accepted

namespace StatusAnswers

variable (answers : StatusAnswers)

def indexer : Except String (Option ComponentStatus) :=
  indexerGetStatus answers.requested answers.reads

def manager : Except String (Option ComponentStatus) :=
  getManagerStatus answers.requested answers.reads

def dashboard : Except String (Option ComponentStatus) :=
  dashboardGetStatus answers.requested answers.reads

def components : List (Except String (Option ComponentStatus)) :=
  [answers.indexer, answers.manager, answers.dashboard]

end StatusAnswers

/-- The stored status with the component statuses and the parts which are
copied from the working copy. -/
def takeOver (answers : StatusAnswers) (working latest : ClusterStatus) : ClusterStatus :=
  { latest with
    indexer := shown answers.indexer latest.indexer
    manager := shown answers.manager latest.manager
    dashboard := shown answers.dashboard latest.dashboard
    conditions := working.conditions
    certificateRollouts := working.certificateRollouts
    security := working.security
    drain := working.drain
    rollingRestart := working.rollingRestart }

def reportRunning (status : ClusterStatus) : ClusterStatus :=
  { status with
    phase := some .running
    conditions :=
      updateCondition conditionTypeAvailable .conditionTrue "ClusterAvailable"
        "Cluster is available"
        (updateCondition conditionTypeReady .conditionTrue "ClusterReady"
          "All components are ready" status.conditions) }

def reportCreating (status : ClusterStatus) : ClusterStatus :=
  { status with
    phase := some .creating
    conditions :=
      updateCondition conditionTypeProgressing .conditionTrue "ComponentsStarting"
        "Waiting for components to be ready" status.conditions }

/-- The status which `updateStatus` writes. -/
def nextStatus (answers : StatusAnswers) (working latest : ClusterStatus) : ClusterStatus :=
  let allReady :=
    !fallsShort answers.indexer && !fallsShort answers.manager && !fallsShort answers.dashboard
  let next := takeOver answers working latest
  if allReady && next.indexer.isSome && next.manager.isSome && next.dashboard.isSome then
    reportRunning next
  else
    reportCreating next

/-- `updateStatus`.  The store is the status in the API server, and each status
which is persisted is recorded. -/
def updateStatus (answers : StatusAnswers) (working : ClusterStatus) :
    Proc ClusterStatus ClusterStatus Unit := do
  ofExcept answers.fetch
  let latest ← read
  let next := nextStatus answers working latest
  if answers.write.applied then do
    modify (fun _ => next)
    emit next
    ofExcept answers.write.toExcept
  else ofExcept answers.write.toExcept

/-! ## What one call persists -/

/-- The call gets as far as writing, and the write takes effect. -/
def StatusAnswers.Persists (answers : StatusAnswers) : Prop :=
  answers.fetch = .ok () ∧ answers.write.applied = true

instance (answers : StatusAnswers) : Decidable answers.Persists :=
  decidable_of_iff (answers.fetch.isOk = true ∧ answers.write.applied = true) (by
    unfold StatusAnswers.Persists
    cases answers.fetch <;> simp)

variable {answers : StatusAnswers}

theorem updateStatus_of_persists (persists : answers.Persists) (working stored : ClusterStatus) :
    updateStatus answers working stored =
      ⟨answers.write.toExcept, nextStatus answers working stored,
        [nextStatus answers working stored]⟩ := by
  rcases persists with ⟨fetched, applied⟩
  simp [updateStatus, fetched, applied]

theorem updateStatus_of_not_persists (idle : ¬ answers.Persists) (working stored : ClusterStatus) :
    ∃ text, updateStatus answers working stored = ⟨.error text, stored, []⟩ := by
  cases fetched : answers.fetch with
  | error text => exact ⟨text, by simp [updateStatus, fetched]⟩
  | ok =>
    cases written : answers.write with
    | refused text => exact ⟨text, by simp [updateStatus, fetched, written]⟩
    | accepted | unacknowledged => exact absurd ⟨fetched, by simp [written]⟩ idle

theorem StatusAnswers.persists_of_ok
    (returned : (updateStatus answers working stored).result = .ok ()) : answers.Persists := by
  by_contra idle
  rcases updateStatus_of_not_persists idle working stored with ⟨text, outcome⟩
  rw [outcome] at returned
  cases returned

end Reporting
end WazuhOperator
