import WazuhOperator.Reporting.Record

namespace WazuhOperator
namespace Reporting

open Rolling

/-!
# The writers of the working copy

Each step of a pass which records something does so in the status of the
working copy, without writing to the API server.  The writers stand here under
their own names, as functions of the status and of what the step has found
out.  `StatusStep` lists them, and names for each the fields it computes; the
steps of a successful pass are `passSteps`.

The writers of the nodePool statuses, of the applied settings and of the
indexer's volume expansion belong to the blocking `Reconcile` of the indexer,
which the controller does not call.  They are steps like the others.
-/

/-! ## Indexer -/

def onIndexer (change : ComponentStatus -> ComponentStatus) (status : ClusterStatus) :
    ClusterStatus :=
  { status with indexer := some (change (status.indexer.getD {})) }

def topologyModeSimple : String := "simple"

def topologyModeAdvanced : String := "advanced"

/-- The part of `Reconcile` which records the topology of an inline indexer. -/
def updateTopologyMode (spec : IndexerSpec) : ClusterStatus -> ClusterStatus :=
  onIndexer fun indexer =>
    { indexer with
      topologyMode := if spec.isAdvancedMode then topologyModeAdvanced else topologyModeSimple }

def nodePoolStatus (poolName : String) (indexer : ComponentStatus) : NodePoolStatus :=
  (indexer.nodePoolStatuses.find? fun pool => pool.name = poolName).getD { name := poolName }

def setNodePoolStatus (pool : NodePoolStatus) (indexer : ComponentStatus) : ComponentStatus :=
  { indexer with
    nodePoolStatuses :=
      FirstMatch.put (fun other => other.name = pool.name) pool indexer.nodePoolStatuses }

def updateNodePoolStatus (clusterName poolName : String) (phase : NodePoolPhase)
    (message : String) : ClusterStatus -> ClusterStatus :=
  onIndexer fun indexer =>
    setNodePoolStatus
      { nodePoolStatus poolName indexer with
        name := poolName
        phase := some phase
        message := message
        statefulSetName := indexerNodePoolName clusterName poolName }
      indexer

def getNodePoolPhase (replicas readyReplicas updatedReplicas : Nat) : NodePoolPhase :=
  if readyReplicas = 0 then .creating
  else if readyReplicas < replicas then .scaling
  else if updatedReplicas < replicas then .scaling
  else .running

/-- `updateNodePoolStatusFromSts`, with the phase its caller determines. -/
def updateNodePoolStatusFromSts (poolName stsName : String)
    (replicas readyReplicas updatedReplicas : Nat) : ClusterStatus -> ClusterStatus :=
  onIndexer fun indexer =>
    setNodePoolStatus
      { nodePoolStatus poolName indexer with
        name := poolName
        replicas := replicas
        readyReplicas := readyReplicas
        phase := some (getNodePoolPhase replicas readyReplicas updatedReplicas)
        statefulSetName := stsName }
      indexer

def removeNodePoolStatus (poolName : String) : ClusterStatus -> ClusterStatus :=
  onIndexer fun indexer =>
    { indexer with
      nodePoolStatuses := indexer.nodePoolStatuses.filter fun pool => pool.name ≠ poolName }

def updateIndexerStatusFromNodePools : ClusterStatus -> ClusterStatus :=
  onIndexer fun indexer =>
    let pools := indexer.nodePoolStatuses
    let totalReplicas := (pools.map NodePoolStatus.replicas).sum
    let totalReady := (pools.map NodePoolStatus.readyReplicas).sum
    let allRunning := pools.all fun pool => pool.phase = some NodePoolPhase.running
    { indexer with
      replicas := totalReplicas
      readyReplicas := totalReady
      topologyMode := topologyModeAdvanced
      phase :=
        if totalReady = 0 then some .starting
        else if allRunning && decide (totalReady = totalReplicas) then some .ready
        else if totalReady < totalReplicas then some .scaling
        else some .degraded }

/-- `reconcileClusterSettings`, from the comparison of the hashes on.  Settings which
are unchanged, or which could not be applied, leave the recorded hash. -/
def reconcileClusterSettings (desiredHash : String) (applied : Bool) (status : ClusterStatus) :
    ClusterStatus :=
  if (status.indexer.map ComponentStatus.appliedSettingsHash) = some desiredHash then status
  else if applied then
    onIndexer (fun indexer => { indexer with appliedSettingsHash := desiredHash }) status
  else status

/-! ## Volume expansion -/

/-- What the pass over the volume claims of one component found. -/
structure ExpansionFindings where
  requestedSize : String
  /-- The size of the first claim, where the claims can be listed once more. -/
  firstSize : Option String
  (pvcsExpanded pvcsPending : List String)
  expansionError : Option String

def expansionStatus (findings : ExpansionFindings) : Option ComponentExpansionStatus :=
  let expanded := findings.pvcsExpanded
  let pending := findings.pvcsPending
  let requested := findings.requestedSize
  let current :=
    if expanded.isEmpty && !pending.isEmpty then findings.firstSize.getD requested else requested
  match findings.expansionError with
  | some text =>
    some { phase := .failed, requestedSize := requested, currentSize := current,
           message := text, pvcsExpanded := expanded, pvcsPending := pending }
  | none =>
    if !pending.isEmpty then
      if !expanded.isEmpty then
        some { phase := .inProgress, requestedSize := requested, currentSize := current,
               message := "Expanding PVCs: " ++ toString expanded.length ++ " completed, " ++
                 toString pending.length ++ " pending"
               pvcsExpanded := expanded, pvcsPending := pending }
      else
        some { phase := .pending, requestedSize := requested, currentSize := current,
               message := "Waiting to expand " ++ toString pending.length ++ " PVC(s) from " ++
                 current ++ " to " ++ requested
               pvcsPending := pending }
    else if !expanded.isEmpty then
      some { phase := .completed, requestedSize := requested, currentSize := requested,
             message := "All " ++ toString expanded.length ++
               " PVC(s) expanded successfully to " ++ requested
             pvcsExpanded := expanded }
    else none

def updateIndexerExpansionStatus (findings : ExpansionFindings) (status : ClusterStatus) :
    ClusterStatus :=
  { status with
    volumeExpansion :=
      some { status.volumeExpansion.getD {} with indexerExpansion := expansionStatus findings } }

def updateManagerMasterExpansionStatus (findings : ExpansionFindings) (status : ClusterStatus) :
    ClusterStatus :=
  { status with
    volumeExpansion :=
      some { status.volumeExpansion.getD {} with
             managerMasterExpansion := expansionStatus findings } }

def updateManagerWorkerExpansionStatus (findings : ExpansionFindings) (status : ClusterStatus) :
    ClusterStatus :=
  { status with
    volumeExpansion :=
      some { status.volumeExpansion.getD {} with
             managerWorkersExpansion := expansionStatus findings } }

/-! ## Security -/

def onSecurity (change : SecurityStatus -> SecurityStatus) (status : ClusterStatus) :
    ClusterStatus :=
  { status with security := some (change (status.security.getD {})) }

/-- `reconcileSecurityInitJob`, with the hash of the internal users which
securityadmin.sh has applied, or none where it was not run or failed. -/
def reconcileSecurityInitJob (applied : Option String) (status : ClusterStatus) :
    ClusterStatus :=
  match applied with
  | none => status
  | some hash => onSecurity (fun security => { security with credentialsHash := hash }) status

/-- `CheckSecurityInitialization`, with the answer of the checker, or none where it
could not be asked. -/
def checkSecurityInitialization (answer : Option Bool) (status : ClusterStatus) : ClusterStatus :=
  match answer with
  | none => status
  | some initialized =>
    onSecurity (fun security => { security with initialized := initialized }) status

/-- The condition which `Reconcile` sets from the result of the check. -/
def updateSecurityCondition (initialized : Bool) (status : ClusterStatus) : ClusterStatus :=
  { status with
    conditions :=
      if initialized then
        updateCondition conditionTypeSecurityReady .conditionTrue "SecurityInitialized"
          "OpenSearch security plugin is initialized" status.conditions
      else
        updateCondition conditionTypeSecurityReady .conditionFalse "SecurityPending"
          "Waiting for OpenSearch security to initialize" status.conditions }

/-- `ResolveAndSetDefaultAdmin`, with the user and the source it resolves. -/
def resolveAndSetDefaultAdmin (resolved : Except String (String × String))
    (status : ClusterStatus) : ClusterStatus :=
  match resolved with
  | .error _ => status
  | .ok (username, source) =>
    onSecurity
      (fun security =>
        { security with defaultAdminUser := username, defaultAdminSource := source })
      status

/-- How many resources of each kind a synchronisation has created or updated. -/
structure SyncCounts where
  (users roles roleMappings tenants actionGroups : Nat)

def syncSecurityCRDs (synced : Except String SyncCounts) (status : ClusterStatus) :
    ClusterStatus :=
  match status.security, synced with
  | some security, .ok counts =>
    if security.initialized then
      { status with
        security := some
          { security with
            syncedUsers := counts.users
            syncedRoles := counts.roles
            syncedRoleMappings := counts.roleMappings
            syncedTenants := counts.tenants
            syncedActionGroups := counts.actionGroups } }
    else status
  | _, _ => status

def detectIndexerRestart (listed : Except String Nat) (status : ClusterStatus) : ClusterStatus :=
  match listed with
  | .error _ => status
  | .ok totalRestarts =>
    onSecurity
      (fun security =>
        if security.indexerRestartCount < totalRestarts then
          { security with indexerRestartCount := totalRestarts }
        else security)
      status

/-- `reconcileAPICredentialsStatusAndRollout` where it succeeds, with the hash it
computes, or none where the manager or the secret is missing. -/
def reconcileAPICredentials (computed : Option String) (status : ClusterStatus) : ClusterStatus :=
  match computed with
  | none => status
  | some newHash =>
    if newHash = "" then status
    else onSecurity (fun security => { security with apiCredentialsHash := newHash }) status

/-- `reconcileAuthdCredentialsStatusAndRollout` where it succeeds.  A password which is
not configured counts as an empty hash. -/
def reconcileAuthdCredentials (computed : Option String) (status : ClusterStatus) :
    ClusterStatus :=
  match computed with
  | none => status
  | some newHash =>
    onSecurity (fun security => { security with authdCredentialsHash := newHash }) status

/-! ## Certificate rollouts -/

def checkAndUpdatePendingRollouts (check : PendingCertRollout -> Except String Bool)
    (status : ClusterStatus) : ClusterStatus :=
  match status.certificateRollouts with
  | none => status
  | some rollouts =>
    if rollouts.pendingRollouts.isEmpty then status
    else
      let checked := rollouts.pendingRollouts.map fun rollout =>
        if rollout.ready then rollout
        else
          match check rollout with
          | .ok true => { rollout with ready := true }
          | _ => rollout
      { status with
        certificateRollouts := some
          { pendingRollouts := checked
            rolloutsInProgress := checked.any fun rollout => !rollout.ready } }

/-- `addPendingRollouts`, called where there are new rollouts: an unfinished rollout
of the same component is replaced. -/
def addPendingRollouts (rollouts : List PendingCertRollout) (status : ClusterStatus) :
    ClusterStatus :=
  if rollouts.isEmpty then status
  else
    let known := (status.certificateRollouts.getD {}).pendingRollouts
    { status with
      certificateRollouts := some
        { pendingRollouts :=
            rollouts.foldl
              (fun pending rollout =>
                FirstMatch.put
                  (fun existing => decide (existing.component = rollout.component) && !existing.ready)
                  { rollout with ready := false } pending)
              known
          rolloutsInProgress := true } }

/-! ## Rolling restarts -/

def restartPart (restart : Option RestartResult) : Option ComponentRollingRestart :=
  match restart with
  | none => none
  | some result =>
    if result.phase = .idle then none
    else
      some { phase := result.phase, totalPods := result.totalPods,
             updatedPods := result.updatedPods, currentPod := result.currentPod,
             message := result.message }

def updateRollingRestartStatus (indexerRestart masterRestart workerRestart : Option RestartResult)
    (hasRollingRestart : Bool) (status : ClusterStatus) : ClusterStatus :=
  let parts := [restartPart indexerRestart, restartPart masterRestart, restartPart workerRestart]
  { status with
    rollingRestart :=
      if parts.all Option.isNone then none
      else
        some { indexer := restartPart indexerRestart
               managerMaster := restartPart masterRestart
               managerWorker := restartPart workerRestart
               inProgress := hasRollingRestart } }

/-! ## Steps and the fields they compute -/

/-- The parts of the status which a step can compute. -/
inductive Field where
  | topologyMode
  | nodePoolStatuses
  | appliedSettingsHash
  | replicaTotals
  | indexerExpansion
  | managerMasterExpansion
  | managerWorkersExpansion
  | drain
  | security
  | certificateRollouts
  | rollingRestart
  | securityReady
  deriving DecidableEq

/-- Two statuses have the same value in a field.  A part which is absent and an empty
one look the same in the stored object. -/
def Agrees (field : Field) (first second : ClusterStatus) : Prop :=
  match field with
  | .topologyMode =>
    (first.indexer.getD {}).topologyMode = (second.indexer.getD {}).topologyMode
  | .nodePoolStatuses =>
    (first.indexer.getD {}).nodePoolStatuses = (second.indexer.getD {}).nodePoolStatuses
  | .appliedSettingsHash =>
    (first.indexer.getD {}).appliedSettingsHash = (second.indexer.getD {}).appliedSettingsHash
  | .replicaTotals =>
    (first.indexer.getD {}).replicas = (second.indexer.getD {}).replicas ∧
      (first.indexer.getD {}).readyReplicas = (second.indexer.getD {}).readyReplicas ∧
      (first.indexer.getD {}).phase = (second.indexer.getD {}).phase
  | .indexerExpansion =>
    (first.volumeExpansion.getD {}).indexerExpansion =
      (second.volumeExpansion.getD {}).indexerExpansion
  | .managerMasterExpansion =>
    (first.volumeExpansion.getD {}).managerMasterExpansion =
      (second.volumeExpansion.getD {}).managerMasterExpansion
  | .managerWorkersExpansion =>
    (first.volumeExpansion.getD {}).managerWorkersExpansion =
      (second.volumeExpansion.getD {}).managerWorkersExpansion
  | .drain => first.drain = second.drain
  | .security => first.security = second.security
  | .certificateRollouts => first.certificateRollouts = second.certificateRollouts
  | .rollingRestart => first.rollingRestart = second.rollingRestart
  | .securityReady =>
    conditionOf conditionTypeSecurityReady first.conditions =
      conditionOf conditionTypeSecurityReady second.conditions

instance (field : Field) (first second : ClusterStatus) :
    Decidable (Agrees field first second) := by
  cases field <;> unfold Agrees <;> infer_instance

/-- A step of a pass which writes to the working copy.  What the drain gates record
is modelled with them; here a step takes over the status they leave. -/
inductive StatusStep where
  | topologyMode (spec : IndexerSpec)
  | nodePoolPhase (clusterName poolName : String) (phase : NodePoolPhase) (message : String)
  | nodePoolCounts (poolName stsName : String) (replicas readyReplicas updatedReplicas : Nat)
  | nodePoolRemoved (poolName : String)
  | nodePoolTotals
  | clusterSettings (desiredHash : String) (applied : Bool)
  | indexerExpansion (findings : ExpansionFindings)
  | managerMasterExpansion (findings : ExpansionFindings)
  | managerWorkerExpansion (findings : ExpansionFindings)
  | drain (status : Option DrainStatus)
  | credentialsSync (applied : Option String)
  | securityInitialization (answer : Option Bool)
  | securityCondition (initialized : Bool)
  | defaultAdmin (resolved : Except String (String × String))
  | securitySync (synced : Except String SyncCounts)
  | indexerRestart (listed : Except String Nat)
  | apiCredentials (computed : Option String)
  | authdCredentials (computed : Option String)
  | rolloutChecks (check : PendingCertRollout -> Except String Bool)
  | newRollouts (rollouts : List PendingCertRollout)
  | rollingRestarts (indexer master worker : Option RestartResult) (inProgress : Bool)

namespace StatusStep

def apply (status : ClusterStatus) : StatusStep -> ClusterStatus
  | topologyMode spec => updateTopologyMode spec status
  | nodePoolPhase clusterName poolName phase message =>
    updateNodePoolStatus clusterName poolName phase message status
  | nodePoolCounts poolName stsName replicas readyReplicas updatedReplicas =>
    updateNodePoolStatusFromSts poolName stsName replicas readyReplicas updatedReplicas status
  | nodePoolRemoved poolName => removeNodePoolStatus poolName status
  | nodePoolTotals => updateIndexerStatusFromNodePools status
  | clusterSettings desiredHash applied => reconcileClusterSettings desiredHash applied status
  | indexerExpansion findings => updateIndexerExpansionStatus findings status
  | managerMasterExpansion findings => updateManagerMasterExpansionStatus findings status
  | managerWorkerExpansion findings => updateManagerWorkerExpansionStatus findings status
  | drain recorded => { status with drain := recorded }
  | credentialsSync applied => reconcileSecurityInitJob applied status
  | securityInitialization answer => checkSecurityInitialization answer status
  | securityCondition initialized => updateSecurityCondition initialized status
  | defaultAdmin resolved => resolveAndSetDefaultAdmin resolved status
  | securitySync synced => syncSecurityCRDs synced status
  | indexerRestart listed => detectIndexerRestart listed status
  | apiCredentials computed => reconcileAPICredentials computed status
  | authdCredentials computed => reconcileAuthdCredentials computed status
  | rolloutChecks check => checkAndUpdatePendingRollouts check status
  | newRollouts rollouts => addPendingRollouts rollouts status
  | rollingRestarts indexer master worker inProgress =>
    updateRollingRestartStatus indexer master worker inProgress status

def fields : StatusStep -> List Field
  | topologyMode _ => [.topologyMode]
  | nodePoolPhase .. | nodePoolCounts .. | nodePoolRemoved _ => [.nodePoolStatuses]
  | nodePoolTotals => [.replicaTotals, .topologyMode]
  | clusterSettings .. => [.appliedSettingsHash]
  | indexerExpansion _ => [.indexerExpansion]
  | managerMasterExpansion _ => [.managerMasterExpansion]
  | managerWorkerExpansion _ => [.managerWorkersExpansion]
  | drain _ => [.drain]
  | credentialsSync _ | securityInitialization _ | defaultAdmin _ | securitySync _
  | indexerRestart _ | apiCredentials _ | authdCredentials _ => [.security]
  | securityCondition _ => [.securityReady]
  | rolloutChecks _ | newRollouts _ => [.certificateRollouts]
  | rollingRestarts .. => [.rollingRestart]

variable {step : StatusStep}

theorem apply_security (computes : step.fields = [.security]) (status : ClusterStatus) :
    ∃ recorded, step.apply status = { status with security := recorded } := by
  cases step with
  | credentialsSync applied | securityInitialization applied | authdCredentials applied =>
    cases applied with
    | none => exact ⟨status.security, rfl⟩
    | some => exact ⟨_, rfl⟩
  | defaultAdmin resolved | indexerRestart resolved =>
    cases resolved with
    | error => exact ⟨status.security, rfl⟩
    | ok => exact ⟨_, rfl⟩
  | securitySync =>
    simp only [apply, syncSecurityCRDs]
    split
    · split
      · exact ⟨_, rfl⟩
      · exact ⟨status.security, rfl⟩
    · exact ⟨status.security, rfl⟩
  | apiCredentials computed =>
    cases computed with
    | none => exact ⟨status.security, rfl⟩
    | some =>
      simp only [apply, reconcileAPICredentials]
      split
      · exact ⟨status.security, rfl⟩
      · exact ⟨_, rfl⟩
  | _ => simp [fields] at computes

theorem apply_certificateRollouts (computes : step.fields = [.certificateRollouts])
    (status : ClusterStatus) :
    ∃ recorded, step.apply status = { status with certificateRollouts := recorded } := by
  cases step with
  | rolloutChecks =>
    simp only [apply, checkAndUpdatePendingRollouts]
    split
    · exact ⟨status.certificateRollouts, rfl⟩
    · split
      · exact ⟨status.certificateRollouts, rfl⟩
      · exact ⟨_, rfl⟩
  | newRollouts =>
    simp only [apply, addPendingRollouts]
    split
    · exact ⟨status.certificateRollouts, rfl⟩
    · exact ⟨_, rfl⟩
  | _ => simp [fields] at computes

theorem apply_clusterSettings (desiredHash : String) (applied : Bool) (status : ClusterStatus) :
    (clusterSettings desiredHash applied).apply status = status ∨
      (clusterSettings desiredHash applied).apply status =
        onIndexer (fun indexer => { indexer with appliedSettingsHash := desiredHash }) status := by
  simp only [apply, reconcileClusterSettings]
  split
  · exact .inl rfl
  · split
    · exact .inr rfl
    · exact .inl rfl

theorem conditionOf_apply
    (different : conditionTypeSecurityReady ≠ conditionType) (step : StatusStep)
    (status : ClusterStatus) :
    conditionOf conditionType (step.apply status).conditions =
      conditionOf conditionType status.conditions := by
  by_cases security : step.fields = [.security]
  · rcases apply_security security status with ⟨recorded, effect⟩
    rw [effect]
  by_cases rollouts : step.fields = [.certificateRollouts]
  · rcases apply_certificateRollouts rollouts status with ⟨recorded, effect⟩
    rw [effect]
  cases step with
  | clusterSettings desiredHash applied =>
    rcases apply_clusterSettings desiredHash applied status with effect | effect
    · rw [effect]
    · rw [effect]
      rfl
  | securityCondition initialized =>
    cases initialized with
    | true | false => exact conditionOf_updateCondition_other different _ _ _ _
  | _ => first
      | exact absurd rfl security
      | exact absurd rfl rollouts
      | rfl

end StatusStep

/-! ## The steps of a pass -/

structure PassFindings where
  /-- The inline indexer of the spec. -/
  indexer : Option IndexerSpec
  rolloutChecks : PendingCertRollout -> Except String Bool
  /-- The drain status after the rollback check and the indexer's gate. -/
  indexerDrain : Option DrainStatus
  credentialsSync : Option String
  securityInitialized : Option Bool
  defaultAdmin : Except String (String × String)
  securitySync : Except String SyncCounts
  /-- The drain status after the worker gate. -/
  managerDrain : Option DrainStatus
  /-- The volume claims of the master and of the workers, where there are any. -/
  (masterVolumes workerVolumes : Option ExpansionFindings)
  (apiCredentials authdCredentials : Option String)
  indexerRestarts : Except String Nat
  /-- A restart was found and the resources are synchronised again. -/
  resync : Option (Except String SyncCounts)
  newRollouts : List PendingCertRollout
  (indexerRestart masterRestart workerRestart : Option RestartResult)
  hasRollingRestart : Bool

/-- The steps of a pass which reaches `updateStatus`, in the order of `Reconcile`. -/
def passSteps (found : PassFindings) : List StatusStep :=
  let initialized := found.securityInitialized.getD false
  (found.indexer.map StatusStep.topologyMode).toList ++
    [.rolloutChecks found.rolloutChecks, .drain found.indexerDrain,
      .credentialsSync found.credentialsSync, .securityInitialization found.securityInitialized,
      .securityCondition initialized] ++
    (if initialized then
      [.defaultAdmin found.defaultAdmin, .securitySync found.securitySync] else []) ++
    [.drain found.managerDrain] ++
    (found.masterVolumes.map StatusStep.managerMasterExpansion).toList ++
    (found.workerVolumes.map StatusStep.managerWorkerExpansion).toList ++
    [.apiCredentials found.apiCredentials, .authdCredentials found.authdCredentials,
      .indexerRestart found.indexerRestarts] ++
    (found.resync.map StatusStep.securitySync).toList ++
    [.newRollouts found.newRollouts,
      .rollingRestarts found.indexerRestart found.masterRestart found.workerRestart
        found.hasRollingRestart]

def workingCopy (fetched : ClusterStatus) (steps : List StatusStep) : ClusterStatus :=
  steps.foldl StatusStep.apply fetched

def PassFindings.uneventful : PassFindings where
  indexer := some { replicas := 3 }
  rolloutChecks := fun _ => .ok true
  indexerDrain := none
  credentialsSync := none
  securityInitialized := some true
  defaultAdmin := .ok ("admin", "auto")
  securitySync := .ok { users := 0, roles := 0, roleMappings := 0, tenants := 0, actionGroups := 0 }
  managerDrain := none
  masterVolumes := none
  workerVolumes := none
  apiCredentials := some "5f1c"
  authdCredentials := some ""
  indexerRestarts := .ok 0
  resync := none
  newRollouts := []
  indexerRestart := none
  masterRestart := none
  workerRestart := none
  hasRollingRestart := false

/-- The answers to the last write of such a pass when three indexers, a master with two
workers and a dashboard are asked for and ready. -/
def StatusAnswers.allReady : StatusAnswers where
  requested := { indexer := some 3, manager := some { workerReplicas := some 2 },
                 dashboard := some 1 }
  reads := { indexer := .ok (some ⟨3, 3, 3⟩), master := .ok (some ⟨1, 1, 1⟩),
             worker := .ok (some ⟨2, 2, 2⟩), dashboard := .ok (some ⟨1, 1, 1⟩) }

theorem isReady_workingCopy (steps : List StatusStep) (fetched : ClusterStatus) :
    (workingCopy fetched steps).IsReady <-> fetched.IsReady := by
  induction steps generalizing fetched with
  | nil => exact Iff.rfl
  | cons step _ ih =>
    have kept : (step.apply fetched).IsReady <-> fetched.IsReady := by
      unfold ClusterStatus.IsReady
      rw [StatusStep.conditionOf_apply (by decide) step fetched]
    exact (ih (step.apply fetched)).trans kept

end Reporting
end WazuhOperator
