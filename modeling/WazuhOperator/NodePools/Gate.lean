import WazuhOperator.NodePools.Drainer
import WazuhOperator.NodePools.Workload
import WazuhOperator.Reporting.Writers

namespace WazuhOperator
namespace NodePools

open Procedure Proc Drain List

/-!
# The scale-down gate of a nodePool

`checkNodePoolScaleDownDrain` in
`internal/opensearch/reconciler/indexer_reconciler.go`.  All pools share the
one drain status of the indexer and the one drainer of the reconciler, and
the phase is assigned directly, without the transition table.

Beside what the code keeps, the store has notes: for which scale-down the
recorded drain was started, and which nodes a verification of that drain has
found empty.  A scale-down is known by its pool and by the number of times
the wanted or the present size of that pool has changed so far.
-/

/-- A scale-down: the pool, and how often its sizes had changed when it was asked for. -/
structure ScaleDown where
  pool : String
  asked : Nat
  deriving DecidableEq

inductive Reason where
  /-- Drains of the indexer are not enabled. -/
  | disabled
  /-- There is no OpenSearch client, and none can be created. -/
  | noClient
  /-- The pool has no data role. -/
  | noDrainNeeded
  /-- The verification has succeeded in this call. -/
  | verified
  /-- The status found was `Complete`. -/
  | complete
  /-- The status found was in a phase which the code has no branch for. -/
  | otherPhase
  deriving DecidableEq

/-- What the gate tells its caller: to leave the replicas alone for now, or to go on. -/
inductive Decision where
  | wait
  | proceed (reason : Reason)
  deriving DecidableEq

/-- What can be seen of a pass in advanced mode. -/
inductive PoolEvent where
  /-- The phase of the drain status is assigned. -/
  | phaseWritten (source target : DrainPhase)
  | statefulSetCreated (pool : String) (replicas : Nat)
  /-- The replica count goes from one number to another, with the reason where it goes down, and
  the nodes found empty in a drain started for this scale-down. -/
  | statefulSetUpdated (pool : String) (current desired : Nat) (reason : Option Reason)
      (emptied : List String)
  /-- The StatefulSet of a pool is deleted because of an immutable field. -/
  | statefulSetRecreated (pool : String)
  /-- The StatefulSet of a dropped pool is deleted, with the nodes found empty before. -/
  | statefulSetDeleted (pool : String) (replicas : Nat) (emptied : List String)

structure PoolStatus extends Reporting.NodePoolStatus where
  lastTransitionTime : Option Time := none

structure PoolStore where
  /-- The reconciler has a client; its drainer is known by the initial shard count. -/
  hasClient : Bool := false
  drainer : Option Int32 := none
  /-- The allocation exclusion in OpenSearch. -/
  excluded : Option String := none
  /-- The indexer's drain status in the working copy. -/
  status : Option ComponentDrainStatus := none
  statefulSets : String -> Option PoolStatefulSet
  poolStatuses : String -> Option PoolStatus := fun _ => none
  startedFor : Option ScaleDown := none
  emptied : List (ScaleDown × String) := []
  asked : String -> Nat := fun _ => 0

namespace PoolStore

variable (store : PoolStore)

def phase : DrainPhase := (store.status.getD initializeDrainStatus).phase

def scaleDown (pool : String) : ScaleDown := ⟨pool, store.asked pool⟩

def emptiedNodes (pool : String) : List String :=
  (store.emptied.filter fun entry => entry.1 = store.scaleDown pool).map Prod.snd

def size (pool : String) : Nat := ((store.statefulSets pool).map PoolStatefulSet.replicas).getD 0

/-- Write the StatefulSet of a pool, or remove it.  Where the size changes, the pool is in
another scale-down than before, if in any. -/
def setStatefulSet (pool : String) (sts : Option PoolStatefulSet) : PoolStore :=
  { store with
    statefulSets := Function.update store.statefulSets pool sts
    asked :=
      if (sts.map PoolStatefulSet.replicas).getD 0 = store.size pool then store.asked
      else Function.update store.asked pool (store.asked pool + 1) }

section Writes

variable {store} {pool : String}

@[simp] theorem setStatefulSet_self : (store.setStatefulSet pool sts).statefulSets pool = sts :=
  Function.update_self ..

theorem setStatefulSet_of_ne (apart : other ≠ pool) :
    (store.setStatefulSet pool sts).statefulSets other = store.statefulSets other :=
  Function.update_of_ne apart ..

theorem setStatefulSet_asked_of_ne (apart : other ≠ pool) :
    (store.setStatefulSet pool sts).asked other = store.asked other := by
  simp only [setStatefulSet]
  split
  · rfl
  · exact Function.update_of_ne apart ..

theorem setStatefulSet_emptiedNodes_of_ne (apart : other ≠ pool) :
    (store.setStatefulSet pool sts).emptiedNodes other = store.emptiedNodes other := by
  simp only [emptiedNodes, scaleDown, setStatefulSet_asked_of_ne apart]
  rfl

end Writes

end PoolStore

structure GateInput where
  now : Time
  /-- What the client factory would answer. -/
  getClient : Except String Unit
  answers : PoolAnswers

/-! ## The gate -/

section Gate

def onDrainer {α : Type} (inner : Proc DrainStore PoolEvent α) : Proc PoolStore PoolEvent α :=
  focus (fun store => ⟨store.drainer.getD 0, store.excluded⟩)
    (fun drain store =>
      { store with drainer := some drain.initialShardCount, excluded := drain.excluded }) inner

/-- Assign fields of the status, which `getOrInitNodePoolDrainStatus` has initialised. -/
def setStatus (change : ComponentDrainStatus -> ComponentDrainStatus) : Proc PoolStore PoolEvent Unit :=
  modify fun store =>
    { store with status := some (change (store.status.getD initializeDrainStatus)) }

def setPhase (phase : DrainPhase) (change : ComponentDrainStatus -> ComponentDrainStatus) :
    Proc PoolStore PoolEvent Unit := do
  let store ← read
  emit (.phaseWritten store.phase phase)
  setStatus fun status => { change status with phase := phase }

variable (input : GateInput) (scaleDown : ScaleDown) (targetPods : List String)

def startPoolDrain : Proc PoolStore PoolEvent Decision := do
  match ← attempt (onDrainer (startNodePoolDrain input.answers targetPods)) with
  | .error text =>
    setPhase .failed fun status => { status with message := text }
    fail ("failed to start drain: " ++ text)
  | .ok () =>
    setPhase .draining fun status =>
      { status with
        message := "Draining " ++ toString targetPods.length ++ " pods"
        startTime := some input.now
        lastTransitionTime := some input.now }
    modify fun store => { store with startedFor := some scaleDown }
    return .wait

def watchPoolDrain : Proc PoolStore PoolEvent Decision := do
  match ← attempt (onDrainer (monitorNodePoolDrainProgress input.answers targetPods)) with
  | .error _ => return .wait
  | .ok progress =>
    setStatus fun status => { status with progress := progress.percent, message := progress.message }
    if progress.isComplete then
      setPhase .verifying id
      return .wait
    else return .wait

def noteEmptied : Proc PoolStore PoolEvent Unit :=
  modify fun store =>
    { store with
      emptied :=
        if store.startedFor = some scaleDown then targetPods.map (scaleDown, ·) ++ store.emptied
        else store.emptied }

def verifyPoolDrain : Proc PoolStore PoolEvent Decision :=
  match verifyNodePoolDrainComplete input.answers targetPods with
  | .error _ | .ok false => return .wait
  | .ok true => do
      noteEmptied scaleDown targetPods
      setPhase .complete fun status =>
        { status with
          lastTransitionTime := some input.now
          message := "Drain complete, proceeding with scale-down" }
      let _ ← attempt (onDrainer (cancelDrain input.answers))
      return .proceed .verified

/-- The branches of `checkNodePoolScaleDownDrain` by the phase of the status. -/
def managePoolDrain : Proc PoolStore PoolEvent Decision := do
  let store ← read
  match store.phase with
  | .idle | .unset => startPoolDrain input scaleDown targetPods
  | .draining => watchPoolDrain input targetPods
  | .verifying => verifyPoolDrain input scaleDown targetPods
  | .complete =>
    setPhase .idle id
    return .proceed .complete
  | .failed =>
    setPhase .idle id
    return .wait
  | .pending | .rollingBack | .unknown _ => return .proceed .otherPhase

end Gate

/-! ## What one call can do to a drain -/

structure SameWorkloads (before after : PoolStore) : Prop where
  statefulSets : after.statefulSets = before.statefulSets
  asked : after.asked = before.asked
  poolStatuses : after.poolStatuses = before.poolStatuses

/-- Every way in which `managePoolDrain` moves the drain status on, with what it returns and
records. -/
inductive PoolDrainMove (input : GateInput) (scaleDown : ScaleDown) (targetPods : List String)
    (before after : PoolStore) : Except String Decision -> List PoolEvent -> Prop where
  | started (fresh : before.phase = .idle ∨ before.phase = .unset) (phase : after.phase = .draining)
      (note : after.startedFor = some scaleDown) (emptied : after.emptied = before.emptied) :
      PoolDrainMove input scaleDown targetPods before after (.ok .wait) [.phaseWritten before.phase .draining]
  | refused (text : String) (fresh : before.phase = .idle ∨ before.phase = .unset)
      (phase : after.phase = .failed) (note : after.startedFor = before.startedFor)
      (emptied : after.emptied = before.emptied) :
      PoolDrainMove input scaleDown targetPods before after (.error ("failed to start drain: " ++ text))
        [.phaseWritten before.phase .failed]
  | waited (busy : before.phase = .draining ∨ before.phase = .verifying) (phase : after.phase = before.phase)
      (note : after.startedFor = before.startedFor) (emptied : after.emptied = before.emptied) :
      PoolDrainMove input scaleDown targetPods before after (.ok .wait) []
  | drained (busy : before.phase = .draining) (phase : after.phase = .verifying)
      (note : after.startedFor = before.startedFor) (emptied : after.emptied = before.emptied) :
      PoolDrainMove input scaleDown targetPods before after (.ok .wait) [.phaseWritten before.phase .verifying]
  | verified (busy : before.phase = .verifying)
      (read : verifyNodePoolDrainComplete input.answers targetPods = .ok true) (phase : after.phase = .complete)
      (note : after.startedFor = before.startedFor)
      (emptied : after.emptied = if before.startedFor = some scaleDown then
        targetPods.map (scaleDown, ·) ++ before.emptied else before.emptied) :
      PoolDrainMove input scaleDown targetPods before after (.ok (.proceed .verified))
        [.phaseWritten before.phase .complete]
  | finished (done : before.phase = .complete) (phase : after.phase = .idle)
      (note : after.startedFor = before.startedFor) (emptied : after.emptied = before.emptied) :
      PoolDrainMove input scaleDown targetPods before after (.ok (.proceed .complete))
        [.phaseWritten before.phase .idle]
  | retried (done : before.phase = .failed) (phase : after.phase = .idle)
      (note : after.startedFor = before.startedFor) (emptied : after.emptied = before.emptied) :
      PoolDrainMove input scaleDown targetPods before after (.ok .wait) [.phaseWritten before.phase .idle]
  | passed (other : before.phase = .pending ∨ before.phase = .rollingBack ∨ ∃ name, before.phase = .unknown name)
      (same : after = before) :
      PoolDrainMove input scaleDown targetPods before after (.ok (.proceed .otherPhase)) []

section Moves

variable {input : GateInput} {scaleDown : ScaleDown} {targetPods : List String} {store : PoolStore}

theorem onDrainer_apply {α : Type} {inner : Proc DrainStore PoolEvent α}
    (quiet : Keeps (fun _ => True) (fun _ => False) inner) (store : PoolStore) :
    ∃ result count setting, onDrainer inner store =
      ⟨result, { store with drainer := some count, excluded := setting }, []⟩ := by
  rcases ran : inner ⟨store.drainer.getD 0, store.excluded⟩ with ⟨result, ⟨count, setting⟩, log⟩
  have silent : log = [] := by
    have silent := (quiet ⟨store.drainer.getD 0, store.excluded⟩ trivial).2
    rw [ran] at silent
    exact eq_nil_iff_forall_not_mem.mpr silent
  refine ⟨result, count, setting, ?_⟩
  rw [onDrainer, focus_apply, ran, silent]

variable (answers : PoolAnswers)

theorem quiet_startNodePoolDrain (nodeNames : List String) :
    Keeps (fun _ => True) (fun _ => False)
      (startNodePoolDrain answers nodeNames : Proc DrainStore PoolEvent Unit) := by
  unfold startNodePoolDrain
  split
  · exact keeps_pure ()
  · refine keeps_bind (keeps_modify fun _ _ => trivial) fun _ => ?_
    refine keeps_forEach fun entry _ => keeps_mapError ?_
    exact keeps_bind (keeps_modify fun _ _ => trivial) fun _ => keeps_ofExcept _

theorem quiet_monitorNodePoolDrainProgress (nodeNames : List String) :
    Keeps (fun _ => True) (fun _ => False)
      (monitorNodePoolDrainProgress answers nodeNames : Proc DrainStore PoolEvent _) := by
  unfold monitorNodePoolDrainProgress
  split
  · exact keeps_pure _
  · refine keeps_read_bind fun _ _ => ?_
    exact keeps_bind (keeps_mapError (keeps_ofExcept _)) fun _ => keeps_pure _

theorem quiet_cancelDrain :
    Keeps (fun _ => True) (fun _ => False) (cancelDrain answers : Proc DrainStore PoolEvent Unit) :=
  keeps_mapError
    (keeps_bind (keeps_modify fun _ _ => trivial) fun _ => keeps_ofExcept _)

def Moves (input : GateInput) (scaleDown : ScaleDown) (targetPods : List String) (store : PoolStore)
    (outcome : Outcome PoolStore PoolEvent Decision) : Prop :=
  SameWorkloads store outcome.state ∧
    PoolDrainMove input scaleDown targetPods store outcome.state outcome.result outcome.log

theorem startPoolDrain_moves (fresh : store.phase = .idle ∨ store.phase = .unset) :
    Moves input scaleDown targetPods store (startPoolDrain input scaleDown targetPods store) := by
  rcases onDrainer_apply (quiet_startNodePoolDrain input.answers targetPods) store with
    ⟨result, count, setting, ran⟩
  rw [startPoolDrain, attempt_bind_apply, ran]
  cases result with
  | error text => exact ⟨⟨rfl, rfl, rfl⟩, .refused text fresh rfl rfl rfl⟩
  | ok => exact ⟨⟨rfl, rfl, rfl⟩, .started fresh rfl rfl rfl⟩

theorem watchPoolDrain_moves (busy : store.phase = .draining) :
    Moves input scaleDown targetPods store (watchPoolDrain input targetPods store) := by
  rcases onDrainer_apply (quiet_monitorNodePoolDrainProgress input.answers targetPods) store with
    ⟨result, count, setting, ran⟩
  rw [watchPoolDrain, attempt_bind_apply, ran]
  cases result with
  | error => exact ⟨⟨rfl, rfl, rfl⟩, .waited (.inl busy) rfl rfl rfl⟩
  | ok progress =>
    cases complete : progress.isComplete with
    | true =>
      simp only [complete, if_true]
      exact ⟨⟨rfl, rfl, rfl⟩, .drained busy rfl rfl rfl⟩
    | false =>
      simp only [complete, Bool.false_eq_true, if_false]
      exact ⟨⟨rfl, rfl, rfl⟩, .waited (.inl busy) rfl rfl rfl⟩

theorem verifyPoolDrain_moves (busy : store.phase = .verifying) :
    Moves input scaleDown targetPods store (verifyPoolDrain input scaleDown targetPods store) := by
  unfold verifyPoolDrain
  cases read : verifyNodePoolDrainComplete input.answers targetPods with
  | error => exact ⟨⟨rfl, rfl, rfl⟩, .waited (.inr busy) rfl rfl rfl⟩
  | ok complete =>
    cases complete with
    | false => exact ⟨⟨rfl, rfl, rfl⟩, .waited (.inr busy) rfl rfl rfl⟩
    | true =>
      -- Whatever clearing the exclusion comes to, the drain counts as complete.
      simp only [bind_apply, noteEmptied, setPhase, setStatus, modify_apply, read_apply,
        emit_apply, attempt_apply, Outcome.following_nil, Outcome.following_mk]
      rcases onDrainer_apply (quiet_cancelDrain input.answers) _ with ⟨result, count, setting, ran⟩
      rw [ran]
      exact ⟨⟨rfl, rfl, rfl⟩, .verified busy read rfl rfl rfl⟩

theorem managePoolDrain_moves :
    Moves input scaleDown targetPods store (managePoolDrain input scaleDown targetPods store) := by
  simp only [managePoolDrain, bind_apply, read_apply, Outcome.following_nil]
  cases found : store.phase with
  | idle => exact startPoolDrain_moves (.inl found)
  | unset => exact startPoolDrain_moves (.inr found)
  | draining => exact watchPoolDrain_moves found
  | verifying => exact verifyPoolDrain_moves found
  | complete => exact ⟨⟨rfl, rfl, rfl⟩, .finished found rfl rfl rfl⟩
  | failed => exact ⟨⟨rfl, rfl, rfl⟩, .retried found rfl rfl rfl⟩
  | pending => exact ⟨⟨rfl, rfl, rfl⟩, .passed (.inl found) rfl⟩
  | rollingBack => exact ⟨⟨rfl, rfl, rfl⟩, .passed (.inr (.inl found)) rfl⟩
  | unknown name => exact ⟨⟨rfl, rfl, rfl⟩, .passed (.inr (.inr ⟨name, found⟩)) rfl⟩

end Moves

def getTotalClusterManagers (spec : AdvancedSpec) : Int :=
  (spec.nodePools.map fun pool => if pool.hasClusterManagerRole then (pool.replicas : Int) else 0).sum

/-- What the evaluation is told about a pool. -/
def scaleDownInfo (clusterName : String) (pool : IndexerNodePoolSpec) (currentReplicas : Nat) :
    NodePoolScaleDownInfo where
  poolName := pool.name
  roles := pool.roles
  currentReplicas := currentReplicas
  desiredReplicas := pool.replicas
  targetPodNames :=
    getNodePoolScaleDownTargets (indexerNodePoolName clusterName pool.name) currentReplicas pool.replicas

/-- `ensureOpenSearchClient`, and the creation of the drainer where there is none: whether there
is a client to go on with. -/
def ensureClient (getClient : Except String Unit) : Proc PoolStore PoolEvent Bool := do
  let store ← read
  if store.hasClient || getClient.isOk then
    modify fun store => { store with hasClient := true, drainer := some (store.drainer.getD 0) }
    return true
  else return false

/-- What `checkNodePoolScaleDownDrain` does after the evaluation. -/
def followEvaluation (input : GateInput) (info : NodePoolScaleDownInfo) :
    Ending NodePoolDrainResult -> Proc PoolStore PoolEvent (Ending Decision)
  | .panicked => return .panicked
  | .returned result =>
    if result.feasible then
      if result.needsDrain then do
        let store ← read
        let decision ← managePoolDrain input (store.scaleDown info.poolName) info.targetPodNames
        return .returned decision
      else return .returned (.proceed .noDrainNeeded)
    else fail ("scale-down blocked: " ++ result.blockers.headD "")

def checkNodePoolScaleDownDrain (clusterName : String) (spec : AdvancedSpec) (pool : IndexerNodePoolSpec)
    (input : GateInput) (currentReplicas : Nat) : Proc PoolStore PoolEvent (Ending Decision) :=
  if spec.drainEnabled then do
    if ← ensureClient input.getClient then
      let info := scaleDownInfo clusterName pool currentReplicas
      followEvaluation input info
        (evaluateNodePoolScaleDown info (getTotalClusterManagers spec) true input.answers.health)
    else return .returned (.proceed .noClient)
  else return .returned (.proceed .disabled)

/-! ## What the gate comes to -/

def CanConnect (input : GateInput) (store : PoolStore) : Prop :=
  store.hasClient = true ∨ input.getClient.isOk = true

def PoolStore.connected (store : PoolStore) : PoolStore :=
  { store with hasClient := true, drainer := some (store.drainer.getD 0) }

section Equations

variable {clusterName : String} {spec : AdvancedSpec} {pool : IndexerNodePoolSpec} {input : GateInput}
variable {currentReplicas : Nat} {store : PoolStore}

theorem gate_of_disabled (disabled : spec.drainEnabled = false) :
    checkNodePoolScaleDownDrain clusterName spec pool input currentReplicas store =
      ⟨.ok (.returned (.proceed .disabled)), store, []⟩ := by
  simp [checkNodePoolScaleDownDrain, disabled]

theorem gate_of_no_client (enabled : spec.drainEnabled) (alone : ¬ CanConnect input store) :
    checkNodePoolScaleDownDrain clusterName spec pool input currentReplicas store =
      ⟨.ok (.returned (.proceed .noClient)), store, []⟩ := by
  have refused : ¬ (store.hasClient ∨ input.getClient.isOk) := alone
  simp [checkNodePoolScaleDownDrain, enabled, ensureClient, refused]

theorem gate_of_client (enabled : spec.drainEnabled) (connects : CanConnect input store) :
    checkNodePoolScaleDownDrain clusterName spec pool input currentReplicas store =
      followEvaluation input (scaleDownInfo clusterName pool currentReplicas)
        (evaluateNodePoolScaleDown (scaleDownInfo clusterName pool currentReplicas)
          (getTotalClusterManagers spec) true input.answers.health) store.connected := by
  have granted : store.hasClient ∨ input.getClient.isOk := connects
  simp [checkNodePoolScaleDownDrain, enabled, ensureClient, granted, PoolStore.connected]

end Equations

/-! ## The quorum of the cluster managers -/

section Quorum

attribute [local simp] NodePoolDrainResult.block

/-- The cluster managers that remain after the scale-down of a pool: the pool has its wanted size
then, and the other pools keep the sizes they have at present. -/
def remainingManagers (spec : AdvancedSpec) (sizes : String -> Nat) (pool : IndexerNodePoolSpec) : Int :=
  (spec.nodePools.map fun other =>
    if other.hasClusterManagerRole then
      if other.name = pool.name then (pool.replicas : Int) else (sizes other.name : Int)
    else 0).sum

def pendingManagers (spec : AdvancedSpec) (sizes : String -> Nat) (pool : IndexerNodePoolSpec) : Int :=
  (spec.nodePools.map fun other =>
    if other.hasClusterManagerRole then
      if other.name = pool.name then 0 else (other.replicas : Int) - sizes other.name
    else 0).sum

theorem getTotalClusterManagers_eq {spec : AdvancedSpec} {pool : IndexerNodePoolSpec}
    (member : pool ∈ spec.nodePools) (sizes : String -> Nat) :
    getTotalClusterManagers spec = remainingManagers spec sizes pool + pendingManagers spec sizes pool := by
  rw [getTotalClusterManagers, remainingManagers, pendingManagers, ← sum_map_add]
  refine congrArg sum (map_congr_left fun other among => ?_)
  by_cases manages : other.hasClusterManagerRole
  · by_cases same : other.name = pool.name
    · have equal : other = pool := inj_on_of_nodup_map spec.distinct among member same
      simp [equal]
    · simp [manages, same]
  · simp [manages]

def BlockedForQuorum (outcome : Outcome PoolStore PoolEvent (Ending Decision)) : Prop :=
  ∃ total newTotal, outcome.result = .error ("scale-down blocked: " ++ quorumBlocker total newTotal)

/-- The gate comes to the check of the quorum and past it: drains are enabled, there is a client,
and the health of the cluster, which is asked for a data pool, is answered. -/
def ChecksQuorum (spec : AdvancedSpec) (pool : IndexerNodePoolSpec) (input : GateInput)
    (store : PoolStore) : Prop :=
  spec.drainEnabled = true ∧ CanConnect input store ∧
    (pool.hasDataRole = true -> ∃ health, input.answers.health = .ok health)

theorem head_toList_append (begins : first.toList.head? = some character) (rest : String) :
    (first ++ rest).toList.head? = some character := by
  rw [String.toList_append, head?_append, begins, Option.some_or]

theorem quorumBlocker_head (total newTotal : Int) :
    (quorumBlocker total newTotal).toList.head? = some 'S' := by
  have begins : "Scale-down would reduce cluster_manager nodes from ".toList.head? = some 'S' := by
    decide +kernel
  have first := head_toList_append begins (toString total)
  have second := head_toList_append first " to "
  have third := head_toList_append second (toString newTotal)
  have fourth := head_toList_append third ", below minimum quorum of "
  exact head_toList_append fourth (toString minClusterManagerNodes)

/-- Texts after one beginning are told apart by their own first characters. -/
theorem blocked_text_ne (differ : text.toList.head? ≠ other.toList.head?) :
    "scale-down blocked: " ++ text ≠ "scale-down blocked: " ++ other := by
  intro same
  have lists := congrArg String.toList same
  rw [String.toList_append, String.toList_append] at lists
  exact differ (congrArg head? (append_cancel_left lists))

theorem checkHealth_blockers (ended : checkHealth answer counted = .returned judged) :
    ∃ more, judged.blockers = counted.blockers ++ more ∧
      (∀ text ∈ more, text.toList.head? = some 'C') ∧
      (counted.feasible = false -> judged.feasible = false) := by
  cases answer with
  | error => cases ended
  | ok health =>
    cases ended
    by_cases green : health.status = "green" <;> by_cases few : health.numberOfDataNodes < 2
    · refine ⟨["Cannot drain: only one data node in cluster"], ?_, ?_, ?_⟩
      · simp [green, few]
      · simp
      · simp [few]
    · exact ⟨[], by simp [green, few], by simp, by simp [green, few]⟩
    · refine ⟨["Cluster health is " ++ health.status ++ ", must be green before drain",
        "Cannot drain: only one data node in cluster"], ?_, ?_, ?_⟩
      · simp [green, few]
      · simp
      · simp [few]
    · refine ⟨["Cluster health is " ++ health.status ++ ", must be green before drain"], ?_, ?_, ?_⟩
      · simp [green, few]
      · simp
      · simp [green, few]

section Evaluation

variable {info : NodePoolScaleDownInfo} {total : Int}

theorem not_isCoordinatingOnly_of_manager (manages : info.hasClusterManagerRole) :
    info.isCoordinatingOnly = false := by
  have member : Webhook.IndexerNodeRole.clusterManager ∈ info.roles := by
    simpa [NodePoolScaleDownInfo.hasClusterManagerRole, NodePoolScaleDownInfo.hasRole] using manages
  rw [NodePoolScaleDownInfo.isCoordinatingOnly, all_eq_false]
  exact ⟨.clusterManager, member, by decide⟩

theorem evaluate_blockers (shrinks : info.isScaleDown) (manages : info.hasClusterManagerRole)
    (ended : evaluateNodePoolScaleDown info total true answer = .returned result) :
    ∃ more, result.blockers = (checkQuorum info total {}).blockers ++ more ∧
      (∀ text ∈ more, text.toList.head? = some 'C') ∧
      ((checkQuorum info total {}).feasible = false -> result.feasible = false) := by
  cases data : info.hasDataRole with
  | true =>
    rw [evaluate_of_data shrinks data, if_pos rfl] at ended
    have judged := checkHealth_blockers ended
    exact judged
  | false =>
    simp only [evaluateNodePoolScaleDown, shrinks, not_isCoordinatingOnly_of_manager manages, data,
      if_true, Bool.false_eq_true, if_false] at ended
    cases ended
    exact ⟨[], by simp, by simp, id⟩

end Evaluation

theorem managePoolDrain_error {input : GateInput} {scaleDown : ScaleDown} {targetPods : List String}
    {store : PoolStore} {text : String}
    (failed : (managePoolDrain input scaleDown targetPods store).result = .error text) :
    ∃ cause, text = "failed to start drain: " ++ cause := by
  have moves := @managePoolDrain_moves input scaleDown targetPods store
  generalize managePoolDrain input scaleDown targetPods store = outcome at failed moves
  rcases outcome with ⟨result, after, log⟩
  cases failed
  cases moves.2 with
  | refused cause => exact ⟨cause, rfl⟩

variable {info : NodePoolScaleDownInfo}

theorem followEvaluation_error {input : GateInput} {store : PoolStore}
    (feasible : result.feasible)
    (failed : (followEvaluation input info (.returned result) store).result = .error text) :
    ∃ cause, text = "failed to start drain: " ++ cause := by
  cases needs : result.needsDrain with
  | false => simp [followEvaluation, feasible, needs] at failed
  | true =>
    simp only [followEvaluation, feasible, needs, if_true, bind_apply, read_apply,
      Outcome.following_nil] at failed
    rcases ran : managePoolDrain input (store.scaleDown info.poolName) info.targetPodNames store with
      ⟨ended, after, log⟩
    rw [ran] at failed
    cases ended with
    | ok => simp at failed
    | error =>
      have manage := @managePoolDrain_error input (store.scaleDown info.poolName) info.targetPodNames store text
      rw [ran] at manage
      exact manage (by simpa using failed)

theorem followEvaluation_blocked_iff {input : GateInput} {total : Int} (store : PoolStore)
    (shrinks : info.isScaleDown) (manages : info.hasClusterManagerRole)
    (ended : evaluateNodePoolScaleDown info total true answer = .returned result) :
    BlockedForQuorum (followEvaluation input info (.returned result) store) <->
      lacksQuorum info total = true := by
  rcases evaluate_blockers shrinks manages ended with ⟨more, blockers, others, kept⟩
  cases lacks : lacksQuorum info total with
  | true =>
    have infeasible : result.feasible = false :=
      kept (by simp [checkQuorum, lacks])
    refine iff_of_true ⟨total, total - info.getReplicasDelta, ?_⟩ rfl
    simp [followEvaluation, infeasible, blockers, checkQuorum, lacks]
  | false =>
    refine iff_of_false ?_ Bool.false_ne_true
    rintro ⟨first, second, blocked⟩
    cases feasible : result.feasible with
    | false =>
      simp only [followEvaluation, feasible, Bool.false_eq_true, if_false, fail_apply,
        Except.error.injEq] at blocked
      refine blocked_text_ne ?_ blocked
      rw [quorumBlocker_head, blockers]
      cases more with
      | nil => simp [checkQuorum, lacks]
      | cons text =>
        simp [checkQuorum, lacks, others text mem_cons_self]
    | true =>
      rcases followEvaluation_error feasible blocked with ⟨cause, wrong⟩
      have heads := congrArg (fun text => text.toList.head?) wrong
      rw [head_toList_append (show "scale-down blocked: ".toList.head? = some 's' by decide +kernel),
        head_toList_append (show "failed to start drain: ".toList.head? = some 'f' by decide +kernel)]
        at heads
      exact absurd heads (by decide)

section Exactness

variable {clusterName : String} {spec : AdvancedSpec} {pool : IndexerNodePoolSpec} {input : GateInput}
variable {currentReplicas : Nat} {store : PoolStore}

theorem evaluate_returns {info : NodePoolScaleDownInfo} {total : Int} {answer : Except String PoolHealth}
    (known : info.hasDataRole -> ∃ health, answer = .ok health) (shrinks : info.isScaleDown) :
    ∃ result, evaluateNodePoolScaleDown info total true answer = .returned result := by
  cases data : info.hasDataRole with
  | false =>
    rcases @evaluate_of_not_data info total true answer data with ⟨result, ended, _⟩
    exact ⟨result, ended⟩
  | true =>
    rcases known data with ⟨health, rfl⟩
    rw [evaluate_of_data shrinks data, if_pos rfl]
    exact ⟨_, rfl⟩

theorem blocked_iff_of_checks (manages : pool.hasClusterManagerRole)
    (shrinks : pool.replicas < currentReplicas) (checks : ChecksQuorum spec pool input store) :
    BlockedForQuorum (checkNodePoolScaleDownDrain clusterName spec pool input currentReplicas store) <->
      getTotalClusterManagers spec < minClusterManagerNodes + ((currentReplicas : Int) - pool.replicas) := by
  rcases checks with ⟨enabled, connects, known⟩
  have down : (scaleDownInfo clusterName pool currentReplicas).isScaleDown := decide_eq_true shrinks
  rcases @evaluate_returns (scaleDownInfo clusterName pool currentReplicas) (getTotalClusterManagers spec)
    input.answers.health known down with ⟨result, ended⟩
  rw [gate_of_client enabled connects, ended, followEvaluation_blocked_iff _ down manages ended]
  have role : (scaleDownInfo clusterName pool currentReplicas).hasClusterManagerRole := manages
  have delta : (scaleDownInfo clusterName pool currentReplicas).getReplicasDelta =
      (currentReplicas : Int) - pool.replicas := if_pos down
  rw [lacksQuorum, role, delta, Bool.true_and, decide_eq_true_iff]
  omega

theorem not_blocked_of_unchecked (shrinks : pool.replicas < currentReplicas)
    (unchecked : ¬ ChecksQuorum spec pool input store) :
    ¬ BlockedForQuorum (checkNodePoolScaleDownDrain clusterName spec pool input currentReplicas store) := by
  rintro ⟨total, newTotal, blocked⟩
  cases enabled : spec.drainEnabled with
  | false =>
    rw [gate_of_disabled enabled] at blocked
    cases blocked
  | true =>
    by_cases connects : CanConnect input store
    · have unknown := fun known => unchecked ⟨enabled, connects, known⟩
      rcases Classical.not_imp.mp unknown with ⟨data, silent⟩
      have down : (scaleDownInfo clusterName pool currentReplicas).isScaleDown :=
        decide_eq_true shrinks
      rw [gate_of_client enabled connects, evaluate_of_data down data, if_pos rfl] at blocked
      cases answer : input.answers.health with
      | error =>
        rw [answer] at blocked
        cases blocked
      | ok health => exact silent ⟨health, answer⟩
    · rw [gate_of_no_client enabled connects] at blocked
      cases blocked

end Exactness

end Quorum

namespace Sample

def managerPool (replicas : Nat) : IndexerNodePoolSpec where
  name := "masters"
  replicas := replicas
  roles := [.clusterManager]

def managerSpec (replicas : Nat) : AdvancedSpec where
  nodePools := [managerPool replicas]
  distinct := nodup_singleton _
  drain := some { enabled := some true }

def openGate : GateInput where
  now := 0
  getClient := .ok ()
  answers := accepting []

def emptyStore : PoolStore where
  statefulSets := fun _ => none

theorem checksQuorum (replicas : Nat) :
    ChecksQuorum (managerSpec replicas) (managerPool replicas) openGate emptyStore :=
  ⟨rfl, .inr rfl, fun _ => ⟨_, rfl⟩⟩

end Sample

open Sample

end NodePools
end WazuhOperator
