import Mathlib.Data.List.Basic
import WazuhOperator.Indexer.Drainer
import WazuhOperator.Webhook.Cluster

namespace WazuhOperator
namespace NodePools

open Procedure Proc List
open Webhook (IndexerNodeRole)

/-!
# Draining the nodes of a pool

The second half of `internal/opensearch/drain/indexer_drain.go`, with the
requests of `internal/opensearch/api/cluster_api.go` it makes.  In advanced
mode a pool can lose several nodes at once, and the drainer deals with all of
them in loops: one request for each node.

A request is numbered by the round of the loop it is made in, so that every
call can be answered differently.  The allocation exclusion is one setting of
OpenSearch, and each write replaces its value.

Counts of pods are integers here: they stay far below the bounds of `int32`.
Shard counts are summed up in 32 bits, as the code does it.
-/

/-! ## May the pool be scaled down? -/

def minClusterManagerNodes : Int := 3

structure NodePoolScaleDownInfo where
  poolName : String
  roles : List IndexerNodeRole
  (currentReplicas desiredReplicas : Nat)
  targetPodNames : List String

namespace NodePoolScaleDownInfo

variable (info : NodePoolScaleDownInfo)

def isScaleDown : Bool := info.desiredReplicas < info.currentReplicas

def getReplicasDelta : Int :=
  if info.isScaleDown then (info.currentReplicas : Int) - info.desiredReplicas else 0

def hasRole (role : IndexerNodeRole) : Bool := info.roles.contains role

def hasDataRole : Bool := info.hasRole .data

def hasClusterManagerRole : Bool := info.hasRole .clusterManager

/-- `IsCoordinatingOnly`: there is no role but the pseudo-role. -/
def isCoordinatingOnly : Bool := info.roles.all fun role => role = .coordinatingOnly

theorem not_isCoordinatingOnly (data : info.hasDataRole) : info.isCoordinatingOnly = false := by
  have member : IndexerNodeRole.data ∈ info.roles := by
    simpa [hasDataRole, hasRole] using data
  rw [isCoordinatingOnly, all_eq_false]
  exact ⟨.data, member, by decide⟩

end NodePoolScaleDownInfo

/-- `ClusterHealth`, as far as the evaluation of a pool reads it. -/
structure PoolHealth where
  status : String
  numberOfDataNodes : Nat

structure NodePoolDrainResult where
  needsDrain : Bool := false
  skipReason : String := ""
  feasible : Bool := true
  (blockers warnings targetNodes : List String := [])

/-- How a call ends: with a value, or with the runtime's panic about a nil pointer. -/
inductive Ending (α : Type) where
  | returned (value : α)
  | panicked

def NodePoolDrainResult.block (result : NodePoolDrainResult) (reason : String) : NodePoolDrainResult :=
  { result with feasible := false, blockers := result.blockers ++ [reason] }

section Evaluation

variable (info : NodePoolScaleDownInfo) (totalClusterManagers : Int)

def quorumBlocker (newTotal : Int) : String :=
  "Scale-down would reduce cluster_manager nodes from " ++ toString totalClusterManagers ++ " to " ++
    toString newTotal ++ ", below minimum quorum of " ++ toString minClusterManagerNodes

def lacksQuorum : Bool :=
  info.hasClusterManagerRole && totalClusterManagers - info.getReplicasDelta < minClusterManagerNodes

/-- The quorum check of `EvaluateNodePoolScaleDown`. -/
def checkQuorum (result : NodePoolDrainResult) : NodePoolDrainResult :=
  if lacksQuorum info totalClusterManagers then
    result.block (quorumBlocker totalClusterManagers (totalClusterManagers - info.getReplicasDelta))
  else result

/-- What the health of the cluster adds to the result.  The second check looks into the health
object whether there is one or not: after an error `GetClusterHealth` returns nil. -/
def checkHealth (answer : Except String PoolHealth) (result : NodePoolDrainResult) :
    Ending NodePoolDrainResult :=
  let judged :=
    match answer with
    | .error text =>
      { result with warnings := result.warnings ++ ["Cannot verify cluster health: " ++ text] }
    | .ok health =>
      if health.status ≠ "green" then
        result.block ("Cluster health is " ++ health.status ++ ", must be green before drain")
      else result
  match answer.toOption with
  | none => .panicked
  | some health =>
    .returned (if health.numberOfDataNodes < 2 then
      judged.block "Cannot drain: only one data node in cluster" else judged)

def evaluateNodePoolScaleDown (hasClient : Bool) (answer : Except String PoolHealth) :
    Ending NodePoolDrainResult :=
  if info.isScaleDown then
    if info.isCoordinatingOnly then
      .returned { skipReason := "Coordinating-only nodes do not hold shards" }
    else
      let counted := checkQuorum info totalClusterManagers {}
      if info.hasDataRole then
        let result := { counted with needsDrain := true, targetNodes := info.targetPodNames }
        if hasClient then checkHealth answer result else .returned result
      else .returned { counted with skipReason := "NodePool does not have data role" }
  else .returned { skipReason := "Not a scale-down operation" }

end Evaluation

/-! ## What the evaluation survives -/

section Survival

variable (info : NodePoolScaleDownInfo) (totalClusterManagers : Int) (hasClient : Bool)
variable (answer : Except String PoolHealth)

def SoundHealth : Prop :=
  hasClient = true ∧ ∃ health, answer = .ok health ∧ health.status = "green" ∧ 2 ≤ health.numberOfDataNodes

/-- The evaluation returns, and does not call the drain of a data pool feasible where the health
of the cluster is not sound. -/
def SurvivesEvaluation : Prop :=
  ∃ result, evaluateNodePoolScaleDown info totalClusterManagers hasClient answer = .returned result ∧
    (info.hasDataRole = true -> ¬ SoundHealth hasClient answer ->
      ¬ (result.needsDrain = true ∧ result.feasible = true))

variable {info totalClusterManagers hasClient answer}

theorem evaluate_of_growth (growth : info.isScaleDown = false) :
    evaluateNodePoolScaleDown info totalClusterManagers hasClient answer =
      .returned { skipReason := "Not a scale-down operation" } := by
  simp [evaluateNodePoolScaleDown, growth]

def drainResult (info : NodePoolScaleDownInfo) (totalClusterManagers : Int) : NodePoolDrainResult :=
  { checkQuorum info totalClusterManagers {} with
    needsDrain := true
    targetNodes := info.targetPodNames }

theorem drainResult_feasible :
    (drainResult info totalClusterManagers).feasible = !lacksQuorum info totalClusterManagers := by
  cases lacks : lacksQuorum info totalClusterManagers <;>
    simp [drainResult, checkQuorum, lacks, NodePoolDrainResult.block]

theorem evaluate_of_data (shrinks : info.isScaleDown) (data : info.hasDataRole) :
    evaluateNodePoolScaleDown info totalClusterManagers hasClient answer =
      if hasClient then checkHealth answer (drainResult info totalClusterManagers)
      else .returned (drainResult info totalClusterManagers) := by
  simp [evaluateNodePoolScaleDown, shrinks, info.not_isCoordinatingOnly data, data, drainResult]

theorem evaluate_of_not_data (nodata : info.hasDataRole = false) :
    ∃ result, evaluateNodePoolScaleDown info totalClusterManagers hasClient answer = .returned result ∧
      result.needsDrain = false := by
  by_cases shrinks : info.isScaleDown
  · by_cases coordinating : info.isCoordinatingOnly
    · exact ⟨_, by simp [evaluateNodePoolScaleDown, shrinks, coordinating]; rfl, rfl⟩
    · refine ⟨{ checkQuorum info totalClusterManagers {} with
        skipReason := "NodePool does not have data role" }, ?_, ?_⟩
      · simp [evaluateNodePoolScaleDown, shrinks, coordinating, nodata]
      · unfold checkQuorum
        split <;> rfl
  · exact ⟨_, evaluate_of_growth (by simpa using shrinks), rfl⟩

theorem checkHealth_of_ok (health : PoolHealth) (result : NodePoolDrainResult) :
    ∃ judged, checkHealth (.ok health) result = .returned judged ∧
      (judged.feasible -> result.feasible ∧ health.status = "green" ∧
        2 ≤ health.numberOfDataNodes) := by
  refine ⟨_, rfl, ?_⟩
  by_cases green : health.status = "green"
  · by_cases few : health.numberOfDataNodes < 2
    · simp [few, NodePoolDrainResult.block]
    · simp only [few, if_false, green, ne_eq, not_true, true_and]
      exact fun feasible => ⟨feasible, Nat.le_of_not_lt few⟩
  · by_cases few : health.numberOfDataNodes < 2 <;> simp [green, few, NodePoolDrainResult.block]

/-- The evaluation survives exactly when the scale-down of a data pool finds a health object, or
has no client to ask for one and lacks the quorum anyway. -/
theorem survives_evaluation_iff (info : NodePoolScaleDownInfo) (totalClusterManagers : Int)
    (hasClient : Bool) (answer : Except String PoolHealth) :
    SurvivesEvaluation info totalClusterManagers hasClient answer <->
      (info.desiredReplicas < info.currentReplicas -> info.hasDataRole = true ->
        (hasClient = true ∧ ∃ health, answer = .ok health) ∨
          (hasClient = false ∧ info.hasClusterManagerRole = true ∧
            totalClusterManagers - ((info.currentReplicas : Int) - info.desiredReplicas) <
              minClusterManagerNodes)) := by
  cases data : info.hasDataRole with
  | false =>
    rcases @evaluate_of_not_data info totalClusterManagers hasClient answer data with ⟨result, ended, _⟩
    refine iff_of_true ⟨result, ended, fun wrong => ?_⟩ fun _ wrong => nomatch wrong
    rw [data] at wrong
    cases wrong
  | true =>
    by_cases shrinks : info.desiredReplicas < info.currentReplicas
    · have down : info.isScaleDown := decide_eq_true shrinks
      have lacking : lacksQuorum info totalClusterManagers <->
          info.hasClusterManagerRole ∧
            totalClusterManagers - ((info.currentReplicas : Int) - info.desiredReplicas) <
              minClusterManagerNodes := by
        simp [lacksQuorum, NodePoolScaleDownInfo.getReplicasDelta, down]
      simp only [shrinks, true_implies]
      rw [SurvivesEvaluation, evaluate_of_data down data]
      cases hasClient with
      | false =>
        have unsound : ¬ SoundHealth false answer := fun sound => nomatch sound.1
        simp only [Bool.false_eq_true, if_false, false_and, true_and, false_or, ← lacking]
        constructor
        · rintro ⟨result, ended, judged⟩
          cases ended
          have infeasible :=
            Bool.eq_false_iff.mpr fun feasible => judged data unsound ⟨rfl, feasible⟩
          rw [drainResult_feasible] at infeasible
          simpa using infeasible
        · intro lacks
          refine ⟨_, rfl, fun _ _ feasible => ?_⟩
          rw [drainResult_feasible, lacks] at feasible
          exact nomatch feasible.2
      | true =>
        simp only [if_true, true_and, Bool.true_eq_false, false_and, or_false]
        cases answer with
        | error =>
          refine iff_of_false ?_ ?_
          · rintro ⟨result, ended, _⟩
            cases ended
          · rintro ⟨health, wrong⟩
            cases wrong
        | ok health =>
          rcases checkHealth_of_ok health (drainResult info totalClusterManagers) with
            ⟨judged, ended, sound⟩
          refine iff_of_true ⟨judged, ended, fun _ unsound feasible => unsound ?_⟩ ⟨health, rfl⟩
          exact ⟨rfl, health, rfl, (sound feasible.2).2⟩
    · refine iff_of_true ⟨_, evaluate_of_growth (by simpa [NodePoolScaleDownInfo.isScaleDown] using shrinks), ?_⟩ ?_
      · exact fun _ _ feasible => nomatch feasible.1
      · exact fun wrong => absurd wrong shrinks

end Survival

namespace Sample

def dataPool : NodePoolScaleDownInfo where
  poolName := "data"
  roles := [.data]
  currentReplicas := 3
  desiredReplicas := 2
  targetPodNames := ["wazuh-indexer-data-2"]

end Sample

open Sample

/-- An unreachable cluster makes the evaluation panic. -/
theorem unreachable_cluster_panics :
    evaluateNodePoolScaleDown dataPool 3 true (.error "connection refused") = .panicked ∧
      ¬ SurvivesEvaluation dataPool 3 true (.error "connection refused") := by
  have panics : evaluateNodePoolScaleDown dataPool 3 true (.error "connection refused") =
      .panicked := by
    rfl
  refine ⟨panics, ?_⟩
  rintro ⟨result, ended, _⟩
  cases ended

/-! ## Requests about shards and about the exclusion -/

structure ShardInfo where
  node : String

/-- The answers OpenSearch gives in one drain check, numbered by the round of the loop. -/
structure PoolAnswers where
  health : Except String PoolHealth
  shards : Nat -> Except String (List ShardInfo)
  relocating : Nat -> Except String Nat
  setExclusion : Nat -> WriteAnswer
  clearExclusion : WriteAnswer

/-- `GetShardsOnNode`: the listing has the shards of all nodes. -/
def getShardsOnNode (listing : Except String (List ShardInfo)) (nodeName : String) :
    Except String (List ShardInfo) :=
  listing.map fun shards => shards.filter fun shard => shard.node = nodeName

def getShardCount (listing : Except String (List ShardInfo)) (nodeName : String) : Except String Nat :=
  (getShardsOnNode listing nodeName).map length

def rounds (nodeNames : List String) : List (String × Nat) := nodeNames.zipIdx

/-- The loops which sum up the shards of the nodes.  A count that cannot be read is skipped. -/
def sumShardCounts (shards : Nat -> Except String (List ShardInfo)) :
    List (String × Nat) -> Int32 -> Int32
  | [], total => total
  | (nodeName, round) :: rest, total =>
    match getShardCount (shards round) nodeName with
    | .error _ => sumShardCounts shards rest total
    | .ok count => sumShardCounts shards rest (total + Int32.ofNat count)

/-- The count the drainer remembers, and the allocation exclusion in OpenSearch. -/
structure DrainStore where
  initialShardCount : Int32 := 0
  excluded : Option String := none

section Requests

variable {ε : Type}

def setAllocationExclusion (answer : WriteAnswer) (nodeName : String) : Proc DrainStore ε Unit := do
  modify fun store => if answer.applied then { store with excluded := some nodeName } else store
  ofExcept answer.toExcept

def clearAllocationExclusion (answer : WriteAnswer) : Proc DrainStore ε Unit := do
  modify fun store => if answer.applied then { store with excluded := none } else store
  ofExcept answer.toExcept

variable (answers : PoolAnswers)

/-- One round of the second loop of `StartNodePoolDrain`. -/
def excludeNode (entry : String × Nat) : Proc DrainStore ε Unit :=
  mapError ("failed to set allocation exclusion for " ++ entry.1 ++ ": " ++ ·)
    (setAllocationExclusion (answers.setExclusion entry.2) entry.1)

def startNodePoolDrain (nodeNames : List String) : Proc DrainStore ε Unit :=
  if nodeNames = [] then pure ()
  else do
    modify fun store =>
      { store with initialShardCount := sumShardCounts answers.shards (rounds nodeNames) 0 }
    forEach (excludeNode answers) (rounds nodeNames)

end Requests

/-! ## What a started drain excludes -/

section Exclusion

variable {ε : Type} (answers : PoolAnswers)

/-- The allocation exclusion covers each of the nodes, for a reading of the setting. -/
def ExcludesAll (covers : String -> String -> Prop) (nodeNames : List String) (store : DrainStore) : Prop :=
  ∀ nodeName ∈ nodeNames, ∃ setting, store.excluded = some setting ∧ covers setting nodeName

variable {answers} {entry : String × Nat} {store : DrainStore}

theorem excludeNode_of_ok (accepted : (answers.setExclusion entry.2).toExcept = .ok ()) :
    (excludeNode answers entry : Proc DrainStore ε Unit) store =
      ⟨.ok (), { store with excluded := some entry.1 }, []⟩ := by
  simp [excludeNode, setAllocationExclusion, accepted, WriteAnswer.applied_of_toExcept accepted]

theorem excludeNode_result_ok
    (returned : ((excludeNode answers entry : Proc DrainStore ε Unit) store).result = .ok ()) :
    (answers.setExclusion entry.2).toExcept = .ok () := by
  cases answer : answers.setExclusion entry.2 with
  | accepted => rfl
  | refused text | unacknowledged text =>
    simp [excludeNode, setAllocationExclusion, answer] at returned

theorem forEach_excludeNode_excluded (entries : List (String × Nat)) :
    forall store : DrainStore,
      (forEach (excludeNode answers : String × Nat -> Proc DrainStore ε Unit) entries store).result =
        .ok () ->
      (forEach (excludeNode answers : String × Nat -> Proc DrainStore ε Unit) entries store).state.excluded =
        (entries.getLast?.map Prod.fst).or store.excluded := by
  induction entries with
  | nil => exact fun _ _ => rfl
  | cons entry rest ih =>
    intro store returned
    rw [forEach, Proc.bind_apply] at returned ⊢
    cases told : ((excludeNode answers entry : Proc DrainStore ε Unit) store).result with
    | error =>
      rcases ran : (excludeNode answers entry : Proc DrainStore ε Unit) store with ⟨result, after, log⟩
      rw [ran] at told returned
      cases told
      cases returned
    | ok =>
      rw [excludeNode_of_ok (excludeNode_result_ok told)] at returned ⊢
      rw [getLast?_cons]
      refine (ih { store with excluded := some entry.1 } returned).trans ?_
      cases rest.getLast? <;> rfl

/-- A drain that was started has excluded the last of the nodes.  So all of them are covered
exactly when the last name covers them all. -/
theorem pool_drain_excludes_iff (covers : String -> String -> Prop) (answers : PoolAnswers)
    (nodeNames : List String) (store : DrainStore)
    (returned : ((startNodePoolDrain answers nodeNames : Proc DrainStore Event Unit) store).result = .ok ()) :
    ExcludesAll covers nodeNames
        ((startNodePoolDrain answers nodeNames : Proc DrainStore Event Unit) store).state <->
      ∀ nodeName ∈ nodeNames, ∀ last ∈ nodeNames.getLast?, covers last nodeName := by
  by_cases empty : nodeNames = []
  · subst empty
    exact iff_of_true (fun _ wrong => nomatch wrong) (fun _ wrong => nomatch wrong)
  · have left : ((startNodePoolDrain answers nodeNames : Proc DrainStore Event Unit) store).state.excluded =
        nodeNames.getLast? := by
      simp only [startNodePoolDrain, empty, if_false] at returned ⊢
      refine (forEach_excludeNode_excluded (rounds nodeNames) _ returned).trans ?_
      rw [← getLast?_map, rounds, zipIdx_map_fst]
      cases last : nodeNames.getLast? with
      | none => exact absurd (getLast?_eq_none_iff.mp last) empty
      | some => rfl
    rw [ExcludesAll, left]
    rcases getLast?_isSome.mpr empty |> Option.isSome_iff_exists.mp with ⟨last, found⟩
    simp [found]

end Exclusion

namespace Sample

def ListsNode (setting nodeName : String) : Prop := nodeName.toList ∈ setting.toList.splitOn ','

def accepting (shards : List ShardInfo) : PoolAnswers where
  health := .ok ⟨"green", 3⟩
  shards := fun _ => .ok shards
  relocating := fun _ => .ok 0
  setExclusion := fun _ => .accepted
  clearExclusion := .accepted

/-- The pods a pool of five nodes loses on its way to three. -/
def leavingPods : List String := ["wazuh-indexer-data-3", "wazuh-indexer-data-4"]

end Sample

/-- One node that leaves is covered, also where the list names it twice. -/
theorem pool_drain_excludes_iff_one :
    let nodeNames := replicate 2 "wazuh-indexer-data-2"
    ((startNodePoolDrain (accepting []) nodeNames : Proc DrainStore Event Unit) {}).result = .ok () ∧
      ExcludesAll ListsNode nodeNames
        ((startNodePoolDrain (accepting []) nodeNames : Proc DrainStore Event Unit) {}).state := by
  intro nodeNames
  refine ⟨rfl, (pool_drain_excludes_iff ListsNode _ _ _ rfl).mpr fun nodeName member last final => ?_⟩
  cases final
  rw [eq_of_mem_replicate member, ListsNode]
  decide +kernel

/-- Of two nodes that leave, only the second is excluded in the end. -/
theorem pool_drain_forgets_first_node :
    ((startNodePoolDrain (accepting []) leavingPods : Proc DrainStore Event Unit) {}).result =
        .ok () ∧
      ((startNodePoolDrain (accepting []) leavingPods : Proc DrainStore Event Unit) {}).state.excluded =
        some "wazuh-indexer-data-4" ∧
      ¬ ExcludesAll ListsNode leavingPods
        ((startNodePoolDrain (accepting []) leavingPods : Proc DrainStore Event Unit) {}).state := by
  refine ⟨rfl, rfl, fun all => ?_⟩
  rcases all "wazuh-indexer-data-3" (by decide) with ⟨setting, left, lists⟩
  cases left
  revert lists
  unfold ListsNode
  decide +kernel

/-! ## Watching the nodes -/

variable {nodeNames : List String}

section Watching

variable {ε : Type} (answers : PoolAnswers)

/-- The report of `MonitorNodePoolDrainProgress` about a number of nodes. -/
def poolProgress (initial : Int32) (nodes : Nat) (remaining : Int32) (relocating : Nat) :
    Indexer.DrainProgress :=
  let percent := if 0 < initial then (initial - remaining) * 100 / initial else 100
  let report : Indexer.DrainProgress :=
    { percent := percent, shardsRemaining := remaining, shardsRelocating := Int32.ofNat relocating,
      message := "", isComplete := false }
  if remaining = 0 ∧ relocating = 0 then
    { report with
      percent := 100
      message := "All shards relocated from " ++ toString nodes ++ " nodes"
      isComplete := true }
  else if 0 < relocating then
    { report with
      message := "Relocating shards: " ++ toString remaining.toInt ++ " remaining on nodes, " ++
        toString relocating ++ " currently relocating" }
  else
    { report with
      message := "Waiting for shard relocation: " ++ toString remaining.toInt ++
        " shards remaining across " ++ toString nodes ++ " nodes" }

def monitorNodePoolDrainProgress (nodeNames : List String) : Proc DrainStore ε Indexer.DrainProgress :=
  if nodeNames = [] then
    pure { percent := 100, shardsRemaining := 0, shardsRelocating := 0,
           message := "No nodes to drain", isComplete := true }
  else do
    let store ← read
    let remaining := sumShardCounts answers.shards (rounds nodeNames) 0
    let relocating ← mapError ("failed to check relocating shards: " ++ ·)
      (ofExcept (answers.relocating 0))
    return poolProgress store.initialShardCount nodeNames.length remaining relocating

def readShards (shards : Nat -> Except String (List ShardInfo)) (entries : List (String × Nat)) : Nat :=
  (entries.map fun entry => (getShardCount (shards entry.2) entry.1).toOption.getD 0).sum

def AllReadEmpty (shards : Nat -> Except String (List ShardInfo)) (nodeNames : List String) : Prop :=
  ∀ entry ∈ rounds nodeNames, getShardCount (shards entry.2) entry.1 = .ok 0

theorem sumShardCounts_eq (shards : Nat -> Except String (List ShardInfo)) (entries : List (String × Nat)) :
    forall total, sumShardCounts shards entries total = total + Int32.ofNat (readShards shards entries) := by
  induction entries with
  | nil => simp [sumShardCounts, readShards]
  | cons entry _ ih =>
    intro total
    rw [sumShardCounts, readShards, map_cons, sum_cons, Int32.ofNat_add]
    cases read : getShardCount (shards entry.2) entry.1 with
    | error =>
      rw [ih total]
      simp [Except.toOption, readShards]
    | ok =>
      simp only [Except.toOption, Option.getD_some]
      rw [ih, Int32.add_assoc]
      rfl

theorem int32_ofNat_eq_zero_iff (number : Nat) : Int32.ofNat number = 0 <-> 2 ^ 32 ∣ number := by
  rw [← Int32.toBitVec_inj, Int32.toBitVec_ofNat', Int32.toBitVec_zero, ← BitVec.toNat_inj,
    BitVec.toNat_ofNat]
  exact (Nat.dvd_iff_mod_eq_zero ..).symm

theorem poolProgress_isComplete (initial : Int32) (nodes : Nat) (remaining : Int32) (relocating : Nat) :
    (poolProgress initial nodes remaining relocating).isComplete <->
      remaining = 0 ∧ relocating = 0 := by
  unfold poolProgress
  by_cases done : remaining = 0 ∧ relocating = 0
  · simp [done]
  · by_cases moving : 0 < relocating <;> simp [done, moving]

def ReportsComplete (nodeNames : List String) (store : DrainStore) : Prop :=
  ∃ progress, ((monitorNodePoolDrainProgress answers nodeNames : Proc DrainStore Event _) store).result =
    .ok progress ∧ progress.isComplete = true

variable {answers}

theorem reportsComplete_iff (given : nodeNames ≠ []) (store : DrainStore) :
    ReportsComplete answers nodeNames store <->
      answers.relocating 0 = .ok 0 ∧ 2 ^ 32 ∣ readShards answers.shards (rounds nodeNames) := by
  unfold ReportsComplete
  simp only [monitorNodePoolDrainProgress, given, if_false]
  cases moving : answers.relocating 0 with
  | error => simp
  | ok =>
    rw [sumShardCounts_eq, Int32.zero_add]
    simp [poolProgress_isComplete, int32_ofNat_eq_zero_iff, and_comm]

/-- A report of completion rests on real readings exactly when all counts were read and zero, or
shards are relocating (or that cannot be read), or the counts that were read do not vanish in
32 bits. -/
theorem pool_completion_read_iff (answers : PoolAnswers) (nodeNames : List String) (store : DrainStore) :
    (ReportsComplete answers nodeNames store -> AllReadEmpty answers.shards nodeNames) <->
      AllReadEmpty answers.shards nodeNames ∨ answers.relocating 0 ≠ .ok 0 ∨
        ¬ 2 ^ 32 ∣ readShards answers.shards (rounds nodeNames) := by
  by_cases empty : nodeNames = []
  · subst empty
    have vacuous : AllReadEmpty answers.shards [] := fun _ wrong => nomatch wrong
    exact iff_of_true (fun _ => vacuous) (.inl vacuous)
  · rw [reportsComplete_iff empty, imp_iff_or_not, not_and_or]

end Watching

namespace Sample

def silent : PoolAnswers := { accepting [] with shards := fun _ => .error "timeout" }

end Sample

/-- Where no count can be read, the drain is reported complete. -/
theorem pool_completion_without_reading : ReportsComplete silent leavingPods {} ∧
      ¬ AllReadEmpty silent.shards leavingPods := by
  refine ⟨⟨_, rfl, by decide +kernel⟩, fun read => ?_⟩
  have first := read ("wazuh-indexer-data-3", 0) (by decide)
  cases first

/-! ## The last look -/

section Verification

variable (answers : PoolAnswers)

def hasRelocatingShards (round : Nat) : Except String Bool :=
  ((answers.relocating round).mapError ("failed to check relocating shards: " ++ ·)).map fun count => 0 < count

def verifyComplete (entry : String × Nat) : Except String Bool :=
  match getShardCount (answers.shards entry.2) entry.1 with
  | .error text => .error ("failed to verify drain completion: " ++ text)
  | .ok (_ + 1) => .ok false
  | .ok 0 => (hasRelocatingShards answers entry.2).map not

/-- The loop of `VerifyNodePoolDrainComplete`. -/
def verifyNodes : List (String × Nat) -> Except String Bool
  | [] => .ok true
  | entry :: rest =>
    match verifyComplete answers entry with
    | .error text => .error text
    | .ok false => .ok false
    | .ok true => verifyNodes rest

def verifyNodePoolDrainComplete (nodeNames : List String) : Except String Bool :=
  match verifyNodes answers (rounds nodeNames) with
  | .error text => .error text
  | .ok false => .ok false
  | .ok true => (hasRelocatingShards answers nodeNames.length).map not

end Verification

def cancelDrain {ε : Type} (answers : PoolAnswers) : Proc DrainStore ε Unit :=
  mapError ("failed to clear allocation exclusion: " ++ ·) (clearAllocationExclusion answers.clearExclusion)

/-- `GetNodePoolScaleDownTargets`, by the name of the StatefulSet. -/
def getNodePoolScaleDownTargets (stsName : String) (currentReplicas desiredReplicas : Nat) : List String :=
  (range' desiredReplicas (currentReplicas - desiredReplicas)).map (podName stsName)

end NodePools
end WazuhOperator
