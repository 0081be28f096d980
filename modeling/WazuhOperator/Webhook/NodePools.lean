import Mathlib.Algebra.Order.BigOperators.Group.List
import WazuhOperator.Webhook.Cluster

namespace WazuhOperator
namespace Webhook

open List

/-!
# The two validators of node pools

The controller checks the node pools of an indexer once more before it
reconciles them (`internal/opensearch/validation/nodepool_validator.go`).  Its
rules are those of the webhook, except for the length of a name, for which it
has the bound of the schema of the resource.  Both add up replicas in 32 bits,
and ask for a quorum only if some pool has the role.
-/

/-! ## `ValidateNodePools` -/

structure ValidationError where
  (field message : String)

def complain (condition : Bool) (field message : String) : List ValidationError :=
  if condition then [⟨field, message⟩] else []

def minClusterManagerNodes : Int32 := 3

def minDataNodes : Int32 := 1

def maxNodePoolNameLength : Nat := 15

def IndexerNodeRole.text : IndexerNodeRole -> String
  | .clusterManager => "cluster_manager"
  | .data => "data"
  | .ingest => "ingest"
  | .search => "search"
  | .coordinatingOnly => "coordinating_only"
  | .ml => "ml"
  | .remoteClusterClient => "remote_cluster_client"

def openSearchRoleList : List String :=
  ["cluster_manager", "data", "ingest", "search", "coordinating_only", "ml", "remote_cluster_client"]

def isValidRole (role : IndexerNodeRole) : Bool := openSearchRoleList.contains role.text

def roleErrors (path : String) (index : Nat) : List IndexerNodeRole -> List ValidationError
  | [] => []
  | role :: rest =>
    complain (!isValidRole role) (path ++ ".roles[" ++ toString index ++ "]")
      ("invalid role '" ++ role.text ++ "'; valid roles are: [" ++ " ".intercalate openSearchRoleList ++ "]") ++
    roleErrors path (index + 1) rest

/-- `ValidateNodePoolSpec`, without its warnings. -/
def validateNodePoolSpec (pool : IndexerNodePoolSpec) (path : String) : List ValidationError :=
  (if pool.name = "" then [⟨path ++ ".name", "name is required"⟩]
  else
    complain (!nodePoolNameRegex pool.name) (path ++ ".name") ("name must be DNS-compatible " ++
      "(lowercase alphanumeric, may contain hyphens, must start and end with alphanumeric)") ++
    complain (maxNodePoolNameLength < pool.name.utf8ByteSize) (path ++ ".name")
      ("name must be at most " ++ toString maxNodePoolNameLength ++ " characters; got " ++
        toString pool.name.utf8ByteSize)) ++
  complain (pool.replicas < 0) (path ++ ".replicas") "replicas cannot be negative" ++
  roleErrors path 0 pool.roles

def poolErrors (seenNames : List String) (index : Nat) : List IndexerNodePoolSpec -> List ValidationError
  | [] => []
  | pool :: rest =>
    let path := "spec.indexer.nodePools[" ++ toString index ++ "]"
    validateNodePoolSpec pool path ++
    complain (seenNames.contains pool.name) (path ++ ".name")
      ("duplicate nodePool name '" ++ pool.name ++ "'; each nodePool must have a unique name") ++
    poolErrors (pool.name :: seenNames) (index + 1) rest

def countReplicas (role : IndexerNodeRole) (pools : List IndexerNodePoolSpec) (count : Int32) : Int32 :=
  pools.foldl (fun count pool => if pool.hasRole role then count + pool.replicas else count) count

def understaffed (role : IndexerNodeRole) (minimum : Int32) (pools : List IndexerNodePoolSpec) : Bool :=
  pools.any (·.hasRole role) && countReplicas role pools 0 < minimum

def quorumErrors (pools : List IndexerNodePoolSpec) : List ValidationError :=
  complain (understaffed .clusterManager minClusterManagerNodes pools) "spec.indexer.nodePools"
    ("cluster_manager role requires at least " ++ toString minClusterManagerNodes ++
      " nodes for quorum; found " ++ toString (countReplicas .clusterManager pools 0))

/-- `ValidateNodePools`: the errors. -/
def nodePoolErrors (spec : WazuhIndexerClusterSpec) : List ValidationError :=
  if 0 < spec.replicas ∧ spec.nodePools ≠ [] then
    [⟨"spec.indexer", "replicas and nodePools are mutually exclusive; use either replicas (simple mode) " ++
      "or nodePools (advanced mode), not both"⟩]
  else if !spec.isAdvancedMode then []
  else
    poolErrors [] 0 spec.nodePools ++ quorumErrors spec.nodePools ++
    complain (understaffed .data minDataNodes spec.nodePools) "spec.indexer.nodePools"
      ("at least " ++ toString minDataNodes ++ " data node is required; found " ++
        toString (countReplicas .data spec.nodePools 0))

/-! ## The rules -/

/-- What both validators ask of each pool, given the limit for names and the names seen before. -/
def PoolsFit (limit : Nat) (seenNames : List String) (pools : List IndexerNodePoolSpec) : Prop :=
  (∀ pool ∈ pools, pool.name ≠ "" ∧ nodePoolNameRegex pool.name = true ∧ pool.name.utf8ByteSize ≤ limit ∧
    0 ≤ pool.replicas ∧ pool.name ∉ seenNames) ∧ (pools.map (·.name)).Nodup

/-- The rules of the validators, given the limit for names. -/
def MeetsRules (limit : Nat) (spec : WazuhIndexerClusterSpec) : Prop :=
  ¬ (0 < spec.replicas ∧ spec.nodePools ≠ []) ∧ PoolsFit limit [] spec.nodePools ∧
    understaffed .clusterManager 3 spec.nodePools = false ∧ understaffed .data 1 spec.nodePools = false

theorem poolsFit_cons : PoolsFit limit seenNames (pool :: rest) <->
      (pool.name ≠ "" ∧ nodePoolNameRegex pool.name ∧ pool.name.utf8ByteSize ≤ limit ∧
        0 ≤ pool.replicas ∧ pool.name ∉ seenNames) ∧ PoolsFit limit (pool.name :: seenNames) rest := by
  simp only [PoolsFit, map_cons, nodup_cons, mem_map, mem_cons]
  grind

@[simp]
theorem complain_eq_nil :
    complain condition field message = [] <-> condition = false := by
  cases condition <;> simp [complain]

/-- The schema lets in the roles of the list only, so that their check finds nothing. -/
@[simp]
theorem roleErrors_eq_nil (path : String) (index : Nat) (roles : List IndexerNodeRole) :
    roleErrors path index roles = [] := by
  induction roles generalizing index with
  | nil => rfl
  | cons role rest ih =>
    rw [roleErrors, ih, append_nil, complain_eq_nil]
    cases role <;> decide +kernel

theorem poolErrors_eq_nil (pools : List IndexerNodePoolSpec) : forall seenNames index,
    poolErrors seenNames index pools = [] <-> PoolsFit maxNodePoolNameLength seenNames pools := by
  induction pools with
  | nil => simp [poolErrors, PoolsFit]
  | cons pool rest ih =>
    intro seenNames index
    rw [poolErrors, poolsFit_cons, append_eq_nil_iff, append_eq_nil_iff, ih, validateNodePoolSpec]
    by_cases empty : pool.name = ""
    · simp [empty]
    · simp [empty, and_assoc]

theorem nodePoolErrors_eq_nil (spec : WazuhIndexerClusterSpec) :
    nodePoolErrors spec = [] <-> MeetsRules maxNodePoolNameLength spec := by
  rw [nodePoolErrors, MeetsRules]
  split
  · next both => simp [both]
  · next apart =>
      cases pools : spec.nodePools with
      | nil => simp [WazuhIndexerClusterSpec.isAdvancedMode, pools, PoolsFit, understaffed]
      | cons =>
        have simple : spec.replicas ≤ 0 := by simpa [pools] using apart
        simp [WazuhIndexerClusterSpec.isAdvancedMode, pools, poolErrors_eq_nil, quorumErrors,
          minClusterManagerNodes, minDataNodes, simple]

@[simp]
theorem errors_append (first second : Findings) : (first ++ second).errors = first.errors ++ second.errors := rfl

@[simp]
theorem errors_warn (condition : Bool) (text : String) : (warn condition text).errors = [] := by
  cases condition <;> rfl

@[simp]
theorem errors_reject (condition : Bool) (text : String) :
    (reject condition text).errors = [] <-> condition = false := by
  cases condition <;> simp [reject]

theorem foldl_visit (pools : List IndexerNodePoolSpec) : forall index (scan : PoolScan),
    let after := (pools.zipIdx index).foldl PoolScan.visit scan
    (after.findings.errors = [] <-> scan.findings.errors = [] ∧ PoolsFit 63 scan.seenNames pools) ∧
      after.clusterManagerCount = countReplicas .clusterManager pools scan.clusterManagerCount ∧
      after.dataNodeCount = countReplicas .data pools scan.dataNodeCount ∧
      after.hasClusterManagerRole = (scan.hasClusterManagerRole || pools.any (·.hasRole .clusterManager)) ∧
      after.hasDataRole = (scan.hasDataRole || pools.any (·.hasRole .data)) := by
  induction pools with
  | nil => simp [PoolsFit, countReplicas]
  | cons pool rest ih =>
    intro index scan
    obtain ⟨errors, managers, data, hasManagers, hasData⟩ := ih (index + 1) (scan.visit (pool, index))
    dsimp only
    rw [zipIdx_cons, foldl_cons, errors, managers, data, hasManagers, hasData, any_cons, any_cons, poolsFit_cons]
    refine ⟨?_, rfl, rfl, Bool.or_assoc .., Bool.or_assoc ..⟩
    by_cases empty : pool.name = ""
    · simp [PoolScan.visit, validatePoolName, empty]
    · simp only [PoolScan.visit, validatePoolName, empty, if_false, errors_append, append_eq_nil_iff,
        errors_reject, errors_warn, decide_eq_false_iff_not]
      grind

theorem validateIndexerSpec_accepts_iff (spec : WazuhIndexerClusterSpec) :
    (validateIndexerSpec { spec with exposure := {} }).errors = [] <-> MeetsRules 63 spec := by
  rw [validateIndexerSpec, MeetsRules]
  split
  · next both => simp_all
  · next apart =>
      cases pools : spec.nodePools with
      | nil =>
        have positive : 0 < spec.replicas -> 1 ≤ spec.replicas := by
          exact id
        by_cases simple : 0 < spec.replicas
        · simp [WazuhIndexerClusterSpec.isSimpleMode, WazuhIndexerClusterSpec.isAdvancedMode, simple,
            positive simple, PoolsFit, understaffed, validateGatewayAPIConfig]
        · simp [WazuhIndexerClusterSpec.isSimpleMode, WazuhIndexerClusterSpec.isAdvancedMode, simple,
            PoolsFit, understaffed, validateGatewayAPIConfig, -Int32.not_lt]
      | cons pool rest =>
        obtain ⟨errors, managers, data, hasManagers, hasData⟩ := foldl_visit (pool :: rest) 0 {}
        simp_all [WazuhIndexerClusterSpec.isSimpleMode, WazuhIndexerClusterSpec.isAdvancedMode, validateNodePools,
          understaffed, validateGatewayAPIConfig]

theorem utf8ByteSize_of_ascii {text : String} (plain : ∀ letter ∈ text.toList, letter.utf8Size = 1) :
    text.utf8ByteSize = text.length := by
  rw [<- String.length_toList, <- @String.ofList_toList text]
  generalize text.toList = letters at plain
  induction letters with
  | nil => rfl
  | cons letter rest ih =>
    have split : String.ofList (letter :: rest) = String.singleton letter ++ String.ofList rest :=
      String.toList_injective (by simp)
    rw [split, String.utf8ByteSize_append, ih fun other inside => plain other (mem_cons_of_mem _ inside)]
    simp [plain letter mem_cons_self, Nat.add_comm]

theorem nodePoolNameRegex_ascii (fits : nodePoolNameRegex name) : name.utf8ByteSize = name.length := by
  refine utf8ByteSize_of_ascii fun letter inside => Char.utf8Size_eq_one_iff.mpr ?_
  have allowed := all_eq_true.mp (Bool.and_eq_true_iff.mp fits).2 letter inside
  simp only [isLowerAlphanumeric, Bool.or_eq_true, beq_iff_eq] at allowed
  rcases allowed with (lower | digit) | rfl
  · exact UInt32.le_trans (of_decide_eq_true (Bool.and_eq_true_iff.mp lower).2) (by decide)
  · exact UInt32.le_trans (of_decide_eq_true (Bool.and_eq_true_iff.mp digit).2) (by decide)
  · decide

/-- The names of the pools are no longer than the schema of the resource allows.  Its bound is one
on characters, those of the validators are on bytes. -/
def WithinSchema (spec : WazuhIndexerClusterSpec) : Prop := ∀ pool ∈ spec.nodePools, pool.name.length ≤ 15

/-- On every specification which the schema lets through, the two validators agree. -/
theorem pool_validators_agree (spec : WazuhIndexerClusterSpec) (schema : WithinSchema spec) :
    (validateIndexerSpec { spec with exposure := {} }).errors = [] <-> nodePoolErrors spec = [] := by
  have short : PoolsFit 63 [] spec.nodePools <-> PoolsFit maxNodePoolNameLength [] spec.nodePools := by
    refine and_congr_left fun _ => forall₂_congr fun pool inside => ?_
    refine and_congr_right fun _ => and_congr_right fun fits => and_congr_left fun _ => ?_
    have bound := schema pool inside
    rw [nodePoolNameRegex_ascii fits, maxNodePoolNameLength]
    omega
  rw [validateIndexerSpec_accepts_iff, nodePoolErrors_eq_nil, MeetsRules, MeetsRules, short]

theorem pool_validators_agree_two_pools :
    let spec : WazuhIndexerClusterSpec :=
      { nodePools := [{ name := "cluster-manager", replicas := 3, roles := [.clusterManager] },
          { name := "hot", replicas := 2, roles := [.data, .ingest] }] }
    (validateIndexerSpec { spec with exposure := {} }).errors = [] ∧ nodePoolErrors spec = [] := by
  intro spec
  have schema : WithinSchema spec := by
    unfold WithinSchema
    decide +kernel
  have agree := pool_validators_agree spec schema
  exact ⟨by decide +kernel, agree.mp (by decide +kernel)⟩

/-! ## The quorum -/

def total (role : IndexerNodeRole) (pools : List IndexerNodePoolSpec) : Int :=
  ((pools.filter (·.hasRole role)).map (·.replicas.toInt)).sum

theorem countReplicas_toInt (role : IndexerNodeRole) (pools : List IndexerNodePoolSpec) : forall count,
    (countReplicas role pools count).toInt = (count.toInt + total role pools).bmod (2 ^ 32) := by
  induction pools with
  | nil => simp [countReplicas, total]
  | cons pool rest ih =>
    intro count
    rw [countReplicas, foldl_cons]
    have rest := ih (if pool.hasRole role then count + pool.replicas else count)
    rw [countReplicas] at rest
    rw [rest]
    by_cases has : pool.hasRole role
    · simp [has, total, Int32.toInt_add, Int.add_assoc]
    · simp [has, total]

theorem total_of_none (absent : pools.any (·.hasRole role) = false) : total role pools = 0 := by
  rw [total, filter_eq_nil_iff.mpr (by simpa using absent)]
  rfl

/-- The test of the quorum, by the remainder which 32 bits keep of the total. -/
theorem understaffed_eq_false_iff (pools : List IndexerNodePoolSpec) :
    understaffed .clusterManager 3 pools = false <-> (pools.any (·.hasRole .clusterManager) ->
      3 ≤ total .clusterManager pools % 2 ^ 32 ∧ total .clusterManager pools % 2 ^ 32 < 2 ^ 31) := by
  have enough : ¬ countReplicas .clusterManager pools 0 < 3 <->
      3 ≤ total .clusterManager pools % 2 ^ 32 ∧ total .clusterManager pools % 2 ^ 32 < 2 ^ 31 := by
    rw [Int32.lt_iff_toInt_lt, countReplicas_toInt, show Int32.toInt 0 = 0 from rfl, Int.zero_add,
      show Int32.toInt 3 = 3 from rfl, Int.bmod]
    split <;> omega
  rw [understaffed, Bool.and_eq_false_imp, decide_eq_false_iff_not, enough]

/-- An accepted specification has a quorum, and the test of the quorum fails for no larger total. -/
def QuorumSound (spec : WazuhIndexerClusterSpec) : Prop :=
  (nodePoolErrors spec = [] -> 3 ≤ total .clusterManager spec.nodePools) ∧
    (3 ≤ total .clusterManager spec.nodePools -> quorumErrors spec.nodePools = [])

/-- Node pools are checked for a quorum soundly if and only if, where they meet the rules, one of them
has the role, and a total which is large enough is so in 32 bits. -/
theorem quorum_sound_iff (spec : WazuhIndexerClusterSpec) :
    (spec.isAdvancedMode = true -> QuorumSound spec) <->
      (spec.isAdvancedMode = true ->
        (MeetsRules 15 spec -> spec.nodePools.any (·.hasRole .clusterManager) = true) ∧
        (3 ≤ total .clusterManager spec.nodePools ->
          3 ≤ total .clusterManager spec.nodePools % 2 ^ 32 ∧
            total .clusterManager spec.nodePools % 2 ^ 32 < 2 ^ 31)) := by
  have present (large : 3 ≤ total .clusterManager spec.nodePools) :
      spec.nodePools.any (·.hasRole .clusterManager) := by
    by_contra absent
    rw [total_of_none (by simpa using absent)] at large
    omega
  refine imp_congr_right fun _ => and_congr ?_ ?_
  · rw [nodePoolErrors_eq_nil]
    refine ⟨fun enough fits => present (enough fits), fun staffed fits => ?_⟩
    have tested := (understaffed_eq_false_iff _).mp fits.2.2.1 (staffed fits)
    have nonneg : 0 ≤ total .clusterManager spec.nodePools := by
      refine sum_nonneg fun count member => ?_
      obtain ⟨pool, inside, rfl⟩ := mem_map.mp member
      exact Int32.le_iff_toInt_le.mp (fits.2.1.1 pool (mem_of_mem_filter inside)).2.2.2.1
    omega
  · refine imp_congr_right fun large => ?_
    rw [quorumErrors, complain_eq_nil, minClusterManagerNodes, understaffed_eq_false_iff]
    exact ⟨fun passes => passes (present large), fun fits _ => fits⟩

/-- Pools without the role are accepted, and no cluster manager is among them. -/
theorem no_cluster_manager_accepted :
    let spec : WazuhIndexerClusterSpec := { nodePools := [{ name := "data", replicas := 3, roles := [.data] }] }
    spec.isAdvancedMode ∧ nodePoolErrors spec = [] ∧ total .clusterManager spec.nodePools = 0 := by
  decide +kernel

end Webhook
end WazuhOperator
