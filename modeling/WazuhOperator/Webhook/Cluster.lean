import Mathlib.Algebra.Ring.Int.Defs
import Mathlib.Order.Basic

namespace WazuhOperator
namespace Webhook

/-!
# The admission webhooks of a WazuhCluster

`api/v1/wazuhcluster_webhook.go`, with the helpers of `wazuhcluster_types.go`
and `nodepool_types.go` it calls.  The validator collects the errors and the
warnings of all parts of a specification; an update is refused as well where
the validator of updates finds that a mode would change.
-/

/-! ## The specification, as far as the webhooks read it -/

structure ComponentRef where
  name : String
  nspace : String := ""
  deriving DecidableEq

/-- `v1.GatewayAPISpec`.  Of the reference to the gateway its name is read. -/
structure GatewayAPISpec where
  enabled : Bool := false
  gatewayRef : Option String := none

structure IngressSpec where
  enabled : Bool := false

/-- How a component is reached from outside. -/
structure Exposure where
  gatewayAPI : Option GatewayAPISpec := none
  ingress : Option IngressSpec := none

structure LogRotationSpec where
  enabled : Bool := false
  retentionDays : Option Int32 := none

structure WazuhManagerClusterSpec where
  master : Exposure := {}
  workerReplicas : Option Int32 := none
  workers : Exposure := {}
  logRotation : Option LogRotationSpec := none

inductive IndexerNodeRole where
  | clusterManager
  | data
  | ingest
  | search
  | coordinatingOnly
  | ml
  | remoteClusterClient
  deriving DecidableEq

structure IndexerNodePoolSpec where
  name : String
  replicas : Int32
  roles : List IndexerNodeRole := []

structure WazuhIndexerClusterSpec where
  replicas : Int32 := 0
  nodePools : List IndexerNodePoolSpec := []
  exposure : Exposure := {}

structure WazuhDashboardClusterSpec where
  replicas : Int32 := 0
  exposure : Exposure := {}

/-- `v1.CustomCertsConfig`.  Of the reference to the CA its name is read. -/
structure CustomCertsConfig where
  caSecretRef : Option String := none

structure TLSConfig where
  enabled : Option Bool := none
  customCerts : Option CustomCertsConfig := none

/-- `v1.IndexerDrainConfig`, with durations in nanoseconds. -/
structure IndexerDrainConfig where
  (timeout healthCheckInterval : Option Int := none)

structure ManagerDrainConfig where
  timeout : Option Int := none

structure DrainRetryConfig where
  maxAttempts : Int32 := 0

structure DrainConfiguration where
  indexer : Option IndexerDrainConfig := none
  manager : Option ManagerDrainConfig := none
  retry : Option DrainRetryConfig := none

structure WazuhClusterSpec where
  version : String
  manager : Option WazuhManagerClusterSpec := none
  managerRef : Option ComponentRef := none
  indexer : Option WazuhIndexerClusterSpec := none
  indexerRef : Option ComponentRef := none
  dashboard : Option WazuhDashboardClusterSpec := none
  dashboardRef : Option ComponentRef := none
  tls : Option TLSConfig := none
  drain : Option DrainConfiguration := none

structure WazuhCluster where
  nspace : String
  spec : WazuhClusterSpec

/-! ## Modes and counts -/

def WazuhCluster.isInlineMode (cluster : WazuhCluster) : Bool :=
  cluster.spec.manager.isSome || cluster.spec.indexer.isSome || cluster.spec.dashboard.isSome

def WazuhCluster.isReferenceMode (cluster : WazuhCluster) : Bool :=
  cluster.spec.managerRef.isSome || cluster.spec.indexerRef.isSome || cluster.spec.dashboardRef.isSome

def WazuhCluster.isMixedMode (cluster : WazuhCluster) : Bool :=
  cluster.isInlineMode && cluster.isReferenceMode

def WazuhIndexerClusterSpec.isAdvancedMode (spec : WazuhIndexerClusterSpec) : Bool :=
  !spec.nodePools.isEmpty

def WazuhIndexerClusterSpec.isSimpleMode (spec : WazuhIndexerClusterSpec) : Bool :=
  0 < spec.replicas && spec.nodePools.isEmpty

/-- The pools are counted where there are some. -/
def WazuhIndexerClusterSpec.getTotalReplicas (spec : WazuhIndexerClusterSpec) : Int32 :=
  if spec.isAdvancedMode then (spec.nodePools.map IndexerNodePoolSpec.replicas).foldl (· + ·) 0
  else spec.replicas

def WazuhManagerClusterSpec.workersGetReplicas (spec : WazuhManagerClusterSpec) : Int32 :=
  spec.workerReplicas.getD 2

/-- The master counts as one node. -/
def WazuhManagerClusterSpec.isHA (spec : WazuhManagerClusterSpec) : Bool :=
  3 ≤ 1 + spec.workersGetReplicas

def IndexerNodePoolSpec.hasRole (pool : IndexerNodePoolSpec) (role : IndexerNodeRole) : Bool :=
  pool.roles.contains role

def IndexerNodePoolSpec.hasClusterManagerRole (pool : IndexerNodePoolSpec) : Bool :=
  pool.hasRole .clusterManager

def IndexerNodePoolSpec.hasDataRole (pool : IndexerNodePoolSpec) : Bool :=
  pool.hasRole .data

/-! ## The validators of the parts -/

/-- What a validator returns. -/
structure Findings where
  (errors warnings : List String := [])

/-- Both lists are appended to as the parts are visited. -/
instance : Append Findings where
  append first second :=
    { errors := first.errors ++ second.errors, warnings := first.warnings ++ second.warnings }

def reject (condition : Bool) (text : String) : Findings :=
  if condition then { errors := [text] } else {}

def warn (condition : Bool) (text : String) : Findings :=
  if condition then { warnings := [text] } else {}

/-- A part which is not set is not looked at. -/
def findingsOf {α : Type} (part : Option α) (validate : α -> Findings) : Findings :=
  match part with
  | none => {}
  | some value => validate value

/-- What `versionRegex` matches: three runs of digits with dots between them. -/
def versionRegex (version : String) : Bool :=
  let parts := version.toList.splitOn '.'
  parts.length == 3 && parts.all fun part => !part.isEmpty && part.all Char.isDigit

/-- `validateVersion`, with the path which its caller puts before the error. -/
def validateVersion (version : String) : Findings :=
  if version = "" then { errors := ["spec.version: version is required"] }
  else reject (!versionRegex version) "spec.version: version must be in semver format (e.g., 4.9.0)"

def validateGatewayAPIConfig (exposure : Exposure) (path : String) : Findings :=
  let ingressEnabled := exposure.ingress.any IngressSpec.enabled
  match exposure.gatewayAPI with
  | none => {}
  | some gatewayAPI =>
    if gatewayAPI.enabled then
      reject ingressEnabled
        (path ++ ": gatewayAPI and ingress are mutually exclusive; only one can be enabled") ++
      match gatewayAPI.gatewayRef with
      | none => reject true (path ++ ".gatewayAPI.gatewayRef: is required when gatewayAPI is enabled")
      | some name => reject (name == "") (path ++ ".gatewayAPI.gatewayRef.name: cannot be empty")
    else {}

def validateManagerSpec (spec : WazuhManagerClusterSpec) : Findings :=
  reject (spec.workerReplicas.any (· < 0)) "spec.manager.workers.replicas: cannot be negative" ++
  warn (!spec.isHA)
    "manager cluster has fewer than 3 nodes; consider adding workers for high availability" ++
  findingsOf spec.logRotation (fun rotation =>
    reject (rotation.enabled && rotation.retentionDays.any (· < 1))
      "spec.manager.logRotation.retentionDays: must be at least 1") ++
  validateGatewayAPIConfig spec.master "spec.manager.master" ++
  validateGatewayAPIConfig spec.workers "spec.manager.workers"

/-- A character which a name of a node pool may begin and end with. -/
def isLowerAlphanumeric (c : Char) : Bool := c.isLower || c.isDigit

/-- What `nodePoolNameRegex` matches. -/
def nodePoolNameRegex (name : String) : Bool :=
  let chars := name.toList
  chars.head?.any isLowerAlphanumeric && chars.getLast?.any isLowerAlphanumeric &&
    chars.all fun c => isLowerAlphanumeric c || c == '-'

/-- The variables which the loop of `validateNodePools` carries from pool to pool. -/
structure PoolScan where
  seenNames : List String := []
  (clusterManagerCount dataNodeCount : Int32 := 0)
  (hasClusterManagerRole hasDataRole : Bool := false)
  findings : Findings := {}

/-- The part of the loop body which looks at the name. -/
def validatePoolName (seenNames : List String) (path name : String) : Findings :=
  if name = "" then { errors := [path ++ ".name: is required"] }
  else
    reject (!nodePoolNameRegex name)
      (path ++ ".name: must be DNS-compatible (lowercase alphanumeric with hyphens)") ++
    reject (63 < name.utf8ByteSize) (path ++ ".name: must be at most 63 characters") ++
    reject (seenNames.contains name) (path ++ ".name: duplicate name '" ++ name ++ "'")

/-- The loop body of `validateNodePools`. -/
def PoolScan.visit (scan : PoolScan) (entry : IndexerNodePoolSpec × Nat) : PoolScan :=
  let (pool, index) := entry
  let path := "spec.indexer.nodePools[" ++ toString index ++ "]"
  { seenNames := if pool.name = "" then scan.seenNames else pool.name :: scan.seenNames
    clusterManagerCount :=
      if pool.hasClusterManagerRole then scan.clusterManagerCount + pool.replicas
      else scan.clusterManagerCount
    dataNodeCount := if pool.hasDataRole then scan.dataNodeCount + pool.replicas else scan.dataNodeCount
    hasClusterManagerRole := scan.hasClusterManagerRole || pool.hasClusterManagerRole
    hasDataRole := scan.hasDataRole || pool.hasDataRole
    findings := scan.findings ++ validatePoolName scan.seenNames path pool.name ++
      reject (pool.replicas < 0) (path ++ ".replicas: cannot be negative") ++
      warn (pool.hasClusterManagerRole && pool.hasDataRole)
        ("nodePool '" ++ pool.name ++
          "' has both cluster_manager and data roles; consider separating for production") }

/-- `validateNodePools`.  The counts are those of the code, in 32 bits. -/
def validateNodePools (pools : List IndexerNodePoolSpec) : Findings :=
  if pools.isEmpty then { errors := ["spec.indexer.nodePools: at least one nodePool must be defined"] }
  else
    let scan := pools.zipIdx.foldl PoolScan.visit {}
    scan.findings ++
    reject (scan.hasClusterManagerRole && scan.clusterManagerCount < 3)
      ("spec.indexer.nodePools: cluster_manager role requires at least 3 nodes for quorum; found " ++
        toString scan.clusterManagerCount) ++
    reject (scan.hasDataRole && scan.dataNodeCount < 1)
      ("spec.indexer.nodePools: at least 1 data node is required; found " ++
        toString scan.dataNodeCount) ++
    warn (!scan.hasDataRole) "no nodePool has the data role; cluster will not be able to store data"

def validateIndexerSpec (spec : WazuhIndexerClusterSpec) : Findings :=
  if 0 < spec.replicas ∧ spec.nodePools ≠ [] then
    { errors := ["spec.indexer: replicas and nodePools are mutually exclusive"] }
  else
    (if spec.isSimpleMode then
      reject (spec.replicas < 1) "spec.indexer.replicas: must be at least 1" ++
      warn (spec.replicas < 3) "indexer has fewer than 3 replicas; consider 3+ for high availability"
    else {}) ++
    (if spec.isAdvancedMode then validateNodePools spec.nodePools else {}) ++
    validateGatewayAPIConfig spec.exposure "spec.indexer"

def validateDashboardSpec (spec : WazuhDashboardClusterSpec) : Findings :=
  reject (spec.replicas < 1) "spec.dashboard.replicas: must be at least 1" ++
  validateGatewayAPIConfig spec.exposure "spec.dashboard"

def validateTLSConfig (tls : TLSConfig) : Findings :=
  findingsOf tls.customCerts fun customCerts =>
    match customCerts.caSecretRef with
    | none => reject true
        "spec.tls.customCerts.caSecretRef: is required when customCerts is configured"
    | some name => reject (name == "") "spec.tls.customCerts.caSecretRef.name: cannot be empty"

def validateDrainConfig (drain : DrainConfiguration) : Findings :=
  findingsOf drain.indexer (fun indexer =>
    reject (indexer.timeout.any (· < 0)) "spec.drain.indexer.timeout: cannot be negative" ++
    reject (indexer.healthCheckInterval.any (· < 0))
      "spec.drain.indexer.healthCheckInterval: cannot be negative") ++
  findingsOf drain.manager (fun manager =>
    reject (manager.timeout.any (· < 0)) "spec.drain.manager.timeout: cannot be negative") ++
  findingsOf drain.retry (fun retry =>
    reject (retry.maxAttempts < 0) "spec.drain.retry.maxAttempts: cannot be negative")

/-! ## The validator of a cluster -/

def validateInlineMode (spec : WazuhClusterSpec) : Findings :=
  findingsOf spec.manager validateManagerSpec ++
  findingsOf spec.indexer validateIndexerSpec ++
  findingsOf spec.dashboard validateDashboardSpec

/-- `validateReferenceMode`.  Its first check never finds anything: it is called in
reference mode only. -/
def validateReferenceMode (spec : WazuhClusterSpec) : Findings :=
  reject (spec.managerRef.isNone && spec.indexerRef.isNone && spec.dashboardRef.isNone)
    "spec: at least one component reference must be provided in reference mode" ++
  reject (spec.managerRef.any (·.name == "")) "spec.managerRef.name: cannot be empty" ++
  reject (spec.indexerRef.any (·.name == "")) "spec.indexerRef.name: cannot be empty" ++
  reject (spec.dashboardRef.any (·.name == "")) "spec.dashboardRef.name: cannot be empty"

/-- A reference into another namespace. -/
def crossesNamespace (cluster : WazuhCluster) (ref : Option ComponentRef) : Bool :=
  ref.any fun ref => ref.nspace != "" && ref.nspace != cluster.nspace

def validateMultiClusterIsolation (cluster : WazuhCluster) : Findings :=
  warn (crossesNamespace cluster cluster.spec.managerRef ||
      crossesNamespace cluster cluster.spec.indexerRef ||
      crossesNamespace cluster cluster.spec.dashboardRef)
    "cross-namespace references detected; ensure RBAC allows the operator to access referenced namespaces"

/-- The pair `(warnings, error)`. -/
structure Response where
  warnings : List String
  error : Option String

/-- Warnings do not refuse a request. -/
def Response.admits (response : Response) : Bool := response.error.isNone

/-- The body of `validateWazuhCluster`, part by part. -/
def findings (cluster : WazuhCluster) : Findings :=
  validateVersion cluster.spec.version ++
  reject cluster.isMixedMode
    ("spec: cannot mix inline configuration (manager, indexer, dashboard) with references " ++
      "(managerRef, indexerRef, dashboardRef)") ++
  (if cluster.isInlineMode then validateInlineMode cluster.spec else {}) ++
  (if cluster.isReferenceMode then validateReferenceMode cluster.spec else {}) ++
  findingsOf cluster.spec.tls validateTLSConfig ++
  findingsOf cluster.spec.drain validateDrainConfig ++
  validateMultiClusterIsolation cluster

def validateWazuhCluster (cluster : WazuhCluster) : Response :=
  let found := findings cluster
  { warnings := found.warnings
    error := if found.errors.isEmpty then none
      else some ("validation failed: [" ++ " ".intercalate found.errors ++ "]") }

/-- The refusals of `validateUpdate`, in the order in which they are looked for. -/
def updateError (oldCluster newCluster : WazuhCluster) : Option String :=
  if oldCluster.isInlineMode && newCluster.isReferenceMode then
    some "spec: cannot transition from inline mode to reference mode"
  else if oldCluster.isReferenceMode && newCluster.isInlineMode then
    some "spec: cannot transition from reference mode to inline mode"
  else
    match oldCluster.spec.indexer, newCluster.spec.indexer with
    | some old, some new =>
      if old.isSimpleMode && new.isAdvancedMode then
        some ("spec.indexer: cannot transition from simple mode to advanced mode; " ++
          "create a new cluster for the desired topology")
      else if old.isAdvancedMode && new.isSimpleMode then
        some ("spec.indexer: cannot transition from advanced mode to simple mode; " ++
          "create a new cluster for the desired topology")
      else none
    | _, _ => none

def validateUpdate (oldCluster newCluster : WazuhCluster) : Response :=
  match updateError oldCluster newCluster with
  | some error => { warnings := [], error := some error }
  | none =>
    { error := none
      warnings :=
        match oldCluster.spec.indexer, newCluster.spec.indexer with
        | some old, some new => (warn (new.getTotalReplicas < old.getTotalReplicas)
            "scaling down indexer replicas will trigger shard relocation").warnings
        | _, _ => [] }

/-- `ValidateUpdate`, the entry point of the webhook. -/
def reviewUpdate (oldCluster newCluster : WazuhCluster) : Response :=
  let valid := validateWazuhCluster newCluster
  if valid.admits then
    let update := validateUpdate oldCluster newCluster
    { warnings := valid.warnings ++ update.warnings, error := update.error }
  else valid

end Webhook
end WazuhOperator
