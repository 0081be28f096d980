import WazuhOperator.Drain.Status

namespace WazuhOperator

open Drain

/-!
# The objects a reconcile pass reads and writes

The part of a `WazuhCluster` and of its StatefulSets on which the drain, the
scale-down and the indexer topology depend.  Field values the code only
compares for equality (hashes, tolerations, security contexts) are texts.

Replica counts are natural numbers: the custom resource definition rejects
negative ones.
-/

structure ClusterKey where
  (nspace name : String)
  deriving DecidableEq

/-- The two components whose scale-down is preceded by a drain. -/
inductive Component where
  | indexer
  | manager
  deriving DecidableEq

/-! ## The desired state -/

structure IndexerDrainConfig where
  enabled : Option Bool := none
  timeout : Option Time := none

structure ManagerDrainConfig where
  enabled : Option Bool := none
  (timeout gracePeriod : Option Time := none)

/-- `v1.DrainRetryConfig`, of which the number of attempts is kept. -/
structure DrainRetryConfig where
  maxAttempts : Nat := 0

structure DrainConfiguration where
  indexer : Option IndexerDrainConfig := none
  manager : Option ManagerDrainConfig := none
  retry : Option DrainRetryConfig := none
  dryRun : Bool := false

def defaultDrainRetryMaxAttempts : Nat := 3

/-- The number of attempts which `ShouldRetry` allows. -/
def maxAttempts : Option DrainRetryConfig -> Nat
  | none => defaultDrainRetryMaxAttempts
  | some config => if 0 < config.maxAttempts then config.maxAttempts else defaultDrainRetryMaxAttempts

structure NodePool where
  name : String
  replicas : Nat
  deriving DecidableEq

structure IndexerSpec where
  replicas : Nat := 0
  nodePools : List NodePool := []

/-- `v1.WazuhManagerClusterSpec`, of which the scale-down reads the number of workers. -/
structure ManagerSpec where
  workerReplicas : Option Nat := none

structure ClusterSpec where
  indexer : Option IndexerSpec := none
  manager : Option ManagerSpec := none
  drain : Option DrainConfiguration := none

def IndexerSpec.isAdvancedMode (spec : IndexerSpec) : Bool := 0 < spec.nodePools.length

def IndexerSpec.getTotalReplicas (spec : IndexerSpec) : Nat :=
  if spec.isAdvancedMode then (spec.nodePools.map NodePool.replicas).sum else spec.replicas

def defaultIndexerReplicas : Nat := 3

/-- The replica count which the controller hands to the indexer's drain check. -/
def IndexerSpec.desiredReplicas (spec : IndexerSpec) : Nat :=
  if spec.replicas = 0 then defaultIndexerReplicas else spec.replicas

def ManagerSpec.getReplicas (spec : ManagerSpec) : Nat := spec.workerReplicas.getD 2

def ClusterSpec.indexerDrainEnabled (spec : ClusterSpec) : Bool :=
  match spec.drain with
  | none => false
  | some drain =>
    match drain.indexer with
    | none => false
    | some config => config.enabled.getD false

def ClusterSpec.managerDrainEnabled (spec : ClusterSpec) : Bool :=
  match spec.drain with
  | none => false
  | some drain =>
    match drain.manager with
    | none => false
    | some config => config.enabled.getD false

/-! ## The observed state -/

/-- `v1.DrainStatus`, without the report of the last dry run, which nothing reads.
A cluster without any drain status has neither part. -/
structure DrainStatus where
  (indexer manager : Option ComponentDrainStatus := none)
  deriving DecidableEq

def DrainStatus.part (status : DrainStatus) : Component -> Option ComponentDrainStatus
  | .indexer => status.indexer
  | .manager => status.manager

/-- What the builder of a StatefulSet decides beside the replica count: the pod
management policy, the scheduling part of the pod template, and the hashes kept
in annotations. -/
structure Template where
  (podManagementPolicy securityContext tolerations affinity specHash certHash : String := "")
  (configHash ruleHash decoderHash : String := "")
  deriving DecidableEq

structure StatefulSet where
  /-- The cluster named by the controller reference, if there is one. -/
  controller : Option ClusterKey
  component : Component
  /-- `spec.replicas`. -/
  replicas : Option Nat
  template : Template
  (statusReplicas readyReplicas : Nat := 0)
  deriving DecidableEq

/-- The replica count a StatefulSet stands for: `spec.replicas`, or the
reported number where it is not set. -/
def StatefulSet.currentReplicas (sts : StatefulSet) : Nat := sts.replicas.getD sts.statusReplicas

def replicaCount (found : Option StatefulSet) : Nat :=
  match found with
  | none => 0
  | some sts => sts.currentReplicas

/-! ## Names -/

def indexerName (clusterName : String) : String := clusterName ++ "-indexer"

def managerWorkerName (clusterName : String) : String := clusterName ++ "-manager-worker"

def indexerNodePoolName (clusterName poolName : String) : String :=
  clusterName ++ "-indexer-" ++ poolName

def podName (stsName : String) (ordinal : Nat) : String := stsName ++ "-" ++ toString ordinal

/-- `dns.ServiceFQDN`, in the cluster domain the operator was started with. -/
def serviceFQDN (domain serviceName nspace : String) : String :=
  serviceName ++ "." ++ nspace ++ ".svc." ++ domain

/-- `buildServiceURL`: where the indexer of a cluster listens. -/
def openSearchURL (domain : String) (key : ClusterKey) : String :=
  "https://" ++ serviceFQDN domain (indexerName key.name) key.nspace ++ ":9200"

def wazuhURL (domain : String) (key : ClusterKey) : String :=
  "https://" ++ serviceFQDN domain (key.name ++ "-manager-master") key.nspace ++ ":55000"

theorem indexerName_ne_managerWorkerName (name other : String) :
    indexerName name ≠ managerWorkerName other := by
  intro same
  have endings := congrArg (fun text => text.toList.reverse.take 3) same
  simp [indexerName, managerWorkerName] at endings

theorem podName_injective (stsName : String)
    (same : podName stsName first = podName stsName second) : first = second := by
  have digits : Nat.repr first = Nat.repr second := (String.append_right_inj (stsName ++ "-")).mp same
  have lists := congrArg String.toList digits
  simpa using congrArg (Nat.ofDigitChars 10 · 0) lists

end WazuhOperator
