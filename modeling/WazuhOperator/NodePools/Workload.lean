import Mathlib.Data.Finmap
import Mathlib.Data.Finset.Sort
import Mathlib.Data.String.Basic
import WazuhOperator.Cluster.Workload
import WazuhOperator.Networking.Policies
import WazuhOperator.Webhook.Cluster

namespace WazuhOperator
namespace NodePools

open Webhook (IndexerNodeRole)

/-!
# The StatefulSet of a nodePool

What the specification of a pool makes of its StatefulSet
(`internal/opensearch/builder/deployments/indexer_nodepool.go`), when an
existing StatefulSet is updated to it, and what the update leaves of the old
object.

Parts of a pod which the code passes on unread (resources, tolerations,
affinity, extra containers) are texts.  The volumes and mounts that every pod
of a pool has depend on the names of cluster and pool and on the version only,
and are left out; so are the claim templates, which no update touches.
-/

/-! ## Maps of annotations -/

abbrev StringMap := Finmap fun _ : String => String

/-- `HashMap`, where `sha` stands for SHA-256: the entries in the order of their keys. -/
def hashMap (sha : String -> String) (entries : StringMap) : String :=
  sha (String.join (entries.keys.sort.map fun key =>
    key ++ "=" ++ (entries.lookup key).getD "" ++ "\n"))

/-- `mergeStringMaps`: the desired entries win, and no entry is removed. -/
def mergeStringMaps (current desired : StringMap) : StringMap := desired ∪ current

/-! ## The specification -/

/-- `v1.IndexerNodePoolSpec`.  Attributes reach the ConfigMap of the pool and not its pods. -/
structure IndexerNodePoolSpec where
  name : String
  replicas : Nat
  roles : List IndexerNodeRole := []
  resources : Option String := none
  (javaOpts nodeSelector tolerations affinity : String := "")
  topologySpreadConstraints : List String := []
  (annotations podAnnotations : StringMap := ∅)
  (extraVolumes extraVolumeMounts extraInitContainers extraContainers : List String := [])

namespace IndexerNodePoolSpec

variable (pool : IndexerNodePoolSpec)

def hasRole (role : IndexerNodeRole) : Bool := pool.roles.contains role

def hasClusterManagerRole : Bool := pool.hasRole .clusterManager

def hasDataRole : Bool := pool.hasRole .data

end IndexerNodePoolSpec

/-- The specification of a cluster in advanced mode.  The webhook admits no two pools of one
name. -/
structure AdvancedSpec where
  nodePools : List IndexerNodePoolSpec
  distinct : (nodePools.map IndexerNodePoolSpec.name).Nodup
  version : String := ""
  imagePullSecrets : List String := []
  terminationGracePeriodSeconds : Option Int := none
  /-- What the monitoring and plugin settings add to each pod. -/
  plugins : String := ""
  drain : Option IndexerDrainConfig := none

def AdvancedSpec.drainEnabled (spec : AdvancedSpec) : Bool :=
  match spec.drain with
  | none => false
  | some config => config.enabled.getD false

/-! ## The StatefulSet -/

structure PoolTemplate where
  labels : PodNetwork.Labels
  annotations : StringMap
  (image resources javaOpts nodeSelector tolerations affinity : String)
  (topologySpreadConstraints imagePullSecrets : List String)
  serviceAccountName : String
  terminationGracePeriodSeconds : Int
  plugins : String
  (volumes volumeMounts initContainers containers : List String)

structure PoolStatefulSet where
  annotations : StringMap
  replicas : Nat
  template : PoolTemplate
  (readyReplicas updatedReplicas : Nat := 0)

def annotationConfigHash : String := "wazuh.com/config-hash"

/-- The hash of the configuration which a template records, empty where there is none. -/
def PoolTemplate.configHash (template : PoolTemplate) : String :=
  (template.annotations.lookup annotationConfigHash).getD ""

def defaultWazuhVersion : String := "4.14.0"

def defaultIndexerJavaOpts : String := "-Xms1g -Xmx1g -Dlog4j2.formatMsgNoLookups=true"

def defaultIndexerResources : String := "requests: 500m, 1Gi; limits: 1000m, 2Gi"

def defaultIndexerTerminationGracePeriod : Int := 120

/-- What the builder is given beside the specification: the hash of the ConfigMap as it is
stored, empty where it cannot be read, and the name of the service account. -/
structure BuildInput where
  (configHash serviceAccountName : String := "")

def podAnnotations (pool : IndexerNodePoolSpec) (input : BuildInput) : StringMap :=
  if input.configHash = "" then pool.podAnnotations
  else pool.podAnnotations.insert annotationConfigHash input.configHash

/-- `NodePoolStatefulSetBuilder.Build`, as `reconcileNodePoolStatefulSet` sets it up. -/
def buildNodePoolStatefulSet (clusterName : String) (spec : AdvancedSpec) (pool : IndexerNodePoolSpec)
    (input : BuildInput) : PoolStatefulSet :=
  let version := if spec.version = "" then defaultWazuhVersion else spec.version
  { annotations := pool.annotations
    replicas := pool.replicas
    template :=
      { labels := Networking.Workload.buildLabels clusterName version (.nodePool pool.name)
        annotations := podAnnotations pool input
        image := "wazuh/wazuh-indexer:" ++ version
        resources := pool.resources.getD defaultIndexerResources
        javaOpts := if pool.javaOpts = "" then defaultIndexerJavaOpts else pool.javaOpts
        nodeSelector := pool.nodeSelector
        tolerations := pool.tolerations
        affinity := pool.affinity
        topologySpreadConstraints := pool.topologySpreadConstraints
        imagePullSecrets := spec.imagePullSecrets
        serviceAccountName := input.serviceAccountName
        terminationGracePeriodSeconds :=
          spec.terminationGracePeriodSeconds.getD defaultIndexerTerminationGracePeriod
        plugins := spec.plugins
        volumes := pool.extraVolumes
        volumeMounts := pool.extraVolumeMounts
        initContainers := pool.extraInitContainers
        containers := pool.extraContainers } }

/-! ## Updates -/

section Updates

variable (sha : String -> String) (found built : PoolStatefulSet)

/-- The checks after that of the replicas: configuration, annotations, pod annotations. -/
def contentChanged : Bool :=
  hashChanged found.template.configHash built.template.configHash ||
    hashMap sha built.annotations ≠ hashMap sha found.annotations ||
    hashMap sha built.template.annotations ≠ hashMap sha found.template.annotations

/-- The update check of `reconcileNodePoolStatefulSet`. -/
def nodePoolNeedsUpdate : Bool := found.replicas ≠ built.replicas || contentChanged sha found built

def mergeNodePoolUpdate : PoolStatefulSet :=
  { found with
    annotations := mergeStringMaps found.annotations built.annotations
    replicas := built.replicas
    template := built.template }

theorem hashChanged_self (hash : String) : hashChanged hash hash = false := by
  simp [hashChanged]

theorem contentChanged_iff : contentChanged sha found built <->
      hashChanged found.template.configHash built.template.configHash ∨
        hashMap sha built.annotations ≠ hashMap sha found.annotations ∨
        hashMap sha built.template.annotations ≠ hashMap sha found.template.annotations := by
  simp [contentChanged, or_assoc]

theorem nodePoolNeedsUpdate_iff : nodePoolNeedsUpdate sha found built <->
      found.replicas ≠ built.replicas ∨ contentChanged sha found built = true := by
  simp [nodePoolNeedsUpdate]

theorem nodePoolNeedsUpdate_self : nodePoolNeedsUpdate sha built built = false := by
  simp [nodePoolNeedsUpdate, contentChanged, hashChanged_self]

theorem nodePoolNeedsUpdate_merge :
    nodePoolNeedsUpdate sha (mergeNodePoolUpdate found built) built <->
      hashMap sha built.annotations ≠ hashMap sha (mergeStringMaps found.annotations built.annotations) := by
  rw [nodePoolNeedsUpdate_iff, contentChanged_iff]
  simp [mergeNodePoolUpdate, hashChanged_self]

end Updates

end NodePools
end WazuhOperator
