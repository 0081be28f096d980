import WazuhOperator.Cluster.Objects
import WazuhOperator.Library.PodNetwork

namespace WazuhOperator
namespace Networking

open PodNetwork

/-!
# The network policies of a cluster and the labels of its pods

Indexer, manager and dashboard each may have a network policy.  Its selector
and those of its rules are made by `SelectorLabels` from the name of the
cluster and the name of a component; the labels of the pods are made by
`CommonLabels`, in the builders of the workloads.
-/

/-! ## Labels -/

def labelName : String := "app.kubernetes.io/name"
def labelInstance : String := "app.kubernetes.io/instance"
def labelVersion : String := "app.kubernetes.io/version"
def labelComponent : String := "app.kubernetes.io/component"
def labelPartOf : String := "app.kubernetes.io/part-of"
def labelManagedBy : String := "app.kubernetes.io/managed-by"
def labelWazuhCluster : String := "wazuh.com/cluster"
def labelWazuhManagedBy : String := "wazuh.com/managed-by"
def labelManagerNodeType : String := "wazuh.com/manager-node-type"
def labelNodePool : String := "wazuh.com/node-pool"

def appName : String := "wazuh"
def operatorName : String := "wazuh-operator"

def componentManager : String := "manager"
def componentIndexer : String := "indexer"
def componentDashboard : String := "dashboard"

/-- `CommonLabels`, which the builders put on what they make. -/
def commonLabels (clusterName component version : String) : Labels :=
  [(labelName, appName ++ "-" ++ component), (labelInstance, clusterName), (labelVersion, version),
    (labelComponent, component), (labelPartOf, appName), (labelManagedBy, operatorName),
    (labelWazuhCluster, clusterName), (labelWazuhManagedBy, operatorName)]

/-- `SelectorLabels`, by which the policies look for pods. -/
def selectorLabels (clusterName component : String) : Labels :=
  [(labelName, appName ++ "-" ++ component), (labelInstance, clusterName),
    (labelWazuhCluster, clusterName)]

/-! ## Pods -/

/-- The workloads whose pods the operator, or a Job of it, brings into the namespace. -/
inductive Workload where
  | indexer
  | nodePool (poolName : String)
  | master
  | worker
  | dashboard
  | logRotation
  | backup (backupName : String)
  | restore (restoreName : String)

/-- The labels of the pods.  The builders of the managers have another name for their component than
the policies, and the Jobs do not use `CommonLabels`. -/
def Workload.buildLabels (clusterName version : String) : Workload -> Labels
  | indexer => commonLabels clusterName componentIndexer version
  | nodePool poolName =>
    (labelNodePool, poolName) :: commonLabels clusterName componentIndexer version
  | master => (labelManagerNodeType, "master") :: commonLabels clusterName "wazuh-manager" version
  | worker => (labelManagerNodeType, "worker") :: commonLabels clusterName "wazuh-manager" version
  | dashboard => commonLabels clusterName componentDashboard version
  | logRotation => commonLabels clusterName "log-rotation" version
  | backup backupName =>
    [(labelName, "wazuh-backup"), (labelInstance, backupName), (labelComponent, "backup"),
      (labelManagedBy, "wazuh-operator"), ("wazuh.com/backup", backupName),
      (labelWazuhCluster, clusterName)]
  | restore restoreName =>
    [(labelName, "wazuh-restore"), (labelInstance, restoreName), (labelComponent, "restore"),
      (labelManagedBy, "wazuh-operator"), ("wazuh.com/restore", restoreName),
      (labelWazuhCluster, clusterName)]

inductive PolicyComponent where
  | indexer
  | manager
  | dashboard
  deriving DecidableEq

def PolicyComponent.name : PolicyComponent -> String
  | indexer => componentIndexer
  | manager => componentManager
  | dashboard => componentDashboard

/-- The component whose policy is meant for the pods. -/
def Workload.component : Workload -> Option PolicyComponent
  | indexer | nodePool _ => some .indexer
  | master | worker => some .manager
  | dashboard => some .dashboard
  | logRotation | backup _ | restore _ => none

def Workload.pod (workload : Workload) (cluster : ClusterKey) (version : String) : Pod where
  nspace := cluster.nspace
  labels := workload.buildLabels cluster.name version

/-! ## Rules -/

def portIndexerREST : Nat := 9200
def portIndexerTransport : Nat := 9300
def portIndexerMetrics : Nat := 9600
def portManagerAPI : Nat := 55000
def portManagerAgentEvents : Nat := 1514
def portManagerAgentAuth : Nat := 1515
def portManagerCluster : Nat := 1516
def portDashboardHTTP : Nat := 5601
def portDNS : Nat := 53

/-- `v1.NetworkPolicyPort`. -/
structure PortSpec where
  protocol : Option Protocol := none
  port : Option Nat := none

/-- `v1.NetworkPolicyPeer`. -/
structure PeerSpec where
  (podSelector namespaceSelector : Option LabelSelector := none)

/-- `v1.NetworkPolicyIngressRule` and `v1.NetworkPolicyEgressRule`. -/
structure RuleSpec where
  peers : List PeerSpec := []
  ports : List PortSpec := []

/-- `v1.NetworkPolicySpec`: the rules are added to those of the component. -/
structure NetworkPolicySpec where
  enabled : Bool := false
  (ingress egress : List RuleSpec := [])

/-- One round of `convertIngressRules` and of `convertEgressRules`. -/
def convertRule (rule : RuleSpec) : Rule where
  peers := rule.peers.map fun peer =>
    { podSelector := peer.podSelector, namespaceSelector := peer.namespaceSelector }
  ports := rule.ports.map fun port => { protocol := port.protocol, number := port.port }

def convertIngressRules (rules : List RuleSpec) : List Rule := rules.map convertRule

def convertEgressRules (rules : List RuleSpec) : List Rule := rules.map convertRule

/-- The pods of a component, in the namespace of the policy. -/
def componentPeer (clusterName component : String) : Peer :=
  { podSelector := some { matchLabels := selectorLabels clusterName component } }

def tcpPort (number : Nat) : Port := { protocol := some .tcp, number := some number }

def udpPort (number : Nat) : Port := { protocol := some .udp, number := some number }

def dnsRule : Rule := { ports := [tcpPort portDNS, udpPort portDNS] }

/-! ## Policies -/

section Builders

variable (cluster : ClusterKey) (spec : NetworkPolicySpec)

def buildIndexerNetworkPolicy : Policy where
  name := cluster.name ++ "-indexer"
  nspace := cluster.nspace
  labels := commonLabels cluster.name componentIndexer ""
  podSelector := { matchLabels := selectorLabels cluster.name componentIndexer }
  ingress :=
    [{ peers :=
         [componentPeer cluster.name componentIndexer, componentPeer cluster.name componentManager,
           componentPeer cluster.name componentDashboard]
       ports :=
         [tcpPort portIndexerREST, tcpPort portIndexerTransport, tcpPort portIndexerMetrics] }] ++
      convertIngressRules spec.ingress
  egress :=
    [dnsRule,
      { peers := [componentPeer cluster.name componentIndexer]
        ports := [tcpPort portIndexerREST, tcpPort portIndexerTransport] }] ++
      convertEgressRules spec.egress

/-- Agents connect from anywhere. -/
def buildManagerNetworkPolicy : Policy where
  name := cluster.name ++ "-manager"
  nspace := cluster.nspace
  labels := commonLabels cluster.name componentManager ""
  podSelector := { matchLabels := selectorLabels cluster.name componentManager }
  ingress :=
    [{ peers :=
         [componentPeer cluster.name componentManager, componentPeer cluster.name componentDashboard]
       ports := [tcpPort portManagerAPI, tcpPort portManagerCluster] },
      { ports := [tcpPort portManagerAgentEvents, tcpPort portManagerAgentAuth] }] ++
      convertIngressRules spec.ingress
  egress :=
    [dnsRule,
      { peers := [componentPeer cluster.name componentIndexer], ports := [tcpPort portIndexerREST] },
      { peers := [componentPeer cluster.name componentManager]
        ports := [tcpPort portManagerCluster, tcpPort portManagerAPI] }] ++
      convertEgressRules spec.egress

def buildDashboardNetworkPolicy : Policy where
  name := cluster.name ++ "-dashboard"
  nspace := cluster.nspace
  labels := commonLabels cluster.name componentDashboard ""
  podSelector := { matchLabels := selectorLabels cluster.name componentDashboard }
  ingress := [{ ports := [tcpPort portDashboardHTTP] }] ++ convertIngressRules spec.ingress
  egress :=
    [dnsRule,
      { peers := [componentPeer cluster.name componentIndexer], ports := [tcpPort portIndexerREST] },
      { peers := [componentPeer cluster.name componentManager], ports := [tcpPort portManagerAPI] }] ++
      convertEgressRules spec.egress

end Builders

def PolicyComponent.buildNetworkPolicy (cluster : ClusterKey) (spec : NetworkPolicySpec) :
    PolicyComponent -> Policy
  | indexer => buildIndexerNetworkPolicy cluster spec
  | manager => buildManagerNetworkPolicy cluster spec
  | dashboard => buildDashboardNetworkPolicy cluster spec

/-- The network policies in the specification of a cluster, of which each may be missing. -/
structure PolicySettings where
  (indexer manager dashboard : Option NetworkPolicySpec := none)

namespace PolicySettings

variable (settings : PolicySettings)

def of : PolicyComponent -> Option NetworkPolicySpec
  | .indexer => settings.indexer
  | .manager => settings.manager
  | .dashboard => settings.dashboard

/-- A policy which is not enabled counts as missing. -/
def enabled (component : PolicyComponent) : Option NetworkPolicySpec :=
  (settings.of component).filter NetworkPolicySpec.enabled

/-- The policies there are after a successful pass of the reconciler: it creates or updates the
enabled ones and deletes the others. -/
def policies (cluster : ClusterKey) : List Policy :=
  [PolicyComponent.indexer, .manager, .dashboard].filterMap fun component =>
    (settings.enabled component).map (component.buildNetworkPolicy cluster)

end PolicySettings

end Networking
end WazuhOperator
