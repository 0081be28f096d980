import WazuhOperator.Networking.Policies

namespace WazuhOperator
namespace Networking

open PodNetwork

/-!
# Which pods the scheduling and disruption rules select

Anti-affinity terms and disruption budgets look for pods by `SelectorLabels`,
the builders of the workloads label them by `CommonLabels`.  Both put `wazuh-`
in front of the component they are given.  The workloads of the indexer pass
`indexer`, the builder of its anti-affinity passes `wazuh-indexer`, and so its
terms select no pod at all.
-/

/-! ## Anti-affinity -/

structure AntiAffinitySpec where
  enabled : Bool
  (topologyKey type : String := "")
  weight : Int := 0

structure PodAffinityTerm where
  labelSelector : LabelSelector
  topologyKey : String

/-- `corev1.PodAntiAffinity`, the preferred terms with their weights. -/
structure PodAntiAffinity where
  required : List PodAffinityTerm := []
  preferred : List (Int × PodAffinityTerm) := []

def defaultTopologyKey : String := "kubernetes.io/hostname"
def antiAffinityTypeRequired : String := "required"
def defaultAntiAffinityWeight : Int := 100

/-- The text of both builders, which differ in the component. -/
def buildAntiAffinity (component clusterName : String) (spec : AntiAffinitySpec) : Option PodAntiAffinity :=
  if spec.enabled then
    let term : PodAffinityTerm :=
      { labelSelector := { matchLabels := selectorLabels clusterName component }
        topologyKey := if spec.topologyKey ≠ "" then spec.topologyKey else defaultTopologyKey }
    if spec.type = "" ∨ spec.type = antiAffinityTypeRequired then some { required := [term] }
    else
      let weight := if 0 < spec.weight ∧ spec.weight ≤ 100 then spec.weight else defaultAntiAffinityWeight
      some { preferred := [(weight, term)] }
  else none

def buildIndexerAntiAffinity : String -> AntiAffinitySpec -> Option PodAntiAffinity :=
  buildAntiAffinity "wazuh-indexer"

def buildManagerAntiAffinity : String -> AntiAffinitySpec -> Option PodAntiAffinity :=
  buildAntiAffinity "wazuh-manager"

/-! ## Disruption budgets -/

/-- `v1.PodDisruptionBudgetSpec`, as far as the builders read it. -/
structure BudgetSpec where
  (minAvailable maxUnavailable : Option Int := none)

/-- `policyv1.PodDisruptionBudget`, which has one of the two bounds. -/
structure PodDisruptionBudget where
  (name nspace : String)
  labels : Labels
  minAvailable : Option Int
  maxUnavailable : Option Int := none
  selector : LabelSelector

def buildIndexerPDB (cluster : ClusterKey) (version : String) (spec : BudgetSpec) : PodDisruptionBudget where
  name := cluster.name ++ "-indexer"
  nspace := cluster.nspace
  labels := commonLabels cluster.name componentIndexer version
  minAvailable := if spec.maxUnavailable.isSome then none else spec.minAvailable.getD 2
  maxUnavailable := spec.maxUnavailable
  selector := { matchLabels := selectorLabels cluster.name componentIndexer }

def buildManagerPDB (cluster : ClusterKey) (version : String) (spec : BudgetSpec) : PodDisruptionBudget where
  name := cluster.name ++ "-manager"
  nspace := cluster.nspace
  labels := commonLabels cluster.name componentManager version
  minAvailable := spec.minAvailable.getD 2
  selector := { matchLabels := selectorLabels cluster.name "wazuh-manager" }

def buildDashboardPDB (cluster : ClusterKey) (version : String) (spec : BudgetSpec) : PodDisruptionBudget where
  name := cluster.name ++ "-dashboard"
  nspace := cluster.nspace
  labels := commonLabels cluster.name componentDashboard version
  minAvailable := spec.minAvailable.getD 1
  selector := { matchLabels := selectorLabels cluster.name componentDashboard }

/-! ## The selectors of a cluster -/

/-- What a cluster says about scheduling and disruption; an absent part is an empty one. -/
structure SchedulingSpec where
  version : String := ""
  (indexerAntiAffinity managerAntiAffinity : AntiAffinitySpec := { enabled := false })
  (indexerBudget managerBudget dashboardBudget : BudgetSpec := {})

def selectorsOf : Option PodAntiAffinity -> List LabelSelector
  | none => []
  | some rules => (rules.required ++ rules.preferred.map Prod.snd).map (·.labelSelector)

def selectors (cluster : ClusterKey) (spec : SchedulingSpec) : List (PolicyComponent × LabelSelector) :=
  (selectorsOf (buildIndexerAntiAffinity cluster.name spec.indexerAntiAffinity)).map (.indexer, ·) ++
    (selectorsOf (buildManagerAntiAffinity cluster.name spec.managerAntiAffinity)).map (.manager, ·) ++
    [(.indexer, (buildIndexerPDB cluster spec.version spec.indexerBudget).selector),
      (.manager, (buildManagerPDB cluster spec.version spec.managerBudget).selector),
      (.dashboard, (buildDashboardPDB cluster spec.version spec.dashboardBudget).selector)]

/-- In the namespace of the cluster, where the rules apply, the selector selects the pods of the
component of the cluster and no others. -/
def SelectsExactly (cluster : ClusterKey) (component : PolicyComponent) (selector : LabelSelector) : Prop :=
  forall (owner : ClusterKey) (version : String) (workload : Workload), owner.nspace = cluster.nspace ->
    (selector.selects (workload.buildLabels owner.name version) = true <->
      owner = cluster ∧ workload.component = some component)

/-- The component as the builders of its workloads write it. -/
def PolicyComponent.written : PolicyComponent -> String
  | indexer => componentIndexer
  | manager => "wazuh-manager"
  | dashboard => componentDashboard

theorem selectsExactly_written (cluster : ClusterKey) (component : PolicyComponent) :
    SelectsExactly cluster component { matchLabels := selectorLabels cluster.name component.written } := by
  rintro ⟨nspace, name⟩ version workload rfl
  rw [selects_matchLabels]
  cases cluster
  cases workload <;> cases component <;>
    simp [selectorLabels, Workload.buildLabels, Workload.component, PolicyComponent.written,
      commonLabels, List.lookup_cons, labelName, labelInstance, labelVersion, labelComponent,
      labelPartOf, labelManagedBy, labelWazuhCluster, labelManagerNodeType, labelNodePool, appName,
      componentIndexer, componentDashboard]

theorem not_selectsExactly_indexer (cluster : ClusterKey) :
    ¬SelectsExactly cluster .indexer { matchLabels := selectorLabels cluster.name "wazuh-indexer" } := by
  intro exact
  have selected := (exact cluster "" .indexer rfl).mpr ⟨rfl, rfl⟩
  rw [selects_matchLabels] at selected
  exact absurd (selected _ List.mem_cons_self)
    (by simp [Workload.buildLabels, commonLabels, labelName, componentIndexer])

theorem selectorsOf_buildAntiAffinity (component clusterName : String) (spec : AntiAffinitySpec) :
    selectorsOf (buildAntiAffinity component clusterName spec) =
      if spec.enabled then [{ matchLabels := selectorLabels clusterName component }] else [] := by
  cases enabled : spec.enabled with
  | false => simp [buildAntiAffinity, selectorsOf, enabled]
  | true =>
    by_cases required : spec.type = "" ∨ spec.type = antiAffinityTypeRequired <;>
      simp [buildAntiAffinity, selectorsOf, enabled, required]

/-- All selectors are right exactly where the anti-affinity of the indexer is not enabled. -/
theorem selectors_exact_iff (cluster : ClusterKey) (spec : SchedulingSpec) :
    (∀ entry ∈ selectors cluster spec, SelectsExactly cluster entry.1 entry.2) <->
      spec.indexerAntiAffinity.enabled = false := by
  have written := selectsExactly_written cluster
  have wrong := not_selectsExactly_indexer cluster
  simp only [selectors, buildIndexerAntiAffinity, buildManagerAntiAffinity, selectorsOf_buildAntiAffinity]
  cases spec.indexerAntiAffinity.enabled with
  | true => simpa using fun exact => absurd exact wrong
  | false =>
    cases spec.managerAntiAffinity.enabled with
    | false => simpa using ⟨written .indexer, written .manager, written .dashboard⟩
    | true => simpa using ⟨written .manager, written .indexer, written .manager, written .dashboard⟩

/-- With anti-affinity enabled the indexers are not kept apart. -/
theorem indexer_terms_miss_indexers :
    ¬∀ entry ∈ selectors ⟨"wazuh", "prod"⟩ { indexerAntiAffinity := { enabled := true } },
      SelectsExactly ⟨"wazuh", "prod"⟩ entry.1 entry.2 :=
  fun exact => not_selectsExactly_indexer _ (exact (.indexer, _) List.mem_cons_self)

end Networking
end WazuhOperator
