import WazuhOperator.Networking.Policies

namespace WazuhOperator
namespace Networking

open PodNetwork List PolicyComponent

/-!
# Which pods the policies reach, and which flows they admit

The pods of indexer and dashboard carry the labels by which the policies look
for them.  Those of the managers do not: their builders pass `wazuh-manager`
to `CommonLabels`, and the policies pass `manager` to `SelectorLabels`.  So the
policy of the managers applies to no pod, and no rule of another policy that
names the managers admits one.  What holds of the flows of the managers then
depends on the rules the user has added.
-/

/-! ## Selection -/

section Selection

variable (spaces : String -> Labels) (cluster owner : ClusterKey) (version : String)
  (spec : NetworkPolicySpec) (workload : Workload) (component : PolicyComponent)

theorem selectorLabels_selects_iff (clusterName ownerName : String) :
    LabelSelector.selects { matchLabels := selectorLabels clusterName component.name }
        (workload.buildLabels ownerName version) <->
      ownerName = clusterName ∧ workload.component = some component ∧ component ≠ .manager := by
  rw [selects_matchLabels]
  cases workload <;> cases component <;>
    simp [selectorLabels, Workload.buildLabels, Workload.component, name,
      commonLabels, lookup_cons, labelName, labelInstance, labelVersion, labelComponent,
      labelPartOf, labelManagedBy, labelWazuhCluster, labelManagerNodeType, labelNodePool, appName,
      componentIndexer, componentManager, componentDashboard]

theorem buildNetworkPolicy_nspace :
    (component.buildNetworkPolicy cluster spec).nspace = cluster.nspace := by
  cases component <;> rfl

theorem buildNetworkPolicy_podSelector : (component.buildNetworkPolicy cluster spec).podSelector =
      { matchLabels := selectorLabels cluster.name component.name } := by
  cases component <;> rfl

theorem appliesTo_iff :
    (component.buildNetworkPolicy cluster spec).appliesTo (workload.pod owner version) <->
      owner = cluster ∧ workload.component = some component ∧ component ≠ .manager := by
  rw [Policy.appliesTo_eq_true_iff, buildNetworkPolicy_nspace, buildNetworkPolicy_podSelector,
    Workload.pod, selectorLabels_selects_iff]
  constructor
  · rintro ⟨sameSpace, sameName, belongs⟩
    cases owner
    cases cluster
    simp_all
  · rintro ⟨rfl, belongs⟩
    exact ⟨rfl, rfl, belongs⟩

theorem componentPeer_admits_iff :
    (componentPeer cluster.name component.name).admits spaces cluster.nspace
        (workload.pod cluster version) <->
      workload.component = some component ∧ component ≠ .manager := by
  have selects := selectorLabels_selects_iff version workload component cluster.name cluster.name
  simp [componentPeer, Peer.admits, Workload.pod, selects]

end Selection

/-! ## What the policies of a cluster let through -/

section Admission

variable {spaces : String -> Labels} {cluster : ClusterKey} {settings : PolicySettings} {workload : Workload}
  {component : PolicyComponent}

theorem mem_policies :
    policy ∈ settings.policies cluster <->
      exists component spec, settings.enabled component = some spec ∧
        component.buildNetworkPolicy cluster spec = policy := by
  constructor
  · intro member
    rcases mem_filterMap.mp member with ⟨component, _, built⟩
    rcases Option.map_eq_some_iff.mp built with ⟨spec, enabled, same⟩
    exact ⟨component, spec, enabled, same⟩
  · rintro ⟨component, spec, enabled, same⟩
    apply mem_filterMap.mpr
    refine ⟨component, ?_, Option.map_eq_some_iff.mpr ⟨spec, enabled, same⟩⟩
    cases component <;> simp

theorem admitsAt_manager (belongs : workload.component = some .manager) :
    AdmitsAt spaces (settings.policies cluster) (workload.pod cluster version) rules other protocol
      number := by
  left
  intro policy member
  rcases mem_policies.mp member with ⟨component, spec, _, rfl⟩
  apply Bool.eq_false_iff.mpr
  intro applies
  rcases (appliesTo_iff cluster cluster version spec workload component).mp applies with
    ⟨_, same, notManager⟩
  rw [belongs] at same
  exact notManager (Option.some.inj same).symm

theorem admitsAt_iff (belongs : workload.component = some component)
    (notManager : component ≠ .manager) :
    AdmitsAt spaces (settings.policies cluster) (workload.pod cluster version) rules other protocol
        number <->
      forall spec, settings.enabled component = some spec ->
        ∃ rule ∈ rules (component.buildNetworkPolicy cluster spec),
          rule.admits spaces cluster.nspace other protocol number = true := by
  -- Only the policy of the component may apply.
  have own (policy) (member : policy ∈ settings.policies cluster)
      (applies : policy.appliesTo (workload.pod cluster version)) :
      exists spec, settings.enabled component = some spec ∧
        component.buildNetworkPolicy cluster spec = policy := by
    rcases mem_policies.mp member with ⟨another, spec, enabled, rfl⟩
    have same := ((appliesTo_iff cluster cluster version spec workload another).mp applies).2.1
    rw [belongs] at same
    cases same
    exact ⟨spec, enabled, rfl⟩
  cases enabled : settings.enabled component with
  | none =>
    simp only [reduceCtorEq, false_implies, implies_true, iff_true]
    left
    intro policy member
    apply Bool.eq_false_iff.mpr
    intro applies
    rcases own policy member applies with ⟨spec, found, _⟩
    rw [enabled] at found
    cases found
  | some spec =>
    have applies := (appliesTo_iff cluster cluster version spec workload component).mpr
      ⟨rfl, belongs, notManager⟩
    rw [admitsAt_iff_of_only (mem_policies.mpr ⟨component, spec, enabled, rfl⟩) applies,
      buildNetworkPolicy_nspace]
    · constructor
      · intro admitting found same
        cases same
        exact admitting
      · exact fun admitting => admitting spec rfl
    · intro another member anotherApplies
      rcases own another member anotherApplies with ⟨found, foundEnabled, rfl⟩
      rw [enabled] at foundEnabled
      cases foundEnabled
      rfl

end Admission

/-! ## Coverage and the documented flows -/

/-- The flows the components need, with their ports. -/
inductive Documented : PolicyComponent -> PolicyComponent -> Nat -> Prop where
  | managerToIndexer : Documented .manager .indexer portIndexerREST
  | dashboardToIndexer : Documented .dashboard .indexer portIndexerREST
  | dashboardToManager : Documented .dashboard .manager portManagerAPI
  | managerPeers : Documented .manager .manager portManagerCluster

section Connectivity

variable (spaces : String -> Labels) (cluster : ClusterKey) (settings : PolicySettings)

/-- Each enabled policy applies, of all the pods there are builders for, to those of its component
and its cluster. -/
def CoversItsPods : Prop :=
  forall component spec, settings.enabled component = some spec ->
    forall (workload : Workload) (owner : ClusterKey) (version : String),
      (component.buildNetworkPolicy cluster spec).appliesTo (workload.pod owner version) = true <->
        owner = cluster ∧ workload.component = some component

/-- The documented flows are admitted between all the pods of the components. -/
def AdmitsDocumented : Prop :=
  forall (source destination : Workload) (sourceVersion destinationVersion : String)
    (sourceComponent destinationComponent : PolicyComponent) (port : Nat),
    source.component = some sourceComponent ->
    destination.component = some destinationComponent ->
    Documented sourceComponent destinationComponent port ->
      Admits spaces (settings.policies cluster)
        { source := source.pod cluster sourceVersion
          destination := destination.pod cluster destinationVersion
          port := port }

/-- The rules added by the user admit every manager's pod on the port. -/
def OpensToManagers (rules : List RuleSpec) (port : Nat) : Prop :=
  forall (workload : Workload) (version : String), workload.component = some .manager ->
    ∃ rule ∈ rules,
      (convertRule rule).admits spaces cluster.nspace (workload.pod cluster version) .tcp port = true

/-! ## The rules at the pods of indexer and dashboard -/

variable {spaces cluster settings} {workload : Workload}

theorem componentPeer_rejects_manager (belongs : workload.component = some .manager)
    (label : String) (component : PolicyComponent) (named : component.name = label) :
    (componentPeer cluster.name label).admits spaces cluster.nspace
      (workload.pod cluster version) = false := by
  subst named
  apply Bool.eq_false_iff.mpr
  intro admitted
  rcases (componentPeer_admits_iff spaces cluster version workload component).mp admitted with
    ⟨same, notManager⟩
  rw [belongs] at same
  exact notManager (Option.some.inj same).symm

variable (spec : NetworkPolicySpec)

theorem indexer_ingress_manager_iff (belongs : workload.component = some .manager) :
    (∃ rule ∈ (indexer.buildNetworkPolicy cluster spec).ingress,
        rule.admits spaces cluster.nspace (workload.pod cluster version) .tcp portIndexerREST) <->
      ∃ rule ∈ spec.ingress, (convertRule rule).admits spaces cluster.nspace
        (workload.pod cluster version) .tcp portIndexerREST = true := by
  simp [buildNetworkPolicy, buildIndexerNetworkPolicy, convertIngressRules, Rule.admits,
    componentPeer_rejects_manager belongs componentIndexer .indexer rfl,
    componentPeer_rejects_manager belongs componentManager .manager rfl,
    componentPeer_rejects_manager belongs componentDashboard .dashboard rfl]

theorem dashboard_egress_manager_iff (belongs : workload.component = some .manager) :
    (∃ rule ∈ (dashboard.buildNetworkPolicy cluster spec).egress,
        rule.admits spaces cluster.nspace (workload.pod cluster version) .tcp portManagerAPI) <->
      ∃ rule ∈ spec.egress, (convertRule rule).admits spaces cluster.nspace
        (workload.pod cluster version) .tcp portManagerAPI = true := by
  simp [buildNetworkPolicy, buildDashboardNetworkPolicy, convertEgressRules, Rule.admits,
    componentPeer_rejects_manager belongs componentIndexer .indexer rfl,
    componentPeer_rejects_manager belongs componentManager .manager rfl,
    dnsRule, tcpPort, udpPort, Port.admits, portDNS, portManagerAPI]

theorem indexer_ingress_dashboard (belongs : workload.component = some .dashboard) :
    ∃ rule ∈ (indexer.buildNetworkPolicy cluster spec).ingress,
      rule.admits spaces cluster.nspace (workload.pod cluster version) .tcp portIndexerREST = true := by
  have byDashboard : (componentPeer cluster.name componentDashboard).admits spaces cluster.nspace
      (workload.pod cluster version) :=
    (componentPeer_admits_iff spaces cluster version workload .dashboard).mpr ⟨belongs, by decide⟩
  refine ⟨_, mem_append_left _ (mem_singleton_self _), ?_⟩
  simp [Rule.admits, byDashboard, tcpPort, Port.admits]

theorem dashboard_egress_indexer (belongs : workload.component = some .indexer) :
    ∃ rule ∈ (dashboard.buildNetworkPolicy cluster spec).egress,
      rule.admits spaces cluster.nspace (workload.pod cluster version) .tcp portIndexerREST = true := by
  have byIndexer : (componentPeer cluster.name componentIndexer).admits spaces cluster.nspace
      (workload.pod cluster version) :=
    (componentPeer_admits_iff spaces cluster version workload .indexer).mpr ⟨belongs, by decide⟩
  refine ⟨_, mem_append_left _ (mem_cons_of_mem _ mem_cons_self), ?_⟩
  simp [Rule.admits, byIndexer, tcpPort, Port.admits]

/-! ## When the cluster is covered and connected -/

variable (spaces cluster settings)

theorem coversItsPods_iff :
    CoversItsPods cluster settings <-> settings.enabled .manager = none := by
  constructor
  · intro covers
    apply Option.eq_none_iff_forall_ne_some.mpr
    intro spec enabled
    -- The pod of a master should be selected.
    have applies := (covers .manager spec enabled .master cluster "").mpr ⟨rfl, rfl⟩
    exact ((appliesTo_iff cluster cluster "" spec .master .manager).mp applies).2.2 rfl
  · intro disabled component spec enabled workload owner version
    have notManager : component ≠ .manager := by
      rintro rfl
      rw [disabled] at enabled
      cases enabled
    rw [appliesTo_iff]
    simp [notManager]

theorem admitsDocumented_iff : AdmitsDocumented spaces cluster settings <->
      (forall spec, settings.enabled .indexer = some spec ->
        OpensToManagers spaces cluster spec.ingress portIndexerREST) ∧
      (forall spec, settings.enabled .dashboard = some spec ->
        OpensToManagers spaces cluster spec.egress portManagerAPI) := by
  constructor
  · intro admitted
    constructor
    · intro spec enabled workload version belongs
      have flow := (admitted workload .indexer version "" .manager .indexer _ belongs rfl
        .managerToIndexer).2
      exact (indexer_ingress_manager_iff spec belongs).mp
        ((admitsAt_iff rfl (by decide)).mp flow spec enabled)
    · intro spec enabled workload version belongs
      have flow := (admitted .dashboard workload "" version .dashboard .manager _ rfl belongs
        .dashboardToManager).1
      exact (dashboard_egress_manager_iff spec belongs).mp
        ((admitsAt_iff rfl (by decide)).mp flow spec enabled)
  · rintro ⟨indexerOpens, dashboardOpens⟩
    intro source destination sourceVersion destinationVersion _ _ _ sourceBelongs
      destinationBelongs documented
    cases documented with
    | managerToIndexer =>
      refine ⟨admitsAt_manager sourceBelongs, (admitsAt_iff destinationBelongs (by decide)).mpr ?_⟩
      intro spec enabled
      exact (indexer_ingress_manager_iff spec sourceBelongs).mpr
        (indexerOpens spec enabled source sourceVersion sourceBelongs)
    | dashboardToIndexer =>
      constructor
      · apply (admitsAt_iff sourceBelongs (by decide)).mpr
        exact fun spec _ => dashboard_egress_indexer spec destinationBelongs
      · apply (admitsAt_iff destinationBelongs (by decide)).mpr
        exact fun spec _ => indexer_ingress_dashboard spec sourceBelongs
    | dashboardToManager =>
      refine ⟨(admitsAt_iff sourceBelongs (by decide)).mpr ?_, admitsAt_manager destinationBelongs⟩
      intro spec enabled
      exact (dashboard_egress_manager_iff spec destinationBelongs).mpr
        (dashboardOpens spec enabled destination destinationVersion destinationBelongs)
    | managerPeers =>
      exact ⟨admitsAt_manager sourceBelongs, admitsAt_manager destinationBelongs⟩

/-- The policies cover the pods of their components and admit the documented flows just if the
manager's is not enabled, and the user has opened those of indexer and dashboard to the managers,
where they are enabled. -/
theorem coveredAndConnected_iff :
    CoversItsPods cluster settings ∧ AdmitsDocumented spaces cluster settings <->
      settings.enabled .manager = none ∧
      (forall spec, settings.enabled .indexer = some spec ->
        OpensToManagers spaces cluster spec.ingress portIndexerREST) ∧
      (forall spec, settings.enabled .dashboard = some spec ->
        OpensToManagers spaces cluster spec.egress portManagerAPI) := by
  rw [coversItsPods_iff, admitsDocumented_iff]

/-- With all policies enabled and no rule added, the manager's policy misses the master, and the
master does not reach the indexer. -/
theorem master_missed_and_cut_off :
    let cluster : ClusterKey := { nspace := "wazuh", name := "prod" }
    let plain : NetworkPolicySpec := { enabled := true }
    let settings : PolicySettings :=
      { indexer := some plain, manager := some plain, dashboard := some plain }
    let master := Workload.master.pod cluster "4.9.0"
    let indexer := Workload.indexer.pod cluster "4.9.0"
    (buildManagerNetworkPolicy cluster plain).appliesTo master = false ∧
      ¬ CoversItsPods cluster settings ∧
      (forall spaces, ¬ Admits spaces (settings.policies cluster)
        { source := master, destination := indexer, port := portIndexerREST }) := by
  intro cluster plain settings master indexer
  refine ⟨by decide, ?_, ?_⟩
  · intro covers
    have disabled := (coversItsPods_iff cluster settings).mp covers
    cases disabled
  · intro spaces admitted
    have admitting := (admitsAt_iff rfl (by decide)).mp admitted.2 plain rfl
    rcases (indexer_ingress_manager_iff plain rfl).mp admitting with ⟨rule, added, _⟩
    cases added

end Connectivity

end Networking
end WazuhOperator
