import WazuhOperator.Security.Credentials

namespace WazuhOperator
namespace Security

open Procedure

/-!
# Which clusters a resource reaches

A security resource is meant for the cluster its reference stands for, where an
empty namespace is the resource's own.  The synchronizer of a cluster takes up
the resources in the cluster's namespace whose reference has the cluster's
name, and does not look at the namespace in the reference.  The two come to the
same as long as no reference leads out of the namespace of its resource.
-/

def Pushed (api : Api) (input : SyncInput) (cluster : ClusterKey) (kind : Kind)
    (key : String × String) : Prop :=
  ∃ request applied, .put key request applied ∈ (syncAllForCluster api input cluster {}).log ∧
    request.body.kind = kind ∧ request.target = cluster

/-- The synchronizer can read all it needs: it gets its client, the lists and the credentials
of the users. -/
structure ReadsSucceed (api : Api) (input : SyncInput) : Prop where
  connected : input.connected = true
  listed : forall kind, input.list kind = .ok ()
  credentials : ∀ user ∈ api.users.items, user.spec.hash ≠ "" ∨ (secretPassword api user).isSome = true

/-- Each resource is pushed to those of the clusters which it is meant for, and to no other;
so clusters of the same name in different namespaces do not get each other's. -/
structure ReachOwnClusters (api : Api) (clusters : List ClusterKey) (inputs : ClusterKey -> SyncInput) :
    Prop where
  exactly : ∀ cluster ∈ clusters, forall kind, ∀ resource ∈ (api.inventory kind).items,
    (Pushed api (inputs cluster) cluster kind resource.key <-> resource.cluster = cluster)
  apart : ∀ cluster ∈ clusters, ∀ other ∈ clusters, cluster.name = other.name ->
    cluster.nspace ≠ other.nspace -> forall kind, ∀ resource ∈ (api.inventory kind).items,
      resource.cluster = other -> ¬ Pushed api (inputs cluster) cluster kind resource.key

def Resource.LeadsOut {α : Type} (resource : Resource α) : Prop :=
  resource.clusterRef.nspace ≠ "" ∧ resource.clusterRef.nspace ≠ resource.nspace

/-! ## What is pushed -/

section Pushing

variable {api : Api} {input : SyncInput} {cluster : ClusterKey}

theorem buildSecurityUser_of_credential
    (credential : user.spec.hash ≠ "" ∨ (secretPassword api user).isSome) :
    ∃ secUser, buildSecurityUser api user = .ok secUser := by
  by_cases given : user.spec.hash ≠ ""
  · exact ⟨_, by rw [buildSecurityUser, if_pos given]⟩
  · have secret := credential.resolve_left given
    rw [Option.isSome_iff_exists] at secret
    rcases secret with ⟨password, secret⟩
    cases ref : user.spec.passwordSecret with
    | none => simp [secretPassword, ref] at secret
    | some secretRef =>
      have got : getPasswordFromCRD api user = .ok password := by
        rw [secretPassword, ref, Option.bind_some] at secret
        rw [getPasswordFromCRD, if_neg (fun both => given both.1), ref]
        simp only [passwordFromSecret]
        cases read : api.secret user.nspace secretRef.secretName with
        | error => simp [read] at secret
        | ok =>
          simp only [read] at secret
          simp only [secret]
      exact ⟨_, by rw [buildSecurityUser, if_neg given, ref, Option.isSome_some, if_pos rfl, got]⟩

theorem put_mem_resourceEvents (reads : ReadsSucceed api input) (kind : Kind)
    {resource : Resource (Spec kind)} (member : resource ∈ (api.inventory kind).items) :
    ∃ body applied, body.kind = kind ∧
      .put resource.key ⟨cluster, resource.name, body⟩ applied ∈
        resourceEvents api input cluster kind resource := by
  cases kind with
  | user =>
    rcases buildSecurityUser_of_credential (reads.credentials resource member) with ⟨secUser, built⟩
    refine ⟨.user secUser, (input.answer ⟨cluster, resource.name, .user secUser⟩).applied, rfl, ?_⟩
    rw [resourceEvents, userEvents, built]
    exact List.mem_cons_self ..
  | role | roleMapping | tenant | actionGroup => exact ⟨_, _, rfl, List.mem_cons_self ..⟩

theorem pushed_iff (reads : ReadsSucceed api input)
    (member : resource ∈ (api.inventory kind).items) :
    Pushed api input cluster kind resource.key <-> resource.syncedTo = cluster := by
  constructor
  · rintro ⟨request, applied, recorded, right, _⟩
    exact (put_synced_own right member recorded).2.2.1
  · rintro rfl
    rw [Pushed, syncAllForCluster_log, if_pos reads.connected]
    rcases @put_mem_resourceEvents api input resource.syncedTo reads kind resource member with
      ⟨body, applied, right, inside⟩
    exact ⟨_, applied, (put_mem_syncEvents right).mpr
      ⟨reads.listed kind, resource, member, rfl, rfl, inside⟩, right, rfl⟩

end Pushing

/-! ## When that is right -/

theorem syncedTo_eq_iff_cluster_eq (resource : Resource α) (cluster : ClusterKey) :
    (resource.syncedTo = cluster <-> resource.cluster = cluster) <->
      (resource.clusterRef.name = cluster.name -> resource.LeadsOut ->
        resource.nspace ≠ cluster.nspace ∧ resource.clusterRef.nspace ≠ cluster.nspace) := by
  rcases cluster with ⟨nspace, name⟩
  simp only [Resource.syncedTo, Resource.cluster, ClusterReference.resolve, ClusterKey.mk.injEq,
    Resource.LeadsOut]
  by_cases empty : resource.clusterRef.nspace = ""
  · simp [empty]
  · simp only [empty, if_false, ne_eq, not_false_eq_true, true_and]
    by_cases named : resource.clusterRef.name = name
    · simp only [named, and_true, true_implies]
      constructor
      · intro same leadsOut
        have outside : ¬ resource.nspace = nspace := fun inside =>
          leadsOut ((same.mp inside).trans inside.symm)
        exact ⟨outside, fun inside => outside (same.mpr inside)⟩
      · intro outside
        by_cases leadsOut : resource.clusterRef.nspace = resource.nspace
        · rw [leadsOut]
        · exact iff_of_false (outside leadsOut).1 (outside leadsOut).2
    · simp [named]

/-- Where the synchronizer can read all it needs, every resource reaches its own clusters
exactly when those whose reference leads out of their namespace neither lie in nor refer to
the namespace of a cluster which has the name they give. -/
theorem reachOwnClusters_iff (api : Api) (clusters : List ClusterKey) (inputs : ClusterKey -> SyncInput)
    (reads : ∀ cluster ∈ clusters, ReadsSucceed api (inputs cluster)) :
    ReachOwnClusters api clusters inputs <->
      ∀ cluster ∈ clusters, forall kind, ∀ resource ∈ (api.inventory kind).items,
        resource.clusterRef.name = cluster.name -> resource.LeadsOut ->
          resource.nspace ≠ cluster.nspace ∧ resource.clusterRef.nspace ≠ cluster.nspace := by
  constructor
  · intro reach cluster inside kind resource member
    rw [← syncedTo_eq_iff_cluster_eq, ← pushed_iff (reads cluster inside) member]
    exact reach.exactly cluster inside kind resource member
  · intro outside
    have exactly : ∀ cluster ∈ clusters, forall kind, ∀ resource ∈ (api.inventory kind).items,
        (Pushed api (inputs cluster) cluster kind resource.key <-> resource.cluster = cluster) := by
      intro cluster inside kind resource member
      rw [pushed_iff (reads cluster inside) member, syncedTo_eq_iff_cluster_eq]
      exact outside cluster inside kind resource member
    refine ⟨exactly, ?_⟩
    rintro cluster inside other _ _ differ kind resource member meant pushed
    have here := (exactly cluster inside kind resource member).mp pushed
    exact differ (by rw [← here, meant])

/-! ## Two clusters of one name -/

namespace Sample

def crossing : Resource UserSpec where
  name := "analyst"
  nspace := "staging"
  clusterRef := { name := "wazuh", nspace := "production" }
  spec := { hash := "$2y$12$hash" }

def crossingApi : Api := { api with users := ⟨[crossing], by decide⟩ }

def namesakes : List ClusterKey :=
  [{ nspace := "staging", name := "wazuh" }, { nspace := "production", name := "wazuh" }]

theorem readsSucceed : ReadsSucceed crossingApi synchronizes where
  connected := rfl
  listed := fun _ => rfl
  credentials := by decide

end Sample

open Sample

/-- The reference of a resource that leads out makes the condition fail. -/
theorem reachOwnClusters_iff_namesakes : ReadsSucceed crossingApi synchronizes ∧
      ¬ ReachOwnClusters crossingApi namesakes (fun _ => synchronizes) := by
  refine ⟨readsSucceed, fun reach => ?_⟩
  have outside := (reachOwnClusters_iff crossingApi namesakes (fun _ => synchronizes)
    (fun _ _ => readsSucceed)).mp reach { nspace := "staging", name := "wazuh" } (by decide) .user
    crossing (List.mem_singleton.mpr rfl) rfl ⟨by decide, by decide⟩
  exact outside.1 rfl

/-- The user reaches the cluster it is not meant for, and not the one it is meant for. -/
theorem user_reaches_namesake : crossing.cluster = { nspace := "production", name := "wazuh" } ∧
      Pushed crossingApi synchronizes { nspace := "staging", name := "wazuh" } .user
        crossing.key ∧
      ¬ Pushed crossingApi synchronizes { nspace := "production", name := "wazuh" } .user
        crossing.key := by
  have member : crossing ∈ (crossingApi.inventory .user).items := List.mem_singleton.mpr rfl
  refine ⟨rfl, (pushed_iff readsSucceed member).mpr rfl, fun pushed => ?_⟩
  exact absurd ((pushed_iff readsSucceed member).mp pushed) (by decide)

end Security
end WazuhOperator
