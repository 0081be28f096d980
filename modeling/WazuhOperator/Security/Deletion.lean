import WazuhOperator.Security.Reconcilers

namespace WazuhOperator
namespace Security

open Procedure Proc

/-!
# Deleting a resource

The pass of an index, a role or a user which is being deleted asks OpenSearch to
remove what has its name in the cluster it refers to.  Custom resources are
unique only within their namespace, so resources of different namespaces can
stand for one object of OpenSearch.  The documentation promises to detect this,
but no pass looks at the other resources: the first of them that is deleted
takes the object from the others.
-/

variable {α : Type}

/-! ## Indices -/

inductive IndexEvent where
  | deleted (target : ClusterKey) (name : String) (applied : Bool)
  | finalizerUpdated (key : String × String) (finalized : Bool)

def ReconcileInput.deletes (input : ReconcileInput) : Bool :=
  match input.deleteAnswer with
  | .failed _ delivered => delivered
  | .response status _ => status = 200

/-- A DELETE request which is recorded as an event; an object that is not there is taken for deleted. -/
def sendDelete {ε : Type} (input : ReconcileInput) (event : Bool -> ε) (refusal : String -> String) :
    Proc (Resource α) ε Unit := do
  emit (event input.deletes)
  match input.deleteAnswer with
  | .failed text _ => fail text
  | .response status text =>
    if status ≠ 200 ∧ status ≠ 404 then fail (refusal text) else pure ()

namespace IndexReconciler

variable (input : ReconcileInput)

def update (finalized : Bool) : Proc (Resource α) IndexEvent Unit := do
  modify ({ · with finalized })
  let index ← read
  ofExcept input.update
  emit (.finalizerUpdated index.key finalized)

def delete : Proc (Resource α) IndexEvent Unit := do
  let index ← read
  ofExcept ((input.connect index.cluster).mapError
    ("failed to get OpenSearch client: failed to get connection info: " ++ ·))
  mapError ("failed to delete index: " ++ ·)
    (sendDelete input (.deleted index.cluster index.name) ("failed to delete index: " ++ ·))

/-- `Reconcile` for an index that is being deleted; of the deletion a failure is only logged. -/
def reconcileDeleting : Proc (Resource α) IndexEvent Unit := do
  let index ← read
  if index.finalized then pure ()
  else mapError ("failed to add finalizer: " ++ ·) (update input true)
  let _ ← attempt (delete input)
  update input false

end IndexReconciler

open IndexReconciler

/-! ## Objects with more than one resource -/

/-- Another resource, which stays, stands for the same object. -/
def Shared (inventory : Inventory α) (resource : Resource α) : Prop :=
  ∃ other ∈ inventory.items, other.key ≠ resource.key ∧ other.deleting = false ∧
    other.cluster = resource.cluster ∧ other.name = resource.name

/-- The operator gets to the deletion, and OpenSearch carries it out. -/
def ReconcileInput.Removes (input : ReconcileInput) (resource : Resource α) : Prop :=
  (resource.finalized = true ∨ input.update = .ok ()) ∧ input.connect resource.cluster = .ok () ∧
    input.deletes = true

/-- A pass whose log is given deletes the object only if nobody else needs it. -/
def Spares {ε : Type} (inventory : Inventory α) (resource : Resource α) (removal : ε) (log : List ε) : Prop :=
  removal ∈ log -> ¬Shared inventory resource

section Lemmas

variable {input : ReconcileInput} {resource : Resource α} {inventory : Inventory α}

theorem spares_iff (removes : removal ∈ log <-> input.Removes resource) :
    Spares inventory resource removal log <-> (Shared inventory resource -> ¬input.Removes resource) := by
  rw [Spares, removes]
  exact imp_not_comm

/-- With a connection a `Delete` asks OpenSearch for the removal, and it does nothing else. -/
def Asks {ε : Type} (input : ReconcileInput) (removal : Resource α -> Bool -> ε)
    (delete : Proc (Resource α) ε Unit) : Prop :=
  forall resource, exists result, delete resource = ⟨result, resource,
    match input.connect resource.cluster with
    | .ok _ => [removal resource input.deletes]
    | .error _ => []⟩

variable (input)

theorem sendDelete_apply (resource : Resource α) (event : Bool -> ε) (refusal : String -> String) :
    exists result, sendDelete input event refusal resource = ⟨result, resource, [event input.deletes]⟩ := by
  unfold sendDelete
  cases input.deleteAnswer with
  | failed text delivered => exact ⟨_, rfl⟩
  | response status text => by_cases refused : status ≠ 200 ∧ status ≠ 404 <;> simp [refused]

theorem asks_index : Asks input (fun index => .deleted index.cluster index.name)
    (delete input : Proc (Resource α) IndexEvent Unit) := by
  intro index
  rcases sendDelete_apply input index (IndexEvent.deleted index.cluster index.name)
    ("failed to delete index: " ++ ·) with ⟨result, told⟩
  cases connected : input.connect index.cluster <;> cases result <;>
    simp [delete, connected, told]

theorem asks_user :
    Asks input (fun user => .deleted user.cluster .user user.name) (UserReconciler.delete input) := by
  intro user
  rcases sendDelete_apply input user (SecurityEvent.deleted user.cluster .user user.name)
    ("failed to delete user: " ++ ·) with ⟨result, told⟩
  change deleteEntry .user input id _ user.cluster user.name user = _ at told
  cases connected : input.connect user.cluster <;> cases result <;>
    simp [UserReconciler.delete, UserReconciler.getOpenSearchClient, connected, told]

theorem asks_role :
    Asks input (fun role => .deleted role.cluster .role role.name) (RoleReconciler.delete input) := by
  intro role
  rcases sendDelete_apply input role (SecurityEvent.deleted role.cluster .role role.name)
    ("failed to delete role: " ++ ·) with ⟨result, told⟩
  change deleteEntry .role input id _ role.cluster role.name role = _ at told
  cases connected : input.connect role.cluster <;> cases result <;>
    simp [RoleReconciler.delete, RoleReconciler.getOpenSearchClient, connected, told]

variable {input}

theorem index_removed_iff :
    .deleted resource.cluster resource.name true ∈ (reconcileDeleting input resource).log <->
      input.Removes resource := by
  rcases resource with ⟨name, nspace, reference, spec, finalized, deleting, status⟩
  rcases asks_index input ⟨name, nspace, reference, spec, true, deleting, status⟩ with ⟨result, told⟩
  cases finalized <;> cases updated : input.update <;>
    cases connected : input.connect (reference.resolve nspace) <;>
    simp [reconcileDeleting, update, ReconcileInput.Removes, Resource.cluster, *]

theorem entry_removed_iff {kind : Kind} {delete sync : Proc (Resource α) SecurityEvent Unit}
    (asks : Asks input (fun resource => .deleted resource.cluster kind resource.name) delete)
    (deleting : resource.deleting) :
    .deleted resource.cluster kind resource.name true ∈
        (reconcileResource kind input delete sync resource).log <->
      input.Removes resource := by
  rcases resource with ⟨name, nspace, reference, spec, finalized, _, status⟩
  cases deleting
  rcases asks ⟨name, nspace, reference, spec, true, true, status⟩ with ⟨result, told⟩
  cases finalized <;> cases updated : input.update <;>
    cases connected : input.connect (reference.resolve nspace) <;>
    simp [reconcileResource, addFinalizer, updateResource, handleDeletion, ReconcileInput.Removes,
      Resource.cluster, *]

end Lemmas

/-- The deletion of a resource takes no object from another one exactly where no other resource
stands for the object or the request does not get through. -/
theorem deletion_spares_shared_iff (input : ReconcileInput) :
    (forall (inventory : Inventory α) (index : Resource α),
      Spares inventory index (.deleted index.cluster index.name true)
          (reconcileDeleting input index).log <->
        (Shared inventory index -> ¬input.Removes index)) ∧
    (forall (inventory : Inventory RoleSpec) (role : Resource RoleSpec), role.deleting = true ->
      (Spares inventory role (.deleted role.cluster .role role.name true)
          (RoleReconciler.reconcile input role).log <->
        (Shared inventory role -> ¬input.Removes role))) ∧
    forall (api : Api) (user : Resource UserSpec), user.deleting = true ->
      (Spares api.users user (.deleted user.cluster .user user.name true)
          (UserReconciler.reconcile api input user).log <->
        (Shared api.users user -> ¬input.Removes user)) :=
  ⟨fun _ _ => spares_iff index_removed_iff,
    fun _ _ deleting => spares_iff (entry_removed_iff (asks_role input) deleting),
    fun _ _ deleting => spares_iff (entry_removed_iff (asks_user input) deleting)⟩

/-! ## Two teams with a resource of one name -/

/-- A resource for the cluster `prod` in the namespace `wazuh`. -/
def alerts (spec : α) (nspace : String) (deleting : Bool) : Resource α where
  name := "alerts"
  nspace := nspace
  clusterRef := { name := "prod", nspace := "wazuh" }
  spec := spec
  deleting := deleting

/-- Both teams have the resource, and the first deletes it. -/
def twoTeams (spec : α) : Inventory α where
  items := [alerts spec "team-a" true, alerts spec "team-b" false]
  distinct := by simp [alerts, Resource.key]

theorem shared_twoTeams (spec : α) : Shared (twoTeams spec) (alerts spec "team-a" true) :=
  ⟨_, .tail _ (.head _), by simp [alerts, Resource.key], rfl, rfl, rfl⟩

theorem deletion_spares_shared_iff_teams :
    let role := alerts ({} : RoleSpec) "team-a" true
    ¬Spares (twoTeams {}) role (.deleted ⟨"wazuh", "prod"⟩ .role "alerts" true)
      (RoleReconciler.reconcile {} role).log := by
  intro role spares
  have kept := ((@deletion_spares_shared_iff Unit {}).2.1 _ _ rfl).mp spares
  exact kept (shared_twoTeams _) ⟨.inr rfl, rfl, rfl⟩

/-- The index of the second team is deleted. -/
theorem deletion_takes_index_of_other :
    ¬Spares (twoTeams ()) (alerts () "team-a" true) (.deleted ⟨"wazuh", "prod"⟩ "alerts" true)
      (reconcileDeleting {} (alerts () "team-a" true)).log :=
  fun spares => spares (index_removed_iff.mpr ⟨.inr rfl, rfl, rfl⟩) (shared_twoTeams ())

end Security
end WazuhOperator
