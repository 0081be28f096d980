import WazuhOperator.Library.Runs
import WazuhOperator.Security.Pushes

namespace WazuhOperator
namespace Security

open Procedure Sample RoleMappingReconciler

/-!
# Who holds a role

A role mapping gives a role to the users, hosts and backend roles it lists,
each of which is enough, and to whoever has all of its `and_backend_roles`.
The reconciler and the synchronizer both push a role mapping, and no order of
the two should change who holds the role.

The synchronizer leaves the `and_backend_roles` out.
-/

/-! ## Holding a role -/

structure Principal where
  (name host : String)
  backendRoles : List String

section Holding

/- How OpenSearch compares the texts of a mapping with those of a principal. -/
variable (matching : String -> String -> Bool)

def Principal.HasRole (principal : Principal) (pattern : String) : Prop :=
  ∃ role ∈ principal.backendRoles, matching pattern role = true

/-- One of the users, hosts and backend roles of the mapping is that of the principal. -/
def RoleMapping.Lists (mapping : RoleMapping) (principal : Principal) : Prop :=
  (∃ pattern ∈ mapping.users, matching pattern principal.name = true) ∨
    (∃ pattern ∈ mapping.hosts, matching pattern principal.host = true) ∨
    ∃ pattern ∈ mapping.backendRoles, principal.HasRole matching pattern

def Principal.HasAll (principal : Principal) (andBackendRoles : List String) : Prop :=
  andBackendRoles ≠ [] ∧ ∀ pattern ∈ andBackendRoles, principal.HasRole matching pattern

def RoleMapping.Holds (mapping : RoleMapping) (principal : Principal) : Prop :=
  mapping.Lists matching principal ∨ principal.HasAll matching mapping.andBackendRoles

def HoldsAt (entry : Option RoleMapping) (principal : Principal) : Prop :=
  ∃ mapping, entry = some mapping ∧ mapping.Holds matching principal

end Holding

/-! ## Passes over a role mapping -/

inductive MappingPass (mapping : Resource RoleMappingSpec) where
  | reconcile (input : ReconcileInput)
  | synchronize (api : Api) (member : mapping ∈ api.roleMappings.items) (input : SyncInput)

namespace MappingPass

variable {mapping : Resource RoleMappingSpec}

def target : MappingPass mapping -> ClusterKey
  | reconcile _ => mapping.cluster
  | synchronize _ _ _ => mapping.syncedTo

def payload : MappingPass mapping -> RoleMapping
  | reconcile _ => buildRoleMapping mapping.spec
  | synchronize _ _ _ => syncedRoleMapping mapping.spec

def log : MappingPass mapping -> List SecurityEvent
  | reconcile input => (RoleMappingReconciler.reconcile input mapping).log
  | synchronize api _ input =>
    (syncAllForCluster api input mapping.syncedTo {}).log

def step (indices : Indices) (pass : MappingPass mapping) : Indices := indices.afterAll pass.log

def Pushes (pass : MappingPass mapping) : Prop :=
  ∃ request, .put mapping.key request true ∈ pass.log ∧ request.body.kind = .roleMapping

end MappingPass

open MappingPass

/-- The two writers give the role to the same principals, so that once one of them has pushed
the mapping no later passes change who holds the role. -/
structure WritersAgree (matching : String -> String -> Bool) (mapping : Resource RoleMappingSpec) :
    Prop where
  same : forall principal, (syncedRoleMapping mapping.spec).Holds matching principal <->
    (buildRoleMapping mapping.spec).Holds matching principal
  steady : forall (indices : Indices) (pass : MappingPass mapping) (later : List (MappingPass mapping))
    (principal : Principal), pass.Pushes ->
      (HoldsAt matching ((Runs.run step (step indices pass) later
          pass.target).roleMappings mapping.name) principal <->
        HoldsAt matching ((step indices pass pass.target).roleMappings mapping.name) principal)

/-- Whoever has all of the `and_backend_roles` is listed as well. -/
def RoleMappingSpec.Covered (matching : String -> String -> Bool) (spec : RoleMappingSpec) : Prop :=
  forall principal : Principal, principal.HasAll matching spec.andBackendRoles ->
    (syncedRoleMapping spec).Lists matching principal

/-! ## What a pass leaves -/

namespace MappingPass

variable {mapping : Resource RoleMappingSpec}

theorem roleMappings_after_put (indices : Indices) (target : ClusterKey) (source : String × String)
    (name : String) (payload : RoleMapping) (place : ClusterKey) :
    (indices.after (.put source ⟨target, name, .roleMapping payload⟩ true) place).roleMappings name =
      if place = target then some payload else (indices place).roleMappings name := by
  simp only [Indices.after, Indices.update]
  split
  · simp [SecurityIndex.put, SecurityIndex.replace]
  · rfl

theorem roleMappings_step_reconcile (live : mapping.deleting = false) (indices : Indices)
    (input : ReconcileInput) (place : ClusterKey) :
    (step indices (reconcile input : MappingPass mapping) place).roleMappings mapping.name =
        (indices place).roleMappings mapping.name ∨
      (step indices (reconcile input : MappingPass mapping) place).roleMappings mapping.name =
        some (buildRoleMapping mapping.spec) := by
  rcases @RoleMappingReconciler.reconcile_live input mapping live with quiet | alone
  · left
    rw [step, log, Indices.afterAll_of_quiet quiet]
  · rw [step, log, alone.afterAll]
    cases (input.answer ⟨mapping.cluster, mapping.name,
      .roleMapping (buildRoleMapping mapping.spec)⟩).applied with
    | false => exact .inl rfl
    | true =>
      rw [roleMappings_after_put]
      split
      · exact .inr rfl
      · exact .inl rfl

theorem roleMappings_step_synchronize (indices : Indices) (api : Api)
    (member : mapping ∈ api.roleMappings.items) (input : SyncInput) (place : ClusterKey) :
    (step indices (synchronize api member input : MappingPass mapping) place).roleMappings mapping.name =
        (indices place).roleMappings mapping.name ∨
      (step indices (synchronize api member input : MappingPass mapping) place).roleMappings
        mapping.name = some (syncedRoleMapping mapping.spec) := by
  rw [step, log, syncAllForCluster_log]
  split
  next connected =>
    by_cases here : place = mapping.syncedTo
    · subst here
      cases listed : input.list .roleMapping with
      | error => exact .inl (@entry_unsynced api input _ _ .roleMapping (by simp [listed]) mapping.name indices)
      | ok _ =>
        have entry := @entry_synced api input mapping.syncedTo .roleMapping mapping _ _ _ listed member rfl rfl
          (by rw [resourceEvents, roleMappingEvents, pushEvents]; rfl) indices
        cases applied : (input.answer ⟨mapping.syncedTo,
            mapping.name, .roleMapping (syncedRoleMapping mapping.spec)⟩).applied with
        | false =>
          rw [applied] at entry
          exact .inl entry
        | true =>
          rw [applied] at entry
          exact .inr (entry.trans ((roleMappings_after_put ..).trans (if_pos rfl)))
    · exact .inl (@entry_unsynced api input _ _ .roleMapping (absurd · here) mapping.name indices)
  next => exact .inl rfl

theorem roleMappings_of_pushes (live : mapping.deleting = false) (indices : Indices)
    {pass : MappingPass mapping} (pushes : pass.Pushes) :
    (step indices pass pass.target).roleMappings mapping.name = some pass.payload := by
  rcases pushes with ⟨request, recorded, right⟩
  cases pass with
  | reconcile input =>
    rcases @RoleMappingReconciler.reconcile_live input mapping live with quiet | alone
    · cases quiet _ recorded
    · rw [PutsEntry, ← (alone.unique recorded).2] at alone
      rw [step, log, alone.afterAll]
      exact (roleMappings_after_put ..).trans (if_pos rfl)
  | synchronize api member input =>
    rcases put_synced_own right member recorded with ⟨connected, listed, _, inside⟩
    rw [step, log, syncAllForCluster_log, if_pos connected]
    simp only [resourceEvents, roleMappingEvents, pushEvents, List.mem_cons,
      SecurityEvent.put.injEq, reduceCtorEq, List.not_mem_nil, or_false] at inside
    have entry := @entry_synced api input mapping.syncedTo .roleMapping mapping _ _ _ listed
      member rfl rfl (by rw [resourceEvents, roleMappingEvents, pushEvents]; rfl) indices
    rw [← inside.2.2] at entry
    exact entry.trans ((roleMappings_after_put ..).trans (if_pos rfl))

end MappingPass

/-! ## When the writers agree -/

section Agreement

variable {matching : String -> String -> Bool} {mapping : Resource RoleMappingSpec}

theorem holds_synced_iff (spec : RoleMappingSpec) (principal : Principal) :
    (syncedRoleMapping spec).Holds matching principal <->
      (syncedRoleMapping spec).Lists matching principal := by
  simp [RoleMapping.Holds, Principal.HasAll, syncedRoleMapping]

theorem same_holders_iff (spec : RoleMappingSpec) :
    (forall principal, (syncedRoleMapping spec).Holds matching principal <->
        (buildRoleMapping spec).Holds matching principal) <->
      spec.Covered matching := by
  apply forall_congr'
  intro principal
  rw [holds_synced_iff]
  exact ⟨fun same hasAll => same.mpr (.inr hasAll),
    fun covered => ⟨.inl, fun holds => holds.elim id covered⟩⟩

/-- The entry gives the role to those to whom the reconciler gives it. -/
def Settles (matching : String -> String -> Bool) (spec : RoleMappingSpec) (entry : Option RoleMapping) :
    Prop :=
  forall principal, HoldsAt matching entry principal <->
    (buildRoleMapping spec).Holds matching principal

theorem settles_some {spec : RoleMappingSpec} {pushed : RoleMapping}
    (same : forall principal, pushed.Holds matching principal <->
      (buildRoleMapping spec).Holds matching principal) :
    Settles matching spec (some pushed) := by
  intro principal
  rw [← same principal]
  constructor
  · rintro ⟨found, equal, holds⟩
    cases equal
    exact holds
  · exact fun holds => ⟨pushed, rfl, holds⟩

theorem settles_step (live : mapping.deleting = false) (covered : mapping.spec.Covered matching)
    {indices : Indices} {place : ClusterKey}
    (settled : Settles matching mapping.spec ((indices place).roleMappings mapping.name))
    (pass : MappingPass mapping) :
    Settles matching mapping.spec ((step indices pass place).roleMappings mapping.name) := by
  have same := (same_holders_iff mapping.spec).mpr covered
  cases pass with
  | reconcile input =>
    rcases roleMappings_step_reconcile live indices input place with kept | stored
    · rw [kept]
      exact settled
    · rw [stored]
      exact settles_some fun _ => Iff.rfl
  | synchronize api member input =>
    rcases roleMappings_step_synchronize indices api member input place with kept | stored
    · rw [kept]
      exact settled
    · rw [stored]
      exact settles_some same

theorem settles_run (live : mapping.deleting = false) (covered : mapping.spec.Covered matching)
    {place : ClusterKey} (passes : List (MappingPass mapping)) :
    forall indices : Indices,
      Settles matching mapping.spec ((indices place).roleMappings mapping.name) ->
      Settles matching mapping.spec
        ((Runs.run step indices passes place).roleMappings mapping.name) := by
  induction passes with
  | nil => exact fun _ settled => settled
  | cons pass _ ih =>
    exact fun indices settled => ih _ (settles_step live covered settled pass)

end Agreement

/-- The writers of a role mapping that is not being deleted agree exactly when whoever has
all of its `and_backend_roles` is listed as well. -/
theorem roleMapping_writersAgree_iff (matching : String -> String -> Bool)
    (mapping : Resource RoleMappingSpec) (live : mapping.deleting = false) :
    WritersAgree matching mapping <-> mapping.spec.Covered matching := by
  constructor
  · exact fun agree => (same_holders_iff mapping.spec).mp agree.same
  · intro covered
    have same := (same_holders_iff mapping.spec).mpr covered
    refine ⟨same, fun indices pass later principal pushes => ?_⟩
    have stored := roleMappings_of_pushes live indices pushes
    have first : Settles matching mapping.spec
        ((step indices pass pass.target).roleMappings mapping.name) := by
      rw [stored]
      cases pass with
      | reconcile => exact settles_some fun _ => Iff.rfl
      | synchronize => exact settles_some same
    exact (settles_run live covered later _ first principal).trans (first principal).symm

/-! ## Two mappings with AND logic -/

namespace Sample

def sensitive : Resource RoleMappingSpec where
  name := "sensitive-data-access"
  nspace := "wazuh"
  clusterRef := { name := "wazuh" }
  spec := { andBackendRoles := ["security-cleared", "data-access-approved"] }

/-- One of the two roles is enough here. -/
def covered : Resource RoleMappingSpec :=
  { sensitive with spec := { sensitive.spec with backendRoles := ["security-cleared"] } }

def cleared : Principal where
  name := "analyst"
  host := "10.0.0.1"
  backendRoles := ["security-cleared", "data-access-approved"]

def mappingApi : Api where
  users := .empty
  roles := .empty
  roleMappings := ⟨[sensitive], by decide⟩
  tenants := .empty
  actionGroups := .empty
  secret := fun _ _ => .error "not found"

def reconcilesMapping : MappingPass sensitive := .reconcile reconciles

def synchronizesMapping : MappingPass sensitive :=
  .synchronize mappingApi (List.mem_singleton.mpr rfl) synchronizes

end Sample

/-- Whoever has both roles has the one which is listed. -/
theorem roleMapping_writersAgree_iff_covered : WritersAgree (· == ·) covered := by
  refine (roleMapping_writersAgree_iff (· == ·) covered rfl).mpr fun principal hasAll => ?_
  exact .inr (.inr ⟨"security-cleared", by decide, hasAll.2 _ (by decide)⟩)

/-- Who holds the role after the reconciler has lost it after the synchronizer. -/
theorem synchronizer_takes_role_away :
    HoldsAt (· == ·) ((step emptyIndices reconcilesMapping
        sensitive.cluster).roleMappings "sensitive-data-access") cleared ∧
      ¬ HoldsAt (· == ·) ((Runs.run step emptyIndices
        [reconcilesMapping, synchronizesMapping]
        sensitive.cluster).roleMappings "sensitive-data-access") cleared := by
  constructor
  · refine ⟨_, rfl, .inr ⟨by decide, ?_⟩⟩
    intro pattern member
    exact ⟨pattern, member, by simp⟩
  · rintro ⟨mapping, found, holds⟩
    have stored := (Option.some.inj found).symm
    rw [stored, holds_synced_iff] at holds
    simp [RoleMapping.Lists, syncedRoleMapping, sensitive] at holds

end Security
end WazuhOperator
