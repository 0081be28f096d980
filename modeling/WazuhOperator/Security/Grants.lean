import WazuhOperator.Security.Reconcilers

namespace WazuhOperator
namespace Security

open List

/-!
# What a role lets its holders read

An index permission grants actions on the indices that match its patterns.  A
document-level query narrows the documents, a field-level list the fields, and
masked fields are shown only in masked form; empty ones narrow nothing.  How
OpenSearch reads patterns, queries and field lists is left open here, so what
is said below holds for every such reading.

Both functions which translate a role leave these three restrictions out.
-/

/-! ## Reading through a permission -/

/-- The part of an index permission that narrows what is read. -/
structure Restriction where
  dls : String
  (fls maskedFields : List String)
  deriving DecidableEq

structure Grant where
  (indexPatterns allowedActions : List String)
  restriction : Restriction

def IndexPermission.grant (permission : IndexPermission) : Grant where
  indexPatterns := permission.indexPatterns
  allowedActions := permission.allowedActions
  restriction := ⟨permission.dls, permission.fls, permission.maskedFields⟩

def SecurityIndexPermission.grant (permission : SecurityIndexPermission) : Grant where
  indexPatterns := permission.indexPatterns
  allowedActions := permission.allowedActions
  restriction :=
    ⟨permission.documentLevelSecurity, permission.fieldLevelSecurity, permission.maskedFields⟩

def RoleSpec.grants (role : RoleSpec) : List Grant := role.indexPermissions.map IndexPermission.grant

def SecurityRole.grants (role : SecurityRole) : List Grant :=
  role.indexPermissions.map SecurityIndexPermission.grant

structure Reading (Document : Type) where
  (index action : String -> String -> Bool)
  query : String -> Document -> Bool
  (fields masked : List String -> String -> Bool)

/-- One thing that may be read: a field of a document in an index, in plain or masked form. -/
structure Access (Document : Type) where
  (index action : String)
  document : Document
  field : String
  plain : Bool

section Reading

variable {Document : Type} (reading : Reading Document)

structure Restriction.Admits (restriction : Restriction) (access : Access Document) : Prop where
  document : restriction.dls = "" ∨ reading.query restriction.dls access.document = true
  field : restriction.fls = [] ∨ reading.fields restriction.fls access.field = true
  masking : access.plain = true -> restriction.maskedFields = [] ∨
    reading.masked restriction.maskedFields access.field = false

structure Grant.Allows (grant : Grant) (access : Access Document) : Prop where
  index : ∃ pattern ∈ grant.indexPatterns, reading.index pattern access.index = true
  action : ∃ pattern ∈ grant.allowedActions, reading.action pattern access.action = true
  restriction : grant.restriction.Admits reading access

def Readable (grants : List Grant) (access : Access Document) : Prop :=
  ∃ grant ∈ grants, grant.Allows reading access

end Reading

/-- The role pushed for a specification restricts each index permission as the specification
does, and lets no one read more. -/
structure GrantsNoMore (spec : RoleSpec) (pushed : SecurityRole) : Prop where
  restrictions : pushed.grants.map Grant.restriction = spec.grants.map Grant.restriction
  readable : forall (Document : Type) (reading : Reading Document) (access : Access Document),
    Readable reading pushed.grants access -> Readable reading spec.grants access

/-! ## The two translations -/

def IndexPermission.Unrestricted (permission : IndexPermission) : Prop :=
  permission.dls = "" ∧ permission.fls = [] ∧ permission.maskedFields = []
  deriving Decidable

theorem grants_buildSecurityRole (spec : RoleSpec) :
    (buildSecurityRole spec).grants = spec.grants.map fun grant =>
      { grant with restriction := ⟨"", [], []⟩ } := by
  simp only [SecurityRole.grants, RoleSpec.grants, buildSecurityRole, map_map]
  rfl

theorem buildRole_eq (spec : RoleSpec) : RoleReconciler.buildRole spec = buildSecurityRole spec := rfl

theorem grants_of_unrestricted
    (unrestricted : ∀ permission ∈ spec.indexPermissions, permission.Unrestricted) :
    (buildSecurityRole spec).grants = spec.grants := by
  rw [grants_buildSecurityRole, RoleSpec.grants, map_map]
  apply map_congr_left
  intro permission member
  rcases unrestricted permission member with ⟨dls, fls, maskedFields⟩
  simp [IndexPermission.grant, dls, fls, maskedFields]

/-- Neither translation grants more than the specification exactly when no index permission
of the specification is restricted. -/
theorem role_grantsNoMore_iff (spec : RoleSpec) :
    GrantsNoMore spec (RoleReconciler.buildRole spec) ∧ GrantsNoMore spec (buildSecurityRole spec) <->
      ∀ permission ∈ spec.indexPermissions, permission.Unrestricted := by
  rw [buildRole_eq, and_self_iff]
  constructor
  · intro noMore permission member
    have same := noMore.restrictions
    rw [grants_buildSecurityRole, map_map] at same
    have bare : ∀ grant ∈ spec.grants, (⟨"", [], []⟩ : Restriction) = grant.restriction :=
      map_inj_left.mp same
    have plain := bare permission.grant (mem_map_of_mem member)
    simp only [IndexPermission.grant, Restriction.mk.injEq] at plain
    exact ⟨plain.1.symm, plain.2.1.symm, plain.2.2.symm⟩
  · intro unrestricted
    have same := grants_of_unrestricted unrestricted
    refine ⟨by rw [same], fun Document reading access readable => ?_⟩
    rw [same] at readable
    exact readable

/-! ## A document-level query that is lost -/

namespace Sample

def teamRole : RoleSpec where
  indexPermissions :=
    [{ indexPatterns := ["wazuh-alerts-*"], allowedActions := ["read"], dls := "team-a" }]

/-- Patterns match everything, and a query selects the document of its name. -/
def byName : Reading String where
  index := fun _ _ => true
  action := fun _ _ => true
  query := fun query document => query = document
  fields := fun _ _ => true
  masked := fun _ _ => true

def foreign : Access String where
  index := "wazuh-alerts-1"
  action := "read"
  document := "team-b"
  field := "rule"
  plain := true

end Sample

open Sample

/-- Both pushed roles show an alert that the specification keeps from its holders. -/
theorem teamRole_grants_more : Readable byName (RoleReconciler.buildRole teamRole).grants foreign ∧
      Readable byName (buildSecurityRole teamRole).grants foreign ∧
      ¬ Readable byName teamRole.grants foreign := by
  have shown : Readable byName (buildSecurityRole teamRole).grants foreign := by
    refine ⟨_, mem_singleton.mpr rfl, ⟨"wazuh-alerts-*", by decide, rfl⟩, ⟨"read", by decide, rfl⟩,
      .inl rfl, .inl rfl, fun _ => .inl rfl⟩
  refine ⟨shown, shown, ?_⟩
  rintro ⟨grant, member, allows⟩
  rw [mem_singleton.mp member] at allows
  rcases allows.restriction.document with free | selected
  · exact absurd free (by decide)
  · exact absurd selected (by decide)

end Security
end WazuhOperator
