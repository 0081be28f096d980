import Mathlib.Logic.Basic
import Mathlib.Tactic.MkIffOfInductiveProp

namespace WazuhOperator
namespace Authentication

/-!
# The two validators of an authentication configuration

The webhook and the reconciler both check an `OpenSearchAuthConfig`.  They ask
for the same fields of the methods which are enabled.  That no method is
enabled concerns only the webhook; several methods which challenge, for which
the webhook has a warning, and LDAP authorization without a base for the roles
concern only the reconciler.  Its checks do not use the resolved Secrets.
-/

/-- What every method has, and all that is read of `BasicAuthSpec`. -/
structure Method where
  (enabled challenge : Bool := false)

structure OIDCAuthSpec extends Method where
  (connectURL clientID : String := "")

structure SAMLAuthSpec extends Method where
  (idpMetadataURL idpMetadataFile idpEntityID spEntityID kibanaURL : String := "")

structure LDAPAuthorizationSpec where
  enabled : Bool := false
  roleBase : String := ""

/-- `userBase` is a field of `authentication`. -/
structure LDAPAuthSpec extends Method where
  hosts : List String := []
  userBase : String := ""
  authorization : Option LDAPAuthorizationSpec := none

structure OpenSearchAuthConfigSpec where
  basicAuth : Option Method := none
  oidc : Option OIDCAuthSpec := none
  saml : Option SAMLAuthSpec := none
  ldap : Option LDAPAuthSpec := none

variable (spec : OpenSearchAuthConfigSpec)

def enabledMethods : List Method :=
  (spec.basicAuth.toList ++ (spec.oidc.map (·.toMethod)).toList ++ (spec.saml.map (·.toMethod)).toList ++
    (spec.ldap.map (·.toMethod)).toList).filter (·.enabled)

def hasEnabledAuthMethod : Bool := !(enabledMethods spec).isEmpty

def countChallengeDomains : Nat := (enabledMethods spec).countP (·.challenge)

/-! ## The webhook -/

def demand (given : Bool) (text : String) : List String := if given then [] else [text]

def whenEnabled {ρ : Type} (enabled : ρ -> Bool) (check : ρ -> List String) : Option ρ -> List String
  | none => []
  | some part => if enabled part then check part else []

/-- The warnings and the errors. -/
def validateOpenSearchAuthConfig : List String × List String :=
  (demand (countChallengeDomains spec ≤ 1) (toString (countChallengeDomains spec) ++
      " authentication domains have challenge=true; only one should issue challenges to avoid conflicts"),
    demand (hasEnabledAuthMethod spec)
      "spec: at least one authentication method must be enabled (basicAuth, oidc, saml, or ldap)" ++
    whenEnabled (·.enabled) (fun oidc =>
      demand (oidc.connectURL ≠ "") "spec.oidc.connectURL: is required when OIDC is enabled" ++
      demand (oidc.clientID ≠ "") "spec.oidc.clientId: is required when OIDC is enabled") spec.oidc ++
    whenEnabled (·.enabled) (fun saml =>
      demand (saml.idpEntityID ≠ "") "spec.saml.idpEntityId: is required when SAML is enabled" ++
      demand (saml.spEntityID ≠ "") "spec.saml.spEntityId: is required when SAML is enabled" ++
      demand (saml.kibanaURL ≠ "") "spec.saml.kibanaUrl: is required when SAML is enabled" ++
      demand (saml.idpMetadataURL ≠ "" ∨ saml.idpMetadataFile ≠ "")
        "spec.saml: either idpMetadataUrl or idpMetadataFile must be specified when SAML is enabled")
      spec.saml ++
    whenEnabled (·.enabled) (fun ldap =>
      demand (ldap.hosts ≠ []) "spec.ldap.hosts: must not be empty when LDAP is enabled" ++
      demand (ldap.userBase ≠ "")
        "spec.ldap.authentication.userBase: is required when LDAP is enabled") spec.ldap)

/-! ## The reconciler -/

/-- `validateConfig`, which returns the first error. -/
def validateConfig : Option String :=
  (demand (countChallengeDomains spec ≤ 1)
      ("only one authentication domain can have challenge=true, found " ++
        toString (countChallengeDomains spec)) ++
    whenEnabled (·.enabled) (fun oidc =>
      demand (oidc.connectURL ≠ "") "oidc.connectURL: connectURL is required when OIDC is enabled" ++
      demand (oidc.clientID ≠ "") "oidc.clientId: clientId is required when OIDC is enabled") spec.oidc ++
    whenEnabled (·.enabled) (fun saml =>
      demand (saml.idpMetadataURL ≠ "" ∨ saml.idpMetadataFile ≠ "")
        "saml: either idpMetadataUrl or idpMetadataFile is required when SAML is enabled" ++
      demand (saml.idpEntityID ≠ "") "saml.idpEntityId: idpEntityId is required when SAML is enabled" ++
      demand (saml.spEntityID ≠ "") "saml.spEntityId: spEntityId is required when SAML is enabled" ++
      demand (saml.kibanaURL ≠ "") "saml.kibanaUrl: kibanaUrl is required when SAML is enabled") spec.saml ++
    whenEnabled (·.enabled) (fun ldap =>
      demand (ldap.hosts ≠ []) "ldap.hosts: at least one LDAP host is required when LDAP is enabled" ++
      demand (ldap.userBase ≠ "")
        "ldap.authentication.userBase: userBase is required when LDAP is enabled" ++
      whenEnabled (·.enabled) (fun authorization => demand (authorization.roleBase ≠ "")
        "ldap.authorization.roleBase: roleBase is required when LDAP authorization is enabled")
        ldap.authorization) spec.ldap).head?

/-! ## Where they agree -/

@[simp]
theorem demand_eq_nil : demand given text = [] <-> given = true := by
  cases given <;> simp [demand]

@[simp]
theorem whenEnabled_eq_nil :
    whenEnabled enabled check part = [] <-> ∀ given ∈ part, enabled given -> check given = [] := by
  cases part <;> simp [whenEnabled]

@[mk_iff]
structure FieldsGiven : Prop where
  oidc : ∀ oidc ∈ spec.oidc, oidc.enabled = true -> oidc.connectURL ≠ "" ∧ oidc.clientID ≠ ""
  saml : ∀ saml ∈ spec.saml, saml.enabled = true ->
    saml.idpEntityID ≠ "" ∧ saml.spEntityID ≠ "" ∧ saml.kibanaURL ≠ "" ∧
      (saml.idpMetadataURL ≠ "" ∨ saml.idpMetadataFile ≠ "")
  ldap : ∀ ldap ∈ spec.ldap, ldap.enabled = true -> ldap.hosts ≠ [] ∧ ldap.userBase ≠ ""

/-- What only the reconciler asks for: one challenge, and a base for the roles. -/
@[mk_iff]
structure Reconcilable : Prop where
  challenges : countChallengeDomains spec ≤ 1
  roleBase : ∀ ldap ∈ spec.ldap, ldap.enabled = true -> ∀ authorization ∈ ldap.authorization,
    authorization.enabled = true -> authorization.roleBase ≠ ""

theorem webhook_accepts_iff : (validateOpenSearchAuthConfig spec).2 = [] <->
    hasEnabledAuthMethod spec ∧ FieldsGiven spec := by
  simp [validateOpenSearchAuthConfig, fieldsGiven_iff]

theorem validateConfig_eq_none : validateConfig spec = none <->
    FieldsGiven spec ∧ Reconcilable spec := by
  simp only [validateConfig, List.head?_eq_none_iff, List.append_eq_nil_iff, demand_eq_nil,
    whenEnabled_eq_nil, decide_eq_true_eq, fieldsGiven_iff, reconcilable_iff]
  grind

theorem accepts_of_disabled {spec : OpenSearchAuthConfigSpec} (disabled : enabledMethods spec = []) :
    FieldsGiven spec ∧ Reconcilable spec := by
  have challenges : countChallengeDomains spec ≤ 1 := by simp [countChallengeDomains, disabled]
  simp only [enabledMethods, List.filter_eq_nil_iff, List.forall_mem_append] at disabled
  grind [fieldsGiven_iff, reconcilable_iff, Option.mem_def]

/-- The two validators agree on a configuration if and only if it enables a method and, as far as
the fields are given which both ask for, has one challenge and the base for the roles. -/
theorem validators_agree_iff :
    (((validateOpenSearchAuthConfig spec).2 = [] -> validateConfig spec = none) ∧
        ((validateOpenSearchAuthConfig spec).2 ≠ [] -> validateConfig spec ≠ none)) <->
      hasEnabledAuthMethod spec = true ∧ (FieldsGiven spec -> Reconcilable spec) := by
  rw [ne_eq, ne_eq, not_imp_not, webhook_accepts_iff, validateConfig_eq_none]
  constructor
  · rintro ⟨admitted, accepted⟩
    by_cases enabled : hasEnabledAuthMethod spec
    · exact ⟨enabled, fun given => (admitted ⟨enabled, given⟩).2⟩
    · have disabled : enabledMethods spec = [] := by simpa [hasEnabledAuthMethod] using enabled
      exact absurd (accepted (accepts_of_disabled disabled)).1 enabled
  · rintro ⟨enabled, reconcilable⟩
    exact ⟨fun given => ⟨given.2, reconcilable given.2⟩, fun accepted => ⟨enabled, accepted.1⟩⟩

/-- The webhook accepts two methods which challenge; the reconciler does not. -/
theorem two_challenges_admitted :
    let spec : OpenSearchAuthConfigSpec :=
      { basicAuth := some { enabled := true, challenge := true }
        oidc := some { enabled := true, challenge := true, connectURL := "https://idp", clientID := "wazuh" } }
    (validateOpenSearchAuthConfig spec).2 = [] ∧
      validateConfig spec = some "only one authentication domain can have challenge=true, found 2" := by
  decide +kernel

end Authentication
end WazuhOperator
