import WazuhOperator.Cluster.Objects
import WazuhOperator.Library.Markers

namespace WazuhOperator
namespace Certificates

open Markers List

/-!
# The cluster domain inside certificate names

The operator is started with one cluster domain, checked by `ValidateDomain`.
It composes the names of services and pods under that domain, puts them into
certificates, and later reads the domain back from a certificate to find out
whether the certificate was made for another domain.

Reading back cuts a name at the last `.svc.`.  The cut is in the right place
exactly when the domain does not bring a marker of its own, which it does
when one of its labels other than the last is `svc`.
-/

/-! ## `pkg/dns` -/

def podFQDN (domain podName serviceName nspace : String) : String :=
  podName ++ "." ++ serviceName ++ "." ++ nspace ++ ".svc." ++ domain

def wildcardServiceFQDN (domain serviceName nspace : String) : String :=
  "*." ++ serviceName ++ "." ++ nspace ++ ".svc." ++ domain

/-- The letters with which a label begins and ends. -/
def isAlphanumeric (letter : Char) : Bool :=
  ('a' ≤ letter && letter ≤ 'z') || ('0' ≤ letter && letter ≤ '9')

/-- `[a-z0-9]([-a-z0-9]*[a-z0-9])?`, the part of `domainRegex` between two dots. -/
def isDomainLabel (label : List Char) : Bool :=
  label.head?.any isAlphanumeric && label.getLast?.any isAlphanumeric &&
    label.all fun letter => isAlphanumeric letter || letter == '-'

def validateDomain (domain : String) : Except String Unit :=
  let labels := domain.toList.splitOn '.'
  if domain = "" then
    .error "domain cannot be empty"
  else if 253 < domain.utf8ByteSize then
    .error ("domain exceeds maximum length of 253 characters (got " ++
      toString domain.utf8ByteSize ++ ")")
  else if labels.all isDomainLabel = false then
    .error ("domain must contain only lowercase letters, digits, hyphens, and dots, " ++
      "and must start and end with alphanumeric character")
  else
    match labels.find? fun label => 63 < label.length with
    | some label =>
      .error ("domain label \"" ++ String.ofList label ++ "\" exceeds maximum length of 63 characters")
    | none => .ok ()

theorem ne_empty_of_validateDomain (accepted : validateDomain domain = .ok ()) : domain ≠ "" := by
  rintro rfl
  simp [validateDomain] at accepted

theorem not_dot_suffix_of_validateDomain (accepted : validateDomain domain = .ok ()) :
    ¬ ['.'] <:+ domain.toList := by
  rintro ⟨front, ends⟩
  have labels : domain.toList.splitOn '.' = front.splitOn '.' ++ [[]] := by
    rw [<- ends, splitOn_append_cons_self, splitOn_nil]
  have blank : (domain.toList.splitOn '.').all isDomainLabel = false := by
    rw [labels, all_append]
    simp [isDomainLabel]
  rw [validateDomain, if_neg (ne_empty_of_validateDomain accepted)] at accepted
  split at accepted
  · exact nomatch accepted
  · exact nomatch accepted

/-! ## `internal/certificates/common/domain_validator.go` -/

/-- What separates the namespace from the domain. -/
def svcMarker : List Char := ".svc.".toList

theorem svcMarker_eq : svcMarker = '.' :: "svc.".toList := rfl

theorem svcMarker_concat : svcMarker = ".svc".toList ++ ['.'] := rfl

theorem svcMarker_ne_nil : svcMarker ≠ [] := cons_ne_nil '.' "svc.".toList

def extractDomainFromSAN (san : String) : Option String :=
  match afterLast svcMarker san.toList with
  | none => none
  | some domain => if domain = [] then none else some (String.ofList domain)

structure DomainValidationResult where
  hasMismatch : Bool
  expectedDomain : String
  (mismatchedSANs actualDomains : List String)
  deriving DecidableEq

/-- The loop body of `ValidateCertificateDomain`. -/
def DomainValidationResult.visit (result : DomainValidationResult) (san : String) :
    DomainValidationResult :=
  match extractDomainFromSAN san with
  | none => result
  | some actual =>
    let seen := if actual ∈ result.actualDomains then result
      else { result with actualDomains := result.actualDomains ++ [actual] }
    if actual = result.expectedDomain then seen
    else { seen with hasMismatch := true, mismatchedSANs := seen.mismatchedSANs ++ [san] }

def validateCertificateDomain (domain : String) (dnsNames : List String) : DomainValidationResult :=
  dnsNames.foldl DomainValidationResult.visit ⟨false, domain, [], []⟩

def requiresDomainRegeneration (domain : String) (dnsNames : List String) : Bool :=
  (validateCertificateDomain domain dnsNames).hasMismatch

namespace DomainValidationResult

variable (result : DomainValidationResult) (san : String)

@[simp] theorem visit_expectedDomain : (result.visit san).expectedDomain = result.expectedDomain := by
  unfold visit
  split
  · rfl
  · dsimp only
    split <;> split <;> rfl

theorem visit_hasMismatch : (result.visit san).hasMismatch <->
      result.hasMismatch ∨
        ∃ actual, extractDomainFromSAN san = some actual ∧ actual ≠ result.expectedDomain := by
  unfold visit
  cases extractDomainFromSAN san with
  | none => simp
  | some actual =>
    dsimp only
    split <;> split <;> simp_all

theorem foldl_visit_hasMismatch (names : List String) :
    forall result : DomainValidationResult, (names.foldl visit result).hasMismatch <->
      result.hasMismatch ∨ ∃ san ∈ names, ∃ actual,
        extractDomainFromSAN san = some actual ∧ actual ≠ result.expectedDomain := by
  induction names with
  | nil => simp
  | cons _ _ ih =>
    intro result
    rw [foldl_cons, ih, visit_hasMismatch, visit_expectedDomain]
    simp [or_assoc]

end DomainValidationResult

theorem requiresDomainRegeneration_eq_false_iff (domain : String) (dnsNames : List String) :
    requiresDomainRegeneration domain dnsNames = false <->
      ∀ san ∈ dnsNames, forall actual, extractDomainFromSAN san = some actual -> actual = domain := by
  rw [<- Bool.not_eq_true, requiresDomainRegeneration, validateCertificateDomain,
    DomainValidationResult.foldl_visit_hasMismatch]
  simp

/-! ## Where the marker occurs -/

/-- One of the labels of the domain, but not its last one, is `svc`. -/
def hasInnerSvcLabel (domain : String) : Prop := svcMarker <:+: '.' :: domain.toList
  deriving Decidable

theorem infix_svcMarker_tail (domain : List Char) :
    svcMarker <:+: (svcMarker ++ domain).tail <-> svcMarker <:+: '.' :: domain := by
  have tail : (svcMarker ++ domain).tail = "svc".toList ++ '.' :: domain := rfl
  rw [tail, svcMarker_eq]
  exact infix_append_of_head (by decide)

theorem extractDomainFromSAN_eq_some_iff (san domain : String) :
    extractDomainFromSAN san = some domain <->
      domain ≠ "" ∧ (∃ before, san.toList = before ++ svcMarker ++ domain.toList) ∧
        ¬ hasInnerSvcLabel domain := by
  have nonempty : domain.toList = [] <-> domain = "" := String.toList_eq_nil_iff
  rw [hasInnerSvcLabel, <- infix_svcMarker_tail, <- afterLast_eq_some_iff svcMarker_ne_nil, extractDomainFromSAN]
  cases cut : afterLast svcMarker san.toList with
  | none => simp
  | some after =>
    dsimp only
    by_cases empty : after = []
    · rw [if_pos empty, empty, Option.some_inj]
      constructor
      · exact nofun
      · rintro ⟨named, blank⟩
        exact absurd (nonempty.mp blank.symm) named
    · rw [if_neg empty]
      constructor
      · intro read
        cases read
        simpa using empty
      · rintro ⟨_, read⟩
        cases read
        simp

theorem exists_extractDomainFromSAN {san : String} (occurs : svcMarker <:+: san.toList)
    (ended : ¬ ['.'] <:+ san.toList) : ∃ domain, extractDomainFromSAN san = some domain := by
  rw [extractDomainFromSAN]
  cases cut : afterLast svcMarker san.toList with
  | none => exact absurd occurs ((afterLast_eq_none_iff svcMarker_ne_nil _).mp cut)
  | some after =>
    refine ⟨String.ofList after, if_neg ?_⟩
    rintro rfl
    rcases ((afterLast_eq_some_iff svcMarker_ne_nil _ _).mp cut).1 with ⟨before, whole⟩
    rw [whole, append_nil, svcMarker_concat, <- append_assoc] at ended
    exact ended (suffix_append ..)

theorem extractDomainFromSAN_eq_none {san : String} (absent : ¬ svcMarker <:+: san.toList) :
    extractDomainFromSAN san = none := by
  rw [extractDomainFromSAN, (afterLast_eq_none_iff svcMarker_ne_nil _).mpr absent]

theorem extractDomainFromSAN_composed (front : String) (nonempty : domain ≠ "") :
    extractDomainFromSAN (front ++ ".svc." ++ domain) = some domain <-> ¬ hasInnerSvcLabel domain := by
  rw [extractDomainFromSAN_eq_some_iff]
  refine ⟨fun read => read.2.2, fun plain => ⟨nonempty, ⟨front.toList, ?_⟩, plain⟩⟩
  simp [svcMarker]

end Certificates
end WazuhOperator
