import WazuhOperator.Certificates.Domains

namespace WazuhOperator
namespace Certificates

open Markers List

/-!
# The names written into generated certificates

The DNS names of the six leaf certificates of a cluster
(`internal/certificates/sans`), and what `ValidateCertificateDomain` makes of
a certificate which has just been generated with them.

Beside the composed names, from which the domain is to be read back, a
certificate holds the short forms of each service.  They are meant to hold no
marker, and do not, unless the namespace is called `svc` or the name of the
cluster brings a marker itself.
-/

/-- The certificates which the operator generates below its CA. -/
inductive Leaf where
  | managerMaster
  | managerWorker
  | indexer
  | dashboard
  | filebeat
  | admin
  deriving DecidableEq

def serviceSANs (domain service nspace : String) : List String :=
  [service, service ++ "." ++ nspace, service ++ "." ++ nspace ++ ".svc", serviceFQDN domain service nspace]

def podSANs (domain pod service nspace : String) : List String :=
  [pod, podFQDN domain pod service nspace]

def generateManagerNodeSANs (domain clusterName nspace : String) (workerReplicas : Nat) : List String :=
  let masterService := clusterName ++ "-manager-master"
  let workersService := clusterName ++ "-manager-workers"
  let masterPod := clusterName ++ "-manager-master-0"
  "localhost" :: (serviceSANs domain masterService nspace ++ podSANs domain masterPod masterService nspace ++
    serviceSANs domain workersService nspace ++
    (range workerReplicas).flatMap fun ordinal =>
      podSANs domain (clusterName ++ "-manager-workers-" ++ toString ordinal) workersService nspace)

/-- `GenerateFilebeatSANs`, whose text is that of `GenerateManagerNodeSANs`. -/
def generateFilebeatSANs (domain clusterName nspace : String) (workerReplicas : Nat) : List String :=
  generateManagerNodeSANs domain clusterName nspace workerReplicas

def generateIndexerNodeSANs (domain clusterName nspace : String) (replicas : Nat) : List String :=
  let indexerService := clusterName ++ "-indexer"
  let headlessService := clusterName ++ "-indexer-headless"
  "localhost" :: (serviceSANs domain indexerService nspace ++
    [wildcardServiceFQDN domain headlessService nspace] ++
    (range replicas).flatMap fun ordinal =>
      podSANs domain (clusterName ++ "-indexer-" ++ toString ordinal) headlessService nspace)

def generateDashboardSANs (domain clusterName nspace : String) : List String :=
  "localhost" :: serviceSANs domain (clusterName ++ "-dashboard") nspace

def namedWorkers (spec : ClusterSpec) : Nat :=
  match spec.manager with
  | none => 0
  | some manager => manager.getReplicas

def namedIndexers (spec : ClusterSpec) : Nat :=
  match spec.indexer with
  | none => 1
  | some indexer => if 0 < indexer.replicas then indexer.replicas else 1

/-- The DNS names with which each certificate is generated. -/
def leafNames (domain : String) (key : ClusterKey) (spec : ClusterSpec) : Leaf -> List String
  | .managerMaster => generateManagerNodeSANs domain key.name key.nspace (namedWorkers spec)
  | .managerWorker => generateManagerNodeSANs domain key.name key.nspace (namedWorkers spec)
  | .indexer => generateIndexerNodeSANs domain key.name key.nspace (namedIndexers spec)
  | .dashboard => generateDashboardSANs domain key.name key.nspace
  | .filebeat => generateFilebeatSANs domain key.name key.nspace (namedWorkers spec)
  | .admin => ["localhost"]

/-! ## Names from which no other domain is read -/

/-- No domain but this one can be read from any of the names. -/
def ReadsOnly (domain : String) (names : List String) : Prop :=
  ∀ san ∈ names, forall actual, extractDomainFromSAN san = some actual -> actual = domain

variable {domain : String}

theorem readsOnly_append :
    ReadsOnly domain (first ++ second) <-> ReadsOnly domain first ∧ ReadsOnly domain second :=
  forall_mem_append

theorem readsOnly_cons :
    ReadsOnly domain (san :: rest) <->
      (forall actual, extractDomainFromSAN san = some actual -> actual = domain) ∧ ReadsOnly domain rest :=
  forall_mem_cons

theorem readsOnly_of_not_infix (absent : ¬ svcMarker <:+: san.toList) :
    ReadsOnly domain [san] := by
  rw [readsOnly_cons, extractDomainFromSAN_eq_none absent]
  exact ⟨nofun, forall_mem_nil _⟩

theorem readsOnly_composed (nonempty : domain ≠ "") (plain : ¬ hasInnerSvcLabel domain)
    (front : String) : ReadsOnly domain [front ++ ".svc." ++ domain] := by
  rw [readsOnly_cons, (extractDomainFromSAN_composed front nonempty).mpr plain]
  exact ⟨fun actual read => (Option.some.inj read).symm, forall_mem_nil _⟩

/-! ## The short forms of a service -/

section ShortForms

variable {clusterName nspace : String}

theorem infix_append_suffix (dotless : '.' ∉ suffix.toList) :
    svcMarker <:+: (clusterName ++ suffix).toList <-> svcMarker <:+: clusterName.toList := by
  rw [String.toList_append, svcMarker_concat]
  exact infix_append_of_last dotless

theorem not_svc_suffix (dotless : '.' ∉ suffix.toList) (long : 4 ≤ suffix.toList.length) :
    ¬ ".svc".toList <:+ (clusterName ++ suffix).toList := by
  intro ends
  rw [String.toList_append] at ends
  have inside : ".svc".toList <:+ suffix.toList :=
    suffix_of_suffix_length_le ends (suffix_append ..) long
  exact dotless (inside.subset (by decide))

variable {service : String} (ending : ¬ ".svc".toList <:+ service.toList)
include ending

theorem infix_namespaced (label : '.' ∉ nspace.toList) :
    svcMarker <:+: (service ++ "." ++ nspace).toList <-> svcMarker <:+: service.toList := by
  have shape : (service ++ "." ++ nspace).toList = service.toList ++ '.' :: nspace.toList := by simp
  rw [shape, svcMarker_concat, infix_append_cons_of_last label]
  exact or_iff_right ending

/-- The form with `.svc` at its end holds a marker when the namespace itself is called `svc`. -/
theorem infix_namespaced_svc (label : '.' ∉ nspace.toList) :
    svcMarker <:+: (service ++ "." ++ nspace ++ ".svc").toList <->
      nspace = "svc" ∨ svcMarker <:+: service.toList := by
  have shape : (service ++ "." ++ nspace ++ ".svc").toList =
      (service ++ "." ++ nspace).toList ++ '.' :: "svc".toList := by simp
  have inner : (service ++ "." ++ nspace).toList = service.toList ++ '.' :: nspace.toList := by simp
  have named : ".svc".toList <:+ (service ++ "." ++ nspace).toList <-> nspace = "svc" := by
    have cut : ".svc".toList = '.' :: "svc".toList := rfl
    rw [inner, cut, cons_suffix_append_cons_iff (by decide) label, eq_comm, String.toList_inj]
  rw [shape, svcMarker_concat, infix_append_cons_of_last (by decide), <- svcMarker_concat, named,
    infix_namespaced ending label]

variable {domain : String}

theorem not_readsOnly_of_infix (ended : ¬ ['.'] <:+ service.toList) (label : '.' ∉ nspace.toList)
    (occurs : svcMarker <:+: service.toList) :
    ¬ ReadsOnly domain [service, service ++ "." ++ nspace] := by
  intro reads
  rcases exists_extractDomainFromSAN occurs ended with ⟨short, readShort⟩
  rcases (extractDomainFromSAN_eq_some_iff service short).mp readShort with ⟨_, ⟨before, cut⟩, plain⟩
  have readLong : extractDomainFromSAN (service ++ "." ++ nspace) = some (short ++ "." ++ nspace) := by
    refine (extractDomainFromSAN_eq_some_iff ..).mpr ⟨by simp, ⟨before, by simp [cut]⟩, ?_⟩
    have shape : '.' :: (short ++ "." ++ nspace).toList = ('.' :: short.toList) ++ '.' :: nspace.toList := by
      simp
    rw [hasInnerSvcLabel, shape, svcMarker_concat, infix_append_cons_of_last label, <- svcMarker_concat]
    rintro (ends | later)
    · -- The dot before the short domain is the last letter of the marker in the service name.
      apply ending
      rw [cut, svcMarker_concat, append_assoc, append_assoc]
      exact ends.trans ⟨before ++ ".svc".toList, by simp⟩
    · exact plain later
  have first := reads service (by simp) short readShort
  have second := reads (service ++ "." ++ nspace) (by simp) _ readLong
  have lengths := congrArg (fun text => text.toList.length) (first.trans second.symm)
  simp at lengths

omit ending

theorem not_dot_suffix_append (nonempty : back ≠ "")
    (ended : ¬ ['.'] <:+ back.toList) : ¬ ['.'] <:+ (front ++ back).toList := by
  intro ends
  rw [String.toList_append] at ends
  have letters : 1 ≤ back.toList.length :=
    length_pos_of_ne_nil (mt String.toList_eq_nil_iff.mp nonempty)
  exact ended (suffix_of_suffix_length_le ends (suffix_append ..) letters)

theorem not_hasInnerSvcLabel_of_readsOnly
    (accepted : validateDomain domain = .ok ()) (reads : ReadsOnly domain [front ++ ".svc." ++ domain]) :
    ¬ hasInnerSvcLabel domain := by
  have occurs : svcMarker <:+: (front ++ ".svc." ++ domain).toList :=
    ⟨front.toList, domain.toList, by simp [svcMarker]⟩
  have ended : ¬ ['.'] <:+ (front ++ ".svc." ++ domain).toList :=
    not_dot_suffix_append (ne_empty_of_validateDomain accepted) (not_dot_suffix_of_validateDomain accepted)
  rcases exists_extractDomainFromSAN occurs ended with ⟨actual, read⟩
  rw [reads _ mem_cons_self actual read] at read
  exact ((extractDomainFromSAN_eq_some_iff ..).mp read).2.2

theorem extractDomainFromSAN_svc (service : String) :
    extractDomainFromSAN (service ++ "." ++ "svc" ++ ".svc") = some "svc" :=
  (extractDomainFromSAN_eq_some_iff ..).mpr
    ⟨by decide, ⟨service.toList, by simp [svcMarker]⟩, by decide⟩

theorem readsOnly_serviceSANs (accepted : validateDomain domain = .ok ())
    (dotless : '.' ∉ suffix.toList) (long : 4 ≤ suffix.toList.length) (label : '.' ∉ nspace.toList) :
    ReadsOnly domain (serviceSANs domain (clusterName ++ suffix) nspace) <->
      ¬ hasInnerSvcLabel domain ∧ ¬ svcMarker <:+: clusterName.toList ∧
        (nspace = "svc" -> domain = "svc") := by
  have nonempty := ne_empty_of_validateDomain accepted
  have ending : ¬ ".svc".toList <:+ (clusterName ++ suffix).toList := not_svc_suffix dotless long
  have ended : ¬ ['.'] <:+ (clusterName ++ suffix).toList := by
    apply not_dot_suffix_append
    · rintro rfl
      simp at long
    · exact fun ends => dotless (ends.subset mem_cons_self)
  constructor
  · intro reads
    have parts : ReadsOnly domain ([clusterName ++ suffix, clusterName ++ suffix ++ "." ++ nspace] ++
      ([clusterName ++ suffix ++ "." ++ nspace ++ ".svc"] ++
        [serviceFQDN domain (clusterName ++ suffix) nspace])) := reads
    rw [readsOnly_append, readsOnly_append] at parts
    refine ⟨not_hasInnerSvcLabel_of_readsOnly accepted parts.2.2, ?_, ?_⟩
    · intro occurs
      exact not_readsOnly_of_infix ending ended label ((infix_append_suffix dotless).mpr occurs) parts.1
    · rintro rfl
      exact (parts.2.1 _ mem_cons_self "svc" (extractDomainFromSAN_svc _)).symm
  · rintro ⟨plain, unmarked, named⟩
    have absent := mt (infix_append_suffix dotless).mp unmarked
    have second : ReadsOnly domain [clusterName ++ suffix ++ "." ++ nspace] :=
      readsOnly_of_not_infix (mt (infix_namespaced ending label).mp absent)
    have third : ReadsOnly domain [clusterName ++ suffix ++ "." ++ nspace ++ ".svc"] := by
      by_cases svc : nspace = "svc"
      · subst svc
        rw [readsOnly_cons, extractDomainFromSAN_svc, named rfl]
        exact ⟨fun actual read => (Option.some.inj read).symm, forall_mem_nil _⟩
      · apply readsOnly_of_not_infix
        rw [infix_namespaced_svc ending label]
        exact not_or_intro svc absent
    have first : ReadsOnly domain [clusterName ++ suffix] := readsOnly_of_not_infix absent
    have fourth : ReadsOnly domain [serviceFQDN domain (clusterName ++ suffix) nspace] :=
      readsOnly_composed nonempty plain _
    exact readsOnly_append.mpr ⟨first, readsOnly_append.mpr ⟨second, readsOnly_append.mpr ⟨third, fourth⟩⟩⟩

end ShortForms

theorem isDigit_of_mem_ordinal {ordinal : Nat} (member : letter ∈ (toString ordinal).toList) :
    letter.isDigit = true := by
  have digits : (toString ordinal).toList = Nat.toDigits 10 ordinal := Nat.toList_repr
  rw [digits] at member
  exact Nat.isDigit_of_mem_toDigits (by decide) (by decide) member

theorem readsOnly_podSANs {clusterName suffix : String} (nonempty : domain ≠ "")
    (plain : ¬ hasInnerSvcLabel domain) (unmarked : ¬ svcMarker <:+: clusterName.toList)
    (dotless : '.' ∉ suffix.toList) (service nspace : String) :
    ReadsOnly domain (podSANs domain (clusterName ++ suffix) service nspace) := by
  have first : ReadsOnly domain [clusterName ++ suffix] :=
    readsOnly_of_not_infix (mt (infix_append_suffix dotless).mp unmarked)
  have second : ReadsOnly domain [podFQDN domain (clusterName ++ suffix) service nspace] :=
    readsOnly_composed nonempty plain _
  exact readsOnly_append.mpr ⟨first, second⟩

theorem readsOnly_ordinalPods {clusterName suffix : String} (nonempty : domain ≠ "")
    (plain : ¬ hasInnerSvcLabel domain) (unmarked : ¬ svcMarker <:+: clusterName.toList)
    (dotless : '.' ∉ suffix.toList) (service nspace : String) (replicas : Nat) :
    ReadsOnly domain ((range replicas).flatMap fun ordinal =>
      podSANs domain (clusterName ++ suffix ++ toString ordinal) service nspace) := by
  refine forall_mem_flatMap.mpr fun ordinal _ => ?_
  rw [String.append_assoc]
  refine readsOnly_podSANs nonempty plain unmarked ?_ service nspace
  rw [String.toList_append, mem_append]
  rintro (member | member)
  · exact dotless member
  · exact absurd (isDigit_of_mem_ordinal member) (by decide)

theorem readsOnly_localhost (domain : String) : ReadsOnly domain ["localhost"] :=
  readsOnly_of_not_infix (by decide)

/-! ## A certificate that has just been generated -/

/-- Neither the domain, nor the name of the cluster, nor its namespace brings a marker into
the names of its certificates. -/
structure Unmarked (domain : String) (key : ClusterKey) : Prop where
  plain : ¬ hasInnerSvcLabel domain
  name : ¬ svcMarker <:+: key.name.toList
  nspace : key.nspace = "svc" -> domain = "svc"

section Generated

variable {domain : String} (accepted : validateDomain domain = .ok ()) {key : ClusterKey}
  (label : '.' ∉ key.nspace.toList)

include accepted label

theorem readsOnly_service_iff (suffix : String) (dotless : '.' ∉ suffix.toList)
    (long : 4 ≤ suffix.toList.length) :
    ReadsOnly domain (serviceSANs domain (key.name ++ suffix) key.nspace) <-> Unmarked domain key := by
  rw [readsOnly_serviceSANs accepted dotless long label]
  exact ⟨fun parts => ⟨parts.1, parts.2.1, parts.2.2⟩, fun clean => ⟨clean.plain, clean.name, clean.nspace⟩⟩

theorem readsOnly_generateManagerNodeSANs (workerReplicas : Nat) :
    ReadsOnly domain (generateManagerNodeSANs domain key.name key.nspace workerReplicas) <->
      Unmarked domain key := by
  have nonempty := ne_empty_of_validateDomain accepted
  have master := readsOnly_service_iff accepted label "-manager-master" (by decide) (by decide)
  have workers := readsOnly_service_iff accepted label "-manager-workers" (by decide) (by decide)
  rw [generateManagerNodeSANs, <- singleton_append, readsOnly_append, readsOnly_append,
    readsOnly_append, readsOnly_append]
  constructor
  · exact fun reads => master.mp reads.2.1.1.1
  · intro clean
    refine ⟨readsOnly_localhost domain, ⟨⟨master.mpr clean, ?_⟩, workers.mpr clean⟩, ?_⟩
    · exact readsOnly_podSANs nonempty clean.plain clean.name (by decide) _ _
    · exact readsOnly_ordinalPods nonempty clean.plain clean.name (by decide) _ _ _

theorem readsOnly_generateIndexerNodeSANs (replicas : Nat) :
    ReadsOnly domain (generateIndexerNodeSANs domain key.name key.nspace replicas) <->
      Unmarked domain key := by
  have nonempty := ne_empty_of_validateDomain accepted
  have indexer := readsOnly_service_iff accepted label "-indexer" (by decide) (by decide)
  rw [generateIndexerNodeSANs, <- singleton_append, readsOnly_append, readsOnly_append,
    readsOnly_append]
  constructor
  · exact fun reads => indexer.mp reads.2.1.1
  · intro clean
    refine ⟨readsOnly_localhost domain, ⟨indexer.mpr clean, ?_⟩, ?_⟩
    · exact readsOnly_composed nonempty clean.plain _
    · exact readsOnly_ordinalPods nonempty clean.plain clean.name (by decide) _ _ _

theorem readsOnly_generateDashboardSANs :
    ReadsOnly domain (generateDashboardSANs domain key.name key.nspace) <-> Unmarked domain key := by
  rw [generateDashboardSANs, <- singleton_append, readsOnly_append,
    readsOnly_service_iff accepted label "-dashboard" (by decide) (by decide)]
  exact and_iff_right (readsOnly_localhost domain)

theorem readsOnly_leafNames_iff (spec : ClusterSpec) (leaf : Leaf) :
    ReadsOnly domain (leafNames domain key spec leaf) <-> (leaf ≠ .admin -> Unmarked domain key) := by
  cases leaf with
  | managerMaster | managerWorker => simp [leafNames, readsOnly_generateManagerNodeSANs accepted label]
  | indexer => simp [leafNames, readsOnly_generateIndexerNodeSANs accepted label]
  | dashboard => simp [leafNames, readsOnly_generateDashboardSANs accepted label]
  | filebeat => simp [leafNames, generateFilebeatSANs, readsOnly_generateManagerNodeSANs accepted label]
  | admin => simp [leafNames, readsOnly_localhost]

theorem requiresDomainRegeneration_leafNames (spec : ClusterSpec) (leaf : Leaf) :
    requiresDomainRegeneration domain (leafNames domain key spec leaf) = false <->
      (leaf ≠ .admin -> Unmarked domain key) := by
  rw [requiresDomainRegeneration_eq_false_iff]
  exact readsOnly_leafNames_iff accepted label spec leaf

/-- The domain is read back from every composed name, and every certificate just generated is
accepted, exactly when nothing brings a marker into the names. -/
theorem domain_read_back_iff (spec : ClusterSpec) (serviceName podName nspace : String) :
    (extractDomainFromSAN (serviceFQDN domain serviceName nspace) = some domain ∧
      extractDomainFromSAN (podFQDN domain podName serviceName nspace) = some domain ∧
      extractDomainFromSAN (wildcardServiceFQDN domain serviceName nspace) = some domain ∧
      forall leaf, requiresDomainRegeneration domain (leafNames domain key spec leaf) = false) <->
      Unmarked domain key := by
  have nonempty := ne_empty_of_validateDomain accepted
  constructor
  · rintro ⟨_, _, _, certificates⟩
    exact (requiresDomainRegeneration_leafNames accepted label spec .dashboard).mp (certificates _) nofun
  · intro clean
    refine ⟨?_, ?_, ?_, ?_⟩
    · exact (extractDomainFromSAN_composed _ nonempty).mpr clean.plain
    · exact (extractDomainFromSAN_composed _ nonempty).mpr clean.plain
    · exact (extractDomainFromSAN_composed _ nonempty).mpr clean.plain
    · exact fun leaf => (requiresDomainRegeneration_leafNames accepted label spec leaf).mpr fun _ => clean

end Generated

theorem domain_read_back_iff_default :
    validateDomain "cluster.local" = .ok () ∧ '.' ∉ "wazuh".toList ∧
      ((extractDomainFromSAN (serviceFQDN "cluster.local" "main-indexer" "wazuh") = some "cluster.local" ∧
        extractDomainFromSAN (podFQDN "cluster.local" "main-indexer-0" "main-indexer" "wazuh") =
          some "cluster.local" ∧
        extractDomainFromSAN (wildcardServiceFQDN "cluster.local" "main-indexer" "wazuh") =
          some "cluster.local" ∧
        forall leaf, requiresDomainRegeneration "cluster.local"
          (leafNames "cluster.local" ⟨"wazuh", "main"⟩ ⟨none, none, none⟩ leaf) = false) <->
        Unmarked "cluster.local" ⟨"wazuh", "main"⟩) := by
  have accepted : validateDomain "cluster.local" = .ok () := by decide +kernel
  have label : '.' ∉ "wazuh".toList := by decide
  exact ⟨accepted, label, domain_read_back_iff accepted label ⟨none, none, none⟩ _ _ _⟩

/-- The comment on `domainRegex` gives this domain as an example.  `company.internal` is read
back from its names, and a new certificate is taken for one made for another domain. -/
theorem example_domain_not_read_back : validateDomain "svc.company.internal" = .ok () ∧
      extractDomainFromSAN (serviceFQDN "svc.company.internal" "main-indexer" "wazuh") =
        some "company.internal" ∧
      requiresDomainRegeneration "svc.company.internal"
        (leafNames "svc.company.internal" ⟨"wazuh", "main"⟩ ⟨none, none, none⟩ .dashboard) = true := by
  decide +kernel

end Certificates
end WazuhOperator
