import WazuhOperator.Certificates.Renewal
import WazuhOperator.Library.HostNames

namespace WazuhOperator
namespace Certificates

open Procedure Proc HostNames List

/-!
# Certificates and the names of the pods that use them

The names in a certificate come from `internal/certificates/sans`, those of
pods and services from the builders of the StatefulSets and services.  This
module puts the two side by side, for the certificate which each StatefulSet
mounts as its own.

A name is found in a certificate when it is there as it is, or when a wildcard
stands for its first label.  A certificate which a pass makes names everything
of the master.  It never names everything of the indexer, of a nodePool or of
the workers: the headless service itself falls under no wildcard, the services
of nodePools are not considered, and the workers are called `-manager-worker`
by their builders and `-manager-workers` in the certificate.  A certificate
which is kept is kept whatever it names, so that a scale-up changes nothing.
-/

/-! ## StatefulSets, their pods and their services -/

/-- The StatefulSets which the builders make for a cluster. -/
inductive Workload where
  | indexer
  | nodePool (pool : NodePool)
  | managerMaster
  | managerWorker

namespace Workload

variable (clusterName : String)

def name : Workload -> String
  | .indexer => indexerName clusterName
  | .nodePool pool => indexerNodePoolName clusterName pool.name
  | .managerMaster => clusterName ++ "-manager-master"
  | .managerWorker => managerWorkerName clusterName

/-- `spec.serviceName`, under which the pods have their names. -/
def serviceName : Workload -> String
  | .indexer => clusterName ++ "-indexer-headless"
  | .nodePool pool => indexerNodePoolName clusterName pool.name ++ "-headless"
  | .managerMaster => clusterName ++ "-manager-master"
  | .managerWorker => managerWorkerName clusterName

def services : Workload -> List String
  | .indexer => [indexerName clusterName, indexerName clusterName ++ "-headless"]
  | .nodePool pool => [indexerNodePoolName clusterName pool.name ++ "-headless"]
  | .managerMaster => [clusterName ++ "-manager-master"]
  | .managerWorker => [managerWorkerName clusterName]

def replicas (spec : ClusterSpec) : Workload -> Nat
  | .indexer => (spec.indexer.map IndexerSpec.desiredReplicas).getD defaultIndexerReplicas
  | .nodePool pool => pool.replicas
  | .managerMaster => 1
  | .managerWorker => (spec.manager.map ManagerSpec.getReplicas).getD 0

/-- The certificate with which its pods present themselves. -/
def leaf : Workload -> Leaf
  | .indexer => .indexer
  | .nodePool _ => .indexer
  | .managerMaster => .managerMaster
  | .managerWorker => .managerWorker

def fqdns (domain : String) (key : ClusterKey) (spec : ClusterSpec) (workload : Workload) : List String :=
  (workload.services key.name).map (fun service => serviceFQDN domain service key.nspace) ++
    (range (workload.replicas spec)).map fun ordinal =>
      podFQDN domain (podName (workload.name key.name) ordinal) (workload.serviceName key.name) key.nspace

end Workload

def workloads (spec : ClusterSpec) : List Workload :=
  (match spec.indexer with
    | none => [.indexer]
    | some indexer => if indexer.isAdvancedMode then indexer.nodePools.map .nodePool else [.indexer]) ++
    [.managerMaster, .managerWorker]

/-! ## Names in a certificate -/

/-- The name in a certificate stands for the host, as it is or by a wildcard. -/
def sanMatches (san host : String) : Bool := covers '.' '*' san.toList host.toList

def NamesAll (sans hosts : List String) : Prop :=
  ∀ host ∈ hosts, ∃ san ∈ sans, sanMatches san host = true
  deriving Decidable

theorem sanMatches_self (host : String) : sanMatches host host = true := covers_self _

theorem localhost_matches_iff (host : String) : sanMatches "localhost" host <-> host = "localhost" := by
  rw [sanMatches, covers_iff]
  constructor
  · rintro (same | ⟨rest, wildcard, _⟩)
    · exact (String.toList_inj.mp same).symm
    · exact nomatch (cons.inj wildcard).1
  · rintro rfl
    exact .inl rfl

/-- The name in a certificate is this one, or continues it after a dot. -/
def Continues (name san : String) : Prop :=
  ∃ tail : List Char, san.toList = name.toList ++ tail ∧ ∀ letter ∈ tail.head?, letter = '.'

theorem continues_self (name : String) : Continues name name := ⟨[], by simp, by simp⟩

theorem continues_dot (name tail : String) : Continues name (name ++ "." ++ tail) :=
  ⟨'.' :: tail.toList, by simp, by simp⟩

variable {san : String}

theorem continues_of_mem_serviceSANs
    (member : san ∈ serviceSANs domain service nspace) : Continues service san := by
  have second : service ++ "." ++ nspace ++ ".svc" = service ++ "." ++ (nspace ++ ".svc") := String.append_assoc ..
  have third : serviceFQDN domain service nspace = service ++ "." ++ (nspace ++ ".svc." ++ domain) := by
    simp [serviceFQDN, String.append_assoc]
  simp only [serviceSANs, mem_cons, not_mem_nil, or_false] at member
  rcases member with rfl | rfl | rfl | rfl
  · exact continues_self san
  · exact continues_dot service nspace
  · rw [second]
    exact continues_dot service _
  · rw [third]
    exact continues_dot service _

theorem continues_of_mem_podSANs
    (member : san ∈ podSANs domain pod service nspace) : Continues pod san := by
  have full : podFQDN domain pod service nspace = pod ++ "." ++ (service ++ "." ++ nspace ++ ".svc." ++ domain) := by
    simp [podFQDN, String.append_assoc]
  simp only [podSANs, mem_cons, not_mem_nil, or_false] at member
  rcases member with rfl | rfl
  · exact continues_self san
  · rw [full]
    exact continues_dot pod _

theorem eq_of_append_dot {first second tail rest : List Char} (dotless : '.' ∉ first) (other : '.' ∉ second)
    (ends : ∀ letter ∈ tail.head?, letter = '.') (same : first ++ tail = second ++ '.' :: rest) : first = second := by
  cases tail with
  | nil =>
    rw [append_nil] at same
    exact absurd (same ▸ by simp) dotless
  | cons letter =>
    cases ends letter rfl
    exact label_eq_of_append dotless other same

theorem serviceFQDN_toList (domain service nspace : String) :
    (serviceFQDN domain service nspace).toList =
      service.toList ++ '.' :: (nspace ++ ".svc." ++ domain).toList := by
  simp [serviceFQDN]

theorem not_sanMatches_of_continues {front back host : String} (long : 2 ≤ front.toList.length)
    (plain : '.' ∉ back.toList) (also : '.' ∉ host.toList) (different : back ≠ host)
    (continues : Continues (front ++ back) san) :
    sanMatches san (serviceFQDN domain (front ++ host) nspace) = false := by
  rcases continues with ⟨tail, shape, ends⟩
  rw [Bool.eq_false_iff, Ne, sanMatches, shape, serviceFQDN_toList, String.toList_append, String.toList_append,
    append_assoc, append_assoc, covers_append_iff (by decide) long]
  exact fun same => different (String.toList_inj.mp (eq_of_append_dot plain also ends same))

theorem localhost_not_matches (dash : '-' ∈ service.toList) :
    sanMatches "localhost" (serviceFQDN domain service nspace) = false := by
  rw [Bool.eq_false_iff, Ne, localhost_matches_iff]
  intro same
  have member : '-' ∈ (serviceFQDN domain service nspace).toList := by
    rw [serviceFQDN_toList]
    exact mem_append_left _ dash
  rw [same] at member
  exact absurd member (by decide)

theorem not_dot_mem_ordinal {front : String} {ordinal : Nat} (plain : '.' ∉ front.toList) :
    '.' ∉ (front ++ toString ordinal).toList := by
  rw [String.toList_append, mem_append]
  rintro (dot | dot)
  · exact plain dot
  · exact absurd (isDigit_of_mem_ordinal dot) (by decide)

/-! ## What a new certificate names -/

section New

variable (domain clusterName nspace : String)

theorem same_name (same : first = second ++ third) :
    clusterName ++ first = clusterName ++ second ++ third := by
  rw [same, String.append_assoc]

theorem worker_service_not_named (replicas : Nat) :
    ∀ san ∈ generateManagerNodeSANs domain clusterName nspace replicas,
      sanMatches san (serviceFQDN domain (managerWorkerName clusterName) nspace) = false := by
  have long : 2 ≤ (clusterName ++ "-manager-").toList.length := by simp
  have other (back : String) {full san : String} (plain : '.' ∉ back.toList) (plural : 's' ∈ back.toList)
      (continues : Continues full san) (shape : full = clusterName ++ "-manager-" ++ back) :
      sanMatches san (serviceFQDN domain (managerWorkerName clusterName) nspace) = false := by
    have singular : managerWorkerName clusterName = clusterName ++ "-manager-" ++ "worker" := by
      rw [String.append_assoc]
      rfl
    rw [singular]
    rw [shape] at continues
    refine not_sanMatches_of_continues long plain (by decide) ?_ continues
    rintro rfl
    exact absurd plural (by decide)
  intro san member
  simp only [generateManagerNodeSANs, mem_cons, mem_append, mem_flatMap] at member
  rcases member with rfl | ((member | member) | member) | ⟨ordinal, _, member⟩
  · exact localhost_not_matches (by simp [managerWorkerName])
  · exact other "master" (by decide) (by decide) (continues_of_mem_serviceSANs member) (same_name clusterName (by decide))
  · exact other "master-0" (by decide) (by decide) (continues_of_mem_podSANs member) (same_name clusterName (by decide))
  · exact other "workers" (by decide) (by decide) (continues_of_mem_serviceSANs member) (same_name clusterName (by decide))
  · have shape : clusterName ++ "-manager-workers-" ++ toString ordinal =
        clusterName ++ "-manager-" ++ ("workers-" ++ toString ordinal) := by
      rw [← String.toList_inj]
      simp
    refine other ("workers-" ++ toString ordinal) ?_ (by simp) (continues_of_mem_podSANs member) shape
    exact not_dot_mem_ordinal (by decide)

theorem wildcard_not_matches (plain : '.' ∉ back.toList) :
    sanMatches (wildcardServiceFQDN domain (clusterName ++ "-indexer-headless") nspace)
      (serviceFQDN domain (clusterName ++ "-indexer" ++ back) nspace) = false := by
  rw [Bool.eq_false_iff]
  intro matched
  have counts := count_eq_of_covers (by decide) matched
  have zero : back.toList.count '.' = 0 := count_eq_zero.mpr plain
  simp [wildcardServiceFQDN, serviceFQDN, count_append, zero] at counts

theorem headless_service_not_named (replicas : Nat) {back : String} (plain : '.' ∉ back.toList)
    (headless : 'h' ∈ back.toList) :
    ∀ san ∈ generateIndexerNodeSANs domain clusterName nspace replicas,
      sanMatches san (serviceFQDN domain (clusterName ++ "-indexer" ++ back) nspace) = false := by
  have long : 2 ≤ (clusterName ++ "-indexer").toList.length := by simp
  have other (own : String) {full san : String} (dotless : '.' ∉ own.toList) (without : 'h' ∉ own.toList)
      (continues : Continues full san) (shape : full = clusterName ++ "-indexer" ++ own) :
      sanMatches san (serviceFQDN domain (clusterName ++ "-indexer" ++ back) nspace) = false := by
    rw [shape] at continues
    refine not_sanMatches_of_continues long dotless plain ?_ continues
    rintro rfl
    exact without headless
  intro san member
  simp only [generateIndexerNodeSANs, mem_cons, mem_append, mem_flatMap, not_mem_nil,
    or_false] at member
  rcases member with rfl | (member | rfl) | ⟨ordinal, _, member⟩
  · exact localhost_not_matches (by simp)
  · exact other "" (by decide) (by decide) (continues_of_mem_serviceSANs member) (same_name clusterName (by decide))
  · exact wildcard_not_matches domain clusterName nspace plain
  · have shape : clusterName ++ "-indexer-" ++ toString ordinal =
        clusterName ++ "-indexer" ++ ("-" ++ toString ordinal) := by
      rw [← String.toList_inj]
      simp
    refine other ("-" ++ toString ordinal) (not_dot_mem_ordinal (by decide)) ?_
      (continues_of_mem_podSANs member) shape
    rw [String.toList_append, mem_append]
    rintro (letter | letter)
    · exact absurd letter (by decide)
    · exact absurd (isDigit_of_mem_ordinal letter) (by decide)

theorem master_named (spec : ClusterSpec) (replicas : Nat) :
    NamesAll (generateManagerNodeSANs domain clusterName nspace replicas)
      (Workload.managerMaster.fqdns domain ⟨nspace, clusterName⟩ spec) := by
  intro host member
  refine ⟨host, ?_, sanMatches_self host⟩
  have pod : podName (clusterName ++ "-manager-master") 0 = clusterName ++ "-manager-master-0" := by
    rw [podName, String.append_assoc, String.append_assoc]
    rfl
  simp only [Workload.fqdns, Workload.services, Workload.replicas, Workload.name, Workload.serviceName,
    map_cons, map_nil, range_one, mem_append, mem_singleton, pod] at member
  rcases member with rfl | rfl
  · simp [generateManagerNodeSANs, serviceSANs]
  · simp [generateManagerNodeSANs, podSANs]

end New

theorem leafNames_namesAll_iff (domain : String) (key : ClusterKey) (spec : ClusterSpec) (workload : Workload)
    (plain : forall pool, workload = .nodePool pool -> '.' ∉ pool.name.toList) :
    NamesAll (leafNames domain key spec workload.leaf) (workload.fqdns domain key spec) <->
      workload = .managerMaster := by
  -- A service of the StatefulSet which no name stands for.
  have missing (service : String) (built : service ∈ workload.services key.name)
      (absent : ∀ san ∈ leafNames domain key spec workload.leaf,
        sanMatches san (serviceFQDN domain service key.nspace) = false) :
      ¬ NamesAll (leafNames domain key spec workload.leaf) (workload.fqdns domain key spec) := by
    intro named
    have host : serviceFQDN domain service key.nspace ∈ workload.fqdns domain key spec :=
      mem_append_left _ (mem_map_of_mem built)
    rcases named _ host with ⟨san, member, matched⟩
    rw [absent san member] at matched
    exact nomatch matched
  cases workload with
  | managerMaster => exact iff_of_true (master_named domain key.name key.nspace spec _) rfl
  | managerWorker =>
    refine iff_of_false (missing (managerWorkerName key.name) (by simp [Workload.services]) ?_) nofun
    exact worker_service_not_named domain key.name key.nspace _
  | indexer =>
    refine iff_of_false (missing (indexerName key.name ++ "-headless") (by simp [Workload.services]) ?_) nofun
    exact headless_service_not_named domain key.name key.nspace _ (by decide) (by decide)
  | nodePool pool =>
    have shape : indexerNodePoolName key.name pool.name ++ "-headless" =
        key.name ++ "-indexer" ++ ("-" ++ pool.name ++ "-headless") := by
      rw [← String.toList_inj]
      simp [indexerNodePoolName]
    refine iff_of_false (missing (indexerNodePoolName key.name pool.name ++ "-headless")
      (by simp [Workload.services]) ?_) nofun
    rw [shape]
    refine headless_service_not_named domain key.name key.nspace _ ?_ (by simp)
    have dotless := plain pool rfl
    simp [dotless]

/-! ## Certificates after a pass -/

namespace Setting

variable (setting : Setting)

/-- The Secret of the StatefulSet holds a certificate which names all its pods and services. -/
def NamesPods (workload : Workload) (secret : Option LeafSecret) : Prop :=
  ∃ certificate, secret.bind LeafSecret.tlsCert = some certificate ∧
    NamesAll certificate.dnsNames (workload.fqdns setting.domain setting.key setting.spec)

/-- The certificate in place after the pass is one which names everything: the one of the user,
the one found before, or a new one of the master. -/
def WillNamePods (answers : CertAnswers) (before : Secrets) (workload : Workload) : Prop :=
  match setting.customCerts with
  | some custom =>
    if custom.nodeSecretRef then setting.NamesPods workload (answers.custom .node).toOption
    else setting.NamesPods workload (before.leaf workload.leaf)
  | none =>
    match setting.caDecision before with
    | .wait _ _ => setting.NamesPods workload (before.leaf workload.leaf)
    | _ =>
      if setting.Kept before workload.leaf then setting.NamesPods workload (before.leaf workload.leaf)
      else workload = .managerMaster

end Setting

section After

variable {setting : Setting} {answers : CertAnswers} {before : Secrets} {workload : Workload}

theorem LeafDone.namesPods_iff {after : Option LeafSecret}
    (dealt : LeafDone setting answers ca workload.leaf before after)
    (plain : forall pool, workload = .nodePool pool -> '.' ∉ pool.name.toList) :
    setting.NamesPods workload after <->
      if setting.Kept before workload.leaf then setting.NamesPods workload (before.leaf workload.leaf)
      else workload = .managerMaster := by
  cases dealt with
  | @kept found stored keeps =>
    rw [if_pos ⟨found, stored, keeps⟩, stored, Setting.NamesPods, Setting.NamesPods, Option.bind_some,
      Option.bind_some, settled_tlsCert]
  | issued notKept =>
    rw [if_neg notKept, ← leafNames_namesAll_iff setting.domain setting.key setting.spec workload plain]
    constructor
    · rintro ⟨certificate, same, named⟩
      cases same
      exact named
    · exact fun named => ⟨_, rfl, named⟩

/-! ### Certificates of the user -/

theorem ensures_ensureCustomCertSecret (target : CertSecret) (change : Secrets -> Secrets)
    (implied : forall state, pre state -> post (change state)) :
    Ensures pre (fun _ => post) (ensureCustomCertSecret setting answers target change) := by
  refine ensures_bind (fun _ => pre) ?_ fun _ => ?_
  · exact ensures_mapError (ensures_ofExcept fun _ _ _ holds => holds)
  · exact ensures_writeSecret answers target change implied

/-- The Secrets of the four components which share the certificate of the nodes. -/
def NodesHold (stored : Leaf -> Option LeafSecret) (state : Secrets) : Prop :=
  ∀ leaf ∈ [Leaf.indexer, .managerMaster, .managerWorker, .dashboard], state.leaf leaf = stored leaf

theorem NodesHold.put (hold : NodesHold stored state)
    (apart : other ∉ [Leaf.indexer, .managerMaster, .managerWorker, .dashboard])
    (secret : LeafSecret) : NodesHold stored (state.putLeaf other secret) := by
  intro leaf member
  have different : leaf ≠ other := fun same => apart (same ▸ member)
  rw [Secrets.putLeaf_other state different]
  exact hold leaf member

theorem ensures_copyNodeCertsToComponents (content : LeafSecret) :
    Ensures (fun _ => True) (fun _ => NodesHold fun _ => some content)
      (copyNodeCertsToComponents setting answers content) := by
  have copies (done : List Leaf) (item : Leaf) :
      Ensures (fun state : Secrets => ∀ leaf ∈ done, state.leaf leaf = some content)
        (fun _ state => ∀ leaf ∈ item :: done, state.leaf leaf = some content)
        (mapError
          (("failed to ensure secret " ++ CertSecret.name setting.key.name (.leaf item) ++ ": ") ++ ·)
          (ensureCustomCertSecret setting answers (.leaf item) (Secrets.putLeaf item content))) := by
    refine ensures_mapError (ensures_ensureCustomCertSecret _ _ fun state copied leaf member => ?_)
    by_cases same : leaf = item
    · rw [same, Secrets.putLeaf_self]
    · rw [Secrets.putLeaf_other state same]
      exact copied leaf ((mem_cons.mp member).resolve_left same)
  intro state _ value returned leaf member
  have looped := ensures_forEach _ copies [.indexer, .managerMaster, .managerWorker, .dashboard] []
  refine looped state (forall_mem_nil _) value returned leaf ?_
  rw [append_nil, mem_reverse]
  exact member

theorem ensures_withCustomRef
    (copied : forall content, given = true -> answers.custom ref = .ok content ->
      Ensures pre (fun _ => post) (copy content))
    (skipped : given = false -> forall state, pre state -> post state) :
    Ensures pre (fun _ => post) (withCustomRef answers given ref noun copy) := by
  cases given with
  | false => exact ensures_pure (skipped rfl)
  | true =>
    refine ensures_bind (fun content state => pre state ∧ answers.custom ref = .ok content) ?_ fun content => ?_
    · exact ensures_mapError (ensures_ofExcept fun _ _ read holds => ⟨holds, read⟩)
    · exact ensures_given fun read => copied content rfl read

theorem ensures_reconcileCustomCerts (custom : CustomCertsConfig) :
    Ensures (· = before)
      (fun _ => NodesHold fun leaf =>
        if custom.nodeSecretRef then (answers.custom .node).toOption else before.leaf leaf)
      (reconcileCustomCerts setting answers custom) := by
  refine ensures_bind (fun _ state => state = before) ?_ fun caCert => ?_
  · exact ensures_mapError (ensures_ofExcept fun _ _ _ same => same)
  refine ensures_bind (fun _ => NodesHold before.leaf) ?_ fun _ => ?_
  · refine ensures_mapError (ensures_ensureCustomCertSecret _ _ ?_)
    rintro _ rfl
    exact fun _ _ => rfl
  refine ensures_bind (fun _ => NodesHold fun leaf =>
    if custom.nodeSecretRef then (answers.custom .node).toOption else before.leaf leaf) ?_ fun _ => ?_
  · refine ensures_withCustomRef (fun content given read => ensures_mapError ?_) fun skipped state hold => ?_
    · rw [given, read]
      exact fun state _ => ensures_copyNodeCertsToComponents content state trivial
    · rw [skipped]
      exact hold
  refine ensures_bind _ (ensures_withCustomRef (fun content _ _ => ensures_mapError ?_)
    fun _ _ hold => hold) fun _ => ?_
  · exact ensures_ensureCustomCertSecret _ _ fun _ hold => hold.put (by decide) content
  refine ensures_bind _ (ensures_withCustomRef (fun content _ _ => ensures_mapError ?_)
    fun _ _ hold => hold) fun _ => ?_
  · exact ensures_ensureCustomCertSecret _ _ fun _ hold => hold.put (by decide) content
  exact ensures_pure fun _ hold => hold

/-! ### Every StatefulSet -/

theorem Workload.leaf_mem (workload : Workload) :
    workload.leaf ∈ [Leaf.indexer, .managerMaster, .managerWorker, .dashboard] := by
  cases workload <;> simp [Workload.leaf]

theorem namesPods_after_iff
    (returned : (reconcileWithHashes setting answers before).result = .ok result)
    (plain : forall pool, workload = .nodePool pool -> '.' ∉ pool.name.toList) :
    setting.NamesPods workload ((reconcileWithHashes setting answers before).state.leaf workload.leaf) <->
      setting.WillNamePods answers before workload := by
  unfold Setting.WillNamePods
  cases custom : setting.customCerts with
  | some given =>
    have hold : NodesHold (fun leaf =>
        if given.nodeSecretRef then (answers.custom .node).toOption else before.leaf leaf)
        (reconcileWithHashes setting answers before).state := by
      rw [reconcileWithHashes, custom] at returned ⊢
      exact ensures_reconcileCustomCerts given before rfl result returned
    rw [hold workload.leaf workload.leaf_mem]
    dsimp only
    split
    · exact Iff.rfl
    · exact Iff.rfl
  | none =>
    have course := ensures_reconcileWithHashes setting answers before custom before rfl result returned
    generalize (reconcileWithHashes setting answers before).state = after at course ⊢
    cases course with
    | waits decided => rw [decided]
    | settles current leaves =>
      rcases current.decided with decided | decided
      · rw [decided]
        exact (leaves workload.leaf).namesPods_iff plain
      · rw [decided]
        exact (leaves workload.leaf).namesPods_iff plain

end After

def ClusterSpec.PlainPools (spec : ClusterSpec) : Prop :=
  ∀ indexer ∈ spec.indexer, ∀ pool ∈ indexer.nodePools, '.' ∉ pool.name.toList

theorem mem_nodePools_of_mem_workloads
    (member : .nodePool pool ∈ workloads spec) : ∃ indexer ∈ spec.indexer, pool ∈ indexer.nodePools := by
  rw [workloads] at member
  cases configured : spec.indexer with
  | none => simp [configured] at member
  | some indexer =>
    refine ⟨indexer, rfl, ?_⟩
    rw [configured] at member
    dsimp only at member
    split at member
    · simpa using member
    · simp at member

def workersSetting : Setting := { dailySetting 0 with spec := { manager := some { workerReplicas := some 2 } } }

end Certificates
end WazuhOperator
