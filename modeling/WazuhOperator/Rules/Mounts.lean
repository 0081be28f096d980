import WazuhOperator.Cluster.Workload
import WazuhOperator.Rules.Resources

namespace WazuhOperator
namespace Rules

open List String Resource

/-!
# The files in the manager pods

When the manager StatefulSets are built, the rules and decoders of the
cluster are looked up and their ConfigMaps are mounted.  The lookup lists one
namespace, that of the cluster, and compares the name in the reference only;
it reads neither the namespace in the reference nor the selection of nodes,
and the master and the workers call it alike.  The status of a rule, on the
other hand, follows the whole reference and the selection.

`digest` stands for the first sixteen hexadecimal digits of the hash.
-/

/-! ## The lookup -/

structure ConfigMapInfo where
  (configMapName fileName resourceName : String)
  deriving DecidableEq

/-- `ListRulesForCluster` and `ListDecodersForCluster`, given what the API answers. -/
def listForCluster (kind : Kind) (listing : Except String Unit) (items : List Resource)
    (cluster : ClusterKey) : Except String (List Resource) :=
  match listing with
  | .error text => .error ("failed to list Wazuh" ++ kind.title ++ "s: " ++ text)
  | .ok () =>
    .ok ((items.filter (fun resource => resource.nspace = cluster.nspace)).filter
      (fun resource => resource.spec.clusterRef.name = cluster.name))

def listRulesForCluster : Except String Unit -> List Resource -> ClusterKey -> Except String (List Resource) :=
  listForCluster .rule

def listDecodersForCluster :
    Except String Unit -> List Resource -> ClusterKey -> Except String (List Resource) :=
  listForCluster .decoder

def Resource.info (resource : Resource) : Option ConfigMapInfo :=
  if resource.Applied then
    resource.status.configMapRef.map fun ref =>
      { configMapName := ref.name, fileName := resource.fileName, resourceName := resource.name }
  else none

def computeHash (digest : String -> String) (contents : List String) : String :=
  digest (join contents)

/-- The common end of the two lookups: what to mount, by name, and the hash of all contents. -/
def configMapsOf (digest : String -> String) (resources : List Resource) :
    List ConfigMapInfo × String :=
  ((resources.filterMap Resource.info).insertionSort
      (fun first second => first.resourceName ≤ second.resourceName),
    computeHash digest
      (((resources.filter (fun resource => resource.info.isSome)).map
        (fun resource => resource.spec.content)).insertionSort (· ≤ ·)))

def getRuleConfigMapsForCluster (digest : String -> String) (listing : Except String Unit)
    (items : List Resource) (cluster : ClusterKey) : Except String (List ConfigMapInfo × String) :=
  (listRulesForCluster listing items cluster).map (configMapsOf digest)

def getDecoderConfigMapsForCluster (digest : String -> String) (listing : Except String Unit)
    (items : List Resource) (cluster : ClusterKey) : Except String (List ConfigMapInfo × String) :=
  (listDecodersForCluster listing items cluster).map (configMapsOf digest)

/-! ## The builders -/

/-- What the builder of a manager StatefulSet is told of one kind: the ConfigMaps to mount, and
the hash for the annotation. -/
structure Mounting where
  configMaps : List ConfigMapInfo := []
  hash : String := ""
  deriving DecidableEq

/-- How a stage of the manager's reconciler uses a lookup.  An error is logged, and the stage
continues as if there was nothing to mount. -/
def mountingOf : Except String (List ConfigMapInfo × String) -> Mounting
  | .error _ => {}
  | .ok (configMaps, hash) => if configMaps = [] then {} else { configMaps := configMaps, hash := hash }

/-- A volume of a pod which shows a ConfigMap of the pod's namespace. -/
structure Volume where
  (name configMap : String)
  deriving DecidableEq

structure VolumeMount where
  (name mountPath subPath : String)
  readOnly : Bool := true
  deriving DecidableEq

def ConfigMapInfo.volume (kind : Kind) (info : ConfigMapInfo) : Volume where
  name := kind.volumeName info.configMapName
  configMap := info.configMapName

def ConfigMapInfo.volumeMount (kind : Kind) (info : ConfigMapInfo) : VolumeMount where
  name := kind.volumeName info.configMapName
  mountPath := kind.directory ++ info.fileName
  subPath := info.fileName

def buildVolumes (rules decoders : Mounting) : List Volume :=
  rules.configMaps.map (ConfigMapInfo.volume .rule) ++
    decoders.configMaps.map (ConfigMapInfo.volume .decoder)

def buildVolumeMounts (rules decoders : Mounting) : List VolumeMount :=
  rules.configMaps.map (ConfigMapInfo.volumeMount .rule) ++
    decoders.configMaps.map (ConfigMapInfo.volumeMount .decoder)

/-- The ConfigMap is mounted as a rule: a mount in the directory of the rules shows its volume. -/
def MountsRule (volumes : List Volume) (mounts : List VolumeMount) (configMap : String) : Prop :=
  ∃ mount ∈ mounts, mount.mountPath = Kind.rule.directory ++ mount.subPath ∧
    ∃ volume ∈ volumes, volume.name = mount.name ∧ volume.configMap = configMap

/-! ## What the builders mount -/

theorem directory_ne (first second : String) :
    Kind.decoder.directory ++ first ≠ Kind.rule.directory ++ second := by
  intro same
  have beginnings := congrArg (fun text => text.toList.take 16) same
  simp [Kind.directory] at beginnings

theorem volumeName_ne (first second : String) :
    Kind.decoder.volumeName first ≠ Kind.rule.volumeName second := by
  intro same
  have beginnings := congrArg (fun text => text.toList.take 7) same
  simp [Kind.volumeName, Kind.noun] at beginnings

theorem mountsRule_iff (rules decoders : Mounting) (configMap : String) :
    MountsRule (buildVolumes rules decoders) (buildVolumeMounts rules decoders) configMap <->
      ∃ info ∈ rules.configMaps, info.configMapName = configMap := by
  constructor
  · rintro ⟨mount, mounted, placed, volume, shown, named, shows⟩
    rcases mem_append.mp mounted with fromRule | fromDecoder
    · rcases mem_map.mp fromRule with ⟨info, listed, rfl⟩
      rcases mem_append.mp shown with ruleVolume | decoderVolume
      · rcases mem_map.mp ruleVolume with ⟨other, otherListed, rfl⟩
        exact ⟨other, otherListed, shows⟩
      · rcases mem_map.mp decoderVolume with ⟨other, _, rfl⟩
        exact absurd named (volumeName_ne _ _)
    · rcases mem_map.mp fromDecoder with ⟨info, _, rfl⟩
      exact absurd placed (directory_ne _ _)
  · rintro ⟨info, listed, rfl⟩
    exact ⟨info.volumeMount .rule, mem_append_left _ (mem_map_of_mem listed), rfl,
      info.volume .rule, mem_append_left _ (mem_map_of_mem listed), rfl, rfl⟩

variable {info : ConfigMapInfo}

theorem mem_mountingOf {lookup : Except String (List ConfigMapInfo × String)} :
    info ∈ (mountingOf lookup).configMaps <-> ∃ found, lookup = .ok found ∧ info ∈ found.1 := by
  cases lookup with
  | error => simp [mountingOf]
  | ok found =>
    rcases found with ⟨configMaps, hash⟩
    by_cases empty : configMaps = []
    · simp [mountingOf, empty]
    · simp [mountingOf, empty]

theorem mem_getRuleConfigMapsForCluster {digest : String -> String} {listing : Except String Unit}
    {items : List Resource} {cluster : ClusterKey} :
    (∃ found, getRuleConfigMapsForCluster digest listing items cluster = .ok found ∧ info ∈ found.1) <->
      listing = .ok () ∧ ∃ resource ∈ items, resource.spec.clusterRef.name = cluster.name ∧
        resource.nspace = cluster.nspace ∧ resource.info = some info := by
  cases listing with
  | error =>
    simp [getRuleConfigMapsForCluster, listRulesForCluster, listForCluster, Except.map]
  | ok =>
    simp [getRuleConfigMapsForCluster, listRulesForCluster, listForCluster, Except.map, configMapsOf,
      and_assoc]

variable {resource : Resource}

theorem Resource.info_eq_some (faithful : resource.Faithful kind)
    (shown : resource.info = some info) :
    resource.Applied ∧ info.configMapName = kind.configMapName resource.name := by
  by_cases applied : resource.Applied
  · rw [Resource.info, if_pos applied, faithful applied] at shown
    cases shown
    exact ⟨applied, rfl⟩
  · rw [Resource.info, if_neg applied] at shown
    cases shown

theorem Resource.exists_info (faithful : resource.Faithful kind) (applied : resource.Applied) :
    ∃ info, resource.info = some info ∧ info.configMapName = kind.configMapName resource.name := by
  rw [Resource.info, if_pos applied, faithful applied]
  exact ⟨_, rfl, rfl⟩

theorem Resource.key_of_configMap {first second : Resource}
    (same : first.configMap kind = second.configMap kind) : first.key = second.key := by
  have names := congrArg ConfigMapReference.name same
  have suffixed : first.name ++ ("-" ++ kind.noun) = second.name ++ ("-" ++ kind.noun) := by
    simpa [configMap, Kind.configMapName, String.append_assoc] using names
  exact Prod.ext (congrArg ConfigMapReference.nspace same)
    ((String.append_left_inj ("-" ++ kind.noun)).mp suffixed)

/-! ## One pass over the managers of a cluster -/

/-- What a pass over the managers of a cluster finds: the resources of all namespaces, and what
the API answers where the stage of a kind of nodes lists them. -/
structure Pass where
  digest : String -> String
  cluster : ClusterKey
  rules : Store .rule
  decoders : Store .decoder
  (listRules listDecoders : NodeType -> Except String Unit)

namespace Pass

variable (pass : Pass)

/-- The rules which the builder of a kind of nodes is told. -/
def ruleMounting (node : NodeType) : Mounting :=
  mountingOf
    (getRuleConfigMapsForCluster pass.digest (pass.listRules node) pass.rules.items pass.cluster)

/-- The decoders which the builder of a kind of nodes is told. -/
def decoderMounting (node : NodeType) : Mounting :=
  mountingOf
    (getDecoderConfigMapsForCluster pass.digest (pass.listDecoders node) pass.decoders.items
      pass.cluster)

def volumes (node : NodeType) : List Volume :=
  buildVolumes (pass.ruleMounting node) (pass.decoderMounting node)

def volumeMounts (node : NodeType) : List VolumeMount :=
  buildVolumeMounts (pass.ruleMounting node) (pass.decoderMounting node)

/-- The ConfigMap is mounted as a rule into the pods of a kind of nodes, which can only show
ConfigMaps of their own namespace. -/
def Loads (node : NodeType) (configMap : ConfigMapReference) : Prop :=
  configMap.nspace = pass.cluster.nspace ∧
    MountsRule (pass.volumes node) (pass.volumeMounts node) configMap.name

theorem loads_iff (node : NodeType) (configMap : ConfigMapReference) :
    pass.Loads node configMap <->
      pass.listRules node = .ok () ∧
        ∃ rule ∈ pass.rules.items, rule.Applied ∧
          rule.spec.clusterRef.name = pass.cluster.name ∧ rule.nspace = pass.cluster.nspace ∧
          configMap = rule.configMap .rule := by
  rw [Loads, volumes, volumeMounts, mountsRule_iff]
  constructor
  · rintro ⟨near, info, mounted, named⟩
    rcases mem_getRuleConfigMapsForCluster.mp (mem_mountingOf.mp mounted) with
      ⟨answered, rule, listed, naming, inside, shown⟩
    rcases info_eq_some (pass.rules.faithful rule listed) shown with ⟨applied, called⟩
    refine ⟨answered, rule, listed, applied, naming, inside, ?_⟩
    cases configMap with
    | mk name nspace =>
      have sameName : name = Kind.rule.configMapName rule.name := named.symm.trans called
      have sameNamespace : nspace = rule.nspace := near.trans inside.symm
      rw [sameName, sameNamespace]
      rfl
  · rintro ⟨answered, rule, listed, applied, naming, inside, rfl⟩
    rcases exists_info (pass.rules.faithful rule listed) applied with ⟨info, shown, called⟩
    refine ⟨inside, info, ?_, called⟩
    exact mem_mountingOf.mpr (mem_getRuleConfigMapsForCluster.mpr
      ⟨answered, rule, listed, naming, inside, shown⟩)

def Meant (rule : Resource) (node : NodeType) : Prop :=
  rule.cluster = pass.cluster ∧ rule.spec.targetNodes.includes node = true

/-- The pods load the rules which are meant for them and no others, and a rule reported as
applied is loaded by each node in its status. -/
structure LoadsMeant : Prop where
  exactly : forall node configMap, pass.Loads node configMap <->
    ∃ rule ∈ pass.rules.items, rule.Applied ∧ pass.Meant rule node ∧ configMap = rule.configMap .rule
  reported : ∀ rule ∈ pass.rules.items, rule.Applied -> rule.cluster = pass.cluster ->
    ∀ name ∈ rule.status.appliedToNodes, ∃ node ordinal,
      name = podName (node.statefulSetName pass.cluster.name) ordinal ∧
        pass.Loads node (rule.configMap .rule)

/-- What the lookup goes by agrees with what the rules ask for: among the applied rules which
name the cluster, those in its namespace are those meant for the nodes, and the statuses list
nodes which the rules ask for. -/
structure Aligned : Prop where
  lookups : forall node, ∀ rule ∈ pass.rules.items, rule.Applied ->
    rule.spec.clusterRef.name = pass.cluster.name ->
      ((pass.listRules node = .ok () ∧ rule.nspace = pass.cluster.nspace) <-> pass.Meant rule node)
  statuses : ∀ rule ∈ pass.rules.items, rule.Applied -> rule.cluster = pass.cluster ->
    ∀ name ∈ rule.status.appliedToNodes,
      Targeted rule.spec.targetNodes pass.cluster.name name

theorem loadsMeant_of_aligned (aligned : pass.Aligned) : pass.LoadsMeant := by
  have exactly : forall node configMap, pass.Loads node configMap <->
      ∃ rule ∈ pass.rules.items, rule.Applied ∧ pass.Meant rule node ∧
        configMap = rule.configMap .rule := by
    intro node configMap
    rw [loads_iff]
    constructor
    · rintro ⟨answered, rule, listed, applied, naming, inside, same⟩
      exact ⟨rule, listed, applied,
        (aligned.lookups node rule listed applied naming).mp ⟨answered, inside⟩, same⟩
    · rintro ⟨rule, listed, applied, meant, same⟩
      have naming := congrArg ClusterKey.name meant.1
      rcases (aligned.lookups node rule listed applied naming).mpr meant with ⟨answered, inside⟩
      exact ⟨answered, rule, listed, applied, naming, inside, same⟩
  refine ⟨exactly, ?_⟩
  intro rule listed applied denoted name member
  rcases aligned.statuses rule listed applied denoted name member with ⟨node, ordinal, included, named⟩
  exact ⟨node, ordinal, named, (exactly node _).mpr ⟨rule, listed, applied, ⟨denoted, included⟩, rfl⟩⟩

theorem meant_of_loads (loads : pass.LoadsMeant) (listed : rule ∈ pass.rules.items)
    (loaded : pass.Loads node (rule.configMap .rule)) : pass.Meant rule node := by
  rcases (loads.exactly node _).mp loaded with ⟨other, otherListed, _, meant, same⟩
  rw [pass.rules.eq_of_key listed otherListed (key_of_configMap same)]
  exact meant

theorem aligned_of_loadsMeant (loads : pass.LoadsMeant) : pass.Aligned where
  lookups := by
    intro node rule listed applied naming
    constructor
    · rintro ⟨answered, inside⟩
      apply pass.meant_of_loads loads listed
      exact (pass.loads_iff node _).mpr ⟨answered, rule, listed, applied, naming, inside, rfl⟩
    · intro meant
      have loaded := (loads.exactly node _).mpr ⟨rule, listed, applied, meant, rfl⟩
      rcases (pass.loads_iff node _).mp loaded with ⟨answered, other, _, _, _, inside, same⟩
      exact ⟨answered, (congrArg ConfigMapReference.nspace same).trans inside⟩
  statuses := by
    intro rule listed applied denoted name member
    rcases loads.reported rule listed applied denoted name member with ⟨node, ordinal, named, loaded⟩
    exact ⟨node, ordinal, (pass.meant_of_loads loads listed loaded).2, named⟩

end Pass

/-- In every pass the manager pods load exactly the rules meant for them if and only if the
lookup by namespace and name agrees with the references and the selections of nodes. -/
theorem rules_loaded_iff (pass : Pass) : pass.LoadsMeant <-> pass.Aligned :=
  ⟨pass.aligned_of_loadsMeant, pass.loadsMeant_of_aligned⟩

namespace Sample

def cluster : ClusterKey where
  nspace := "wazuh"
  name := "prod"

def spec (target : TargetNodes) (refNamespace : String) : Spec where
  clusterRef := { name := "prod", nspace := refNamespace }
  title := "ssh"
  content := "<group name='ssh'><rule id='100100' level='5'/></group>"
  targetNodes := target

def pass (nspace : String) (rule : Spec) : Pass where
  digest := id
  cluster := cluster
  rules := (Store.empty.create nspace "ssh" rule).reconciled (nspace, "ssh") []
    { cluster := .found { manager := some { workerReplicas := some 1 } } } none
  decoders := .empty
  listRules := fun _ => .ok ()
  listDecoders := fun _ => .ok ()

def applied (nspace : String) (rule : Spec) : Resource :=
  passed .rule [] { cluster := .found { manager := some { workerReplicas := some 1 } } } none
    { nspace := nspace, name := "ssh", spec := rule }

theorem items_pass (nspace : String) (rule : Spec) :
    (pass nspace rule).rules.items = [applied nspace rule] := by
  simp [pass, applied, Store.create, Store.reconciled, Store.revise, Store.empty, key]

theorem loads_pass (nspace : String) (rule : Spec) (node : NodeType)
    (configMap : ConfigMapReference) :
    (pass nspace rule).Loads node configMap <->
      rule.clusterRef.name = "prod" ∧ nspace = "wazuh" ∧
        configMap = { name := "ssh-rule", nspace := nspace } := by
  have reported : (applied nspace rule).Applied := rfl
  rw [Pass.loads_iff, items_pass]
  constructor
  · rintro ⟨_, resource, listed, _, naming, inside, same⟩
    rw [mem_singleton.mp listed] at naming inside same
    exact ⟨naming, inside, same⟩
  · rintro ⟨naming, inside, same⟩
    exact ⟨rfl, _, mem_singleton_self _, reported, naming, inside, same⟩

theorem meant_pass {nspace : String} {rule : Spec} (loads : (pass nspace rule).LoadsMeant)
    {node : NodeType} (loaded : (pass nspace rule).Loads node { name := "ssh-rule", nspace := nspace }) :
    (pass nspace rule).Meant (applied nspace rule) node := by
  have listed : applied nspace rule ∈ (pass nspace rule).rules.items := by
    rw [items_pass]
    exact mem_singleton_self _
  exact (pass nspace rule).meant_of_loads loads listed loaded

end Sample

open Sample

/-- A rule for the master only reaches the workers; a rule which refers to the cluster from
another namespace is reported on a node and reaches none; and a rule for a cluster of the same
name elsewhere reaches the pods of this one. -/
theorem rules_loaded_wrongly : (let pass := pass "wazuh" (spec .master "")
     pass.Loads .worker { name := "ssh-rule", nspace := "wazuh" } ∧ ¬ pass.LoadsMeant) ∧
    (let pass := pass "team" (spec .all "wazuh")
     (applied "team" (spec .all "wazuh")).status.appliedToNodes =
        ["prod-manager-master-0", "prod-manager-worker-0"] ∧
      (forall node configMap, ¬ pass.Loads node configMap) ∧ ¬ pass.LoadsMeant) ∧
    (let pass := pass "wazuh" (spec .all "other")
     pass.Loads .master { name := "ssh-rule", nspace := "wazuh" } ∧ ¬ pass.LoadsMeant) := by
  refine ⟨⟨?_, ?_⟩, ⟨by decide +kernel, ?_, ?_⟩, ⟨?_, ?_⟩⟩
  · exact (loads_pass _ _ _ _).mpr ⟨rfl, rfl, rfl⟩
  · intro loads
    exact absurd (meant_pass loads ((loads_pass _ _ .worker _).mpr ⟨rfl, rfl, rfl⟩)).2
      (by decide)
  · intro node configMap loaded
    exact absurd ((loads_pass _ _ _ _).mp loaded).2.1 (by decide)
  · intro loads
    let rule := applied "team" (spec .all "wazuh")
    have listed : rule ∈ (pass "team" (spec .all "wazuh")).rules.items := by
      exact mem_singleton_self _
    have loaded := (loads.exactly .master (rule.configMap .rule)).mpr
      ⟨rule, listed, rfl, ⟨rfl, rfl⟩, rfl⟩
    exact absurd ((loads_pass _ _ _ _).mp loaded).2.1 (by decide)
  · exact (loads_pass _ _ _ _).mpr ⟨rfl, rfl, rfl⟩
  · intro loads
    exact absurd (meant_pass loads ((loads_pass _ _ .master _).mpr ⟨rfl, rfl, rfl⟩)).1
      (by decide)

/-! ## The hash

The contents are written to the hash one after the other, in their own order and with nothing
between them.  The names of the files are not written at all. -/

section Code

variable {α : Type} {words others code : List (List α)}

/-- No word is empty, and none begins another one. -/
structure PrefixFree (code : List (List α)) : Prop where
  occupied : [] ∉ code
  apart : ∀ word ∈ code, ∀ other ∈ code, word <+: other -> word = other

/-- Words of such a code, written one after the other, can be read off again. -/
theorem PrefixFree.flatten_inj (free : PrefixFree code) (inside : words ⊆ code) (insideOthers : others ⊆ code)
    (same : words.flatten = others.flatten) : words = others := by
  induction words generalizing others with
  | nil =>
    cases others with
    | nil => rfl
    | cons other rest =>
      have empty : other = [] := by simp_all
      exact absurd (insideOthers (empty ▸ mem_cons_self)) free.occupied
  | cons word words ih =>
    cases others with
    | nil =>
      have empty : word = [] := by simp_all
      exact absurd (inside (empty ▸ mem_cons_self)) free.occupied
    | cons other others =>
      rw [cons_subset] at inside insideOthers
      have head : word = other := by
        have begin : other <+: word ++ words.flatten := ⟨others.flatten, same.symm⟩
        rcases prefix_or_prefix_of_prefix (prefix_append word words.flatten) begin with begins | begins
        · exact free.apart word inside.1 other insideOthers.1 begins
        · exact (free.apart other insideOthers.1 word inside.1 begins).symm
      subst head
      rw [ih inside.2 insideOthers.2 (append_cancel_left same)]

end Code

section Hash

variable {first second : List Resource}

def files (resources : List Resource) : List (String × String) :=
  (resources.filter (fun resource => resource.info.isSome)).map fun resource =>
    (resource.fileName, resource.spec.content)

def sortedContents (resources : List Resource) : List String :=
  ((files resources).map Prod.snd).insertionSort (· ≤ ·)

/-- A StatefulSet of the managers whose pod template has the hash of these resources. -/
def hashed (digest : String -> String) (base : StatefulSet) (kind : Kind) (resources : List Resource) :
    StatefulSet :=
  let hash := (mountingOf (.ok (configMapsOf digest resources))).hash
  { base with
    template :=
      match kind with
      | .rule => { base.template with ruleHash := hash }
      | .decoder => { base.template with decoderHash := hash } }

/-- With a digest without collisions, whose values are not empty, the hashes of two collections
are equal exactly if the collections bring the same files, in whatever order; and the managers are
updated from the one to the other exactly if they do not. -/
structure HashTells (first second : List Resource) : Prop where
  hash : forall digest : String -> String, Function.Injective digest ->
    ((configMapsOf digest first).2 = (configMapsOf digest second).2 <->
      (files first).Perm (files second))
  restart : forall digest : String -> String, Function.Injective digest -> (forall text, digest text ≠ "") ->
    forall base kind, workerNeedsUpdate (hashed digest base kind first) (hashed digest base kind second) = true <->
      ¬ (files first).Perm (files second)

/-- The contents can be told apart when written one after the other, and no two files of different
names have one content. -/
structure Distinguishable (collection : List (String × String)) : Prop where
  contents : PrefixFree (collection.map fun file => file.2.toList)
  names : ∀ file ∈ collection, ∀ other ∈ collection, file.2 = other.2 -> file = other

theorem sortedContents_of_perm (same : (files first).Perm (files second)) :
    sortedContents first = sortedContents second := by
  have reordered := (perm_insertionSort (· ≤ ·) _).trans ((same.map Prod.snd).trans
    (perm_insertionSort (· ≤ ·) _).symm)
  exact reordered.eq_of_pairwise' (pairwise_insertionSort _ _) (pairwise_insertionSort _ _)

theorem hash_eq (digest : String -> String) (resources : List Resource) :
    (configMapsOf digest resources).2 = digest (join (sortedContents resources)) := by
  simp [configMapsOf, computeHash, sortedContents, files, Function.comp_def]

/-- Where nothing is mounted there is no hash either. -/
theorem mounting_hash (digest : String -> String) (resources : List Resource) :
    (mountingOf (.ok (configMapsOf digest resources))).hash =
      if files resources = [] then "" else digest (join (sortedContents resources)) := by
  have mounted : (configMapsOf digest resources).1 = [] <-> files resources = [] := by
    rw [configMapsOf, files, map_eq_nil_iff, filter_eq_nil_iff, <- List.length_eq_zero_iff,
      (perm_insertionSort _ _).length_eq, List.length_eq_zero_iff]
    simp [filterMap_eq_nil_iff]
  rw [<- hash_eq digest]
  by_cases empty : files resources = []
  · simp [mountingOf, mounted.mpr empty, empty]
  · simp [mountingOf, mt mounted.mp empty, empty]

theorem hashed_needsUpdate_iff (digest : String -> String) (base : StatefulSet) (kind : Kind) :
    workerNeedsUpdate (hashed digest base kind first) (hashed digest base kind second) = true <->
      (mountingOf (.ok (configMapsOf digest first))).hash ≠
        (mountingOf (.ok (configMapsOf digest second))).hash := by
  cases kind <;> simp [workerNeedsUpdate, hashed, hashChanged] <;> exact decide_eq_true_iff

theorem perm_of_contents (told : Distinguishable (files first ++ files second))
    (same : join (sortedContents first) = join (sortedContents second)) :
    (files first).Perm (files second) := by
  have listed (resources : List Resource) (mem : files resources ⊆ files first ++ files second) :
      (sortedContents resources).map toList ⊆ (files first ++ files second).map fun file => file.2.toList := by
    intro word inside
    rcases mem_map.mp inside with ⟨content, sorted, rfl⟩
    rcases mem_map.mp ((perm_insertionSort _ _).subset sorted) with ⟨file, brought, rfl⟩
    exact mem_map_of_mem (mem brought)
  have sorted : sortedContents first = sortedContents second := by
    refine map_injective_iff.mpr (fun _ _ => toList_injective) (told.contents.flatten_inj (listed first (subset_append_left ..))
      (listed second (subset_append_right ..)) ?_)
    simpa [flatMap_def] using congrArg toList same
  have contents : ((files first).map Prod.snd).Perm ((files second).map Prod.snd) :=
    (perm_insertionSort (· ≤ ·) _).symm.trans ((Perm.of_eq sorted).trans (perm_insertionSort (· ≤ ·) _))
  -- The file of a content is found among all files.
  let fileOf (content : String) : String × String :=
    ((files first ++ files second).find? fun file => file.2 = content).getD ("", content)
  have found : ∀ file ∈ files first ++ files second, fileOf file.2 = file := by
    intro file inside
    rcases search : (files first ++ files second).find? (fun other => other.2 = file.2) with _ | other
    · exact absurd (find?_eq_none.mp search file inside) (by simp)
    · have same : other = file := told.names other (mem_of_find?_eq_some search) file inside
        (by simpa using find?_some search)
      simp only [fileOf, search, Option.getD_some, same]
  have restored (resources : List Resource) (mem : files resources ⊆ files first ++ files second) :
      ((files resources).map Prod.snd).map fileOf = files resources := by
    rw [List.map_map]
    exact (map_congr_left fun file inside => found file (mem inside)).trans (List.map_id _)
  have mapped := contents.map fileOf
  rwa [restored first (subset_append_left ..), restored second (subset_append_right ..)] at mapped

end Hash

namespace Sample

def rule (name content : String) : Resource :=
  passed .rule [] { cluster := .found {} } none
    { nspace := "wazuh", name, spec := { spec .all "" with title := name, content } }

end Sample

end Rules
end WazuhOperator
