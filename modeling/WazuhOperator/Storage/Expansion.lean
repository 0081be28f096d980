import WazuhOperator.Cluster.Events
import WazuhOperator.Library.Procedure
import WazuhOperator.Networking.Policies

namespace WazuhOperator
namespace Storage

open Procedure Proc PodNetwork Networking

/-!
# Expansion of volumes

When the size of a volume is raised in the resource, the operator raises the
request of the claims that exist already.  It finds them by labels.  The
claims of a StatefulSet are made by Kubernetes, which gives them the labels of
the volume claim template and those of the selector of the StatefulSet.

The store of a pass is the claims in the namespace of the cluster, each under
its name.  A quantity is an integer number of its smallest unit; how it is
read and written is a parameter.
-/

/-! ## Claims -/

/-- The types of conditions of a claim which the operator distinguishes. -/
inductive ConditionType where
  | resizing
  | fileSystemResizePending
  | other
  deriving DecidableEq

structure PersistentVolumeClaim where
  labels : Labels
  /-- `spec.resources.requests.storage`. -/
  request : Int
  storageClassName : Option String
  /-- The conditions of the status, and whether each of them is true. -/
  conditions : List (ConditionType × Bool)

structure Claims where
  names : List String
  get : String -> PersistentVolumeClaim

def Claims.setRequest (name : String) (request : Int) (claims : Claims) : Claims :=
  { claims with
    get := fun other => if other = name then { claims.get name with request := request } else claims.get other }

theorem Claims.setRequest_other {name other : String} (different : other ≠ name) (request : Int)
    (claims : Claims) : (claims.setRequest name request).get other = claims.get other := if_neg different

@[simp] theorem Claims.setRequest_self (name : String) (request : Int) (claims : Claims) :
    (claims.setRequest name request).get name = { claims.get name with request := request } := if_pos rfl

/-! ## `internal/shared/storage` -/

/-- `resource.ParseQuantity` and `Quantity.String`. -/
structure Quantities where
  parse : String -> Except String Int
  format : Int -> String

structure StorageClass where
  name : String
  /-- The annotation which makes it the default is `"true"`. -/
  isDefault : Bool
  allowVolumeExpansion : Option Bool

structure StorageAnswers where
  /-- The listing of the claims of a component. -/
  list : String -> Except String Unit
  storageClasses : Except String (List StorageClass)
  storageClass : String -> Except String StorageClass
  patch : String -> WriteAnswer

variable (quantities : Quantities) (answers : StorageAnswers)

def getDefaultStorageClass : Except String String :=
  match answers.storageClasses with
  | .error text => .error ("failed to list StorageClasses: " ++ text)
  | .ok classes =>
    match classes.find? StorageClass.isDefault with
    | some found => .ok found.name
    | none => .error "no default StorageClass found in the cluster"

def getStorageClassForPVC : Option String -> Except String String
  | none => getDefaultStorageClass answers
  | some "" => getDefaultStorageClass answers
  | some name => .ok name

def canStorageClassExpand (name : String) : Except String Bool :=
  if name = "" then .error "storage class name cannot be empty"
  else
    match answers.storageClass name with
    | .error text => .error ("failed to get StorageClass " ++ name ++ ": " ++ text)
    | .ok found => .ok (found.allowVolumeExpansion.getD false)

/-- `ExpansionValidationResult`, without the two sizes. -/
structure ExpansionValidationResult where
  (valid needsExpansion : Bool := false)
  errorMessage : String := ""
  storageClassSupportsExpansion : Bool := false

def validateExpansion (claim : PersistentVolumeClaim) (requestedSize : String) : ExpansionValidationResult :=
  match quantities.parse requestedSize with
  | .error text => { errorMessage := "invalid requested size \"" ++ requestedSize ++ "\": " ++ text }
  | .ok requested =>
    if claim.request = requested then { valid := true }
    else if requested < claim.request then
      { errorMessage := "cannot decrease storage size from " ++ quantities.format claim.request ++ " to " ++
          quantities.format requested ++ ": Kubernetes does not support shrinking PVCs" }
    else
      match getStorageClassForPVC answers claim.storageClassName with
      | .error text => { needsExpansion := true, errorMessage := "failed to determine storage class: " ++ text }
      | .ok name =>
        match canStorageClassExpand answers name with
        | .error text =>
          { needsExpansion := true
            errorMessage := "failed to check StorageClass expansion support: " ++ text }
        | .ok false =>
          { needsExpansion := true
            errorMessage := "StorageClass \"" ++ name ++
              "\" does not support volume expansion (allowVolumeExpansion is not true)" }
        | .ok true => { valid := true, needsExpansion := true, storageClassSupportsExpansion := true }

/-- `IsShrinkRequest`, of which an error counts as no. -/
def isShrinkRequest (currentSize requestedSize : String) : Bool :=
  match quantities.parse currentSize, quantities.parse requestedSize with
  | .ok current, .ok requested => requested < current
  | _, _ => false

/-- `GetPVCExpansionCondition`: no expansion is under way. -/
def expansionComplete (claim : PersistentVolumeClaim) : Bool :=
  claim.conditions.all fun condition =>
    !(condition.2 && (condition.1 = .resizing || condition.1 = .fileSystemResizePending))

/-- `ExpandPVC`.  The names of the claims sent to the API server are recorded. -/
def expandPVC (nspace name newSize : String) : Proc Claims String Unit := do
  let newQuantity ← mapError (("invalid storage size \"" ++ newSize ++ "\": ") ++ ·)
    (ofExcept (quantities.parse newSize))
  emit name
  modify (if (answers.patch name).applied then Claims.setRequest name newQuantity else id)
  mapError (("failed to patch PVC " ++ nspace ++ "/" ++ name ++ ": ") ++ ·) (ofExcept (answers.patch name).toExcept)

/-! ## `processVolumeExpansion` -/

/-- What the loop over the claims of a component has come to. -/
structure ExpansionProgress where
  (pvcsExpanded pvcsPending : List String := [])
  expansionNeeded : Bool := false
  expansionError : Option String := none

/-- The body of the loop, for a claim as it was listed. -/
def processClaim (nspace requestedSize : String) (progress : ExpansionProgress) (name : String)
    (claim : PersistentVolumeClaim) : Proc Claims String ExpansionProgress :=
  let result := validateExpansion quantities answers claim requestedSize
  if !result.valid then
    if result.errorMessage = "" then pure progress
    else if isShrinkRequest quantities (quantities.format claim.request) requestedSize then pure progress
    else if !result.storageClassSupportsExpansion && result.needsExpansion then
      pure { progress with
        expansionError := some ("storage class does not support expansion: " ++ result.errorMessage) }
    else pure progress
  else if !result.needsExpansion then
    pure { progress with pvcsExpanded := progress.pvcsExpanded ++ [name] }
  else
    let pending :=
      { progress with expansionNeeded := true, pvcsPending := progress.pvcsPending ++ [name] }
    if !expansionComplete claim then pure pending
    else do
      let expanded ← attempt (expandPVC quantities answers nspace name requestedSize)
      match expanded with
      | .error text => pure { pending with expansionError := some text }
      | .ok _ => pure pending

def processVolumeExpansion (nspace requestedSize : String) :
    List (String × PersistentVolumeClaim) -> ExpansionProgress -> Proc Claims String ExpansionProgress
  | [], progress => pure progress
  | (name, claim) :: rest, progress => do
      let further ← processClaim quantities answers nspace requestedSize progress name claim
      processVolumeExpansion nspace requestedSize rest further

/-! ## The components of a cluster -/

inductive StorageComponent where
  | indexer
  | managerMaster
  | managerWorker
  deriving DecidableEq

structure StorageSizes where
  (indexer managerMaster managerWorker : String := "")

def defaultStorageSize : String := "10Gi"

namespace StorageComponent

def requestedSize (sizes : StorageSizes) (component : StorageComponent) : String :=
  let given :=
    match component with
    | .indexer => sizes.indexer
    | .managerMaster => sizes.managerMaster
    | .managerWorker => sizes.managerWorker
  if given = "" then defaultStorageSize else given

/-- The value under `app.kubernetes.io/component` by which the claims are looked for. -/
def label : StorageComponent -> String
  | .indexer => "indexer"
  | .managerMaster => "manager-master"
  | .managerWorker => "manager-worker"

/-- The selector of `getIndexerPVCs`, `getManagerMasterPVCs` and `getManagerWorkerPVCs`. -/
def lookup (clusterName : String) (component : StorageComponent) : LabelSelector where
  matchLabels := [(labelInstance, clusterName), (labelComponent, component.label)]

/-- `buildSelectorLabels` of the three builders, which are the labels of the volume claim template. -/
def templateLabels (clusterName : String) : StorageComponent -> Labels
  | .indexer => selectorLabels clusterName componentIndexer
  | .managerMaster => selectorLabels clusterName "wazuh-manager" ++ [(labelManagerNodeType, "master")]
  | .managerWorker => selectorLabels clusterName "wazuh-manager" ++ [(labelManagerNodeType, "worker")]

/-- The labels of a claim which Kubernetes makes for the StatefulSet: those of the template and those
of the selector. -/
def claimLabels (clusterName : String) (component : StorageComponent) : Labels :=
  component.templateLabels clusterName ++ component.templateLabels clusterName

/-- The name of the claim of a pod: that of the template and that of the pod. -/
def claimName (clusterName : String) (ordinal : Nat) : StorageComponent -> String
  | .indexer => "indexer-data-" ++ podName (indexerName clusterName) ordinal
  | .managerMaster => "wazuh-data-" ++ podName (clusterName ++ "-manager-master") ordinal
  | .managerWorker => "wazuh-data-" ++ podName (managerWorkerName clusterName) ordinal

end StorageComponent

def StorageComponent.noun : StorageComponent -> String
  | .indexer => "indexer"
  | .managerMaster => "manager master"
  | .managerWorker => "manager worker"

/-- `reconcileVolumeExpansion` of the indexer, `reconcileMasterVolumeExpansion` and
`reconcileWorkerVolumeExpansion`. -/
def reconcileVolumeExpansion (key : ClusterKey) (sizes : StorageSizes) (component : StorageComponent) :
    Proc Claims String ExpansionProgress := do
  let wrap := ("failed to list " ++ component.noun ++ " PVCs: " ++ ·)
  mapError wrap (mapError wrap (ofExcept (answers.list component.label)))
  let claims ← read
  let found := claims.names.filter fun name => (component.lookup key.name).selects (claims.get name).labels
  processVolumeExpansion quantities answers key.nspace (component.requestedSize sizes)
    (found.map fun name => (name, claims.get name)) {}

/-- What a pass of the controller does about volumes: `ReconcileManagerNonBlocking` sees to the master
and to the workers, and only logs their errors; `ReconcileNonBlocking` of the indexer, unlike its
sibling `Reconcile`, does not call `reconcileVolumeExpansion`. -/
def expandVolumes (key : ClusterKey) (sizes : StorageSizes) : Proc Claims String Unit := do
  let _ ← attempt (reconcileVolumeExpansion quantities answers key sizes .managerMaster)
  let _ ← attempt (reconcileVolumeExpansion quantities answers key sizes .managerWorker)
  pure ()

/-! ## What the pass leaves alone -/

variable {component : StorageComponent} {sizes : StorageSizes} {key : ClusterKey}

section Frame

variable {quantities answers} {name : String} {size : String}

theorem keeps_expandPVC (raised : forall request, quantities.parse size = .ok request ->
      forall claims, inv claims -> inv (claims.setRequest name request)) :
    Keeps inv (fun _ => True) (expandPVC quantities answers nspace name size) := by
  refine keeps_answer_bind fun request parsed => ?_
  refine keeps_bind (keeps_emit trivial) fun _ => ?_
  refine keeps_bind (keeps_modify fun claims holds => ?_) fun _ => ?_
  · split
    · exact raised request parsed claims holds
    · exact holds
  · exact keeps_mapError (keeps_ofExcept _)

def Short (quantities : Quantities) (size : String) (claim : PersistentVolumeClaim) : Prop :=
  exists request, quantities.parse size = .ok request ∧ claim.request < request

theorem short_of_needsExpansion {claim : PersistentVolumeClaim}
    (needed : (validateExpansion quantities answers claim size).needsExpansion) :
    Short quantities size claim := by
  unfold validateExpansion at needed
  split at needed
  · nomatch needed
  · next request parsed =>
    refine ⟨request, parsed, ?_⟩
    split at needed
    · nomatch needed
    · split at needed
      · nomatch needed
      · omega

theorem returns_processClaim (progress : ExpansionProgress)
    (listed : PersistentVolumeClaim)
    (expands : Short quantities size listed ->
      Keeps inv (fun _ => True) (expandPVC quantities answers nspace name size)) :
    Returns inv inv (processClaim quantities answers nspace size progress name listed) := by
  have done (result : ExpansionProgress) : Returns inv inv (pure result : Proc Claims String _) :=
    returns_pure fun _ holds => holds
  unfold processClaim
  dsimp only
  split
  · split
    · exact done _
    · split
      · exact done _
      · split
        · exact done _
        · exact done _
  · split
    · exact done _
    · next needed =>
      split
      · exact done _
      · have short := short_of_needsExpansion (by simpa using needed)
        refine returns_bind (returns_attempt (expands short)) fun expanded => ?_
        cases expanded with
        | error | ok _ => exact done _

theorem returns_processVolumeExpansion
    (expands : ∀ entry ∈ entries, Short quantities size entry.2 ->
      Keeps inv (fun _ => True) (expandPVC quantities answers nspace entry.1 size)) :
    forall progress, Returns inv inv
      (processVolumeExpansion quantities answers nspace size entries progress) := by
  induction entries with
  | nil => exact fun progress => returns_pure fun _ holds => holds
  | cons entry _ ih =>
    intro progress
    rw [List.forall_mem_cons] at expands
    exact returns_bind (returns_processClaim progress entry.2 expands.1) fun further => ih expands.2 further

theorem keeps_reconcileVolumeExpansion
    (raised : forall found name, inv found ->
      (component.lookup key.name).selects (found.get name).labels ->
      forall request, (found.get name).request < request ->
      forall claims, inv claims -> inv (claims.setRequest name request)) :
    Keeps inv (fun _ => True) (reconcileVolumeExpansion quantities answers key sizes component) := by
  refine keeps_bind (keeps_mapError (keeps_mapError (keeps_ofExcept _))) fun _ => ?_
  refine keeps_read_bind fun found holds => ?_
  refine keeps_of_returns (returns_processVolumeExpansion (fun entry member short => keeps_expandPVC ?_) _)
  rcases List.mem_map.mp member with ⟨name, listed, rfl⟩
  rcases short with ⟨size, parsed, below⟩
  intro request read
  cases parsed.symm.trans read
  exact raised found name holds (List.mem_filter.mp listed).2 _ below

theorem keeps_expandVolumes
    (raised : forall component found name, inv found ->
      (StorageComponent.lookup key.name component).selects (found.get name).labels ->
      forall request, (found.get name).request < request ->
      forall claims, inv claims -> inv (claims.setRequest name request)) :
    Keeps inv (fun _ => True) (expandVolumes quantities answers key sizes) := by
  refine keeps_bind (keeps_attempt (keeps_reconcileVolumeExpansion (raised _))) fun _ => ?_
  refine keeps_bind (keeps_attempt (keeps_reconcileVolumeExpansion (raised _))) fun _ => ?_
  exact keeps_pure _

end Frame

theorem lookup_misses (clusterName otherName : String) (component other : StorageComponent) :
    (component.lookup clusterName).selects (other.claimLabels otherName) = false := by
  have absent : (other.claimLabels otherName).lookup labelComponent = none := by
    cases other <;> rfl
  simp [StorageComponent.lookup, LabelSelector.selects, absent]

/-! ## Sizes -/

def MadeFor (key : ClusterKey) (component : StorageComponent) (claims : Claims) (name : String) : Prop :=
  name ∈ claims.names ∧ (∃ ordinal, name = component.claimName key.name ordinal) ∧
    (claims.get name).labels = component.claimLabels key.name

def SizeReached (quantities : Quantities) (key : ClusterKey) (sizes : StorageSizes) (component : StorageComponent)
    (claims : Claims) : Prop :=
  forall name size, MadeFor key component claims name ->
    quantities.parse (component.requestedSize sizes) = .ok size -> size ≤ (claims.get name).request

section Sizes

variable (key : ClusterKey) (sizes : StorageSizes) (before : Claims)

theorem expandVolumes_labels (name : String) :
    (expandVolumes quantities answers key sizes before).state.names = before.names ∧
      ((expandVolumes quantities answers key sizes before).state.get name).labels = (before.get name).labels := by
  have kept : Keeps
      (fun claims => claims.names = before.names ∧ (claims.get name).labels = (before.get name).labels)
      (fun _ => True) (expandVolumes quantities answers key sizes) := by
    refine keeps_expandVolumes fun component found other _ _ request _ claims holds => ⟨holds.1, ?_⟩
    by_cases same : name = other
    · rw [← same, Claims.setRequest_self]
      exact holds.2
    · rw [Claims.setRequest_other same]
      exact holds.2
  exact (kept before ⟨rfl, rfl⟩).1

/-- A claim of a StatefulSet is not found by any lookup, and stays as it is. -/
theorem expandVolumes_claim {name clusterName : String}
    (made : (before.get name).labels = component.claimLabels clusterName) :
    (expandVolumes quantities answers key sizes before).state.get name = before.get name := by
  have kept : Keeps (fun claims => claims.get name = before.get name) (fun _ => True)
      (expandVolumes quantities answers key sizes) := by
    refine keeps_expandVolumes fun looked found other same selected request _ claims holds => ?_
    have different : name ≠ other := by
      rintro rfl
      rw [same, made, lookup_misses] at selected
      exact nomatch selected
    rw [Claims.setRequest_other different]
    exact holds
  exact (kept before rfl).1

/-- A pass of the controller brings no claim of a StatefulSet any nearer to its size. -/
theorem size_reached_after_pass_iff (component : StorageComponent) :
    SizeReached quantities key sizes component (expandVolumes quantities answers key sizes before).state <->
      SizeReached quantities key sizes component before := by
  refine forall_congr' fun name => forall_congr' fun size => ?_
  rcases expandVolumes_labels quantities answers key sizes before name with ⟨names, labels⟩
  rw [MadeFor, MadeFor, names, labels]
  refine forall_congr' fun made => ?_
  rw [expandVolumes_claim quantities answers key sizes before made.2.2]

end Sizes

/-- The workers ask for twice the size which the claim of the first of them has. -/
def grownSizes : StorageSizes := { managerWorker := "20Gi" }

def sampleQuantities : Quantities where
  parse text := if text = "10Gi" then .ok 10 else if text = "20Gi" then .ok 20 else .error "unknown"
  format size := if size = 10 then "10Gi" else if size = 20 then "20Gi" else ""

def expandableAnswers : StorageAnswers where
  list _ := .ok ()
  storageClasses := .ok [⟨"standard", true, some true⟩]
  storageClass _ := .ok ⟨"standard", true, some true⟩
  patch _ := .accepted

def firstWorkerClaims : Claims where
  names := ["wazuh-data-main-manager-worker-0"]
  get _ := ⟨StorageComponent.managerWorker.claimLabels "main", 10, none, []⟩

/-- The claim of the first worker keeps its size. -/
theorem worker_claim_not_expanded :
    MadeFor ⟨"wazuh", "main"⟩ .managerWorker firstWorkerClaims "wazuh-data-main-manager-worker-0" ∧
      ((expandVolumes sampleQuantities expandableAnswers ⟨"wazuh", "main"⟩ grownSizes firstWorkerClaims).state.get
        "wazuh-data-main-manager-worker-0").request = 10 ∧
      ¬ SizeReached sampleQuantities ⟨"wazuh", "main"⟩ grownSizes .managerWorker
        (expandVolumes sampleQuantities expandableAnswers ⟨"wazuh", "main"⟩ grownSizes firstWorkerClaims).state := by
  refine ⟨⟨by decide, ⟨0, by decide⟩, rfl⟩, by decide +kernel, fun reached => ?_⟩
  have grown := reached "wazuh-data-main-manager-worker-0" 20 ⟨by decide +kernel, ⟨0, by decide⟩, rfl⟩ rfl
  revert grown
  decide +kernel

end Storage
end WazuhOperator
