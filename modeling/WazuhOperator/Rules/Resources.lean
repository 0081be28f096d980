import WazuhOperator.Jobs.Objects
import WazuhOperator.Reporting.Record
import WazuhOperator.Security.Resources

namespace WazuhOperator
namespace Rules

open Procedure Proc List
open Jobs (Fetched)
open Reporting (Condition ConditionStatus updateCondition)
open Security (ClusterReference)

/-!
# Custom rules and decoders

A `WazuhRule` and a `WazuhDecoder` bring a file of their own into the
manager pods of a cluster.  Each has a reconciler which validates the text,
keeps it in a ConfigMap next to the resource and reports the nodes it is meant
for.  The two reconcilers are the same but for their names, so there is one
definition for both, with the kind of resource as a parameter.

Times and generations are left out.  The texts of the validators are an input
of the reconciler.
-/

/-! ## The resources -/

inductive NodeType where
  | master
  | worker
  deriving DecidableEq

/-- `targetNodes`, which the resource definition restricts to three values, or leaves unset. -/
inductive TargetNodes where
  | unset
  | master
  | workers
  | all
  deriving DecidableEq

def TargetNodes.includes : TargetNodes -> NodeType -> Bool
  | .unset, _ | .all, _ => true
  | .master, node => node = .master
  | .workers, node => node = .worker

inductive Kind where
  | rule
  | decoder
  deriving DecidableEq

namespace Kind

def noun : Kind -> String
  | rule => "rule"
  | decoder => "decoder"

def title : Kind -> String
  | rule => "Rule"
  | decoder => "Decoder"

def directory : Kind -> String
  | rule => "/var/ossec/etc/rules/"
  | decoder => "/var/ossec/etc/decoders/"

def configMapName (kind : Kind) (name : String) : String := name ++ "-" ++ kind.noun

def volumeName (kind : Kind) (configMap : String) : String := "wazuh-" ++ kind.noun ++ "-" ++ configMap

end Kind

/-- `v1.WazuhRuleSpec` and `v1.WazuhDecoderSpec`: the fields which the reconcilers and the
validator of rules read.  `title` is `ruleName` or `decoderName`, `content` is `rules` or
`decoders`; only rules have a `ruleID`. -/
structure Spec where
  clusterRef : ClusterReference
  (title content : String)
  targetNodes : TargetNodes := .unset
  ruleID : Int := 0
  deriving DecidableEq

structure ConfigMapReference where
  (name nspace : String)
  deriving DecidableEq

/-- `v1.RulePhase` and `v1.DecoderPhase`. -/
inductive Phase where
  | pending
  | applied
  | failed
  | updating
  deriving DecidableEq

/-- `v1.WazuhRuleStatus` and `v1.WazuhDecoderStatus`. -/
structure Status where
  phase : Option Phase := none
  conditions : List Condition := []
  appliedToNodes : List String := []
  configMapRef : Option ConfigMapReference := none
  validationErrors : List String := []
  deriving DecidableEq

/-- `v1.WazuhRule` and `v1.WazuhDecoder`. -/
structure Resource where
  (nspace name : String)
  spec : Spec
  status : Status := {}
  deriving DecidableEq

namespace Resource

variable (resource : Resource)

def key : String × String := (resource.nspace, resource.name)

def cluster : ClusterKey := resource.spec.clusterRef.resolve resource.nspace

def fileName : String := resource.spec.title ++ ".xml"

def Applied : Prop := resource.status.phase = some .applied
  deriving Decidable

def configMap (kind : Kind) : ConfigMapReference where
  name := kind.configMapName resource.name
  nspace := resource.nspace

def Faithful (kind : Kind) : Prop :=
  resource.Applied -> resource.status.configMapRef = some (resource.configMap kind)

end Resource

/-! ## The nodes of a status -/

def managerMasterName (clusterName : String) : String := clusterName ++ "-manager-master"

def NodeType.statefulSetName (clusterName : String) : NodeType -> String
  | .master => managerMasterName clusterName
  | .worker => managerWorkerName clusterName

/-- The number of workers as `determineAppliedNodes` counts them: none where the number is not
given. -/
def workerCount (cluster : ClusterSpec) : Nat := (cluster.manager.bind ManagerSpec.workerReplicas).getD 0

def masterNodes (clusterName : String) : List String := [podName (managerMasterName clusterName) 0]

def workerNodes (clusterName : String) (cluster : ClusterSpec) : List String :=
  (range (workerCount cluster)).map (podName (managerWorkerName clusterName))

def determineAppliedNodes (target : TargetNodes) (clusterName : String) (cluster : ClusterSpec) :
    List String :=
  match target with
  | .master => masterNodes clusterName
  | .workers => workerNodes clusterName cluster
  | .unset | .all => masterNodes clusterName ++ workerNodes clusterName cluster

/-- The pods of the StatefulSets which the builders make: one master, and the workers, two where the
spec gives no number. -/
def builtPods (clusterName : String) (cluster : ClusterSpec) : NodeType -> List String
  | .master => [podName (managerMasterName clusterName) 0]
  | .worker =>
    (range ((cluster.manager.map ManagerSpec.getReplicas).getD 0)).map
      (podName (managerWorkerName clusterName))

def selectedPods (target : TargetNodes) (clusterName : String) (cluster : ClusterSpec) : List String :=
  ([NodeType.master, .worker].filter target.includes).flatMap (builtPods clusterName cluster)

def ListsPods (target : TargetNodes) (clusterName : String) (cluster : ClusterSpec) : Prop :=
  (determineAppliedNodes target clusterName cluster).Nodup ∧
    forall node, node ∈ determineAppliedNodes target clusterName cluster <->
      node ∈ selectedPods target clusterName cluster

theorem podName_worker_ne_master (clusterName : String) (ordinal : Nat) :
    podName (managerWorkerName clusterName) ordinal ≠ podName (managerMasterName clusterName) 0 := by
  intro same
  have letters := congrArg String.toList same
  simp [podName, managerWorkerName, managerMasterName, String.toList_append] at letters

theorem nodup_determineAppliedNodes (target : TargetNodes) (clusterName : String) (cluster : ClusterSpec) :
    (determineAppliedNodes target clusterName cluster).Nodup := by
  have workers : (workerNodes clusterName cluster).Nodup :=
    nodup_range.map fun _ _ same => podName_injective _ same
  have apart : podName (managerMasterName clusterName) 0 ∉ workerNodes clusterName cluster := by
    intro listed
    rcases mem_map.mp listed with ⟨ordinal, _, same⟩
    exact podName_worker_ne_master clusterName ordinal same
  cases target with
  | master => exact nodup_singleton _
  | workers => exact workers
  | unset | all => exact nodup_cons.mpr ⟨apart, workers⟩

/-- The list is right exactly where the number of workers is given, or no worker is concerned. -/
theorem listsPods_iff (target : TargetNodes) (clusterName : String) (cluster : ClusterSpec) :
    ListsPods target clusterName cluster <->
      target = .master ∨ ∀ manager ∈ cluster.manager, manager.workerReplicas ≠ none := by
  constructor
  · rintro ⟨_, exactly⟩
    refine or_iff_not_imp_left.mpr fun others manager given missing => ?_
    have first : podName (managerWorkerName clusterName) 0 ∈ builtPods clusterName cluster .worker := by
      refine mem_map.mpr ⟨0, ?_, rfl⟩
      simp [Option.mem_def.mp given, ManagerSpec.getReplicas, missing]
    have selected : NodeType.worker ∈ [NodeType.master, .worker].filter target.includes := by
      cases target <;> first | exact absurd rfl others | decide
    have listed := (exactly _).mpr (mem_flatMap.mpr ⟨.worker, selected, first⟩)
    have unlisted : workerNodes clusterName cluster = [] := by
      simp [workerNodes, workerCount, Option.mem_def.mp given, missing]
    cases target <;> simp [determineAppliedNodes, unlisted, masterNodes, podName_worker_ne_master] at listed others
  · intro given
    refine ⟨nodup_determineAppliedNodes target clusterName cluster, fun node => ?_⟩
    rcases given with rfl | given
    · simp [determineAppliedNodes, masterNodes, selectedPods, TargetNodes.includes, builtPods]
    · have same : workerNodes clusterName cluster = builtPods clusterName cluster .worker := by
        cases found : cluster.manager with
        | none => simp [workerNodes, workerCount, builtPods, found]
        | some manager =>
          rcases Option.ne_none_iff_exists'.mp (given manager found) with ⟨count, known⟩
          simp [workerNodes, workerCount, builtPods, found, known, ManagerSpec.getReplicas]
      cases target <;>
        simp [determineAppliedNodes, same, masterNodes, selectedPods, TargetNodes.includes, builtPods]

/-- The two workers of a cluster whose spec leaves out their number are not listed. -/
theorem default_workers_unlisted : ¬ListsPods .all "wazuh" { manager := some {} } := by
  rintro ⟨_, exactly⟩
  have listed := (exactly "wazuh-manager-worker-0").mpr (by decide)
  exact absurd listed (by decide)

def Targeted (target : TargetNodes) (clusterName node : String) : Prop :=
  ∃ type ordinal, target.includes type = true ∧ node = podName (type.statefulSetName clusterName) ordinal

variable {target : TargetNodes} {clusterName node : String}

/-! ## The reconcilers -/

def formatValidationErrors (errors : List String) : String := "; ".intercalate errors

namespace Status

variable (status : Status) (kind : Kind)

def setCondition (conditionType : String) (value : ConditionStatus) (reason message : String) :
    Status :=
  { status with conditions := updateCondition conditionType value reason message status.conditions }

def begun : Status := { status with phase := some (status.phase.getD .pending) }

def rejected (errors : List String) : Status :=
  { ((status.setCondition "Validated" .conditionFalse "ValidationFailed"
        (formatValidationErrors errors)).setCondition "Ready" .conditionFalse "ValidationFailed"
      (kind.title ++ " validation failed")) with
    validationErrors := errors
    phase := some .failed }

def validated : Status :=
  { status.setCondition "Validated" .conditionTrue "ValidationPassed" (kind.title ++ " content is valid") with
    validationErrors := [] }

def clusterNotFound (cluster : ClusterKey) : Status :=
  { status.setCondition "Ready" .conditionFalse "ClusterNotFound"
      ("Referenced WazuhCluster " ++ cluster.nspace ++ "/" ++ cluster.name ++ " not found") with
    phase := some .pending }

def appliedTo (configMap : ConfigMapReference) (nodes : List String) : Status :=
  { ((status.setCondition "ConfigMapCreated" .conditionTrue "ConfigMapCreated"
        ("ConfigMap " ++ configMap.name ++ " created successfully")).setCondition "Ready"
      .conditionTrue (kind.title ++ "Applied")
      (kind.title ++ " applied to " ++ toString nodes.length ++ " node(s)")) with
    configMapRef := some configMap
    appliedToNodes := nodes
    phase := some .applied }

end Status

structure Entry where
  resource : Resource
  configMap : Option (String × String) := none

structure Answers where
  cluster : Fetched ClusterSpec
  getConfigMap : Except String Unit := .ok ()
  (createConfigMap updateConfigMap updateStatus : WriteAnswer := .accepted)

section Reconcilers

variable {ε : Type}

/-- `Create` or `Update` of the ConfigMap. -/
def putConfigMap (answer : WriteAnswer) (data : String × String) : Proc Entry ε Unit := do
  if answer.applied then
    modify (fun entry => { entry with configMap := some data })
  ofExcept answer.toExcept

def reconcileConfigMap (answers : Answers) (resource : Resource) : Proc Entry ε Unit := do
  ofExcept answers.getConfigMap
  match (← read).configMap with
  | none => putConfigMap answers.createConfigMap (resource.fileName, resource.spec.content)
  | some _ => putConfigMap answers.updateConfigMap (resource.fileName, resource.spec.content)

def updateStatus (answer : WriteAnswer) (status : Status) : Proc Entry ε Unit := do
  if answer.applied then
    modify (fun entry => { entry with resource := { entry.resource with status := status } })
  ofExcept answer.toExcept

/-- The part of a pass after a validation that passed. -/
def applyContent (kind : Kind) (answers : Answers) (resource : Resource) (status : Status) :
    Proc Entry ε Unit :=
  match answers.cluster with
  | .notFound => updateStatus answers.updateStatus (status.clusterNotFound resource.cluster)
  | .failed text =>
    fail ("failed to get referenced WazuhCluster " ++ resource.cluster.nspace ++ "/" ++
      resource.cluster.name ++ ": " ++ text)
  | .found cluster => do
      -- Where this fails the phase is changed on the copy of the pass only.
      mapError ("failed to reconcile " ++ kind.noun ++ " configmap: " ++ ·)
        (reconcileConfigMap answers resource)
      mapError ("failed to update " ++ kind.noun ++ " status: " ++ ·)
        (updateStatus answers.updateStatus
          (status.appliedTo kind (resource.configMap kind)
            (determineAppliedNodes resource.spec.targetNodes resource.cluster.name cluster)))

/-- `Reconcile` of either kind, given what its validator reports. -/
def reconcile (kind : Kind) (errors : List String) (answers : Answers) : Proc Entry ε Unit := do
  let resource := (← read).resource
  if errors ≠ [] then
    updateStatus answers.updateStatus (resource.status.begun.rejected kind errors)
  else
    applyContent kind answers resource (resource.status.begun.validated kind)

end Reconcilers

/-! ## What a pass writes -/

/-- The statuses a pass over a resource can leave behind. -/
inductive Written (kind : Kind) (errors : List String) (answers : Answers) (resource : Resource) :
    Status -> Prop where
  | untouched : Written kind errors answers resource resource.status
  | rejected (failed : errors ≠ []) :
      Written kind errors answers resource (resource.status.begun.rejected kind errors)
  | clusterNotFound (passed : errors = []) (missing : answers.cluster = .notFound) :
      Written kind errors answers resource
        ((resource.status.begun.validated kind).clusterNotFound resource.cluster)
  | applied (passed : errors = []) (found : answers.cluster = .found cluster) :
      Written kind errors answers resource
        ((resource.status.begun.validated kind).appliedTo kind (resource.configMap kind)
          (determineAppliedNodes resource.spec.targetNodes resource.cluster.name cluster))

def Progress (kind : Kind) (errors : List String) (answers : Answers) (resource : Resource)
    (entry : Entry) : Prop :=
  ∃ status, Written kind errors answers resource status ∧
    entry.resource = { resource with status := status }

section Progress

variable {ε : Type} {kind : Kind} {resource : Resource}

theorem updateStatus_keeps (answer : WriteAnswer) {status : Status}
    (written : Written kind errors answers resource status) :
    Keeps (Progress kind errors answers resource) emits (updateStatus answer status) := by
  have change : Keeps (Progress kind errors answers resource) emits
      (modify fun entry =>
        { entry with resource := { entry.resource with status := status } }) := by
    apply keeps_modify
    rintro entry ⟨earlier, _, same⟩
    exact ⟨status, written, by rw [same]⟩
  cases answer with
  | accepted | unacknowledged text => exact keeps_bind change fun _ => keeps_ofExcept _
  | refused => exact keeps_ofExcept _

theorem reconcileConfigMap_keeps (handled : Resource) :
    Keeps (Progress kind errors answers resource) emits (reconcileConfigMap answers handled) := by
  apply keeps_bind (keeps_ofExcept _)
  intro _
  apply keeps_read_bind
  intro entry _
  have put (answer : WriteAnswer) (data : String × String) :
      Keeps (Progress kind errors answers resource) emits (putConfigMap answer data) := by
    have change : Keeps (Progress kind errors answers resource) emits
        (modify fun entry => { entry with configMap := some data }) :=
      keeps_modify fun _ progress => progress
    cases answer with
    | accepted | unacknowledged text => exact keeps_bind change fun _ => keeps_ofExcept _
    | refused => exact keeps_ofExcept _
  cases entry.configMap with
  | none | some => exact put _ _

theorem applyContent_keeps (passed : errors = []) :
    Keeps (Progress kind errors answers resource) emits
      (applyContent kind answers resource (resource.status.begun.validated kind)) := by
  unfold applyContent
  cases answered : answers.cluster with
  | notFound => exact updateStatus_keeps _ (.clusterNotFound passed answered)
  | failed => exact keeps_fail _
  | found =>
    apply keeps_bind (keeps_mapError (reconcileConfigMap_keeps resource))
    intro _
    exact keeps_mapError (updateStatus_keeps _ (.applied passed answered))

end Progress

theorem Written.faithful {kind : Kind} {errors : List String} {answers : Answers}
    {resource : Resource} {status : Status} (written : Written kind errors answers resource status)
    (faithful : resource.Faithful kind) : { resource with status := status }.Faithful kind := by
  cases written with
  | untouched => exact faithful
  | rejected failed | clusterNotFound passed missing => exact nofun
  | applied => exact fun _ => rfl

/-- The resource after a pass, whose ConfigMap held `configMap` before it. -/
def passed (kind : Kind) (errors : List String) (answers : Answers)
    (configMap : Option (String × String)) (resource : Resource) : Resource :=
  (reconcile kind errors answers ⟨resource, configMap⟩ : Outcome Entry Empty Unit).state.resource

theorem passed_written (kind : Kind) (errors : List String) (answers : Answers)
    (configMap : Option (String × String)) (resource : Resource) :
    ∃ status, Written kind errors answers resource status ∧
      passed kind errors answers configMap resource = { resource with status := status } := by
  have start : Progress kind errors answers resource ⟨resource, configMap⟩ := ⟨_, .untouched, rfl⟩
  have kept : Keeps (Progress kind errors answers resource) (fun _ : Empty => True)
      (if errors ≠ [] then
        updateStatus answers.updateStatus (resource.status.begun.rejected kind errors)
      else
        applyContent kind answers resource (resource.status.begun.validated kind)) := by
    by_cases passed : errors = []
    · rw [if_neg (not_not_intro passed)]
      exact applyContent_keeps passed
    · rw [if_pos passed]
      exact updateStatus_keeps _ (.rejected passed)
  exact (kept _ start).1

/-! ## The resources of all namespaces -/

/-- The resources of one kind in all namespaces.  A name is used once in a namespace, and the
statuses are those which the reconciler writes. -/
structure Store (kind : Kind) where
  items : List Resource
  distinct : (items.map Resource.key).Nodup
  faithful : ∀ resource ∈ items, resource.Faithful kind

namespace Store

variable {kind : Kind} (store : Store kind)

protected def empty : Store kind where
  items := []
  distinct := nodup_nil
  faithful := nofun

theorem eq_of_key (listed : first ∈ store.items)
    (other : second ∈ store.items) (same : first.key = second.key) : first = second :=
  inj_on_of_nodup_map store.distinct listed other same

theorem lawfulKey : LawfulBEq (String × String) := inferInstance

attribute [local instance] lawfulKey

def create (nspace name : String) (spec : Spec) : Store kind :=
  if free : (nspace, name) ∉ store.items.map Resource.key then
    { items := { nspace := nspace, name := name, spec := spec } :: store.items
      distinct := nodup_cons.mpr ⟨free, store.distinct⟩
      faithful := forall_mem_cons.mpr ⟨nofun, store.faithful⟩ }
  else store

def revise (key : String × String) (change : Resource -> Resource)
    (keyKept : forall resource, (change resource).key = resource.key)
    (faithfulKept : forall resource, resource.Faithful kind -> (change resource).Faithful kind) :
    Store kind where
  items := store.items.map fun resource => if resource.key = key then change resource else resource
  distinct := by
    rw [map_map]
    convert store.distinct using 2
    funext resource
    rw [Function.comp_apply]
    split
    · exact keyKept resource
    · rfl
  faithful := by
    intro revised listed
    rcases mem_map.mp listed with ⟨resource, member, same⟩
    rw [← same]
    split
    · exact faithfulKept resource (store.faithful resource member)
    · exact store.faithful resource member

/-- A new specification, which leaves the status alone. -/
def edit (key : String × String) (spec : Spec) : Store kind :=
  store.revise key (fun resource => { resource with spec := spec }) (fun _ => rfl)
    (fun _ faithful => faithful)

def delete (key : String × String) : Store kind where
  items := store.items.filter (fun resource => resource.key ≠ key)
  distinct := store.distinct.sublist (filter_sublist.map Resource.key)
  faithful := fun resource listed => store.faithful resource (mem_of_mem_filter listed)

/-- A pass over the resource under a key, whose ConfigMap holds `configMap`. -/
def reconciled (key : String × String) (errors : List String) (answers : Answers)
    (configMap : Option (String × String)) : Store kind :=
  store.revise key (passed kind errors answers configMap)
    (by
      intro resource
      rcases passed_written kind errors answers configMap resource with ⟨status, _, same⟩
      rw [same]
      rfl)
    (by
      intro resource faithful
      rcases passed_written kind errors answers configMap resource with ⟨status, written, same⟩
      rw [same]
      exact written.faithful faithful)

end Store

end Rules
end WazuhOperator
