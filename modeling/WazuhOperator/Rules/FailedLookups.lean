import WazuhOperator.Rolling.Application
import WazuhOperator.Rules.Mounts

namespace WazuhOperator
namespace Rules

open Procedure Proc List
open Rolling (Application takesDown)

/-!
# The manager StatefulSets after a failed lookup

A lookup of rules or decoders which fails is logged, and the stage of the
manager's reconciler builds its StatefulSet without them.  What becomes of
the mounted files is decided further down, where the built StatefulSet is
compared with the present one: a hash which is missing differs from one which
is there, and the update replaces the whole pod template.

The stages of the master and of the workers end in `reconcileStatefulSet`,
which does not look at the volumes.  Here a StatefulSet has them, and whatever
is written is written with the volumes that were built.
-/

/-! ## StatefulSets with their pod templates -/

/-- A manager StatefulSet: what the reconciler compares, the volumes and mounts for rules and
decoders, and the rest of the pod specification as a text. -/
structure ManagerSet where
  base : StatefulSet
  volumes : List Volume
  volumeMounts : List VolumeMount
  rest : String
  deriving DecidableEq

/-- The pod template.  The pod management policy and the hash of the specification belong to the
StatefulSet. -/
structure PodTemplate where
  (securityContext tolerations affinity certHash configHash ruleHash decoderHash : String)
  volumes : List Volume
  volumeMounts : List VolumeMount
  rest : String
  deriving DecidableEq

def ManagerSet.podTemplate (set : ManagerSet) : PodTemplate where
  securityContext := set.base.template.securityContext
  tolerations := set.base.template.tolerations
  affinity := set.base.template.affinity
  certHash := set.base.template.certHash
  configHash := set.base.template.configHash
  ruleHash := set.base.template.ruleHash
  decoderHash := set.base.template.decoderHash
  volumes := set.volumes
  volumeMounts := set.volumeMounts
  rest := set.rest

def NodeType.noun : NodeType -> String
  | .master => "master"
  | .worker => "worker"

/-- The end of `reconcileMasterNonBlocking` and of `reconcileWorkersNonBlocking`, without the
volumes. -/
def baseApplication (node : NodeType) (answers : WorkloadAnswers) (desired : ManagerSet) : Application where
  noun := node.noun
  needsUpdate := workerNeedsUpdate
  answers := answers
  desired := desired.base

/-- The same with the volumes.  What is recorded of a StatefulSet is a write, and every write
takes the built pod specification along. -/
def reconcileManagerSet (node : NodeType) (answers : WorkloadAnswers) (desired : ManagerSet) :
    Proc (Option ManagerSet) (NodeType × Event) Unit := fun before =>
  let outcome := (baseApplication node answers desired).reconcile (before.map ManagerSet.base)
  { result := outcome.result
    state := outcome.state.map fun base =>
      { (if outcome.log.isEmpty then before.getD desired else desired) with base := base }
    log := outcome.log.map (Prod.mk node) }

/-! ## The reconciler of the managers -/

/-- A pass over the managers: the lookups, what else the builders decide, and the answers of the
API about each StatefulSet. -/
structure ManagerPass extends Pass where
  secrets : Except String Unit
  answers : NodeType -> WorkloadAnswers
  replicas : NodeType -> Nat
  rest : NodeType -> String

abbrev Managers := NodeType -> Option ManagerSet

namespace ManagerPass

variable (pass : ManagerPass)

/-- What the builder of a kind of nodes makes of the pass. -/
def desired (node : NodeType) : ManagerSet where
  base :=
    { controller := some pass.cluster
      component := .manager
      replicas := some (pass.replicas node)
      template :=
        { (pass.answers node).template with
          ruleHash := (pass.ruleMounting node).hash
          decoderHash := (pass.decoderMounting node).hash } }
  volumes := pass.volumes node
  volumeMounts := pass.volumeMounts node
  rest := pass.rest node

def reconcileNode (node : NodeType) : Proc Managers (NodeType × Event) Unit :=
  focus (fun managers => managers node) (fun set managers => Function.update managers node set)
    (reconcileManagerSet node (pass.answers node) (pass.desired node))

/-- `ReconcileManagerNonBlocking`, up to the steps which do not touch the StatefulSets. -/
def reconcileManager : Proc Managers (NodeType × Event) Unit := do
  ofExcept pass.secrets
  mapError ("failed to reconcile master: " ++ ·) (pass.reconcileNode .master)
  mapError ("failed to reconcile workers: " ++ ·) (pass.reconcileNode .worker)

/-- A StatefulSet that exists keeps its pod template, mounts included, and is not taken down. -/
def Retains (before : Managers) (node : NodeType) : Prop :=
  ∀ found ∈ before node,
    (∃ kept ∈ (pass.reconcileManager before).state node, kept.podTemplate = found.podTemplate) ∧
      ∀ event, (node, event) ∈ (pass.reconcileManager before).log -> takesDown event = false

end ManagerPass

/-! ## One stage -/

/-- What a stage does to a present StatefulSet leaves its pod template alone: either no write
takes effect, or the one that does is an update to the same template. -/
def Harmless (answers : WorkloadAnswers) (found desired : ManagerSet) : Prop :=
  if needsStatefulSetRecreation found.base desired.base then answers.delete.applied = false
  else if workerNeedsUpdate found.base desired.base then
    if answers.update.applied then found.podTemplate = desired.podTemplate
    else answers.immutableField = true -> answers.delete.applied = false
  else True

def succeeds (answers : WorkloadAnswers) (before : Option ManagerSet) (desired : ManagerSet) : Bool :=
  answers.prepare.isOk && answers.get.isOk &&
    match before with
    | none => answers.create = .accepted
    | some found =>
      if needsStatefulSetRecreation found.base desired.base then
        answers.delete = .accepted && answers.create = .accepted
      else !workerNeedsUpdate found.base desired.base || answers.update = .accepted

def Retained (node : NodeType) (found : ManagerSet)
    (outcome : Outcome (Option ManagerSet) (NodeType × Event) Unit) : Prop :=
  (∃ kept ∈ outcome.state, kept.podTemplate = found.podTemplate) ∧
    ∀ event, (node, event) ∈ outcome.log -> takesDown event = false

section Stage

variable (node : NodeType) (answers : WorkloadAnswers) (found desired : ManagerSet)

attribute [local simp] reconcileManagerSet baseApplication Application.reconcile reconcileStatefulSet

theorem podTemplate_merge :
    { desired with base := mergeStatefulSetUpdate found.base desired.base }.podTemplate =
      desired.podTemplate := rfl

theorem retained_of_silent : Retained node found ⟨result, some found, []⟩ :=
  ⟨⟨found, rfl, rfl⟩, fun _ recorded => absurd recorded not_mem_nil⟩

variable {component : Component}

theorem not_retained_of_deleted :
    ¬ Retained node found
      ⟨result, state, (node, .statefulSetDeleted component current wanted) :: later⟩ := by
  intro retained
  exact absurd (retained.2 _ mem_cons_self) (by simp [takesDown])

theorem retained_update_iff :
    Retained node found
        ⟨result, some { desired with base := mergeStatefulSetUpdate found.base desired.base },
          [(node, .statefulSetUpdated component current wanted)]⟩ <->
      found.podTemplate = desired.podTemplate := by
  constructor
  · rintro ⟨⟨kept, present, same⟩, _⟩
    cases present
    exact (same.symm.trans (podTemplate_merge found desired))
  · intro same
    refine ⟨⟨_, rfl, (podTemplate_merge found desired).trans same.symm⟩, ?_⟩
    intro event recorded
    cases mem_singleton.mp recorded
    rfl

theorem recreation_retained_iff (prepared : answers.prepare = .ok ()) (read : answers.get = .ok ())
    (recreation : needsStatefulSetRecreation found.base desired.base) :
    Retained node found (reconcileManagerSet node answers desired (some found)) <->
      answers.delete.applied = false := by
  cases deletion : answers.delete with
  | refused text =>
    have silent : reconcileManagerSet node answers desired (some found) =
        ⟨.error ("failed to delete " ++ node.noun ++ " statefulset for recreation: " ++ text),
          some found, []⟩ := by
      simp [prepared, read, recreation, deletion]
    rw [silent]
    exact iff_of_true (retained_of_silent node found) rfl
  | accepted | unacknowledged text =>
    refine iff_of_false ?_ (by simp)
    cases creation : answers.create <;>
      simpa [prepared, read, recreation, deletion, creation] using not_retained_of_deleted node found

theorem update_retained_iff (prepared : answers.prepare = .ok ()) (read : answers.get = .ok ())
    (stays : needsStatefulSetRecreation found.base desired.base = false)
    (changed : workerNeedsUpdate found.base desired.base) :
    Retained node found (reconcileManagerSet node answers desired (some found)) <->
      if answers.update.applied then found.podTemplate = desired.podTemplate
      else answers.immutableField -> answers.delete.applied = false := by
  cases update : answers.update with
  | accepted | unacknowledged text =>
    simpa [prepared, read, stays, changed, update] using
      retained_update_iff node found desired
  | refused =>
    cases immutable : answers.immutableField with
    | false =>
      simpa [prepared, read, stays, changed, update, immutable] using
        retained_of_silent node found
    | true =>
      cases deletion : answers.delete with
      | refused =>
        simpa [prepared, read, stays, changed, update, immutable, deletion] using
          retained_of_silent node found
      | accepted | unacknowledged other =>
        simpa [prepared, read, stays, changed, update, immutable, deletion] using
          not_retained_of_deleted node found

theorem reconcileManagerSet_retained_iff :
    Retained node found (reconcileManagerSet node answers desired (some found)) <->
      (answers.prepare = .ok () -> answers.get = .ok () -> Harmless answers found desired) := by
  cases prepared : answers.prepare with
  | error =>
    simpa [prepared] using
      retained_of_silent node found
  | ok =>
    cases read : answers.get with
    | error =>
      simpa [prepared, read] using retained_of_silent node found
    | ok =>
      rw [Harmless]
      cases recreation : needsStatefulSetRecreation found.base desired.base with
      | true => simpa using recreation_retained_iff node answers found desired prepared read recreation
      | false =>
        cases changed : workerNeedsUpdate found.base desired.base with
        | true =>
          simpa using
            update_retained_iff node answers found desired prepared read recreation changed
        | false =>
          simpa [prepared, read, recreation, changed] using
            retained_of_silent node found

theorem reconcileManagerSet_ok_iff (before : Option ManagerSet) :
    (reconcileManagerSet node answers desired before).result = .ok () <->
      succeeds answers before desired = true := by
  cases prepared : answers.prepare with
  | error =>
    simp [prepared, succeeds]
  | ok =>
    cases read : answers.get with
    | error =>
      simp [prepared, read, succeeds]
    | ok =>
      cases before with
      | none =>
        cases creation : answers.create <;>
          simp [prepared, read, creation, succeeds]
      | some found =>
        cases recreation : needsStatefulSetRecreation found.base desired.base with
        | true =>
          cases deletion : answers.delete <;> cases creation : answers.create <;>
            simp [prepared, read, recreation, deletion, creation, succeeds]
        | false =>
          cases changed : workerNeedsUpdate found.base desired.base with
          | false =>
            simp [prepared, read, recreation, changed, succeeds]
          | true =>
            cases update : answers.update <;> cases immutable : answers.immutableField <;>
              cases deletion : answers.delete <;>
              simp [prepared, read, recreation, changed, update, immutable, deletion, succeeds]

end Stage

/-! ## The whole pass -/

namespace ManagerPass

variable (pass : ManagerPass) (before : Managers)

def stage (node : NodeType) : Outcome (Option ManagerSet) (NodeType × Event) Unit :=
  reconcileManagerSet node (pass.answers node) (pass.desired node) (before node)

/-- The pass gets to the stage of a kind of nodes: the workers come after the master, unless its
stage returns an error. -/
def Reaches : NodeType -> Prop
  | .master => pass.secrets = .ok ()
  | .worker =>
    pass.secrets = .ok () ∧
      succeeds (pass.answers .master) (before .master) (pass.desired .master) = true

variable {node : NodeType}

theorem mem_stage_log
    (recorded : (other, event) ∈ (pass.stage before node).log) : other = node := by
  rcases mem_map.mp recorded with ⟨inner, _, same⟩
  exact (congrArg Prod.fst same).symm

theorem stage_ok_iff : (pass.stage before node).result = .ok () <->
    succeeds (pass.answers node) (before node) (pass.desired node) = true :=
  reconcileManagerSet_ok_iff node (pass.answers node) (pass.desired node) (before node)

theorem reconcileManager_unsecured (secured : pass.secrets = .error text) :
    pass.reconcileManager before = ⟨.error text, before, []⟩ := by
  simp [reconcileManager, secured]

variable (secured : pass.secrets = .ok ())
include secured

theorem reconcileManager_stopped (stopped : (pass.stage before .master).result ≠ .ok ()) :
    (pass.reconcileManager before).state =
        Function.update before .master (pass.stage before .master).state ∧
      (pass.reconcileManager before).log = (pass.stage before .master).log := by
  unfold stage at *
  rcases ran : reconcileManagerSet .master _ _ _ with ⟨result, state, log⟩
  rw [ran] at stopped
  cases result with
  | ok => exact absurd rfl stopped
  | error => simp [reconcileManager, reconcileNode, secured, ran]

theorem reconcileManager_through (through : (pass.stage before .master).result = .ok ()) :
    (pass.reconcileManager before).state =
        Function.update (Function.update before .master (pass.stage before .master).state) .worker
          (pass.stage before .worker).state ∧
      (pass.reconcileManager before).log =
        (pass.stage before .master).log ++ (pass.stage before .worker).log := by
  unfold stage at *
  rcases ran : reconcileManagerSet .master _ _ _ with ⟨result, state, log⟩
  rcases ranWorker : reconcileManagerSet .worker _ _ _ with ⟨workerResult, workerState, workerLog⟩
  rw [ran] at through
  cases through
  cases workerResult <;> simp [reconcileManager, reconcileNode, secured, ran, ranWorker]

omit secured

theorem retains_iff_of_reaches (reached : pass.Reaches before node) :
    pass.Retains before node <-> ∀ found ∈ before node, Retained node found (pass.stage before node) := by
  have agreement : (pass.reconcileManager before).state node = (pass.stage before node).state ∧
      forall event, (node, event) ∈ (pass.reconcileManager before).log <->
        (node, event) ∈ (pass.stage before node).log := by
    cases node with
    | master =>
      by_cases through : (pass.stage before .master).result = .ok ()
      case neg =>
        rcases pass.reconcileManager_stopped before reached through with ⟨state, log⟩
        rw [state, log]
        exact ⟨Function.update_self _ _ _, fun _ => Iff.rfl⟩
      case pos =>
        rcases pass.reconcileManager_through before reached through with ⟨state, log⟩
        rw [state, log]
        refine ⟨by simp, fun event => ⟨fun recorded => ?_, fun recorded => ?_⟩⟩
        · rcases mem_append.mp recorded with own | foreign
          · exact own
          · exact absurd (pass.mem_stage_log before foreign) nofun
        · exact mem_append_left _ recorded
    | worker =>
      rcases pass.reconcileManager_through before reached.1 ((pass.stage_ok_iff before).mpr reached.2) with ⟨state, log⟩
      rw [state, log]
      refine ⟨Function.update_self _ _ _, fun event => ⟨fun recorded => ?_, fun recorded => ?_⟩⟩
      · rcases mem_append.mp recorded with foreign | own
        · exact absurd (pass.mem_stage_log before foreign) nofun
        · exact own
      · exact mem_append_right _ recorded
  rw [Retains, agreement.1]
  simp only [agreement.2, Retained]

theorem retains_of_not_reaches (stopped : ¬ pass.Reaches before node) :
    pass.Retains before node := by
  have agreement : (pass.reconcileManager before).state node = before node ∧
      forall event, (node, event) ∉ (pass.reconcileManager before).log := by
    cases secured : pass.secrets with
    | error =>
      rw [pass.reconcileManager_unsecured before secured]
      exact ⟨rfl, fun _ => not_mem_nil⟩
    | ok done =>
      cases node with
      | master => exact absurd secured stopped
      | worker =>
        have ended := fun through => stopped ⟨secured, (pass.stage_ok_iff before).mp through⟩
        rcases pass.reconcileManager_stopped before secured ended with ⟨state, log⟩
        rw [state, log]
        exact ⟨by simp, fun _ recorded => absurd (pass.mem_stage_log before recorded) nofun⟩
  intro found present
  rw [agreement.1]
  exact ⟨⟨found, present, rfl⟩, fun event recorded => absurd recorded (agreement.2 event)⟩

/-- No write of the pass changes a pod template: a StatefulSet whose stage is reached, with the
steps before it and its reading done, meets a harmless one. -/
def LeavesTemplates : Prop :=
  forall node, pass.Reaches before node -> ∀ found ∈ before node,
    (pass.answers node).prepare = .ok () -> (pass.answers node).get = .ok () ->
      Harmless (pass.answers node) found (pass.desired node)

end ManagerPass

/-- In a pass, and thus in one with a failed lookup, the manager StatefulSets keep their mounts and pod
templates if and only if no write which takes effect changes them, what is built with nothing mounted
for a failed lookup being compared with what is there. -/
theorem templates_kept_iff (pass : ManagerPass) (before : Managers) :
    (forall node, pass.Retains before node) <-> pass.LeavesTemplates before := by
  refine forall_congr' fun node => ?_
  by_cases reached : pass.Reaches before node
  · rw [pass.retains_iff_of_reaches before reached]
    refine ⟨fun retained _ found present => ?_, fun harmless found present => ?_⟩
    · have kept := retained found present
      rw [ManagerPass.stage, present] at kept
      exact (reconcileManagerSet_retained_iff _ _ _ _).mp kept
    · rw [ManagerPass.stage, present]
      exact (reconcileManagerSet_retained_iff _ _ _ _).mpr (harmless reached found present)
  · exact iff_of_true (pass.retains_of_not_reaches before reached) (fun yes => absurd yes reached)

namespace Sample

/-- The answers of an API server which does what it is asked to do. -/
def willing : WorkloadAnswers where
  template := { podManagementPolicy := "OrderedReady", certHash := "c0ffee", configHash := "beef" }

def managerPass (listing : Except String Unit) : ManagerPass where
  toPass := { pass "wazuh" (spec .all "") with listRules := fun _ => listing }
  secrets := .ok ()
  answers := fun _ => willing
  replicas := fun _ => 1
  rest := fun _ => "image: wazuh/wazuh-manager:4.9.0"

def outage : ManagerPass := managerPass (.error "etcdserver: request timed out")

def deployed : Managers := ((managerPass (.ok ())).reconcileManager (fun _ => none)).state

end Sample

open Sample

/-- A new cluster mounts the rule on its master; when the listing of the next pass fails, and
nothing else is different, the rule is gone from the pod template. -/
theorem failed_lookup_strips_rules : (deployed .master).map ManagerSet.volumes =
        some [{ name := "wazuh-rule-ssh-rule", configMap := "ssh-rule" }] ∧
      ((outage.reconcileManager deployed).state .master).map ManagerSet.volumes = some [] ∧
      ¬ outage.Retains deployed .master := by
  have mounted : (deployed .master).map ManagerSet.volumes =
      some [{ name := "wazuh-rule-ssh-rule", configMap := "ssh-rule" }] := by decide +kernel
  have stripped : ((outage.reconcileManager deployed).state .master).map
      ManagerSet.volumes = some [] := by decide +kernel
  refine ⟨mounted, stripped, ?_⟩
  intro retained
  rcases Option.map_eq_some_iff.mp mounted with ⟨found, present, before⟩
  rcases (retained found present).1 with ⟨kept, after, same⟩
  rw [after, Option.map_some, Option.some_inj] at stripped
  have volumes := congrArg PodTemplate.volumes same
  rw [show kept.podTemplate.volumes = kept.volumes from rfl, stripped,
    show found.podTemplate.volumes = found.volumes from rfl, before] at volumes
  cases volumes

end Rules
end WazuhOperator
