import WazuhOperator.Cluster.Events
import WazuhOperator.Library.Procedure

namespace WazuhOperator
namespace Dashboard

open Procedure Proc

/-!
# The dashboard and its autoscaler

`internal/opensearch/reconciler/dashboard_reconciler.go`.  The operator creates
a HorizontalPodAutoscaler for the Deployment of the dashboard, which then writes
the replica count of the Deployment.  The operator writes it as well, whenever
anything makes it update the Deployment.
-/

/-- `v1.HPASpec`, without metrics and behaviour. -/
structure HPASpec where
  enabled : Bool := false
  minReplicas : Option Int := none
  maxReplicas : Int := 0

/-- The autoscaler which `DashboardHPABuilder.Build` makes of it keeps to this count. -/
def HPASpec.Allows (spec : HPASpec) (replicas : Int) : Prop :=
  spec.enabled = true ∧ spec.minReplicas.getD 1 ≤ replicas ∧
    replicas ≤ if 0 < spec.maxReplicas then spec.maxReplicas else 10

/-- `v1.WazuhDashboardClusterSpec`.  `rest` is what else the pod template is built from. -/
structure DashboardSpec where
  replicas : Int := 0
  tolerations : List String := []
  affinity : Option String := none
  rest : String := ""
  hpa : Option HPASpec := none

structure PodTemplate where
  (certHash configHash : String)
  tolerations : List String
  affinity : Option String
  rest : String
  deriving DecidableEq

structure Deployment where
  specHash : String
  replicas : Int
  template : PodTemplate
  deriving DecidableEq

/-- The hashes of a pass, each empty where it is not known. -/
structure Hashes where
  (spec cert config : String)

/-- The replica count of the built Deployment: `DefaultDashboardReplicas`, unless another is
asked for. -/
def DashboardSpec.builtReplicas (spec : DashboardSpec) : Int :=
  if 0 < spec.replicas then spec.replicas else 1

def buildDeployment (spec : DashboardSpec) (hashes : Hashes) : Deployment where
  specHash := hashes.spec
  replicas := spec.builtReplicas
  template :=
    { certHash := hashes.cert, configHash := hashes.config, tolerations := spec.tolerations,
      affinity := spec.affinity, rest := spec.rest }

def mergeDeploymentUpdate (current desired : Deployment) : Deployment where
  specHash := if desired.specHash = "" then current.specHash else desired.specHash
  replicas := desired.replicas
  template := desired.template

def updateReasons (found desired : Deployment) (hashes : Hashes) : List String :=
  (if hashes.spec ≠ "" ∧ hashes.spec ≠ found.specHash then ["spec-change"] else []) ++
  (if found.template.tolerations ≠ desired.template.tolerations then ["tolerations-change"] else []) ++
  (if found.template.affinity ≠ desired.template.affinity then ["affinity-change"] else []) ++
  (if hashes.cert ≠ "" ∧ hashes.cert ≠ found.template.certHash then ["certificate-renewal"] else []) ++
  (if hashes.config ≠ "" ∧ hashes.config ≠ found.template.configHash then ["config-change"] else [])

inductive DeploymentEvent where
  | created (deployment : Deployment)
  | updated (current deployment : Deployment)
  | deleted

structure Answers where
  /-- For Secrets, ConfigMap, Service and ServiceAccount. -/
  (prepare get : Except String Unit := .ok ())
  (create update : WriteAnswer := .accepted)
  /-- A failed update is said to touch an immutable field. -/
  immutable : Bool := false
  delete : WriteAnswer := .accepted
  disruptionBudget : Except String Unit := .ok ()
  /-- For `reconcileHPA`, which writes the autoscaler only. -/
  autoscaler : Except String Unit := .ok ()

section Pass

variable (spec : DashboardSpec) (hashes : Hashes) (answers : Answers)

def request (answer : WriteAnswer) (event : DeploymentEvent) (after : Option Deployment) :
    Proc (Option Deployment) DeploymentEvent (Except String Unit) := do
  if answer.applied then
    emit event
    modify fun _ => after
  return answer.toExcept

/-- `reconcileDeploymentNonBlocking`, with the reason of the rollout it starts. -/
def reconcileDeploymentNonBlocking : Proc (Option Deployment) DeploymentEvent (Option String) := do
  let desired := buildDeployment spec hashes
  mapError ("failed to get dashboard deployment: " ++ ·) (ofExcept answers.get)
  match ← read with
  | none =>
    match ← request answers.create (.created desired) desired with
    | .error text => fail ("failed to create dashboard deployment: " ++ text)
    | .ok () => return some "initial-creation"
  | some found =>
    let reasons := updateReasons found desired hashes
    if reasons = [] then return none
    else
      let merged := mergeDeploymentUpdate found desired
      match ← request answers.update (.updated found merged) merged with
      | .ok () => return some (",".intercalate reasons)
      | .error text =>
        -- `RecreateDeploymentOnError`
        if answers.immutable then
          match ← request answers.delete .deleted none with
          | .error text => fail ("failed to update dashboard deployment: " ++ text)
          | .ok () => fail "deployment deleted for immutable field recreation"
        else fail ("failed to update dashboard deployment: " ++ text)

def reconcileNonBlocking : Proc (Option Deployment) DeploymentEvent (Option String) := do
  ofExcept answers.prepare
  let rollout ← mapError ("failed to reconcile dashboard deployment: " ++ ·)
    (reconcileDeploymentNonBlocking spec hashes answers)
  mapError ("failed to reconcile dashboard PDB: " ++ ·) (ofExcept answers.disruptionBudget)
  mapError ("failed to reconcile dashboard HPA: " ++ ·) (ofExcept answers.autoscaler)
  return rollout

/-! ## The replica count -/

def DeploymentEvent.LeavesReplicas : DeploymentEvent -> Prop
  | .updated current deployment => deployment.replicas = current.replicas
  | _ => True

theorem log_reconcileNonBlocking (prepared : answers.prepare = .ok ()) (store : Option Deployment) :
    (reconcileNonBlocking spec hashes answers store).log =
      (reconcileDeploymentNonBlocking spec hashes answers store).log := by
  simp only [reconcileNonBlocking, bind_apply, mapError_apply, ofExcept_apply, prepared,
    Outcome.following_nil]
  rcases reconcileDeploymentNonBlocking spec hashes answers store with ⟨result, after, log⟩
  cases result with
  | error => rfl
  | ok =>
    cases answers.disruptionBudget with
    | error => simp
    | ok => cases answers.autoscaler <;> simp

end Pass

/-- A pass leaves the replica count exactly if it does not come to update the Deployment, or
the count is the one of the specification. -/
theorem replicas_left_alone_iff (spec : DashboardSpec) (hashes : Hashes) (answers : Answers)
    (store : Option Deployment) :
    (∀ event ∈ (reconcileNonBlocking spec hashes answers store).log, event.LeavesReplicas) <->
      (answers.prepare = .ok () -> answers.get = .ok () -> ∀ found ∈ store,
        updateReasons found (buildDeployment spec hashes) hashes ≠ [] ->
          answers.update.applied = true -> spec.builtReplicas = found.replicas) := by
  cases prepared : answers.prepare with
  | error => simp [reconcileNonBlocking, prepared]
  | ok =>
    rw [log_reconcileNonBlocking _ _ _ prepared]
    cases got : answers.get with
    | error => simp [reconcileDeploymentNonBlocking, got]
    | ok =>
      cases store with
      | none =>
        cases told : answers.create <;>
          simp [reconcileDeploymentNonBlocking, request, got, told, DeploymentEvent.LeavesReplicas]
      | some found =>
        by_cases due : updateReasons found (buildDeployment spec hashes) hashes = []
        · simp [reconcileDeploymentNonBlocking, got, due]
        · have replicas : (mergeDeploymentUpdate found (buildDeployment spec hashes)).replicas =
              spec.builtReplicas := rfl
          cases told : answers.update <;> cases gone : answers.delete <;>
            cases lasting : answers.immutable <;>
            simp [reconcileDeploymentNonBlocking, request, got, due, told, gone, lasting,
              DeploymentEvent.LeavesReplicas, replicas]

namespace Sample

/-- The documented specification: two replicas and an autoscaler for two to ten. -/
def spec : DashboardSpec where
  replicas := 2
  hpa := some { enabled := true, minReplicas := some 2, maxReplicas := 10 }

def hashes : Hashes := ⟨"spec", "renewed", "config"⟩

def scaled : Deployment := { buildDeployment spec { hashes with cert := "first" } with replicas := 6 }

end Sample

open Sample

/-- The autoscaler has settled on six replicas, and a renewed certificate takes four of
them away. -/
theorem renewal_undoes_scaling : (∀ hpa ∈ spec.hpa, hpa.Allows scaled.replicas) ∧
      updateReasons scaled (buildDeployment spec hashes) hashes =
        ["certificate-renewal"] ∧
      scaled.replicas = 6 ∧
      (reconcileNonBlocking spec hashes {} scaled).state.map
        Deployment.replicas = some 2 := by
  refine ⟨?_, by decide, rfl, by decide⟩
  simp [spec, scaled, HPASpec.Allows]

end Dashboard
end WazuhOperator
