import WazuhOperator.Controller.FailClosed
import WazuhOperator.Controller.StatusCourse
import WazuhOperator.Library.Runs

namespace WazuhOperator
namespace System

open Procedure Drain Indexer Worker Controller

/-!
# The operator and its clusters over time

One operator process serves every `WazuhCluster`.  What it keeps in memory is
shared by all of them and lost when it restarts; what it has written to a
cluster's status survives.  Between two passes users edit specifications,
credentials are rotated and others change StatefulSets.

A run is a list of such steps.  A pass reads the cluster afresh, so its
working copy starts with the drain status in the API server.
-/

/-- A `WazuhCluster` together with the secrets it refers to. -/
structure ClusterObject where
  spec : ClusterSpec
  (indexerCredentials apiCredentials : Credentials)

structure World where
  /-- The DNS domain the operator was started with. -/
  domain : String
  clusters : ClusterKey -> ClusterObject
  /-- The drain status of each cluster in the API server. -/
  drains : ClusterKey -> DrainStatus
  /-- The StatefulSets by namespace and name. -/
  statefulSets : String -> String -> Option StatefulSet
  indexer : IndexerReconciler
  worker : WorkerReconciler

inductive Step where
  | pass (key : ClusterKey) (input : PassInput)
  | editSpec (key : ClusterKey) (spec : ClusterSpec)
  | rotateCredentials (key : ClusterKey) (indexer api : Credentials)
  /-- Somebody else creates, changes or deletes a StatefulSet. -/
  | changeStatefulSet (nspace name : String) (found : Option StatefulSet)
  | restartOperator

namespace World

variable (world : World) (key : ClusterKey) (input : PassInput)

/-- A world in which the operator has not done anything yet. -/
def start (domain : String) (clusters : ClusterKey -> ClusterObject)
    (statefulSets : String -> String -> Option StatefulSet) : World where
  domain := domain
  clusters := clusters
  drains := fun _ => {}
  statefulSets := statefulSets
  indexer := {}
  worker := {}

def context : PassContext where
  domain := world.domain
  key := key
  spec := (world.clusters key).spec
  indexerCredentials := (world.clusters key).indexerCredentials
  apiCredentials := (world.clusters key).apiCredentials
  input := input

def passState : PassState where
  indexer := world.indexer
  worker := world.worker
  working := world.drains key
  persisted := world.drains key
  statefulSets := world.statefulSets key.nspace

def outcome : Outcome PassState Event Unit :=
  reconcile (world.context key input) (world.passState key)

theorem statusCourse (component : Component) :
    StatusCourse (world.context key input) (world.passState key) component
      ((world.outcome key input).state.persisted.part component) (world.outcome key input).log :=
  reconcile_concerningCourse.ofConcerning

def afterPass (after : PassState) : World :=
  { world with
    drains := Function.update world.drains key after.persisted
    statefulSets := Function.update world.statefulSets key.nspace after.statefulSets
    indexer := after.indexer
    worker := after.worker }

def step (world : World) : Step -> World
  | .pass key input => world.afterPass key (world.outcome key input).state
  | .editSpec key spec =>
    { world with clusters := Function.update world.clusters key { world.clusters key with spec := spec } }
  | .rotateCredentials key indexer api =>
    { world with
      clusters := Function.update world.clusters key
        { world.clusters key with indexerCredentials := indexer, apiCredentials := api } }
  | .changeStatefulSet nspace name found =>
    { world with
      statefulSets := Function.update world.statefulSets nspace
        (Function.update (world.statefulSets nspace) name found) }
  | .restartOperator => { world with indexer := {}, worker := {} }

/-- The phase of a component in the API server, which is `Idle` where there is no status. -/
def phase (component : Component) : DrainPhase :=
  (((world.drains key).part component).getD initializeDrainStatus).phase

end World

/-! ## Runs with notes

What a property of runs has to remember, such as which nodes were drained, is
noted beside the world.  The operator does not see it. -/

structure Noted (γ : Type) where
  world : World
  notes : γ

def Noted.step {γ : Type} (note : World -> Step -> γ -> γ) (state : Noted γ) (taken : Step) :
    Noted γ :=
  ⟨state.world.step taken, note state.world taken state.notes⟩

/-! ## A world to try things out in -/

namespace Sample

/-- Every cluster asks for two indexer nodes and two workers, with its own credentials. -/
def object (key : ClusterKey) : ClusterObject where
  spec := Controller.Sample.spec
  indexerCredentials := { username := "admin", password := key.name }
  apiCredentials := { username := "wazuh", password := key.name }

/-- The cluster looked at, and another one in the same namespace. -/
def first : ClusterKey := { nspace := "wazuh", name := "wazuh" }

def second : ClusterKey := { nspace := "wazuh", name := "other" }

def world (indexers workers : Nat) : World :=
  World.start "cluster.local" object (fun _ name =>
    if name = "wazuh-indexer" ∨ name = "other-indexer" then
      some (Controller.Sample.statefulSet .indexer indexers)
    else if name = "wazuh-manager-worker" ∨ name = "other-manager-worker" then
      some (Controller.Sample.statefulSet .manager workers)
    else none)

/-- A pass in which every request is accepted and every node is empty. -/
def pass (key : ClusterKey) : Step := .pass key Controller.Sample.input

def dry : Step := .editSpec first { Controller.Sample.spec with drain := some { dryRun := true } }

end Sample

/-! ## Dry runs -/

/-- A step of a run which only evaluates drains. -/
def Dry (world : World) : Step -> Prop
  | .pass key _ => ((world.clusters key).spec.drain.map DrainConfiguration.dryRun).getD false
  | .changeStatefulSet .. => False
  | _ => True

/-- Only drains which have failed or are rolled back may change. -/
def Unmoved (before after : World) : Prop :=
  after.statefulSets = before.statefulSets ∧ forall key component,
    before.phase key component ≠ .failed -> before.phase key component ≠ .rollingBack ->
    (after.drains key).part component = (before.drains key).part component

theorem unmoved_step (world : World) (taken : Step) (dry : Dry world taken) :
    Unmoved world (world.step taken) := by
  cases taken with
  | pass key input =>
    have left := reconcile_unreached (world.context key input) (world.passState key)
      fun reaches => Bool.false_ne_true (reaches.2.2.2.2.symm.trans dry)
    refine ⟨Function.update_eq_iff.mpr ⟨left.sets, fun _ _ => rfl⟩, ?_⟩
    intro other component notFailed notRolling
    show (Function.update world.drains key _ other).part component = _
    rcases eq_or_ne other key with rfl | apart
    · rw [Function.update_self]
      cases component with
      | indexer => exact left.indexerStatus.elim id (·.eq_of_ne notFailed notRolling)
      | manager => exact left.managerStatus.elim id (·.eq_of_ne notFailed notRolling)
    · rw [Function.update_of_ne apart]
  | changeStatefulSet => exact dry.elim
  | editSpec | rotateCredentials | restartOperator => exact ⟨rfl, fun _ _ _ _ => rfl⟩

/-- Dry runs scale nothing and neither start nor advance a drain. -/
theorem dry_runs_unmoved (world : World) (steps : List Step)
    (dry : Runs.Along World.step Dry world steps) :
    Runs.Along World.step (fun later taken => later.statefulSets = world.statefulSets ∧
      Unmoved later (later.step taken)) world steps :=
  Runs.along_of_invariant (fun later taken same dry => (unmoved_step later taken dry).1.trans same)
    (fun later taken same dry => ⟨same, unmoved_step later taken dry⟩) steps world rfl dry

open Sample in
theorem dry_runs_unmoved_edited :
    (((world 3 3).step dry).step (pass first)).statefulSets = (world 3 3).statefulSets :=
  (dry_runs_unmoved (world 3 3) [dry, pass first, .restartOperator] ⟨trivial, rfl, trivial, trivial⟩).2.2.1.1

end System
end WazuhOperator
