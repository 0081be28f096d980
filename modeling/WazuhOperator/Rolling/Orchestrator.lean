import Mathlib.Data.List.Sort
import WazuhOperator.Library.Procedure
import WazuhOperator.Cluster.Events

namespace WazuhOperator
namespace Rolling

open Procedure Proc

/-!
# One step of a rolling restart

`internal/shared/rolling/orchestrator.go`, and the two health checkers which
are plugged into it.  StatefulSets use the `OnDelete` update strategy; the
orchestrator is called once per pass and deletes at most one pod which does
not carry the update revision.  It keeps no state between calls: everything
it knows is in the revisions of the StatefulSet, the pods it lists and the
answer of the health checker.
-/

/-- `corev1.Pod`, with the types and statuses of its conditions in order. -/
structure Pod where
  name : String
  ownerUIDs : List String
  /-- The label `controller-revision-hash`, empty where it is missing. -/
  revision : String
  conditions : List (String × String)

/-- The fields of a StatefulSet which the orchestrator reads. -/
structure RevisionedSet where
  (name uid currentRevision updateRevision : String)
  statusReplicas : Nat

inductive RestartPhase where
  | idle
  | inProgress
  | complete
  deriving DecidableEq

structure RestartResult where
  phase : RestartPhase
  (totalPods updatedPods : Nat)
  currentPod : String := ""
  message : String

/-- `isPodReady`: the status of the first condition of type `Ready`. -/
def isPodReady (pod : Pod) : Bool :=
  match pod.conditions.find? (fun condition => condition.1 = "Ready") with
  | none => false
  | some condition => condition.2 = "True"

/-- `strconv.Atoi` on an unsigned text, with zero for what is not a number. -/
def atoi (digits : List Char) : Nat :=
  if digits ≠ [] ∧ digits.all Char.isDigit then
    digits.foldl (fun number digit => 10 * number + (digit.toNat - '0'.toNat)) 0
  else 0

/-- `extractOrdinal`: the number after the last hyphen of a pod name. -/
def extractOrdinal (podName : String) : Nat :=
  atoi (podName.toList.reverse.takeWhile (· ≠ '-')).reverse

def ownedPods (sts : RevisionedSet) (pods : List Pod) : List Pod :=
  pods.filter (fun pod => pod.ownerUIDs.contains sts.uid)

def outdatedPods (sts : RevisionedSet) (pods : List Pod) : List Pod :=
  (ownedPods sts pods).filter (fun pod => pod.revision ≠ sts.updateRevision)

def deletionOrder (deleteHighestFirst : Bool) (pods : List Pod) : List Pod :=
  if deleteHighestFirst then
    pods.insertionSort (fun left right => extractOrdinal right.name ≤ extractOrdinal left.name)
  else
    pods.insertionSort (fun left right => extractOrdinal left.name ≤ extractOrdinal right.name)

/-- `OrchestrateRestart`.  `listed` and `deletion` are the answers of the Kubernetes
API, `healthy` is the health checker. -/
def orchestrateRestart {σ : Type} (sts : RevisionedSet) (listed : Except String (List Pod))
    (healthy : Proc σ Event (Bool × String)) (deletion : WriteAnswer) (deleteHighestFirst : Bool) :
    Proc σ Event RestartResult :=
  if sts.updateRevision = sts.currentRevision then
    pure { phase := .idle, totalPods := sts.statusReplicas, updatedPods := sts.statusReplicas,
           message := "all pods are on current revision" }
  else do
    let pods ← mapError ("failed to list pods for StatefulSet " ++ sts.name ++ ": " ++ ·)
      (ofExcept listed)
    let owned := ownedPods sts pods
    let outdated := outdatedPods sts pods
    let total := owned.length
    let updated := total - outdated.length
    -- Sorting does not change whether there is an outdated pod.
    match deletionOrder deleteHighestFirst outdated with
    | [] =>
      return { phase := .complete, totalPods := total, updatedPods := updated,
               message := "all pods updated to target revision" }
    | podToDelete :: _ =>
      match owned.find? (fun pod => !isPodReady pod) with
      | some waiting =>
        return { phase := .inProgress, totalPods := total, updatedPods := updated,
                 currentPod := waiting.name,
                 message := "waiting for pod " ++ waiting.name ++ " to become ready" }
      | none =>
        let (isHealthy, reason) ← mapError
          ("health check failed for StatefulSet " ++ sts.name ++ ": " ++ ·) healthy
        if isHealthy then
          if deletion.applied then emit (.podDeleted podToDelete.name)
          mapError ("failed to delete pod " ++ podToDelete.name ++ ": " ++ ·)
            (ofExcept deletion.toExcept)
          return { phase := .inProgress, totalPods := total, updatedPods := updated,
                   currentPod := podToDelete.name,
                   message := "deleted pod " ++ podToDelete.name ++ " (" ++
                     toString updated ++ "/" ++ toString total ++ " updated)" }
        else
          return { phase := .inProgress, totalPods := total, updatedPods := updated,
                   message := "waiting for cluster health: " ++ reason }

/-! ## The health checkers -/

def indexerIsHealthyForRestart {σ : Type} (client : Client) (desiredNodeCount : Nat)
    (answer : Except String ClusterHealth) : Proc σ Event (Bool × String) := do
  emit (.clusterHealth client answer)
  let health ← mapError ("failed to get cluster health: " ++ ·) (ofExcept answer)
  if health.status = "red" then
    return (false, "cluster status is RED (" ++ toString health.unassignedShards ++
      " unassigned shards)")
  else if 0 < health.relocatingShards then
    return (false, "cluster has " ++ toString health.relocatingShards ++ " relocating shards")
  else if 0 < health.initializingShards then
    return (false, "cluster has " ++ toString health.initializingShards ++ " initializing shards")
  else if health.numberOfNodes < desiredNodeCount then
    return (false, "cluster has " ++ toString health.numberOfNodes ++ " nodes, expected " ++
      toString desiredNodeCount)
  else
    return (true, "cluster is " ++ health.status ++ " with " ++ toString health.numberOfNodes ++
      " nodes")

/-- `ManagerWorkerHealthChecker.IsHealthyForRestart`, on the pods its selector lists. -/
def managerIsHealthyForRestart {σ : Type} (listed : Except String (List Pod)) :
    Proc σ Event (Bool × String) := do
  let pods ← mapError ("failed to list pods: " ++ ·) (ofExcept listed)
  match pods.find? (fun pod => !isPodReady pod) with
  | some waiting => return (false, "pod " ++ waiting.name ++ " is not ready")
  | none => return (true, "all " ++ toString pods.length ++ " pods are ready")

/-! ## What a step keeps -/

section Keeps

variable {σ : Type}

theorem keeps_orchestrateRestart
    (checked : Keeps inv emits healthy) (deleted : forall name, emits (.podDeleted name)) :
    Keeps inv emits (orchestrateRestart sts listed healthy deletion highestFirst) := by
  unfold orchestrateRestart
  split
  · exact keeps_pure _
  · apply keeps_bind (keeps_mapError (keeps_ofExcept _))
    intro pods
    dsimp only
    split
    · exact keeps_pure _
    · split
      · exact keeps_pure _
      · apply keeps_bind (keeps_mapError checked)
        intro answer
        split
        · have reported : forall (wrap : String -> String) (result : RestartResult),
              Keeps inv emits
                (mapError wrap (ofExcept deletion.toExcept) >>= fun _ => pure result) :=
            fun _ _ => keeps_bind (keeps_mapError (keeps_ofExcept _))
              (fun _ => keeps_pure _)
          split
          · exact keeps_bind (keeps_emit (deleted _)) (fun _ => reported _ _)
          · exact reported _ _
        · exact keeps_pure _

theorem keeps_indexerIsHealthyForRestart (asked : emits (.clusterHealth client answer)) :
    Keeps inv emits
      (indexerIsHealthyForRestart client desiredNodeCount answer : Proc σ Event (Bool × String)) := by
  apply keeps_bind (keeps_emit asked)
  intro _
  apply keeps_bind (keeps_mapError (keeps_ofExcept _))
  intro health
  repeat' split
  all_goals exact keeps_pure _

end Keeps

end Rolling
end WazuhOperator
