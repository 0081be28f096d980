import WazuhOperator.Indexer.Effect
import WazuhOperator.Rolling.Orchestrator

namespace WazuhOperator
namespace Indexer

open Procedure Proc Rolling

/-!
# Rolling restarts of the indexer

`internal/opensearch/reconciler/indexer_rolling_restart.go`.  The health
checks go through the same cached client as the drain.
-/

/-- What one call of the orchestrator reads about one StatefulSet, and the answers to
what it requests. -/
structure RestartView where
  get : Except String Unit
  set : RevisionedSet
  listed : Except String (List Pod)
  health : Except String ClusterHealth
  deletion : WriteAnswer

/-- The inputs of `OrchestrateRollingRestart`: one view in simple mode, one for each
node pool in advanced mode. -/
structure RestartInput where
  getClient : Except String Unit
  simple : RestartView
  pool : String -> RestartView

def orchestrateSet (client : Client) (desiredNodes : Nat) (view : RestartView) :
    Proc IndexerReconciler Event RestartResult :=
  orchestrateRestart view.set view.listed
    (indexerIsHealthyForRestart client desiredNodes view.health) view.deletion true

/-- The loop of `orchestrateNodePoolRollingRestart`: the first pool with a restart in
progress ends it. -/
def orchestratePools (client : Client) (desiredNodes : Nat) (view : String -> RestartView) :
    List NodePool -> Nat -> Nat -> Proc IndexerReconciler Event (Option RestartResult)
  | [], total, updated =>
    if total = 0 then pure none
    else pure (some { phase := .complete, totalPods := total, updatedPods := updated,
                      message := "all node pools updated" })
  | pool :: pools, total, updated =>
    match (view pool.name).get with
    | .error _ => orchestratePools client desiredNodes view pools total updated
    | .ok () =>
      let set := (view pool.name).set
      let total := total + set.statusReplicas
      if set.updateRevision = set.currentRevision then
        orchestratePools client desiredNodes view pools total (updated + set.statusReplicas)
      else do
        let result ← mapError
          ("rolling restart failed for nodePool " ++ pool.name ++ ": " ++ ·)
          (orchestrateSet client desiredNodes (view pool.name))
        if result.phase = .inProgress then
          return some { phase := .inProgress, totalPods := total,
                        updatedPods := updated + result.updatedPods,
                        currentPod := result.currentPod,
                        message := "pool " ++ pool.name ++ ": " ++ result.message }
        else
          orchestratePools client desiredNodes view pools total (updated + result.updatedPods)

/-- The client which is cached once `ensureOpenSearchClient` has run.  Where none can
be made the restart is skipped. -/
def cachedClient (made : Except String Client) :
    Proc IndexerReconciler Event (Option Client) := do
  let _ ← attempt (ensureOpenSearchClient made)
  let reconciler ← read
  return reconciler.osClient

def orchestrateRollingRestart (spec : ClusterSpec) (made : Except String Client)
    (input : RestartInput) : Proc IndexerReconciler Event (Option RestartResult) :=
  match spec.indexer with
  | none => pure none
  | some indexer =>
    if indexer.isAdvancedMode then do
      match ← cachedClient made with
      | none => return none
      | some client =>
        orchestratePools client indexer.getTotalReplicas input.pool indexer.nodePools 0 0
    else do
      mapError ("failed to get indexer StatefulSet: " ++ ·) (ofExcept input.simple.get)
      if input.simple.set.updateRevision = input.simple.set.currentRevision then
        return none
      else
        match ← cachedClient made with
        | none => return none
        | some client =>
          let result ← mapError ("rolling restart failed for indexer: " ++ ·)
            (orchestrateSet client indexer.replicas input.simple)
          return some result

/-- A rolling restart gets as far as asking for a client. -/
def restartDue (spec : ClusterSpec) (input : RestartInput) : Bool :=
  match spec.indexer with
  | none => false
  | some indexer =>
    indexer.isAdvancedMode ||
      decide (input.simple.set.updateRevision ≠ input.simple.set.currentRevision)

/-! ## What a restart keeps -/

section Keeps

theorem keeps_cachedClient_bind
    (cached : forall reconciler client, inv reconciler -> reconciler.osClient = none ->
      made = .ok client -> inv { reconciler with osClient := some client })
    (right : forall reconciler, inv reconciler -> Keeps inv emits (next reconciler.osClient)) :
    Keeps inv emits (cachedClient made >>= next) := by
  have stepwise := keeps_bind (keeps_attempt (keeps_ensureOpenSearchClient cached))
      (fun _ => keeps_read_bind right)
  intro reconciler holds
  have inside := stepwise reconciler holds
  simpa [cachedClient] using inside

theorem keeps_orchestrateSet (asked : forall answer, emits (.clusterHealth client answer))
    (deleted : forall name, emits (.podDeleted name)) :
    Keeps inv emits (orchestrateSet client desiredNodes view) :=
  keeps_orchestrateRestart (keeps_indexerIsHealthyForRestart (asked _)) deleted

theorem keeps_orchestratePools (asked : forall answer, emits (.clusterHealth client answer))
    (deleted : forall name, emits (.podDeleted name)) (pools : List NodePool) :
    forall total updated,
      Keeps inv emits (orchestratePools client desiredNodes view pools total updated) := by
  induction pools with
  | nil =>
    intro total updated
    unfold orchestratePools
    split
    · exact keeps_pure _
    · exact keeps_pure _
  | cons _ _ ih =>
    intro total updated
    unfold orchestratePools
    split
    · exact ih total updated
    · dsimp only
      split
      · exact ih _ _
      · apply keeps_bind (keeps_mapError (keeps_orchestrateSet asked deleted))
        intro result
        split
        · exact keeps_pure _
        · exact ih _ _

theorem keeps_orchestrateRollingRestart_idle (idle : restartDue spec input = false) :
    Keeps inv emits (orchestrateRollingRestart spec made input) := by
  unfold orchestrateRollingRestart
  cases wanted : spec.indexer with
  | none => exact keeps_pure _
  | some =>
    simp only [restartDue, wanted, Bool.or_eq_false_iff, decide_eq_false_iff_not, ne_eq,
      not_not] at idle
    simp only [idle.1, idle.2, if_true, Bool.false_eq_true, if_false]
    exact keeps_bind (keeps_mapError (keeps_ofExcept _))
      (fun _ => keeps_pure _)

theorem keeps_orchestrateRollingRestart
    (cached : forall reconciler client, inv reconciler -> reconciler.osClient = none ->
      made = .ok client -> inv { reconciler with osClient := some client })
    (asked : forall reconciler client answer, inv reconciler -> reconciler.osClient = some client ->
      emits (.clusterHealth client answer))
    (deleted : forall name, emits (.podDeleted name)) :
    Keeps inv emits (orchestrateRollingRestart spec made input) := by
  unfold orchestrateRollingRestart
  split
  · exact keeps_pure _
  · split
    · apply keeps_cachedClient_bind cached
      intro reconciler holds
      split
      · exact keeps_pure _
      · rename_i client found
        exact keeps_orchestratePools (fun answer => asked _ _ answer holds found) deleted _ _ _
    · apply keeps_bind (keeps_mapError (keeps_ofExcept _))
      intro _
      split
      · exact keeps_pure _
      · apply keeps_cachedClient_bind cached
        intro reconciler holds
        split
        · exact keeps_pure _
        · rename_i client found
          exact keeps_bind (keeps_mapError
            (keeps_orchestrateSet (fun answer => asked _ _ answer holds found) deleted))
            (fun _ => keeps_pure _)

end Keeps

end Indexer
end WazuhOperator
