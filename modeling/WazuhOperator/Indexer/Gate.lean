import WazuhOperator.Drain.Gate
import WazuhOperator.Indexer.Drainer

namespace WazuhOperator
namespace Indexer

open Procedure Proc Drain

/-!
# The scale-down gate of the indexer

The drain part of `internal/opensearch/reconciler/indexer_reconciler.go`.
One `IndexerReconciler` serves every cluster, and the client and the drainer
are fields of it.  `ensureOpenSearchClient` keeps whatever client is there;
only an operator restart forgets it.
-/

/-- The fields of `IndexerReconciler` which outlive a pass. -/
structure IndexerReconciler where
  osClient : Option Client := none
  drainer : Option IndexerDrainer := none

/-- `ensureOpenSearchClient`; `made` is what the client factory would return for
the cluster of this pass. -/
def ensureOpenSearchClient (made : Except String Client) : Proc IndexerReconciler Event Unit := do
  let reconciler ← read
  match reconciler.osClient with
  | some _ => return ()
  | none =>
    let client ← ofExcept made
    modify (fun r => { r with osClient := some client })

/-- The creation of the drainer in `startDrain`.  It follows
`ensureOpenSearchClient`, so there is a client to create it from. -/
def ensureDrainer (config : Option IndexerDrainConfig) (reconciler : IndexerReconciler) :
    IndexerReconciler :=
  match reconciler.drainer, reconciler.osClient with
  | none, some client => { reconciler with drainer := some (newIndexerDrainer client config) }
  | _, _ => reconciler

def onDrainer {α : Type} (inner : Proc IndexerDrainer Event α) :
    Proc IndexerReconciler Event α :=
  focusOption IndexerReconciler.drainer (fun drainer r => { r with drainer := some drainer })
    "drainer not initialized" inner

def drainOperations (key : ClusterKey) (config : Option IndexerDrainConfig)
    (made : Except String Client) (answers : OpenSearchAnswers) :
    DrainOperations IndexerReconciler DrainProgress where
  component := .indexer
  clientError := "failed to create OpenSearch client: "
  drainingMessage := "Relocating shards from node"
  verifyingMessage := "Verifying drain completion"
  ensureClient := ensureOpenSearchClient made
  ensureDrainer := ensureDrainer config
  hasDrainer := fun reconciler => reconciler.drainer.isSome
  startDrain := fun node => onDrainer (IndexerDrainer.startDrain answers key node)
  monitor := fun node => onDrainer (IndexerDrainer.monitorProgress answers node)
  isComplete := DrainProgress.isComplete
  recordProgress := fun progress status =>
    updateShardCount (updateProgress status progress.percent progress.message)
      progress.shardsRemaining
  recordProgress_phase := fun _ _ => rfl
  recordProgress_targetPod := fun _ _ => rfl
  recordProgress_nextRetryTime := fun _ _ => rfl
  verify := fun node => onDrainer (IndexerDrainer.verifyComplete answers node)
  cancelDrain := onDrainer (IndexerDrainer.cancelDrain answers)

def IndexerReconciler.checkScaleDownDrain (now : Time) (key : ClusterKey) (spec : ClusterSpec)
    (made : Except String Client) (answers : OpenSearchAnswers)
    (found : Except String (Option StatefulSet)) (desiredReplicas : Nat) :
    Proc (GateState IndexerReconciler) Event (DrainCheckResult DrainProgress) :=
  Drain.checkScaleDownDrain
    (drainOperations key (spec.drain.bind DrainConfiguration.indexer) made answers) now
    spec.indexerDrainEnabled (indexerName key.name)
    (found.mapError ("failed to get indexer StatefulSet: " ++ ·)) desiredReplicas

/-- `IndexerReconciler.ResetDrainState`: the status is reset in memory and the
drainer is dropped; the client stays. -/
def IndexerReconciler.resetDrainState (now : Time) (state : GateState IndexerReconciler) :
    GateState IndexerReconciler :=
  { memory := { state.memory with drainer := none }, status := state.status.map (fun _ => reset now) }

end Indexer
end WazuhOperator
