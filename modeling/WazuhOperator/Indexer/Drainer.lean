import WazuhOperator.Library.Procedure
import WazuhOperator.Cluster.Events

namespace WazuhOperator
namespace Indexer

open Procedure Proc Drain

/-!
# Draining an indexer node

`internal/opensearch/drain/indexer_drain.go`.  An indexer node is drained by
naming it in the allocation exclusion of OpenSearch and waiting until no
shard is left on it.  The drainer remembers the number of shards at the start
in order to report a percentage.

The answers of OpenSearch within one pass are given in advance, as an
`OpenSearchAnswers`.  No branch makes the same request twice, so one answer
for each request covers every course the pass can take.
-/

structure OpenSearchAnswers where
  (shardCount relocatingShards : Except String Nat)
  (setExclusion clearExclusion : WriteAnswer)

def defaultIndexerDrainTimeout : Time := 30 * 60 * 1000000000

/-- `IndexerDrainerImpl`.  The cluster for which the initial shard count was
recorded is a note of the model; the source keeps the bare number. -/
structure IndexerDrainer where
  client : Client
  timeout : Time
  initialShardCount : Int32 := 0
  recordedFor : Option ClusterKey := none

def drainTimeout (config : Option IndexerDrainConfig) : Time :=
  (config.bind IndexerDrainConfig.timeout).getD defaultIndexerDrainTimeout

def newIndexerDrainer (client : Client) (config : Option IndexerDrainConfig) : IndexerDrainer :=
  { client := client, timeout := drainTimeout config }

structure DrainProgress where
  (percent shardsRemaining shardsRelocating : Int32)
  message : String
  isComplete : Bool

section Requests

variable (answers : OpenSearchAnswers)

def getShardCount (client : Client) (nodeName : String) : Proc IndexerDrainer Event Nat := do
  emit (.shardCount client nodeName answers.shardCount)
  ofExcept answers.shardCount

def hasRelocatingShards (client : Client) : Proc IndexerDrainer Event (Bool × Nat) := do
  emit (.relocatingShards client answers.relocatingShards)
  let count ← ofExcept answers.relocatingShards
  return (0 < count, count)

def setAllocationExclusion (client : Client) (nodeName : String) :
    Proc IndexerDrainer Event Unit := do
  emit (.setExclusion client nodeName answers.setExclusion)
  ofExcept answers.setExclusion.toExcept

def clearAllocationExclusion (client : Client) : Proc IndexerDrainer Event Unit := do
  emit (.clearExclusion client answers.clearExclusion)
  ofExcept answers.clearExclusion.toExcept

def IndexerDrainer.startDrain (key : ClusterKey) (nodeName : String) :
    Proc IndexerDrainer Event Unit := do
  let drainer ← read
  let count ← mapError ("failed to get initial shard count: " ++ ·)
    (getShardCount answers drainer.client nodeName)
  modify (fun d => { d with initialShardCount := Int32.ofNat count, recordedFor := some key })
  mapError ("failed to set allocation exclusion: " ++ ·)
    (setAllocationExclusion answers drainer.client nodeName)

/-- The percentage of `MonitorProgress`, in 32-bit arithmetic. -/
def progressPercent (initial : Int32) (shardCount : Nat) : Int32 :=
  if 0 < initial then (initial - Int32.ofNat shardCount) * 100 / initial else 100

/-- The report of `MonitorProgress` about a node with `count` shards while
`relocating` shards of the cluster are on the move. -/
def progressReport (initial : Int32) (count relocating : Nat) : DrainProgress :=
  if count = 0 ∧ relocating = 0 then
    { percent := 100, shardsRemaining := Int32.ofNat count,
      shardsRelocating := Int32.ofNat relocating,
      message := "All shards relocated successfully", isComplete := true }
  else
    { percent := progressPercent initial count, shardsRemaining := Int32.ofNat count,
      shardsRelocating := Int32.ofNat relocating,
      message :=
        if 0 < relocating then
          "Relocating shards: " ++ toString count ++ " remaining on node, " ++
            toString relocating ++ " currently relocating"
        else "Waiting for shard relocation: " ++ toString count ++ " shards remaining on node",
      isComplete := false }

def IndexerDrainer.monitorProgress (nodeName : String) :
    Proc IndexerDrainer Event DrainProgress := do
  let drainer ← read
  let count ← mapError ("failed to get shard count: " ++ ·)
    (getShardCount answers drainer.client nodeName)
  let (_, relocating) ← mapError ("failed to check relocating shards: " ++ ·)
    (hasRelocatingShards answers drainer.client)
  emit (.initialCountUsed drainer.recordedFor)
  return progressReport drainer.initialShardCount count relocating

def IndexerDrainer.verifyComplete (nodeName : String) : Proc IndexerDrainer Event Bool := do
  let drainer ← read
  let count ← mapError ("failed to verify drain completion: " ++ ·)
    (getShardCount answers drainer.client nodeName)
  if 0 < count then
    return false
  else
    let (relocating, _) ← mapError ("failed to check relocating shards: " ++ ·)
      (hasRelocatingShards answers drainer.client)
    return !relocating

def IndexerDrainer.cancelDrain : Proc IndexerDrainer Event Unit := do
  let drainer ← read
  mapError ("failed to clear allocation exclusion: " ++ ·)
    (clearAllocationExclusion answers drainer.client)

end Requests

/-! ## The methods as equations -/

section Equations

attribute [local simp] getShardCount hasRelocatingShards

variable (answers : OpenSearchAnswers) (node : String) (drainer : IndexerDrainer)

theorem IndexerDrainer.startDrain_apply (key : ClusterKey) :
    IndexerDrainer.startDrain answers key node drainer =
      match answers.shardCount with
      | .error text =>
        ⟨.error ("failed to get initial shard count: " ++ text), drainer,
          [.shardCount drainer.client node (.error text)]⟩
      | .ok count =>
        ⟨answers.setExclusion.toExcept.mapError ("failed to set allocation exclusion: " ++ ·),
          { drainer with initialShardCount := Int32.ofNat count, recordedFor := some key },
          [.shardCount drainer.client node (.ok count),
            .setExclusion drainer.client node answers.setExclusion]⟩ := by
  cases counted : answers.shardCount with
  | error => simp [IndexerDrainer.startDrain, counted]
  | ok =>
    cases answer : answers.setExclusion with
    | accepted | refused text | unacknowledged text =>
      simp [IndexerDrainer.startDrain, setAllocationExclusion, counted, answer]

theorem IndexerDrainer.monitorProgress_apply : IndexerDrainer.monitorProgress answers node drainer =
      match answers.shardCount with
      | .error text =>
        ⟨.error ("failed to get shard count: " ++ text), drainer,
          [.shardCount drainer.client node (.error text)]⟩
      | .ok count =>
        match answers.relocatingShards with
        | .error text =>
          ⟨.error ("failed to check relocating shards: " ++ text), drainer,
            [.shardCount drainer.client node (.ok count),
              .relocatingShards drainer.client (.error text)]⟩
        | .ok relocating =>
          ⟨.ok (progressReport drainer.initialShardCount count relocating), drainer,
            [.shardCount drainer.client node (.ok count),
              .relocatingShards drainer.client (.ok relocating),
              .initialCountUsed drainer.recordedFor]⟩ := by
  cases counted : answers.shardCount with
  | error => simp [IndexerDrainer.monitorProgress, counted]
  | ok =>
    cases moving : answers.relocatingShards with
    | error | ok =>
      simp [IndexerDrainer.monitorProgress, counted, moving]

theorem IndexerDrainer.verifyComplete_apply : IndexerDrainer.verifyComplete answers node drainer =
      match answers.shardCount with
      | .error text =>
        ⟨.error ("failed to verify drain completion: " ++ text), drainer,
          [.shardCount drainer.client node (.error text)]⟩
      | .ok (count + 1) =>
        ⟨.ok false, drainer, [.shardCount drainer.client node (.ok (count + 1))]⟩
      | .ok 0 =>
        match answers.relocatingShards with
        | .error text =>
          ⟨.error ("failed to check relocating shards: " ++ text), drainer,
            [.shardCount drainer.client node (.ok 0),
              .relocatingShards drainer.client (.error text)]⟩
        | .ok relocating =>
          ⟨.ok (!decide (0 < relocating)), drainer,
            [.shardCount drainer.client node (.ok 0),
              .relocatingShards drainer.client (.ok relocating)]⟩ := by
  cases counted : answers.shardCount with
  | error => simp [IndexerDrainer.verifyComplete, counted]
  | ok count =>
    cases count with
    | succ => simp [IndexerDrainer.verifyComplete, counted]
    | zero =>
      cases moving : answers.relocatingShards with
      | error | ok =>
        simp [IndexerDrainer.verifyComplete, counted, moving]

theorem IndexerDrainer.cancelDrain_apply : IndexerDrainer.cancelDrain answers drainer =
      ⟨answers.clearExclusion.toExcept.mapError ("failed to clear allocation exclusion: " ++ ·),
        drainer, [.clearExclusion drainer.client answers.clearExclusion]⟩ := by
  cases answer : answers.clearExclusion with
  | accepted | refused text | unacknowledged text =>
    simp [IndexerDrainer.cancelDrain, clearAllocationExclusion, answer]
end Equations

end Indexer
end WazuhOperator
