import WazuhOperator.Library.Constancy
import WazuhOperator.Webhook.Cluster

namespace WazuhOperator
namespace Webhook

open Constancy WazuhCluster

/-!
# Do admitted updates keep the modes of a cluster?

An update may take a cluster neither from inline components to references or
back, nor an indexer from the simple to the advanced topology or back: the
latter needs a new cluster.  The webhook compares an update with the state just
before it.  A state without any component, or without an indexer, has nothing
to be compared with, and every mode may follow it.
-/

/-- The topology of an indexer.  The predicates of the code are both false where there are
no node pools and no replicas. -/
inductive TopologyMode where
  | simple
  | advanced
  | neither
  deriving DecidableEq

def WazuhIndexerClusterSpec.topologyMode (spec : WazuhIndexerClusterSpec) : TopologyMode :=
  if spec.isAdvancedMode then .advanced else if spec.isSimpleMode then .simple else .neither

def WazuhCluster.topologyMode (cluster : WazuhCluster) : Option TopologyMode :=
  cluster.spec.indexer.map WazuhIndexerClusterSpec.topologyMode

inductive ComponentMode where
  | inline
  | reference
  | mixed
  deriving DecidableEq

def WazuhCluster.componentMode (cluster : WazuhCluster) : Option ComponentMode :=
  match cluster.isInlineMode, cluster.isReferenceMode with
  | true, true => some .mixed
  | true, false => some .inline
  | false, true => some .reference
  | false, false => none

/-- The states of a cluster, each but the first put there by an update which the webhook
admitted. -/
def Admitted (states : List WazuhCluster) : Prop :=
  states.IsChain fun oldCluster newCluster => (reviewUpdate oldCluster newCluster).admits = true
  deriving Decidable

/-! ## One update -/

theorem refusal_eq_none [Decidable condition] :
    (if condition then some text else next) = none <-> ¬ condition ∧ next = none := by
  by_cases raised : condition
  · simp [raised]
  · simp [raised]

theorem of_updateError_eq_none {oldCluster newCluster : WazuhCluster}
    (accepted : updateError oldCluster newCluster = none) :
    ¬ (oldCluster.isInlineMode ∧ newCluster.isReferenceMode) ∧
      ¬ (oldCluster.isReferenceMode ∧ newCluster.isInlineMode) ∧
      forall old new, oldCluster.spec.indexer = some old -> newCluster.spec.indexer = some new ->
        ¬ (old.isSimpleMode ∧ new.isAdvancedMode) ∧
        ¬ (old.isAdvancedMode ∧ new.isSimpleMode) := by
  rw [updateError, refusal_eq_none, refusal_eq_none, Bool.and_eq_true, Bool.and_eq_true] at accepted
  refine ⟨accepted.1, accepted.2.1, fun old new before after => ?_⟩
  have indexers := accepted.2.2
  rw [before, after] at indexers
  simpa only [refusal_eq_none, Bool.and_eq_true, and_true] using indexers

variable {oldCluster newCluster : WazuhCluster} {states : List WazuhCluster}

theorem updateError_of_admits (admits : (reviewUpdate oldCluster newCluster).admits) :
    updateError oldCluster newCluster = none := by
  by_cases valid : (validateWazuhCluster newCluster).admits
  · rw [reviewUpdate, if_pos valid] at admits
    cases refusal : updateError oldCluster newCluster with
    | none => rfl
    | some => simp [Response.admits, validateUpdate, refusal] at admits
  · rw [reviewUpdate, if_neg valid] at admits
    exact absurd admits valid

variable (spec : WazuhIndexerClusterSpec)

theorem topologyMode_eq_advanced_iff :
    spec.topologyMode = .advanced <-> spec.isAdvancedMode = true := by
  rw [WazuhIndexerClusterSpec.topologyMode]
  split <;> simp_all
  split <;> simp

theorem topologyMode_eq_simple_iff : spec.topologyMode = .simple <-> spec.isSimpleMode = true := by
  rw [WazuhIndexerClusterSpec.topologyMode, WazuhIndexerClusterSpec.isAdvancedMode,
    WazuhIndexerClusterSpec.isSimpleMode]
  cases spec.nodePools with
  | nil | cons => simp

theorem topologyMode_of_admits (admits : (reviewUpdate oldCluster newCluster).admits)
    (old : oldCluster.topologyMode = some m) (new : newCluster.topologyMode = some n)
    (kept : m = .neither <-> n = .neither) : m = n := by
  rcases Option.map_eq_some_iff.mp old with ⟨oldIndexer, oldGiven, rfl⟩
  rcases Option.map_eq_some_iff.mp new with ⟨newIndexer, newGiven, rfl⟩
  rcases of_updateError_eq_none (updateError_of_admits admits) with
    ⟨-, -, indexers⟩
  have refused := indexers oldIndexer newIndexer oldGiven newGiven
  simp only [<- topologyMode_eq_simple_iff, <- topologyMode_eq_advanced_iff] at refused
  cases oldMode : oldIndexer.topologyMode <;> cases newMode : newIndexer.topologyMode <;> simp_all

/-! ## Sequences of updates -/

/-- No update takes an indexer from a mode to neither, or from neither to a mode. -/
def KeepsTopology (states : List WazuhCluster) : Prop :=
  forall oldCluster newCluster m n, Follows topologyMode states [] oldCluster newCluster ->
    oldCluster.topologyMode = some m -> newCluster.topologyMode = some n ->
    (m = .neither <-> n = .neither)

theorem keepsTopology_of_moded
    (moded : ∀ cluster ∈ states, cluster.topologyMode ≠ some .neither) : KeepsTopology states := by
  intro oldCluster newCluster m n follows old new
  refine iff_of_false ?_ ?_
  · rintro rfl
    exact moded oldCluster follows.mem.1 old
  · rintro rfl
    exact moded newCluster follows.mem.2 new

theorem neighbours_componentMode (admitted : Admitted states) :
    NeighboursAgree componentMode states := by
  intro oldCluster newCluster m n follows old new
  rcases of_updateError_eq_none (updateError_of_admits (follows.related admitted)) with
    ⟨toReference, toInline, -⟩
  rw [componentMode] at old new
  split at old <;> split at new <;> simp_all

theorem neighbours_topologyMode_iff (admitted : Admitted states) :
    NeighboursAgree topologyMode states <-> KeepsTopology states := by
  constructor
  · intro agree oldCluster newCluster m n follows old new
    rw [agree oldCluster newCluster m n follows old new]
  · intro kept oldCluster newCluster m n follows old new
    exact topologyMode_of_admits (follows.related admitted) old new
      (kept oldCluster newCluster m n follows old new)

/-- After admitted updates, the topology and the component mode are each the same in all
states which have one if and only if they come back unchanged whenever they were gone for
a while, and no update empties an indexer of both replicas and node pools, or fills it. -/
theorem modes_immutable_iff (states : List WazuhCluster) (admitted : Admitted states) :
    (Constant topologyMode states ∧ Constant componentMode states) <->
      KeepsTopology states ∧ ReturnsAlike topologyMode states ∧
        ReturnsAlike componentMode states := by
  rw [constant_iff, constant_iff, neighbours_topologyMode_iff admitted, and_assoc]
  constructor
  · rintro ⟨kept, topology, -, components⟩
    exact ⟨kept, topology, components⟩
  · rintro ⟨kept, topology, components⟩
    exact ⟨kept, topology, neighbours_componentMode admitted, components⟩

namespace Sample

def managed (indexer : Option WazuhIndexerClusterSpec) : WazuhCluster where
  nspace := "wazuh"
  spec := { version := "4.9.0", manager := some {}, indexer := indexer }

def replicated (count : Int32) : WazuhIndexerClusterSpec where
  replicas := count

def pooled : WazuhIndexerClusterSpec where
  nodePools := [{ name := "nodes", replicas := 3, roles := [.clusterManager, .data] }]

def bare : WazuhCluster where
  nspace := "wazuh"
  spec := { version := "4.9.0" }

def referring : WazuhCluster where
  nspace := "wazuh"
  spec := { version := "4.9.0", managerRef := some { name := "manager" } }

end Sample

open Sample

/-- An indexer which is removed and added again with other replicas has its mode back. -/
theorem returned_indexer_keeps_modes :
    let states := [managed (some (replicated 3)), managed none, managed (some (replicated 5))]
    Constant topologyMode states ∧ Constant componentMode states := by
  refine (modes_immutable_iff _ (by decide +kernel)).mpr ⟨?_, ?_, ?_⟩
  · exact keepsTopology_of_moded (by decide)
  · exact returnsAlike_of_agree (by decide)
  · exact returnsAlike_of_agree (by decide)

/-- The indexer is removed and added again with node pools, then the components are removed
and references are added.  Every one of these updates is admitted. -/
theorem modes_change_across_gaps : Admitted [managed (some (replicated 3)), managed none,
      managed (some pooled), bare, referring] ∧
    ¬ Constant topologyMode [managed (some (replicated 3)),
      managed none, managed (some pooled), bare, referring] ∧
    ¬ Constant componentMode [managed (some (replicated 3)),
      managed none, managed (some pooled), bare, referring] := by
  refine ⟨by decide +kernel, ?_, ?_⟩
  · intro constant
    have same := constant (managed (some (replicated 3))) (by simp)
      (managed (some pooled)) (by simp) .simple .advanced (by decide) (by decide)
    exact nomatch same
  · intro constant
    have same := constant (managed none) (by simp) referring (by simp)
      .inline .reference (by decide) (by decide)
    exact nomatch same

end Webhook
end WazuhOperator
