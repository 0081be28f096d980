import WazuhOperator.Controller.FailClosed

namespace WazuhOperator
namespace Controller

open Procedure Drain Indexer Worker

/-!
# Which indexer StatefulSets does a pass leave behind?

A specification with node pools asks for one StatefulSet for each pool.  The
entry point which the controller calls, `ReconcileNonBlocking`, never looks at
the pools: it reconciles the one StatefulSet of the simple mode.  A pass
therefore leaves the topology of the pools exactly where it found it, and only
if it does not get as far as writing the simple StatefulSet.
-/

def IsIndexerOf (key : ClusterKey) (sts : StatefulSet) : Prop :=
  sts.controller = some key ∧ sts.component = .indexer

def PassContext.nodePools (ctx : PassContext) : List NodePool :=
  (ctx.spec.indexer.map IndexerSpec.nodePools).getD []

/-- The indexer StatefulSets of the cluster are one for each node pool, with its name
and its replica count.  Whatever stands under the name of the workers is theirs. -/
structure DeploysTopology (ctx : PassContext) (sets : String -> Option StatefulSet) : Prop where
  deployed : ∀ pool ∈ ctx.nodePools, ∃ sts, sets (indexerNodePoolName ctx.key.name pool.name) = some sts ∧
    IsIndexerOf ctx.key sts ∧ sts.replicas = some pool.replicas
  only : forall name sts, name ≠ ctx.workerSts -> sets name = some sts -> IsIndexerOf ctx.key sts ->
    ∃ pool ∈ ctx.nodePools, name = indexerNodePoolName ctx.key.name pool.name

section Names

variable (ctx : PassContext) (poolName : String)

theorem indexerNodePoolName_ne_indexerSts :
    indexerNodePoolName ctx.key.name poolName ≠ ctx.indexerSts := by
  intro same
  have lengths := congrArg String.length same
  have long : "-indexer-".length = 9 := by decide
  have short : "-indexer".length = 8 := by decide
  simp only [indexerNodePoolName, PassContext.indexerSts, indexerName, String.length_append] at lengths
  omega

theorem indexerNodePoolName_ne_workerSts :
    indexerNodePoolName ctx.key.name poolName ≠ ctx.workerSts := by
  intro same
  rw [indexerNodePoolName, PassContext.workerSts, managerWorkerName, String.append_assoc] at same
  have starts := congrArg (fun text => text.toList.take 2) ((String.append_right_inj _).mp same)
  simp at starts

end Names

theorem DeploysTopology.congr {ctx : PassContext}
    (others : forall name, name ≠ ctx.indexerSts -> name ≠ ctx.workerSts -> after name = before name)
    (simple : forall sts, after ctx.indexerSts = some sts -> ¬ IsIndexerOf ctx.key sts)
    (topology : DeploysTopology ctx before) : DeploysTopology ctx after := by
  constructor
  · intro pool member
    rw [others _ (indexerNodePoolName_ne_indexerSts ctx pool.name)
      (indexerNodePoolName_ne_workerSts ctx pool.name)]
    exact topology.deployed pool member
  · intro name sts different present own
    by_cases simpleName : name = ctx.indexerSts
    · exact absurd own (simple sts (simpleName ▸ present))
    · exact topology.only name sts different ((others name simpleName different) ▸ present) own

theorem DeploysTopology.simple_absent {ctx : PassContext} (topology : DeploysTopology ctx sets)
    (present : sets ctx.indexerSts = some sts) : ¬ IsIndexerOf ctx.key sts := by
  intro own
  obtain ⟨pool, member, named⟩ :=
    topology.only ctx.indexerSts sts (indexerSts_ne_workerSts ctx) present own
  exact indexerNodePoolName_ne_indexerSts ctx pool.name named.symm

/-! ## What a successful pass does to the simple StatefulSet -/

section Simple

variable {ctx : PassContext} {state : PassState}

theorem reconcileStatefulSet_present
    (done : (reconcileStatefulSet noun needsUpdate answers desired before).result = .ok ()) :
    ((reconcileStatefulSet noun needsUpdate answers desired before).state).isSome = true := by
  cases read : answers.get with
  | error => simp [reconcileStatefulSet, read] at done
  | ok =>
    cases before with
    | none =>
      cases creation : answers.create <;>
        simp [reconcileStatefulSet, read, creation] at done ⊢
    | some found =>
      cases recreation : needsStatefulSetRecreation found desired with
      | true =>
        cases deletion : answers.delete <;> cases creation : answers.create <;>
          simp [reconcileStatefulSet, read, recreation, deletion, creation] at done ⊢
      | false =>
        cases changed : needsUpdate found desired with
        | false => simp [reconcileStatefulSet, read, recreation, changed]
        | true =>
          cases update : answers.update with
          | accepted =>
            simp [reconcileStatefulSet, read, recreation, changed, update]
          | unacknowledged =>
            simp [reconcileStatefulSet, read, recreation, changed, update] at done
          | refused =>
            cases immutable : answers.immutableField <;>
              cases deletion : answers.delete <;>
              simp [reconcileStatefulSet, read, recreation, changed, update, immutable, deletion] at done

theorem reconcileIndexerNonBlocking_present
    (done : (reconcileIndexerNonBlocking ctx state).result = .ok ()) :
    ((reconcileIndexerNonBlocking ctx state).state.statefulSets ctx.indexerSts).isSome = true := by
  unfold reconcileIndexerNonBlocking at done ⊢
  cases prepared : ctx.input.indexer.prepare with
  | error => simp [prepared] at done
  | ok =>
    have present : (reconcileStatefulSet "indexer" indexerNeedsUpdate ctx.input.indexer
        (builtIndexer ctx) (state.statefulSets ctx.indexerSts)).result = .ok () -> _ :=
      reconcileStatefulSet_present
    rcases ran : reconcileStatefulSet "indexer" indexerNeedsUpdate ctx.input.indexer
      (builtIndexer ctx) (state.statefulSets ctx.indexerSts) with ⟨result, found, log⟩
    rw [ran] at present
    cases result with
    | error => simp [prepared, onStatefulSet, ran] at done
    | ok => simpa [prepared, onStatefulSet, ran] using present rfl

theorem afterIndexerCheck_present (done : (afterIndexerCheck ctx state).result = .ok ()) :
    ((afterIndexerCheck ctx state).state.statefulSets ctx.indexerSts).isSome = true := by
  rw [afterIndexerCheck, Proc.bind_apply] at done ⊢
  have present : (reconcileIndexerNonBlocking ctx state).result = .ok () -> _ :=
    reconcileIndexerNonBlocking_present
  rcases ran : reconcileIndexerNonBlocking ctx state with ⟨result, entry, log⟩
  rw [ran] at present done
  cases result with
  | error => cases done
  | ok =>
    have kept := keeps_reconcileManagerOnward ctx entry entry ⟨rfl, rfl, rfl, .inl rfl⟩
    rw [Outcome.following_state, kept.1.found]
    exact present rfl

variable (ctx state) in
def indexerWaits : Bool :=
  (indexerScaleDown ctx state).isSome &&
    gateWaits (ctx.makeClient ctx.input.getClient) ctx.input.openSearch state.indexer
      (state.working.indexer.getD initializeDrainStatus).phase

theorem wait_iff_indexerWaits (pending : indexerScaleDown ctx state = some info)
    (effect : IndexerEffect ctx (afterRollback ctx state) info decision drain log) :
    decision = .wait <-> indexerWaits ctx state = true := by
  have waits := effect.wait_iff
  have step := (rolledBack_step ctx state).1
  simp only [indexerDrainState, afterRollback] at waits
  simp only [indexerWaits, pending, Option.isSome_some, Bool.true_and]
  rw [waits]
  generalize (rolledBack ctx state).indexer = after at step
  generalize state.working.indexer = before at step
  cases step with
  | same => rfl
  | ended rollingBack => simp [afterRollbackCheck, rollingBack, gateWaits, gateHolds]

theorem reconcile_present (reaches : ReachesGates ctx state) (onward : indexerWaits ctx state = false)
    (done : (reconcile ctx state).result = .ok ()) :
    ((reconcile ctx state).state.statefulSets ctx.indexerSts).isSome = true := by
  rw [reconcile_reaching ctx state reaches] at done ⊢
  unfold reconcileIndexerOnward at done ⊢
  rcases pending : indexerScaleDown ctx state with none | info
  · have checked := indexerCheck_none ctx (afterRollback ctx state) pending
    rw [gated_proceed ctx checked] at done ⊢
    exact afterIndexerCheck_present done
  · obtain ⟨decision, drain, log, checked, effect⟩ :=
      indexerCheck_some ctx (afterRollback ctx state) pending
    have waits := wait_iff_indexerWaits pending effect
    cases decision with
    | wait => simp [onward] at waits
    | proceed =>
      rw [gated_proceed ctx checked] at done ⊢
      exact afterIndexerCheck_present done
    | proceedDrained =>
      rw [gated_proceedDrained ctx checked] at done ⊢
      exact afterIndexerCheck_present done

end Simple

/-! ## The topology after a pass -/

section Topology

variable {ctx : PassContext} {state : PassState}

theorem untouched_of_workload
    (workload : IndexerWorkload ctx before after log) (present : after.isSome)
    (absent : forall sts, after = some sts -> ¬ IsIndexerOf ctx.key sts) :
    ∃ found, before = some found ∧
      rewrites indexerNeedsUpdate ctx.input.indexer found (builtIndexer ctx) = false := by
  cases workload with
  | absent => cases present
  | created | updated | recreated => exact absurd ⟨rfl, rfl⟩ (absent _ rfl)
  | untouched kept => exact ⟨_, rfl, kept⟩
  | deleted => cases present

variable (ctx state) in
/-- The pass does not write the simple StatefulSet: it ends before, is made to wait, or
finds one that needs no write. -/
def LeavesSimple : Prop :=
  ¬ ReachesGates ctx state ∨ indexerWaits ctx state = true ∨
    ∃ found, state.statefulSets ctx.indexerSts = some found ∧
      rewrites indexerNeedsUpdate ctx.input.indexer found (builtIndexer ctx) = false

theorem leavesSimple_spec (done : (reconcile ctx state).result = .ok ()) :
    (LeavesSimple ctx state ->
      (reconcile ctx state).state.statefulSets ctx.indexerSts = state.statefulSets ctx.indexerSts) ∧
    ((forall sts, (reconcile ctx state).state.statefulSets ctx.indexerSts = some sts ->
      ¬ IsIndexerOf ctx.key sts) -> LeavesSimple ctx state) := by
  have present := fun reaches onward => reconcile_present reaches onward done
  have course := reconcile_indexerCourse ctx state
  generalize (reconcile ctx state).state = after at course present
  generalize concerning .indexer (reconcile ctx state).log = log at course
  -- The three courses that reconcile the StatefulSet are one case.
  have reconciled : forall {events : List Event}, ReachesGates ctx state ->
      indexerWaits ctx state = false ->
      IndexerWorkload ctx (state.statefulSets ctx.indexerSts) (after.statefulSets ctx.indexerSts)
        events ->
      (LeavesSimple ctx state ->
        after.statefulSets ctx.indexerSts = state.statefulSets ctx.indexerSts) ∧
      ((forall sts, after.statefulSets ctx.indexerSts = some sts -> ¬ IsIndexerOf ctx.key sts) ->
        LeavesSimple ctx state) := by
    intro events reaches onward workload
    constructor
    · rintro (skipped | waits | ⟨found, before, kept⟩)
      · exact absurd reaches skipped
      · simp [onward] at waits
      · rw [before] at workload ⊢
        generalize after.statefulSets ctx.indexerSts = left at workload ⊢
        cases workload with
        | untouched => rfl
        | updated written | deleted written | recreated written => simp [written] at kept
    · intro absent
      exact .inr (.inr (untouched_of_workload workload (present reaches onward) absent))
  cases course with
  | unreached skipped found => exact ⟨fun _ => found, fun _ => .inl skipped⟩
  | unchecked reaches absent workload =>
    exact reconciled reaches (by simp [indexerWaits, absent]) workload
  | waited _ pending effect found =>
    exact ⟨fun _ => found, fun _ => .inr (.inl ((wait_iff_indexerWaits pending effect).mp rfl))⟩
  | undrained reaches pending effect workload | drained reaches pending effect workload =>
    exact reconciled reaches (by simpa using (wait_iff_indexerWaits pending effect).not) workload

end Topology

/-- After a successful pass the indexer StatefulSets of a cluster are those of its pools
exactly if they were so before and the pass did not get to write the simple
StatefulSet. -/
theorem reconcile_deploysTopology_iff (ctx : PassContext) (state : PassState)
    (done : (reconcile ctx state).result = .ok ()) :
    DeploysTopology ctx (reconcile ctx state).state.statefulSets <->
      DeploysTopology ctx state.statefulSets ∧ LeavesSimple ctx state := by
  have others : forall name, name ≠ ctx.indexerSts -> name ≠ ctx.workerSts ->
      (reconcile ctx state).state.statefulSets name = state.statefulSets name :=
    fun name => reconcile_statefulSets_of_ne ctx state
  obtain ⟨kept, unwritten⟩ := leavesSimple_spec done
  constructor
  · intro topology
    have leaves := unwritten (fun sts => topology.simple_absent)
    refine ⟨topology.congr (fun name simple worker => (others name simple worker).symm) ?_, leaves⟩
    intro sts present
    rw [← kept leaves] at present
    exact topology.simple_absent present
  · rintro ⟨topology, leaves⟩
    refine topology.congr others ?_
    intro sts present
    rw [kept leaves] at present
    exact topology.simple_absent present

/-! ## A cluster with two pools -/

namespace Sample

/-- Three cluster managers and two data nodes are wanted, in pools of their own. -/
def pooled : PassContext :=
  { context with
    spec := { spec with
      indexer := some { nodePools := [{ name := "managers", replicas := 3 },
        { name := "data", replicas := 2 }] } } }

def nothing : PassState := { state 0 0 {} with statefulSets := fun _ => none }

/-- Both pools are there, and a StatefulSet of somebody else stands under the simple name. -/
def deployed : PassState :=
  { state 0 0 {} with
    statefulSets := fun name =>
      if name = "wazuh-indexer-managers" then some (statefulSet .indexer 3)
      else if name = "wazuh-indexer-data" then some (statefulSet .indexer 2)
      else if name = "wazuh-indexer" then
        some { statefulSet .indexer 3 with controller := none, template := workload.template }
      else none }

end Sample

open Sample

/-- Pools that are there stay while the simple name is taken by somebody else. -/
theorem reconcile_deploysTopology_taken : (reconcile pooled deployed).result = .ok () ∧
      DeploysTopology pooled (reconcile pooled deployed).state.statefulSets := by
  refine ⟨rfl, (reconcile_deploysTopology_iff pooled deployed rfl).mpr ⟨⟨?_, ?_⟩, ?_⟩⟩
  · intro pool member
    rcases List.mem_pair.mp member with rfl | rfl
    · exact ⟨statefulSet .indexer 3, rfl, ⟨rfl, rfl⟩, rfl⟩
    · exact ⟨statefulSet .indexer 2, rfl, ⟨rfl, rfl⟩, rfl⟩
  · intro name sts different present own
    simp only [deployed] at present
    split at present
    · rename_i managers
      exact ⟨_, List.mem_pair.mpr (.inl rfl), managers⟩
    · split at present
      · rename_i data
        exact ⟨_, List.mem_pair.mpr (.inr rfl), data⟩
      · split at present
        · cases present
          exact absurd own.1 (by simp)
        · cases present
  · exact .inr (.inr ⟨_, rfl, by decide⟩)

/-- In an empty namespace the pools are not deployed, but a simple StatefulSet is. -/
theorem pools_ignored : (pooled.spec.indexer.map IndexerSpec.isAdvancedMode) = some true ∧
      (reconcile pooled nothing).result = .ok () ∧
      ¬ DeploysTopology pooled (reconcile pooled nothing).state.statefulSets := by
  refine ⟨by decide, rfl, ?_⟩
  intro topology
  have simple : (reconcile pooled nothing).state.statefulSets "wazuh-indexer" =
      some (builtIndexer pooled) := by decide
  exact topology.simple_absent simple ⟨rfl, rfl⟩

end Controller
end WazuhOperator
