import WazuhOperator.Controller.Courses

namespace WazuhOperator
namespace Controller

open Procedure Drain Indexer Worker

/-!
# Does the drain gate of the indexer fail closed?

The gate lets the replica count go down on the strength of a completed drain.
An error of the drain check does not stop the controller either: it is logged,
and the pass proceeds without a drain.  A check that ends without an error and
without a verdict, in a phase the switch has no answer for or with a
verification that failed, counts as permission too.

The first theorem describes the passes which fail closed in terms of what is
known when they begin, the second what is left of the gate when the checks
without a verdict are set aside.
-/

/-- Within one pass a component loses replicas only if its drain check reported
completion. -/
def FailsClosed (component : Component) (log : List Event) : Prop :=
  (∃ event ∈ log, event.shrinks component = true) -> ∃ event ∈ log, event.completes component = true
  deriving Decidable

theorem failsClosed_concerning (component : Component) (log : List Event) :
    FailsClosed component log <-> FailsClosed component (concerning component log) := by
  unfold FailsClosed
  rw [exists_mem_concerning (fun _ => Event.about_of_shrinks),
    exists_mem_concerning (fun _ => Event.about_of_completes)]

def indexerGateHolds (ctx : PassContext) (state : PassState) : Bool :=
  gateHolds (ctx.makeClient ctx.input.getClient) ctx.input.openSearch state.indexer
    (state.working.indexer.getD initializeDrainStatus).phase

variable {ctx : PassContext}

theorem proceed_iff_not_indexerGateHolds
    (effect : IndexerEffect ctx (afterRollback ctx state) info decision drain log) :
    decision = .proceed <-> indexerGateHolds ctx state = false := by
  have same : indexerGateHolds ctx (afterRollback ctx state) = indexerGateHolds ctx state := by
    have step := (rolledBack_step ctx state).1
    simp only [indexerGateHolds, afterRollback]
    generalize (rolledBack ctx state).indexer = after at step
    generalize state.working.indexer = before at step
    cases step with
    | same => rfl
    | ended rollingBack => simp [afterRollbackCheck, rollingBack, gateHolds]
  rw [← same]
  exact effect.proceed_iff

theorem builtIndexer_currentReplicas
    (wanted : ctx.spec.indexer.map IndexerSpec.desiredReplicas = some count) :
    (builtIndexer ctx).currentReplicas = count := by
  simp [builtIndexer, StatefulSet.currentReplicas, wanted]

theorem reconcile_failsClosed_iff (ctx : PassContext) (state : PassState)
    (pending : (indexerScaleDown ctx state).isSome) :
    FailsClosed .indexer (reconcile ctx state).log <->
      ¬ ReachesGates ctx state ∨
        indexerGateHolds ctx state ∨
        forall found, state.statefulSets ctx.indexerSts = some found ->
          rewrites indexerNeedsUpdate ctx.input.indexer found (builtIndexer ctx) = false := by
  obtain ⟨info, detected⟩ := Option.isSome_iff_exists.mp pending
  obtain ⟨sts, count, present, wanted, read, on, smaller, named⟩ :=
    pendingScaleDown_eq_some detected
  rw [failsClosed_concerning]
  have course := reconcile_indexerCourse ctx state
  generalize concerning .indexer (reconcile ctx state).log = log at course
  cases course with
  | unreached skipped => simp [FailsClosed, skipped]
  | unchecked _ absent => simp [absent] at pending
  | waited _ _ effect =>
    have holds : indexerGateHolds ctx state := by
      simpa using proceed_iff_not_indexerGateHolds effect
    have still : ¬ ∃ event ∈ log, event.shrinks .indexer := by
      rintro ⟨event, member, shrinking⟩
      simp [Event.shrinks, (effect.frame.quiet event member).1] at shrinking
    simp [FailsClosed, still, holds]
  | undrained reaches pending effect workload drainer persisted =>
    rename_i seen drain first later
    have fails := (proceed_iff_not_indexerGateHolds effect).mp rfl
    rw [present] at workload
    have shrinks := workload.shrinks_after_iff (fun event member => (effect.frame.quiet event member).1)
      (by rw [builtIndexer_currentReplicas wanted]; exact smaller)
    have incomplete : ¬ ∃ event ∈ first ++ later, event.completes .indexer := by
      rintro ⟨event, member, completing⟩
      rcases List.mem_append.mp member with earlier | written
      · simp [(effect.frame.quiet event earlier).2] at completing
      · simp [(workload.quiet .indexer event written).1] at completing
    have closedIff : FailsClosed .indexer (first ++ later) <->
        rewrites indexerNeedsUpdate ctx.input.indexer sts (builtIndexer ctx) = false := by
      rw [FailsClosed, iff_false_intro incomplete]
      exact (not_congr shrinks).trans (by simp)
    rw [closedIff]
    simp [reaches, fails, present]
  | drained _ _ effect =>
    have holds : indexerGateHolds ctx state := by
      simpa using proceed_iff_not_indexerGateHolds effect
    constructor
    · exact fun _ => .inr (.inl holds)
    · exact fun _ _ => ⟨.drainComplete .indexer, by simp, rfl⟩

/-- The check ends without an error and without a verdict: the drain has failed or is
rolled back, the switch does not know its phase, or it cannot be verified.  What such a
check stores in its result is not looked at by the controller. -/
def indexerFallsThrough (ctx : PassContext) (state : PassState) : Bool :=
  match (state.working.indexer.getD initializeDrainStatus).phase with
  | .verifying => !(state.indexer.drainer.isSome && verifiable ctx.input.openSearch)
  | .failed | .rollingBack | .unknown _ => true
  | _ => false

theorem starts_of_not_indexerFallsThrough
    (fails : indexerGateHolds ctx state = false) (settled : indexerFallsThrough ctx state = false) :
    (state.working.indexer.getD initializeDrainStatus).phase = .idle ∨
      (state.working.indexer.getD initializeDrainStatus).phase = .unset := by
  simp only [indexerGateHolds, indexerFallsThrough] at fails settled
  cases phase : (state.working.indexer.getD initializeDrainStatus).phase with
  | idle => exact .inl rfl
  | unset => exact .inr rfl
  | pending | draining | complete => simp [phase, gateHolds] at fails
  | verifying =>
    rw [phase] at fails settled
    simp only [gateHolds] at fails
    simp [fails] at settled
  | failed | rollingBack | unknown => simp [phase] at settled

/-- In a pass that looks at a scale-down of the indexer and whose check does not fall
through, the count goes down only if the check reported completion or returned an
error, with which the controller proceeds without a drain. -/
theorem reconcile_shrinks_drained_or_unchecked (ctx : PassContext) (state : PassState)
    (pending : (indexerScaleDown ctx state).isSome = true)
    (settled : indexerFallsThrough ctx state = false)
    (shrinks : ∃ event ∈ (reconcile ctx state).log, event.shrinks .indexer = true) :
    (∃ event ∈ (reconcile ctx state).log, event.completes .indexer = true) ∨
      ∃ text, indexerCheckResult ctx (afterRollback ctx state) = .error text := by
  by_cases closed : FailsClosed .indexer (reconcile ctx state).log
  · exact .inl (closed shrinks)
  · right
    rw [reconcile_failsClosed_iff ctx state pending, not_or, not_or] at closed
    have fails : indexerGateHolds ctx state = false := by simpa using closed.2.1
    obtain ⟨info, detected⟩ := Option.isSome_iff_exists.mp pending
    have there := detected
    obtain ⟨decision, drain, log, ran, effect⟩ := indexerCheck_some ctx (afterRollback ctx state) there
    have onward : decision = .proceed := (proceed_iff_not_indexerGateHolds effect).mpr fails
    have phase := starts_of_not_indexerFallsThrough fails settled
    -- The phases in which a drain is started are not those of a rollback.
    have same := (rolledBack_step ctx state).1.eq_of_ne (by rcases phase with idle | unset <;> simp [*])
    refine indexerCheckResult_error ctx _ there ?_ (by rw [ran, onward])
    simpa [indexerDrainState, afterRollback, same] using phase

/-! ## A cluster about to lose its third indexer node -/

namespace Sample

def openSearch : OpenSearchAnswers :=
  { shardCount := .ok 0, relocatingShards := .ok 0, setExclusion := .accepted,
    clearExclusion := .accepted }

/-- A Kubernetes API that accepts everything, for an object whose specification changed. -/
def workload : WorkloadAnswers where
  template := { specHash := "new" }

def restartView : RestartView where
  get := .ok ()
  set := { name := "wazuh-indexer", uid := "1", currentRevision := "r", updateRevision := "r",
           statusReplicas := 3 }
  listed := .ok []
  health := .error "not asked"
  deletion := .accepted

def input : PassInput where
  now := 0
  openSearch := openSearch
  indexer := workload
  queue := .ok 0
  worker := workload
  restart := { getClient := .ok (), simple := restartView, pool := fun _ => restartView }

def key : ClusterKey := { nspace := "wazuh", name := "wazuh" }

/-- Two indexer nodes and two workers are wanted, with both drains switched on. -/
def spec : ClusterSpec where
  indexer := some { replicas := 2 }
  manager := some { workerReplicas := some 2 }
  drain := some { indexer := some { enabled := some true }, manager := some { enabled := some true } }

def context : PassContext where
  domain := "cluster.local"
  key := key
  spec := spec
  indexerCredentials := { username := "admin", password := "secret" }
  apiCredentials := { username := "wazuh", password := "secret" }
  input := input

def statefulSet (component : Component) (replicas : Nat) : StatefulSet where
  controller := some key
  component := component
  replicas := some replicas
  template := { specHash := "old" }

/-- The given numbers of indexer nodes and workers are there, and the given status. -/
def state (indexers workers : Nat) (status : DrainStatus) : PassState where
  indexer := {}
  worker := {}
  working := status
  persisted := status
  statefulSets := fun name =>
    if name = "wazuh-indexer" then some (statefulSet .indexer indexers)
    else if name = "wazuh-manager-worker" then some (statefulSet .manager workers)
    else none

def inPhase (phase : DrainPhase) : PassState := state 3 2 { indexer := some { phase := phase } }

def contextWithoutShards : PassContext :=
  { context with
    input := { input with openSearch := { openSearch with shardCount := .error "connection refused" } } }

end Sample

open Sample

/-- A completed drain lets the node go. -/
theorem reconcile_shrinks_drained_or_unchecked_complete :
    (∃ event ∈ (reconcile context (inPhase .complete)).log,
        event.shrinks .indexer = true) ∧
      ((∃ event ∈ (reconcile context (inPhase .complete)).log,
          event.completes .indexer = true) ∨
        ∃ text, indexerCheckResult context
          (afterRollback context (inPhase .complete)) = .error text) :=
  ⟨by decide, reconcile_shrinks_drained_or_unchecked context (inPhase .complete)
    (by decide) (by decide) (by decide)⟩

/-- A drain that cannot be started, because the shards cannot be counted, lets the node go
with whatever is on it. -/
theorem unstarted_drain_removes_node :
    (indexerScaleDown contextWithoutShards (inPhase .idle)).isSome = true ∧
      ¬ FailsClosed .indexer
        (reconcile contextWithoutShards (inPhase .idle)).log := by
  decide

end Controller
end WazuhOperator
