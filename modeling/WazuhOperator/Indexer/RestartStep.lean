import WazuhOperator.Indexer.Restart
import WazuhOperator.Rolling.Quorum

namespace WazuhOperator
namespace Indexer

open Procedure Proc Rolling List

/-!
# Which pod a rolling restart deletes

A call of `OrchestrateRollingRestart` goes over one StatefulSet or over those of all
node pools.  It ends with the first deletion, since the orchestrator then reports a
restart in progress.
-/

/-- An outdated pod of the StatefulSet with the greatest ordinal, while all of its pods
are ready and the indexer is found healthy. -/
def RightPod (desiredNodes : Nat) (view : RestartView) (name : String) : Prop :=
  exists pods pod client reconciler reason, view.listed = .ok pods ∧ pod.name = name ∧
    pod ∈ outdatedPods view.set pods ∧
    (∀ other ∈ outdatedPods view.set pods,
      extractOrdinal other.name ≤ extractOrdinal pod.name) ∧
    (∀ owned ∈ ownedPods view.set pods, isPodReady owned = true) ∧
    (indexerIsHealthyForRestart client desiredNodes view.health
      (reconciler : IndexerReconciler)).result = .ok (true, reason)

/-- Nothing has been deleted, or only the right pod of one of the StatefulSets. -/
def DeletesRight (desiredNodes : Nat) (views : List RestartView) (log : List Event) : Prop :=
  log.filterMap Event.deletedPod = [] ∨
    ∃ view ∈ views, exists name, RightPod desiredNodes view name ∧
      log.filterMap Event.deletedPod = [name]

theorem greatest_of_deletionOrder (first : (deletionOrder true pods).head? = some pod) :
    pod ∈ pods ∧ ∀ other ∈ pods, extractOrdinal other.name ≤ extractOrdinal pod.name := by
  have sorted := pairwise_insertionSort
    (fun left right : Pod => extractOrdinal right.name ≤ extractOrdinal left.name) pods
  rcases head?_eq_some_iff.mp first with ⟨rest, order⟩
  have member (other : Pod) := @mem_deletionOrder true other pods
  rw [order] at member
  rw [show pods.insertionSort _ = pod :: rest from order, pairwise_cons] at sorted
  refine ⟨(member pod).mp mem_cons_self, fun other listed => ?_⟩
  rcases mem_cons.mp ((member other).mpr listed) with same | later
  · rw [same]
  · exact sorted.1 other later

section Call

variable {client : Client}

theorem orchestrateSet_deletes (clean : past.filterMap Event.deletedPod = []) (view : RestartView)
    (reconciler : IndexerReconciler) :
    Leads (fun result _ log => log.filterMap Event.deletedPod = [] ∨
        (exists name, RightPod desiredNodes view name ∧ log.filterMap Event.deletedPod = [name]) ∧
          forall value, result = .ok value -> value.phase = .inProgress)
      (orchestrateSet client desiredNodes view) past reconciler := by
  rw [Leads, filterMap_append, clean, nil_append, orchestrateSet]
  cases listed : view.listed with
  | error => exact .inl (by unfold orchestrateRestart; split <;> simp)
  | ok pods =>
    let checker := indexerHealthChecker IndexerReconciler client desiredNodes view.health
    cases decided : restartDeletes view.set pods (checker.isHealthyForRestart reconciler).result
        view.deletion with
    | false =>
      exact .inl (orchestrateRestart_waits view.set pods checker view.deletion true reconciler
        decided)
    | true =>
      rcases orchestrateRestart_deletes view.set pods checker view.deletion true reconciler
        decided with ⟨⟨pod, -, deleted, first, busy⟩, ready⟩
      rcases greatest_of_deletionOrder first with ⟨outdated, greatest⟩
      rcases said : (checker.isHealthyForRestart reconciler).result with _ | ⟨healthy, reason⟩
      · simp [restartDeletes, said] at decided
      · cases healthy with
        | false => simp [restartDeletes, said] at decided
        | true =>
          exact .inr ⟨⟨pod.name, ⟨pods, pod, client, reconciler, reason, listed, rfl,
            outdated, greatest, ready, said⟩, deleted⟩, busy⟩

theorem orchestratePools_deletes (clean : past.filterMap Event.deletedPod = []) (pools : List NodePool)
    (among : ∀ pool ∈ pools, view pool.name ∈ views) : forall total updated reconciler,
    Leads (fun _ _ log => DeletesRight desiredNodes views log)
      (orchestratePools client desiredNodes view pools total updated) past reconciler := by
  induction pools generalizing past with
  | nil =>
    intro total updated reconciler
    unfold orchestratePools
    split
    · exact leads_pure (.inl clean)
    · exact leads_pure (.inl clean)
  | cons pool pools ih =>
    intro total updated reconciler
    have later := forall_mem_of_forall_mem_cons among
    unfold orchestratePools
    split
    · exact ih clean later _ _ _
    · dsimp only
      split
      · exact ih clean later _ _ _
      · apply leads_bind
        apply leads_mapError
        apply leads_imp (orchestrateSet_deletes clean (view pool.name) reconciler)
        intro result after log ended
        rcases ended with nothing | ⟨⟨name, right⟩, busy⟩
        · cases result with
          | error => exact .inl nothing
          | ok result =>
            simp only [Except.mapError, Onward]
            split
            · exact leads_pure (.inl nothing)
            · exact ih nothing later _ _ _
        · have deleted : DeletesRight desiredNodes views log :=
            .inr ⟨view pool.name, among pool mem_cons_self, name, right⟩
          cases result with
          | error => exact deleted
          | ok result =>
            simp only [Except.mapError, Onward, busy result rfl, if_true]
            exact leads_pure deleted

theorem leads_cachedClient_bind {α : Type} {made : Except String Client}
    {next : Option Client -> Proc IndexerReconciler Event α}
    {post : Except String α -> IndexerReconciler -> List Event -> Prop}
    (leads : forall after, Leads post (next after.osClient) past after) (reconciler : IndexerReconciler) :
    Leads post (cachedClient made >>= next) past reconciler := by
  apply leads_bind
  apply leads_attempt_bind
  rw [Leads, ensureOpenSearchClient_apply]
  apply leads_read_bind
  apply leads_pure
  cases startClient made reconciler with
  | error => simpa [Onward] using leads reconciler
  | ok client => simpa [Onward] using leads { reconciler with osClient := some client }

end Call

def restartedViews (spec : ClusterSpec) (input : RestartInput) : List RestartView :=
  match spec.indexer with
  | none => []
  | some indexer =>
    if indexer.isAdvancedMode then indexer.nodePools.map (fun pool => input.pool pool.name)
    else [input.simple]

def restartedNodes (spec : ClusterSpec) : Nat :=
  match spec.indexer with
  | none => 0
  | some indexer => if indexer.isAdvancedMode then indexer.getTotalReplicas else indexer.replicas

/-- One call of `OrchestrateRollingRestart`, over one StatefulSet or all node pools,
deletes at most one pod, and only a right one. -/
theorem restart_deletes_one_right_pod (spec : ClusterSpec) (made : Except String Client)
    (input : RestartInput) (reconciler : IndexerReconciler) :
    DeletesRight (restartedNodes spec) (restartedViews spec input)
      (orchestrateRollingRestart spec made input reconciler).log := by
  have ran : Leads (fun _ _ log => DeletesRight (restartedNodes spec) (restartedViews spec input) log)
      (orchestrateRollingRestart spec made input) [] reconciler := by
    unfold orchestrateRollingRestart restartedNodes restartedViews
    cases spec.indexer with
    | none => exact leads_pure (.inl rfl)
    | some indexer =>
      dsimp only
      split
      · apply leads_cachedClient_bind
        intro after
        cases after.osClient with
        | none => exact leads_pure (.inl rfl)
        | some client =>
          exact orchestratePools_deletes rfl indexer.nodePools
            (fun pool member => mem_map.mpr ⟨pool, member, rfl⟩) 0 0 after
      · apply leads_bind
        apply leads_mapError
        apply leads_ofExcept
        cases input.simple.get with
        | error => exact .inl rfl
        | ok =>
          simp only [Except.mapError, Onward]
          split
          · exact leads_pure (.inl rfl)
          · apply leads_cachedClient_bind
            intro after
            cases after.osClient with
            | none => exact leads_pure (.inl rfl)
            | some client =>
              apply leads_bind
              apply leads_mapError
              apply leads_imp (orchestrateSet_deletes rfl input.simple after)
              intro result after log ended
              have right : DeletesRight indexer.replicas [input.simple] log := by
                simpa [DeletesRight] using ended.imp_right And.left
              cases result with
              | error => exact right
              | ok => exact leads_pure right
  simpa [Leads] using ran

end Indexer
end WazuhOperator
