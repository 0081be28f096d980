import WazuhOperator.System.World

namespace WazuhOperator
namespace System

open Procedure Drain Indexer Worker Controller Runs

/-!
# Was every removed indexer node drained?

When the count of the indexer goes down from `current` to `desired`, the pods
with the ordinals from `desired` on are removed.  Each of them should have
been excluded from allocation and found empty since the drain of this
scale-down began.  The drain, however, has one target, the pod with the highest
ordinal, and several courses of a pass let the count go down without it.

The ledger noted beside a run lists the pods excluded and found empty since a
drain was started.  It is closed when the scale-down it belongs to is over:
when the count goes down, and when the wanted or the existing count is changed
from outside.
-/

/-- The pods excluded, and those found empty thereafter. -/
structure Ledger where
  (excluded emptied : List String := [])

namespace Ledger

def excluding (node : String) (ledger : Ledger) : Ledger :=
  { ledger with excluded := node :: ledger.excluded }

/-- A pod counts as emptied only if it had been excluded before. -/
def emptying (node : String) (ledger : Ledger) : Ledger :=
  if node ∈ ledger.excluded then { ledger with emptied := node :: ledger.emptied } else ledger

def readsZero : Except String Nat -> Bool
  | .ok 0 => true
  | _ => false

def record (url : String) (ledger : Option Ledger) : Event -> Option Ledger
  | .drainStarted .indexer _ => some {}
  | .setExclusion client node answer =>
    if client.baseURL = url ∧ answer.applied = true then ledger.map (excluding node) else ledger
  | .shardCount client node answer =>
    if client.baseURL = url ∧ readsZero answer = true then ledger.map (emptying node) else ledger
  | .statefulSetUpdated .indexer current desired => if desired < current then none else ledger
  | .statefulSetDeleted .indexer current desired => if desired < current then none else ledger
  | _ => ledger

end Ledger

open Ledger

/-- If the event takes replicas from the indexer, all pods removed were drained. -/
def RemovesDrained (stsName : String) (ledger : Option Ledger) (event : Event) : Prop :=
  ∀ change ∈ event.shrink, change.1 = .indexer -> ∀ ordinal < change.2.1, change.2.2 ≤ ordinal ->
    ∃ entries ∈ ledger, podName stsName ordinal ∈ entries.excluded ∧
      podName stsName ordinal ∈ entries.emptied

instance (stsName : String) (ledger : Option Ledger) (event : Event) :
    Decidable (RemovesDrained stsName ledger event) :=
  inferInstanceAs (Decidable (∀ change ∈ event.shrink, _))

/-! ## The ledger along the events of a pass -/

section Recording

variable {ledger : Option Ledger}

theorem record_of_other (other : event.about ≠ some .indexer) :
    record url ledger event = ledger ∧ RemovesDrained stsName ledger event := by
  constructor
  · cases event with
    | drainStarted component node | statefulSetUpdated component current desired
    | statefulSetDeleted component current desired =>
      cases component with
      | indexer => exact absurd rfl other
      | manager => rfl
    | shardCount | setExclusion => exact absurd rfl other
    | _ => rfl
  · intro change member own
    exact absurd (Event.about_of_shrinks (Event.shrinks_of_mem member own)) other

theorem removesDrained_of_quiet (quiet : event.shrink = none) :
    RemovesDrained stsName ledger event := by
  intro change member
  rw [quiet] at member
  cases member

/-- The ledger after looking at a node: the same pods are excluded, and what was found
empty stays so. -/
def Ledger.Grows (before after : Option Ledger) : Prop :=
  ∀ later ∈ after, ∃ earlier ∈ before,
    later.excluded = earlier.excluded ∧ ∀ node ∈ earlier.emptied, node ∈ later.emptied

theorem Ledger.grows_emptying (node : String) {before after : Option Ledger}
    (grows : Grows before after) : Grows before (after.map (emptying node)) := by
  intro later member
  obtain ⟨middle, present, rfl⟩ := Option.map_eq_some_iff.mp member
  obtain ⟨earlier, inside, excluded, emptied⟩ := grows middle present
  refine ⟨earlier, inside, ?_, ?_⟩
  · rw [← excluded, emptying]
    split <;> rfl
  · intro other found
    rw [emptying]
    split
    · exact List.mem_cons_of_mem _ (emptied other found)
    · exact emptied other found

theorem Ledger.grows_of_asks {log : List Event}
    (observed : ∀ event ∈ log, ∃ drainer : IndexerDrainer, drainer.asks node event) :
    Grows ledger (run (record url) ledger log) := by
  refine run_of_step (fun state later member => ⟨later, member, rfl, fun _ found => found⟩) ?_ ledger
  intro first state event member grows
  obtain ⟨drainer, asked⟩ := observed event member
  cases event with
  | shardCount =>
    simp only [record]
    split
    · exact grows_emptying _ grows
    · exact grows
  | relocatingShards | initialCountUsed => exact grows
  | _ => cases asked

end Recording

/-! ## What the ledger covers -/

def underWay : DrainPhase -> Bool
  | .draining | .verifying | .complete => true
  | _ => false

/-- The target of a drain under way is listed as excluded, and as emptied once the drain is
complete. -/
def Ledger.Covers (ledger : Option Ledger) (status : ComponentDrainStatus) : Prop :=
  ∀ entries ∈ ledger, (underWay status.phase = true -> status.targetPod ∈ entries.excluded) ∧
    (status.phase = .complete -> status.targetPod ∈ entries.emptied)

section Covers

variable {ledger after : Option Ledger} {status : ComponentDrainStatus}

theorem Ledger.Covers.of_idle (idle : underWay status.phase = false) : Covers ledger status := by
  intro entries member
  refine ⟨fun begun => by simp [idle] at begun, fun complete => ?_⟩
  simp [complete, underWay] at idle

theorem Ledger.Covers.grow (covers : Covers ledger status)
    (grows : Grows ledger after) : Covers after status := by
  intro later member
  obtain ⟨earlier, present, excluded, emptied⟩ := grows later member
  obtain ⟨begun, complete⟩ := covers earlier present
  exact ⟨fun under => excluded ▸ begun under, fun done => emptied _ (complete done)⟩

end Covers

theorem check_covers {state after : DrainState IndexerReconciler} {log : List Event}
    {url : String} {ledger : Option Ledger}
    (effect : CheckEffect key config made answers now info state decision after log)
    (own : ∀ client ∈ checkClient config made state.memory state.status.phase, client.baseURL = url)
    (aimed : underWay state.status.phase -> state.status.targetPod = info.targetPodName ∧ ledger.isSome)
    (holds : decision ≠ .proceed) (covers : Covers ledger state.status) :
    Covers (run (record url) ledger log) after.status ∧
      Covers (run (record url) ledger log) state.status ∧
      (decision = .proceedDrained ->
        ∃ entries ∈ run (record url) ledger log,
          info.targetPodName ∈ entries.excluded ∧ info.targetPodName ∈ entries.emptied) := by
  cases effect with
  | unavailable | unsetPhase | countFailed | exclusionFailed | unverifiable | passedOver =>
    exact absurd rfl holds
  | started idle available counted excluded =>
    rename_i count client
    have ownURL : (startDrainer config client state.memory).client.baseURL = url :=
      own _ (by simp [checkClient, idle, available])
    have recorded : run (record url) ledger
        (startEvents answers info (startDrainer config client state.memory) count) =
        some (excluding info.targetPodName {}) := by
      simp [run, startEvents, record, ownURL, WriteAnswer.applied_of_toExcept excluded,
        emptying]
    rw [recorded]
    refine ⟨?_, .of_idle (by simp [idle, underWay]), by simp⟩
    intro entries member
    cases member
    exact ⟨fun _ => by simp [excluding, entered, announced, announcedStatus],
      fun complete => by simp [entered] at complete⟩
  | watched under moved target retry observed =>
    rename_i log status
    have grows : Grows ledger (run (record url) ledger log) :=
      grows_of_asks (fun event member => (observed event member).imp fun _ asked => asked.2)
    refine ⟨?_, covers.grow grows, by simp⟩
    -- A drain that is only announced stays so; of one under way the target was excluded.
    rcases under with pending | draining
    · exact .of_idle (by rw [moved, pending]; rfl)
    · have begun : Covers ledger { state.status with phase := .verifying } := by
        intro entries member
        refine ⟨fun _ => (covers entries member).1 (by simp [draining, underWay]), fun complete => ?_⟩
        cases complete
      intro entries member
      obtain ⟨excluded, -⟩ := begun.grow grows entries member
      refine ⟨fun _ => target ▸ excluded rfl, fun complete => ?_⟩
      rw [moved, draining, watchedPhase] at complete
      split at complete <;> cases complete
  | notEmpty verifying present known busy observed =>
    rename_i drainer log
    have grows : Grows ledger (run (record url) ledger log) :=
      grows_of_asks (fun event member => ⟨drainer, observed event member⟩)
    exact ⟨covers.grow grows, covers.grow grows, by simp⟩
  | verified verifying present empty settled =>
    rename_i drainer
    have ownURL : drainer.client.baseURL = url :=
      own _ (by simp [checkClient, verifying, present])
    obtain ⟨target, opened⟩ := aimed (by simp [verifying, underWay])
    obtain ⟨entries, rfl⟩ := Option.isSome_iff_exists.mp opened
    have excluded := (covers entries rfl).1 (by simp [verifying, underWay])
    rw [target] at excluded
    have recorded : run (record url) (some entries) (verifiedEvents answers info drainer) =
        some { entries with emptied := info.targetPodName :: entries.emptied } := by
      simp [run, verifiedEvents, record, ownURL, readsZero, emptying,
        excluded]
    rw [recorded, orKeep_markComplete_of_verifying now verifying]
    refine ⟨?_, ?_, fun _ => ⟨_, rfl, excluded, by simp⟩⟩
    · rintro _ ⟨⟩
      exact ⟨fun _ => by simpa [entered, target] using excluded,
        fun _ => by simp [entered, target]⟩
    · rintro _ ⟨⟩
      exact ⟨fun _ => by simpa [target] using excluded, fun _ => by simp [target]⟩
  | alreadyComplete complete =>
    obtain ⟨target, opened⟩ := aimed (by simp [complete, underWay])
    obtain ⟨entries, rfl⟩ := Option.isSome_iff_exists.mp opened
    refine ⟨covers, covers, fun _ => ⟨entries, rfl, ?_⟩⟩
    rw [← target]
    exact ⟨(covers entries rfl).1 (by simp [complete, underWay]), (covers entries rfl).2 complete⟩

/-! ## The ledger across a pass -/

section Pass

variable (ctx : PassContext) (state : PassState) (ledger : Option Ledger)

/-- The scale-down which a pass is about to make removes one node, the drain check sees it
and holds, it talks to the cluster's own OpenSearch, and a recorded drain is about this
node and was started for this scale-down. -/
structure DrainsTarget (found : StatefulSet) : Prop where
  single : found.currentReplicas = (builtIndexer ctx).currentReplicas + 1
  noticed : (indexerScaleDown ctx state).isSome = true
  holds : indexerGateHolds ctx state = true
  own : ∀ client ∈ checkClient (ctx.spec.drain.bind DrainConfiguration.indexer)
      (ctx.makeClient ctx.input.getClient) state.indexer
      (state.working.indexer.getD initializeDrainStatus).phase,
    client.baseURL = openSearchURL ctx.domain ctx.key
  aimed : ∀ status ∈ state.working.indexer, underWay status.phase = true ->
    status.targetPod = podName ctx.indexerSts (found.currentReplicas - 1) ∧ ledger.isSome = true

/-- Every scale-down of the indexer in this pass is such a one. -/
def DrainsOne : Prop :=
  ctx.spec.indexerDrainEnabled = true -> ReachesGates ctx state ->
    forall found, state.statefulSets ctx.indexerSts = some found ->
      (builtIndexer ctx).currentReplicas < found.currentReplicas -> DrainsTarget ctx state ledger found

variable {ctx state ledger} {after : Option StatefulSet} (url : String)

theorem workload_closes (workload : IndexerWorkload ctx before after log) :
    run (record url) ledger log = ledger ∨
      run (record url) ledger log = none := by
  cases workload with
  | absent | created | untouched kept => exact .inl rfl
  | updated written | deleted written | recreated written =>
    simp only [run, List.foldl_cons, List.foldl_nil, builtIndexer, record]
    split <;> simp

theorem workload_removes (workload : IndexerWorkload ctx before after log)
    (drained : forall found, before = some found ->
      ∀ ordinal < found.currentReplicas, (builtIndexer ctx).currentReplicas ≤ ordinal ->
        ∃ entries ∈ ledger, podName ctx.indexerSts ordinal ∈ entries.excluded ∧
          podName ctx.indexerSts ordinal ∈ entries.emptied) :
    Along (record url) (RemovesDrained ctx.indexerSts) ledger log := by
  have counted : forall {found : StatefulSet} {event : Event}, before = some found ->
      (∀ change ∈ event.shrink, change =
        ((builtIndexer ctx).component, found.currentReplicas, (builtIndexer ctx).currentReplicas)) ->
      RemovesDrained ctx.indexerSts ledger event := by
    intro found event present change inside member own ordinal below above
    cases change inside member
    exact drained found present ordinal below above
  cases workload with
  | absent | untouched kept => trivial
  | created => exact ⟨removesDrained_of_quiet rfl, trivial⟩
  | updated written =>
    exact ⟨counted rfl (fun change => (WorkloadEffect.updated written).change _ (by simp) change),
      trivial⟩
  | deleted written =>
    exact ⟨counted rfl (fun change => (WorkloadEffect.deleted written).change _ (by simp) change),
      trivial⟩
  | recreated written =>
    exact ⟨counted rfl (fun change => (WorkloadEffect.deleted written).change _ (by simp) change),
      removesDrained_of_quiet rfl, trivial⟩

theorem covers_of_unattended {before after : Option ComponentDrainStatus}
    (covers : ∀ status ∈ before, Covers ledger status)
    (moved : Unattended now before after) : ∀ status ∈ after, Covers ledger status := by
  rcases moved.phase with same | ⟨status, present, failed | pending⟩
  · rw [same]
    exact covers
  · rw [present]
    rintro _ ⟨⟩
    exact .of_idle (by rw [failed]; rfl)
  · rw [present]
    rintro _ ⟨⟩
    exact .of_idle (by rw [pending]; rfl)

theorem rolledBack_of_gateHolds (holds : indexerGateHolds ctx state) :
    indexerDrainState (afterRollback ctx state) = indexerDrainState state := by
  have different : (state.working.indexer.getD initializeDrainStatus).phase ≠ .rollingBack := by
    intro rollingBack
    simp [indexerGateHolds, rollingBack, gateHolds] at holds
  exact indexerDrainState_afterRollback ctx state different

theorem pass_check_covers (covers : ∀ status ∈ state.working.indexer, Covers ledger status)
    (target : info.targetPodName = podName ctx.indexerSts (sts.currentReplicas - 1))
    (drains : DrainsTarget ctx state ledger sts)
    (effect : IndexerEffect ctx (afterRollback ctx state) info decision drain log) :
    let after := run (record (openSearchURL ctx.domain ctx.key)) ledger log
    Covers after drain.status ∧
      (∀ status ∈ state.working.indexer, Covers after status) ∧
      (decision = .proceedDrained ->
        ∃ entries ∈ after, info.targetPodName ∈ entries.excluded ∧
          info.targetPodName ∈ entries.emptied) := by
  have onward : decision ≠ .proceed := by
    intro proceeds
    have undrained := (proceed_iff_not_indexerGateHolds effect).mp proceeds
    simp [drains.holds] at undrained
  rw [IndexerEffect, rolledBack_of_gateHolds drains.holds] at effect
  have entry : Covers ledger (indexerDrainState state).status ∧
      (underWay (indexerDrainState state).status.phase ->
        (indexerDrainState state).status.targetPod = info.targetPodName ∧ ledger.isSome) := by
    simp only [indexerDrainState]
    cases present : state.working.indexer with
    | none => exact ⟨.of_idle rfl, fun begun => by cases begun⟩
    | some status => exact ⟨covers status present, target ▸ drains.aimed status present⟩
  obtain ⟨later, before, listed⟩ := check_covers effect drains.own entry.2 onward entry.1
  refine ⟨later, ?_, listed⟩
  intro status present
  simpa [indexerDrainState, Option.mem_def.mp present] using before

theorem drainsTarget_of_pending (met : DrainsOne ctx state ledger)
    (reaches : ReachesGates ctx state) (pending : indexerScaleDown ctx state = some info) :
    ∃ sts, state.statefulSets ctx.indexerSts = some sts ∧ DrainsTarget ctx state ledger sts ∧
      info.targetPodName = podName ctx.indexerSts (sts.currentReplicas - 1) := by
  obtain ⟨sts, count, present, wanted, read, on, smaller, named⟩ := pendingScaleDown_eq_some pending
  refine ⟨sts, present, met on reaches sts present ?_, ?_⟩
  · rw [builtIndexer_currentReplicas wanted]
    exact smaller
  · rw [named]
    exact detect_targetPodName _ sts count smaller

theorem covers_of_workload {status : ComponentDrainStatus}
    (workload : IndexerWorkload ctx before after log) (covers : Covers ledger status) :
    Covers (run (record url) ledger log) status := by
  rcases workload_closes url workload with same | closed
  · rw [same]
    exact covers
  · rw [closed]
    intro entries member
    cases member

theorem course_drained {after : PassState}
    (fresh : state.persisted.indexer = state.working.indexer)
    (covers : ∀ status ∈ state.working.indexer, Covers ledger status)
    (met : DrainsOne ctx state ledger) (course : IndexerCourse ctx state after log) :
    (∀ status ∈ after.persisted.indexer,
      Covers (run (record (openSearchURL ctx.domain ctx.key)) ledger log) status) ∧
      (ctx.spec.indexerDrainEnabled ->
        Along (record (openSearchURL ctx.domain ctx.key)) (RemovesDrained ctx.indexerSts)
          ledger log) := by
  cases course with
  | unreached skipped found drainer persisted =>
    refine ⟨?_, fun _ => trivial⟩
    rcases persisted with same | moved
    · rw [same, fresh]
      exact covers
    · exact covers_of_unattended covers moved
  | unchecked reaches absent workload _ persisted =>
    constructor
    · intro status present
      refine covers_of_workload _ workload ?_
      rcases persisted with same | moved
      · exact covers status (by rw [← fresh, ← same]; exact present)
      · have unattended : Unattended ctx.input.now _ _ := .rollback moved
        exact covers_of_unattended covers unattended status present
    · intro enabled
      refine workload_removes _ workload ?_
      intro sts present ordinal below above
      -- A scale-down the check does not see is not of the required kind.
      have noticed := (met enabled reaches sts present (Nat.lt_of_le_of_lt above below)).noticed
      simp [absent] at noticed
  | waited reaches pending effect _ _ persisted =>
    obtain ⟨sts, present, drains, target⟩ := drainsTarget_of_pending met reaches pending
    obtain ⟨later, before, -⟩ := pass_check_covers covers target drains effect
    constructor
    · rw [persisted]
      split
      · rintro _ ⟨⟩
        exact later
      · rw [fresh]
        exact before
    · intro enabled
      exact along_of_forall
        (fun event member _ => removesDrained_of_quiet (effect.frame.quiet event member).1) ledger
  | undrained reaches pending effect =>
    obtain ⟨sts, present, drains, target⟩ := drainsTarget_of_pending met reaches pending
    have undrained := (proceed_iff_not_indexerGateHolds effect).mp rfl
    simp [drains.holds] at undrained
  | drained reaches pending effect workload drainer persisted =>
    rename_i info drain first later
    obtain ⟨sts, present, drains, target⟩ := drainsTarget_of_pending met reaches pending
    obtain ⟨covered, before, listed⟩ := pass_check_covers covers target drains effect
    constructor
    · intro status member
      have recorded : Covers (run (record (openSearchURL ctx.domain ctx.key))
          ledger first) status := by
        rcases persisted with same | written
        · exact before status (by rw [← fresh, ← same]; exact member)
        · rw [written] at member
          cases member
          exact covered
      have closed := covers_of_workload (openSearchURL ctx.domain ctx.key) workload recorded
      rw [run_append]
      exact closed
    · intro enabled
      rw [along_append]
      refine ⟨along_of_forall
        (fun event inside _ => removesDrained_of_quiet (effect.frame.quiet event inside).1) ledger,
        removesDrained_of_quiet rfl, ?_⟩
      refine workload_removes _ workload ?_
      intro other found ordinal below above
      -- One node is removed, and it is the target of the drain.
      cases found.symm.trans present
      have only : ordinal = sts.currentReplicas - 1 := by
        have single := drains.single
        omega
      rw [only, ← target]
      exact listed rfl

theorem pass_drained (fresh : state.persisted.indexer = state.working.indexer)
    (covers : ∀ status ∈ state.working.indexer, Covers ledger status)
    (met : DrainsOne ctx state ledger) :
    (∀ status ∈ (reconcile ctx state).state.persisted.indexer,
      Covers (run (record (openSearchURL ctx.domain ctx.key)) ledger
        (reconcile ctx state).log) status) ∧
      (ctx.spec.indexerDrainEnabled ->
        Along (record (openSearchURL ctx.domain ctx.key)) (RemovesDrained ctx.indexerSts)
          ledger (reconcile ctx state).log) := by
  have dropped : forall (before : Option Ledger) (event : Event),
      decide (event.about = some .indexer) = false ->
        record (openSearchURL ctx.domain ctx.key) before event = before ∧
          RemovesDrained ctx.indexerSts before event :=
    fun before event other => record_of_other (by simpa using other)
  obtain ⟨sameRun, sameAlong⟩ := run_along_filter dropped (reconcile ctx state).log ledger
  rw [← sameRun, ← sameAlong]
  exact course_drained fresh covers met (reconcile_indexerCourse ctx state)

end Pass

/-! ## Runs -/

abbrev Ledgers := ClusterKey -> Option Ledger

def wantedIndexers (spec : ClusterSpec) : Option Nat := spec.indexer.map IndexerSpec.desiredReplicas

/-- A pass adds its events to the ledger of its cluster.  A change of the wanted or of the
existing count from outside makes another scale-down of it, for which nothing was done. -/
def noteLedger (world : World) (taken : Step) (ledgers : Ledgers) : Ledgers :=
  match taken with
  | .pass key input =>
    Function.update ledgers key
      (run (record (openSearchURL world.domain key)) (ledgers key)
        (world.outcome key input).log)
  | .editSpec key spec =>
    if wantedIndexers spec = wantedIndexers (world.clusters key).spec then ledgers
    else Function.update ledgers key none
  | .changeStatefulSet nspace name found =>
    if found.map StatefulSet.currentReplicas =
        (world.statefulSets nspace name).map StatefulSet.currentReplicas then ledgers
    else fun key => if key.nspace = nspace ∧ indexerName key.name = name then none else ledgers key
  | _ => ledgers

def RemovesDrainedNodes (state : Noted Ledgers) : Step -> Prop
  | .pass key input =>
    (state.world.clusters key).spec.indexerDrainEnabled = true ->
      Along (record (openSearchURL state.world.domain key))
        (RemovesDrained (indexerName key.name)) (state.notes key) (state.world.outcome key input).log
  | _ => True

/-- Every scale-down which a pass is about to make is by one node, through a drain check
that holds, with a recorded drain that fits. -/
def ScalesDownByDrain (state : Noted Ledgers) : Step -> Prop
  | .pass key input =>
    DrainsOne (state.world.context key input) (state.world.passState key) (state.notes key)
  | _ => True

def LedgersCover (state : Noted Ledgers) : Prop :=
  forall key, ∀ status ∈ (state.world.drains key).indexer, Covers (state.notes key) status

theorem ledgersCover_step (state : Noted Ledgers) (taken : Step) (covers : LedgersCover state)
    (met : ScalesDownByDrain state taken) : LedgersCover (state.step noteLedger taken) := by
  cases taken with
  | pass key input =>
    intro other status present
    by_cases same : other = key
    · subst same
      have written : status ∈ (state.world.outcome other input).state.persisted.indexer := by
        simpa [Noted.step, World.step, World.afterPass] using present
      simp only [Noted.step, noteLedger, Function.update_self]
      exact (pass_drained rfl (covers other) met).1 status written
    · have before : status ∈ (state.world.drains other).indexer := by
        simpa [Noted.step, World.step, World.afterPass, Function.update_of_ne same] using present
      simpa [Noted.step, noteLedger, Function.update_of_ne same] using covers other status before
  | editSpec key =>
    intro other status present
    have before := covers other status present
    simp only [Noted.step, noteLedger]
    split
    · exact before
    · by_cases same : other = key
      · subst same
        rw [Function.update_self]
        intro entries member
        cases member
      · rw [Function.update_of_ne same]
        exact before
  | changeStatefulSet =>
    intro other status present
    have before := covers other status present
    simp only [Noted.step, noteLedger]
    split
    · exact before
    · beta_reduce
      split
      · intro entries member
        cases member
      · exact before
  | rotateCredentials | restartOperator => exact covers

/-- In every run whose scale-downs are of the required kind, each node is drained before it
is removed. -/
theorem removed_nodes_drained (domain : String) (clusters : ClusterKey -> ClusterObject)
    (sets : String -> String -> Option StatefulSet) (steps : List Step)
    (met : Along (Noted.step noteLedger) ScalesDownByDrain
      ⟨World.start domain clusters sets, fun _ => none⟩ steps) :
    Along (Noted.step noteLedger) RemovesDrainedNodes
      ⟨World.start domain clusters sets, fun _ => none⟩ steps := by
  refine along_of_invariant ledgersCover_step ?_ steps _ ?_ met
  · intro state taken covers met
    cases taken with
    | pass key => exact fun enabled => (pass_drained rfl (covers key) met).2 enabled
    | editSpec | rotateCredentials | changeStatefulSet | restartOperator => trivial
  · intro key status present
    cases present

/-! ## Scale-downs by one node and by two -/

namespace Sample

def unledgered (indexers : Nat) : Noted Ledgers := ⟨world indexers 2, fun _ => none⟩

/-- Enough passes for a drain in which nothing goes wrong. -/
def threePasses : List Step := [pass first, pass first, pass first]

theorem threePasses_scalesDownByDrain :
    Along (Noted.step noteLedger) ScalesDownByDrain (unledgered 3) threePasses := by
  refine ⟨?_, ?_, ?_, trivial⟩
  all_goals
    intro enabled reaches found present smaller
    cases present
    exact ⟨by decide, by decide, by decide, by decide, by decide⟩

end Sample

open Sample

/-- The third of three nodes is excluded, found empty and removed. -/
theorem removed_nodes_drained_single :
    Along (Noted.step noteLedger) ScalesDownByDrain (unledgered 3) threePasses ∧
      Along (Noted.step noteLedger) RemovesDrainedNodes (unledgered 3) threePasses :=
  ⟨threePasses_scalesDownByDrain,
    removed_nodes_drained _ _ _ threePasses threePasses_scalesDownByDrain⟩

/-- Of four nodes the fourth is drained, and the third is removed with it. -/
theorem second_node_removed_undrained :
    ¬ Along (Noted.step noteLedger) RemovesDrainedNodes (unledgered 4)
      threePasses := by
  rintro ⟨-, -, removed, -⟩
  have drained := removed rfl
  revert drained
  decide

end System
end WazuhOperator
