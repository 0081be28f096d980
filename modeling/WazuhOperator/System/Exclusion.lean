import WazuhOperator.System.World

namespace WazuhOperator
namespace System

open Procedure Drain Indexer Worker Controller Runs List

/-!
# Does a drained node stay excluded until it is removed?

OpenSearch may move shards to any node that the allocation exclusion does not
name.  A node that was found empty should therefore stay excluded until the
StatefulSet has been told to remove it.  The drain check however clears the
exclusion as soon as the node is verified, before the StatefulSet is touched.

The notes beside a run hold the exclusion setting behind every address and,
for each cluster, the nodes found empty and not removed yet.
-/

/-- The allocation exclusion behind each address, and the nodes of each cluster that wait
for their removal after they were found empty. -/
@[ext] structure Watch where
  excluded : String -> Option String
  waiting : ClusterKey -> List String

/-- The pods removed when the count of a StatefulSet goes from one number to another. -/
def removedPods (stsName : String) (current desired : Nat) : List String :=
  ((range current).drop desired).map (podName stsName)

def stillWaiting (stsName : String) (nodes : List String) : Event -> List String
  | .drainVerified .indexer node => node :: nodes
  | .statefulSetUpdated .indexer current desired | .statefulSetDeleted .indexer current desired =>
    nodes.filter (fun node => decide (node ∉ removedPods stsName current desired))
  | _ => nodes

variable {log : List Event}

namespace Watch

def record (key : ClusterKey) (watch : Watch) (event : Event) : Watch where
  excluded := fun url => event.applyExclusion url (watch.excluded url)
  waiting := Function.update watch.waiting key
    (stillWaiting (indexerName key.name) (watch.waiting key) event)

def Guarded (domain : String) (watch : Watch) : Prop :=
  forall key, ∀ node ∈ watch.waiting key, watch.excluded (openSearchURL domain key) = some node

/-- An event which neither writes the exclusion setting nor makes a node wait. -/
def leavesAllocation : Event -> Bool
  | .setExclusion _ _ _ | .clearExclusion _ _ => false
  | .drainVerified component _ => component = .manager
  | _ => true

/-- The exclusion is written only where no node waits, and a node is found empty only
while it is excluded. -/
def Admits (domain : String) (key : ClusterKey) (watch : Watch) : Event -> Prop
  | .setExclusion client _ answer | .clearExclusion client answer =>
    answer.applied = true ->
      forall other, openSearchURL domain other = client.baseURL -> watch.waiting other = []
  | .drainVerified .indexer node => watch.excluded (openSearchURL domain key) = some node
  | _ => True

section Events

variable {domain : String} {key : ClusterKey} {watch : Watch}

theorem record_waiting_of_ne (different : other ≠ key) :
    (watch.record key event).waiting other = watch.waiting other :=
  Function.update_of_ne different _ _

variable (leaves : leavesAllocation event = true)
include leaves

theorem mem_of_mem_stillWaiting
    (member : node ∈ stillWaiting stsName nodes event) : node ∈ nodes := by
  cases event with
  | drainVerified component =>
    cases component with
    | indexer => cases leaves
    | manager => exact member
  | statefulSetUpdated component current desired | statefulSetDeleted component current desired =>
    cases component with
    | indexer => exact (mem_filter.mp member).1
    | manager => exact member
  | _ => exact member

theorem admits_of_leaves : watch.Admits domain key event := by
  cases event with
  | setExclusion | clearExclusion => cases leaves
  | drainVerified component node =>
    cases component with
    | indexer => cases leaves
    | manager => trivial
  | _ => trivial

/-- The setting stays and nodes are let go at most. -/
def Subsides (before after : Watch) : Prop :=
  after.excluded = before.excluded ∧ forall key, ∀ node ∈ after.waiting key, node ∈ before.waiting key

theorem subsides_record :
    watch.Subsides (watch.record key event) := by
  constructor
  · funext url
    cases event with
    | setExclusion | clearExclusion => cases leaves
    | _ => rfl
  · intro other node member
    by_cases same : other = key
    · subst same
      simp only [record, Function.update_self] at member
      exact mem_of_mem_stillWaiting leaves member
    · rwa [record_waiting_of_ne same] at member

variable {log : List Event}

omit leaves

theorem subsides_run (leaves : ∀ event ∈ log, leavesAllocation event) :
    watch.Subsides (run (record key) watch log) := by
  refine run_of_step (fun state => ⟨rfl, fun _ _ member => member⟩) ?_ watch
  intro first state event member subsided
  have later : state.Subsides (state.record key event) := subsides_record (leaves event member)
  exact ⟨later.1.trans subsided.1,
    fun other node inside => subsided.2 other node (later.2 other node inside)⟩

theorem guarded_of_subsides {after : Watch} (guarded : watch.Guarded domain)
    (subsides : watch.Subsides after) : after.Guarded domain := by
  intro other node member
  rw [subsides.1]
  exact guarded other node (subsides.2 other node member)

theorem guarded_record (guarded : watch.Guarded domain) (admitted : watch.Admits domain key event) :
    (watch.record key event).Guarded domain := by
  have unmoved : stillWaiting (indexerName key.name) (watch.waiting key) event = watch.waiting key ->
      (watch.record key event).waiting = watch.waiting := by
    intro same
    simp only [record, same, Function.update_eq_self]
  cases event with
  | setExclusion | clearExclusion =>
    intro other node member
    rw [unmoved rfl] at member
    change ite _ _ _ = some node
    split
    · rename_i hit
      rw [admitted hit.2 other hit.1.symm] at member
      cases member
    · exact guarded other node member
  | drainVerified component =>
    cases component with
    | manager => exact guarded_of_subsides guarded (subsides_record rfl)
    | indexer =>
      intro other node member
      by_cases same : other = key
      · subst same
        simp only [record, Function.update_self, stillWaiting, mem_cons] at member
        rcases member with rfl | earlier
        · exact admitted
        · exact guarded other node earlier
      · rw [record_waiting_of_ne same] at member
        exact guarded other node member
  | _ => exact guarded_of_subsides guarded (subsides_record rfl)

/-- While all events are admitted every waiting node stays excluded. -/
theorem throughout_guarded (guarded : watch.Guarded domain)
    (admitted : Along (record key) (Admits domain key) watch log) :
    Throughout (record key) (Guarded domain) watch log :=
  throughout_of_invariant (fun _ _ => guarded_record) (fun _ holds => holds) log watch guarded
    admitted

theorem along_admits (leaves : ∀ event ∈ log, leavesAllocation event) :
    Along (record key) (Admits domain key) watch log :=
  along_of_forall (fun event member _ => admits_of_leaves (leaves event member)) watch

end Events

/-! ## One drain check -/

/-- A drain under way excludes its target, and only a drain found to be over lets a node
wait. -/
structure Fits (watch : Watch) (url : String) (key : ClusterKey) (status : ComponentDrainStatus) :
    Prop where
  aimed : status.phase = .draining ∨ status.phase = .verifying ->
    watch.excluded url = some status.targetPod
  finished : watch.waiting key ≠ [] -> status.phase = .verifying ∨ status.phase = .complete

variable {watch : Watch} {key : ClusterKey} {status : ComponentDrainStatus}

theorem Fits.subside {after : Watch} (fits : watch.Fits url key status)
    (subsides : watch.Subsides after) : after.Fits url key status := by
  constructor
  · intro under
    rw [subsides.1]
    exact fits.aimed under
  · intro occupied
    rcases exists_mem_of_ne_nil _ occupied with ⟨node, member⟩
    exact fits.finished (ne_nil_of_mem (subsides.2 key node member))

theorem Fits.of_free (free : watch.waiting key = [])
    (under : ¬ (status.phase = .draining ∨ status.phase = .verifying)) : watch.Fits url key status :=
  ⟨fun begun => absurd begun under, fun occupied => absurd free occupied⟩

/-- Before a drain is found to be over no node waits. -/
theorem Fits.free (fits : watch.Fits url key status)
    (unfinished : ¬ (status.phase = .verifying ∨ status.phase = .complete)) :
    watch.waiting key = [] := by
  by_contra occupied
  exact unfinished (fits.finished occupied)

section Check

variable {key : ClusterKey} {info : ScaleDownInfo}
variable {drainer : IndexerDrainer} {watch : Watch}

theorem run_startEvents {count : Nat} :
    run (record key) watch (startEvents answers info drainer count) =
      { watch with
        excluded := fun url =>
          if drainer.client.baseURL = url ∧ answers.setExclusion.applied = true then
            some info.targetPodName
          else watch.excluded url } := by
  simp [run, startEvents, record, stillWaiting, Event.applyExclusion]

theorem run_verifiedEvents (refused : answers.clearExclusion.applied = false) :
    run (record key) watch (verifiedEvents answers info drainer) =
      { watch with
        waiting := Function.update watch.waiting key (info.targetPodName :: watch.waiting key) } := by
  simp [run, verifiedEvents, record, stillWaiting, Event.applyExclusion, refused]

/-- What events do to the watch over all clusters, seen from a pass over one of them whose
drain goes from one status to another. -/
structure Watches (domain : String) (key : ClusterKey) (watch : Watch) (log : List Event)
    (before after : ComponentDrainStatus) : Prop where
  admitted : Along (record key) (Admits domain key) watch log
  unwritten : (run (record key) watch log).Fits (openSearchURL domain key) key before
  written : (run (record key) watch log).Fits (openSearchURL domain key) key after
  others : forall other status, other ≠ key -> watch.Fits (openSearchURL domain other) other status ->
    (run (record key) watch log).Fits (openSearchURL domain other) other status

variable {domain : String} {after : ComponentDrainStatus}

theorem Watches.of_leaves (leaves : ∀ event ∈ log, leavesAllocation event)
    (unwritten : watch.Fits (openSearchURL domain key) key before)
    (written : watch.Fits (openSearchURL domain key) key after) :
    Watches domain key watch log before after where
  admitted := along_admits leaves
  unwritten := unwritten.subside (subsides_run leaves)
  written := written.subside (subsides_run leaves)
  others := fun _ _ _ fits => fits.subside (subsides_run leaves)

theorem watches_startEvents {count : Nat}
    (own : drainer.client.baseURL = openSearchURL domain key)
    (alone : forall other, openSearchURL domain other = openSearchURL domain key -> other = key)
    (idle : before.phase = .idle) (fits : watch.Fits (openSearchURL domain key) key before)
    (aimed : after.phase = .draining ∨ after.phase = .verifying ->
      answers.setExclusion.applied ∧ after.targetPod = info.targetPodName) :
    Watches domain key watch (startEvents answers info drainer count) before after := by
  have free : watch.waiting key = [] := fits.free (by simp [idle])
  constructor
  · refine ⟨trivial, trivial, trivial, ?_, trivial⟩
    intro applied other same
    have only := alone other (same.trans own)
    subst only
    simpa [record, stillWaiting] using free
  · rw [run_startEvents]
    exact .of_free free (by simp [idle])
  · rw [run_startEvents]
    refine ⟨fun under => ?_, fun occupied => absurd free occupied⟩
    simp [own, aimed under]
  · intro other status different othersFit
    have elsewhere : drainer.client.baseURL ≠ openSearchURL domain other :=
      fun same => different (alone other (same.symm.trans own))
    rw [run_startEvents]
    refine ⟨fun under => ?_, othersFit.finished⟩
    simpa [elsewhere] using othersFit.aimed under

theorem watches_verifiedEvents
    (refused : answers.clearExclusion.applied = false) (verifying : before.phase = .verifying)
    (aimed : before.targetPod = info.targetPodName)
    (fits : watch.Fits (openSearchURL domain key) key before) (complete : after.phase = .complete) :
    Watches domain key watch (verifiedEvents answers info drainer) before after := by
  have excluded : watch.excluded (openSearchURL domain key) = some info.targetPodName := by
    rw [← aimed]
    exact fits.aimed (.inr verifying)
  constructor
  · refine ⟨trivial, trivial, trivial, ?_, ?_, trivial⟩
    · simpa [Admits, record, Event.applyExclusion] using excluded
    · intro applied
      simp [refused] at applied
  · rw [run_verifiedEvents refused]
    exact ⟨fits.aimed, fun _ => .inl verifying⟩
  · rw [run_verifiedEvents refused]
    refine ⟨fun under => ?_, fun _ => .inr complete⟩
    simp [complete] at under
  · intro other status different othersFit
    rw [run_verifiedEvents refused]
    refine ⟨othersFit.aimed, fun occupied => othersFit.finished ?_⟩
    simpa [Function.update_of_ne different] using occupied

theorem check_watches {config : Option IndexerDrainConfig} {made : Except String Client}
    {now : Time} {state after : DrainState IndexerReconciler} {decision : Verdict}
    (effect : CheckEffect key config made answers now info state decision after log)
    (own : ∀ client ∈ checkClient config made state.memory state.status.phase, client.baseURL = openSearchURL domain key)
    (alone : forall other, openSearchURL domain other = openSearchURL domain key -> other = key)
    (aimed : state.status.phase = .verifying -> state.status.targetPod = info.targetPodName)
    (refused : state.status.phase = .verifying -> emptied answers -> answers.clearExclusion.applied = false)
    (fits : watch.Fits (openSearchURL domain key) key state.status) :
    Watches domain key watch log state.status after.status := by
  have looksOnly : forall {phase : DrainPhase} {rest : List Event},
      (∀ event ∈ rest, ∃ drainer : IndexerDrainer, drainer.asks info.targetPodName event) ->
      ∀ event ∈ Event.scaleDownEvaluated .indexer phase :: rest, leavesAllocation event := by
    intro phase rest observed event member
    rcases mem_cons.mp member with rfl | inside
    · rfl
    · rcases observed event inside with ⟨drainer, asks⟩
      cases event with
      | shardCount | relocatingShards | initialCountUsed => rfl
      | _ => cases asks
  cases effect with
  | unavailable | unsetPhase | alreadyComplete | passedOver => exact .of_leaves (by simp [leavesAllocation]) fits fits
  | countFailed idle =>
    have announcedFits : watch.Fits (openSearchURL domain key) key (announced now info state.status) :=
      .of_free (fits.free (by simp [idle])) (by simp [announced, announcedStatus])
    exact .of_leaves (by simp [leavesAllocation]) fits announcedFits
  | exclusionFailed idle available =>
    refine watches_startEvents (own _ (by simp [checkClient, idle, available])) alone idle fits ?_
    intro under
    simp [announced, announcedStatus] at under
  | started idle available _ excluded =>
    refine watches_startEvents (own _ (by simp [checkClient, idle, available])) alone idle fits ?_
    intro under
    exact ⟨WriteAnswer.applied_of_toExcept excluded, rfl⟩
  | watched under moved target _ observed =>
    refine .of_leaves (looksOnly fun event member => ?_) fits ?_
    · rcases observed event member with ⟨drainer, held, asks⟩
      exact ⟨drainer, asks⟩
    have free : watch.waiting key = [] :=
      fits.free (by rcases under with phase | phase <;> simp [phase])
    refine ⟨fun begun => ?_, fun occupied => absurd free occupied⟩
    rw [target]
    rcases under with pending | draining
    · rw [moved, pending] at begun
      simp [watchedPhase] at begun
    · exact fits.aimed (.inl draining)
  | unverifiable _ _ observed =>
    refine .of_leaves (looksOnly fun event member => ?_) fits fits
    rcases observed event member with ⟨drainer, held, asks⟩
    exact ⟨drainer, asks⟩
  | notEmpty _ _ _ _ observed =>
    exact .of_leaves (looksOnly fun event member => ⟨_, observed event member⟩) fits fits
  | verified verifying _ empty settled =>
    have empties : emptied answers := by simp [emptied, empty, settled]
    refine watches_verifiedEvents (refused verifying empties) verifying (aimed verifying) fits ?_
    rw [orKeep_markComplete_of_verifying now verifying]
    rfl

end Check

/-! ## One pass -/

section Pass

variable {domain : String} {key : ClusterKey} {watch : Watch} {log : List Event}
variable {after : ComponentDrainStatus}

theorem Watches.persist
    (watches : Watches domain key watch log (old.getD initializeDrainStatus) after)
    (either : persisted = old ∨ persisted = some after) :
    Watches domain key watch log (old.getD initializeDrainStatus)
      (persisted.getD initializeDrainStatus) := by
  rcases either with rfl | rfl
  · exact { watches with written := watches.unwritten }
  · exact watches

theorem Watches.append (watches : Watches domain key watch log before after)
    (leaves : ∀ event ∈ later, leavesAllocation event) :
    Watches domain key watch (log ++ later) before after where
  admitted := (along_append log later watch).mpr ⟨watches.admitted, along_admits leaves⟩
  unwritten := by
    rw [run_append]
    exact watches.unwritten.subside (subsides_run leaves)
  written := by
    rw [run_append]
    exact watches.written.subside (subsides_run leaves)
  others := fun other status different fits => by
    rw [run_append]
    exact (watches.others other status different fits).subside (subsides_run leaves)

theorem fits_rollback_iff {url : String} (step : RollbackStep old rolled) :
    watch.Fits url key (rolled.getD initializeDrainStatus) <->
      watch.Fits url key (old.getD initializeDrainStatus) := by
  cases step with
  | same => exact Iff.rfl
  | ended rollingBack =>
    constructor
    · intro fits
      exact .of_free (fits.free (by simp [afterRollbackCheck])) (by simp [rollingBack])
    · intro fits
      exact .of_free (fits.free (by simp [rollingBack])) (by simp [afterRollbackCheck])

theorem fits_of_unattended {url : String} {now : Time} {next : Option ComponentDrainStatus}
    (fits : watch.Fits url key (old.getD initializeDrainStatus)) (moved : Unattended now old next) :
    watch.Fits url key (next.getD initializeDrainStatus) := by
  cases moved with
  | rollback step => exact (fits_rollback_iff step).mpr fits
  | retried step due =>
    have rolled := (fits_rollback_iff step).mpr fits
    have pending := (retryDecision_due due).2
    refine .of_free (rolled.free ?_) (by simp [pending])
    rcases phase_of_retryDecision_due due with phase | phase <;> simp [phase]

theorem leavesAllocation_of_workload {ctx : PassContext}
    (workload : IndexerWorkload ctx found left log) :
    ∀ event ∈ log, leavesAllocation event = true := by
  cases workload <;> simp [leavesAllocation]

theorem record_of_other {event : Event} (other : event.about ≠ some .indexer) :
    watch.record key event = watch ∧ watch.Admits domain key event := by
  have leaves : leavesAllocation event := by
    cases event with
    | drainVerified component =>
      cases component with
      | indexer => exact absurd rfl other
      | manager => rfl
    | setExclusion | clearExclusion => exact absurd rfl other
    | _ => rfl
  refine ⟨?_, admits_of_leaves leaves⟩
  have unmoved : stillWaiting (indexerName key.name) (watch.waiting key) event =
      watch.waiting key := by
    cases event with
    | drainVerified component node | statefulSetUpdated component current desired
    | statefulSetDeleted component current desired =>
      cases component with
      | indexer => exact absurd rfl other
      | manager => rfl
    | _ => rfl
  ext url : 2
  · exact congrFun (subsides_record leaves).1 url
  · simp only [record, unmoved, Function.update_eq_self]

end Pass

end Watch

open Watch

section Pass

variable (ctx : PassContext) (state : PassState)

/-- A drain check about a scale-down talks to the cluster's own OpenSearch, which no other
cluster shares; when it verifies the node, it is the one whose drain is recorded, and the
request to clear the exclusion afterwards does not take effect. -/
structure HoldsExclusion (info : ScaleDownInfo) : Prop where
  own : ∀ client ∈ checkClient (ctx.spec.drain.bind DrainConfiguration.indexer)
      (ctx.makeClient ctx.input.getClient) state.indexer
      (state.working.indexer.getD initializeDrainStatus).phase,
    client.baseURL = openSearchURL ctx.domain ctx.key
  alone : forall other,
    openSearchURL ctx.domain other = openSearchURL ctx.domain ctx.key -> other = ctx.key
  aimed : (state.working.indexer.getD initializeDrainStatus).phase = .verifying ->
    (state.working.indexer.getD initializeDrainStatus).targetPod = info.targetPodName
  refused : (state.working.indexer.getD initializeDrainStatus).phase = .verifying ->
    emptied ctx.input.openSearch = true -> ctx.input.openSearch.clearExclusion.applied = false

/-- Every drain check of the pass is such a one. -/
def HoldsExclusions : Prop :=
  ReachesGates ctx state -> forall info, indexerScaleDown ctx state = some info ->
    HoldsExclusion ctx state info

variable {ctx state} {watch : Watch}

theorem passCheck_watches {info : ScaleDownInfo}
    (fits : watch.Fits (openSearchURL ctx.domain ctx.key) ctx.key (state.working.indexer.getD initializeDrainStatus))
    (met : HoldsExclusion ctx state info)
    (effect : IndexerEffect ctx (afterRollback ctx state) info decision drain log) :
    Watches ctx.domain ctx.key watch log
      (state.working.indexer.getD initializeDrainStatus) drain.status := by
  have step := (rolledBack_step ctx state).1
  have checked : Watches ctx.domain ctx.key watch log
      ((rolledBack ctx state).indexer.getD initializeDrainStatus) drain.status := by
    have rolledFits := (fits_rollback_iff step).mpr fits
    rcases step.phase with same | ⟨rollingBack, failed⟩
    · refine check_watches effect ?_ met.alone ?_ ?_ rolledFits
      · simpa [indexerDrainState, afterRollback, same] using met.own
      · simpa [indexerDrainState, afterRollback, same] using met.aimed
      · simpa [indexerDrainState, afterRollback, same] using met.refused
    · refine check_watches effect ?_ met.alone ?_ ?_ rolledFits
      · simpa [indexerDrainState, afterRollback, failed, rollingBack, checkClient] using met.own
      · simp [indexerDrainState, afterRollback, failed]
      · simp [indexerDrainState, afterRollback, failed]
  exact { checked with unwritten := (fits_rollback_iff step).mp checked.unwritten }

theorem course_watches {after : PassState} (fresh : state.persisted.indexer = state.working.indexer)
    (fits : watch.Fits (openSearchURL ctx.domain ctx.key) ctx.key (state.working.indexer.getD initializeDrainStatus))
    (met : HoldsExclusions ctx state) (course : IndexerCourse ctx state after log) :
    Watches ctx.domain ctx.key watch log (state.working.indexer.getD initializeDrainStatus)
      (after.persisted.indexer.getD initializeDrainStatus) := by
  cases course with
  | unreached _ _ _ persisted =>
    refine .of_leaves (by simp) fits ?_
    rcases persisted with same | moved
    · rw [same, fresh]
      exact fits
    · exact fits_of_unattended fits moved
  | unchecked _ _ workload _ persisted =>
    refine .of_leaves (leavesAllocation_of_workload workload) fits ?_
    rcases persisted with same | step
    · rw [same, fresh]
      exact fits
    · exact (fits_rollback_iff step).mpr fits
  | waited reaches pending effect _ _ persisted =>
    refine (passCheck_watches fits (met reaches _ pending) effect).persist ?_
    rw [persisted, fresh]
    split
    · exact .inr rfl
    · exact .inl rfl
  | undrained reaches pending effect workload _ persisted =>
    have checked := passCheck_watches fits (met reaches _ pending) effect
    refine (checked.persist ?_).append (leavesAllocation_of_workload workload)
    rw [← fresh]
    exact persisted
  | drained reaches pending effect workload _ persisted =>
    have checked := passCheck_watches fits (met reaches _ pending) effect
    refine (checked.persist ?_).append ?_
    · rw [← fresh]
      exact persisted
    · intro event member
      rcases mem_cons.mp member with rfl | later
      · rfl
      · exact leavesAllocation_of_workload workload event later

end Pass

/-! ## Runs -/

/-- A pass records its events.  A StatefulSet that somebody else makes smaller loses its
pods just as well. -/
def noteWatch (world : World) (taken : Step) (watch : Watch) : Watch :=
  match taken with
  | .pass key input => run (record key) watch (world.outcome key input).log
  | .changeStatefulSet nspace name found =>
    { watch with
      waiting := fun key =>
        if key.nspace = nspace ∧ indexerName key.name = name then
          (watch.waiting key).filter (fun node => decide (node ∉ removedPods name
            (replicaCount (world.statefulSets nspace name)) (replicaCount found)))
        else watch.waiting key }
  | _ => watch

/-- From each request of a pass to the next, and between the passes, every node found
empty and not removed yet is excluded. -/
def KeepsDrainedExcluded (state : Noted Watch) : Step -> Prop
  | .pass key input =>
    Throughout (record key) (Guarded state.world.domain) state.notes
      (state.world.outcome key input).log
  | _ => state.notes.Guarded state.world.domain

def HoldsOnToExclusion (state : Noted Watch) : Step -> Prop
  | .pass key input =>
    HoldsExclusions (state.world.context key input) (state.world.passState key)
  | _ => True

structure Watched (state : Noted Watch) : Prop where
  guarded : state.notes.Guarded state.world.domain
  fits : forall key, state.notes.Fits (openSearchURL state.world.domain key) key
    ((state.world.drains key).indexer.getD initializeDrainStatus)

theorem outcome_watches {state : Noted Watch} {key : ClusterKey}
    (watched : Watched state) (met : HoldsOnToExclusion state (.pass key input)) :
    Watches state.world.domain key state.notes (state.world.outcome key input).log
      ((state.world.drains key).indexer.getD initializeDrainStatus)
      ((state.world.outcome key input).state.persisted.indexer.getD initializeDrainStatus) := by
  have dropped : forall (before : Watch) (event : Event),
      decide (event.about = some .indexer) = false ->
        before.record key event = before ∧ before.Admits state.world.domain key event :=
    fun before event other => Watch.record_of_other (by simpa using other)
  rcases run_along_filter dropped (state.world.outcome key input).log state.notes with ⟨sameRun, sameAlong⟩
  have watches := @course_watches _ (state.world.context key input) (state.world.passState key)
    state.notes _ rfl (watched.fits key) met (reconcile_indexerCourse _ _)
  constructor
  · exact sameAlong.mp watches.admitted
  · rw [← sameRun]
    exact watches.unwritten
  · rw [← sameRun]
    exact watches.written
  · rw [← sameRun]
    exact watches.others

theorem watched_step (state : Noted Watch) (taken : Step) (watched : Watched state)
    (met : HoldsOnToExclusion state taken) : Watched (state.step noteWatch taken) := by
  cases taken with
  | pass key =>
    have watches := outcome_watches watched met
    constructor
    · exact run_of_throughout _ _ (throughout_guarded watched.guarded watches.admitted)
    · intro other
      by_cases same : other = key
      · subst same
        simp only [Noted.step, World.step, World.afterPass, Function.update_self]
        exact watches.written
      · simp only [Noted.step, World.step, World.afterPass, Function.update_of_ne same]
        exact watches.others other _ same (watched.fits other)
  | changeStatefulSet nspace name found =>
    have subsides : state.notes.Subsides (noteWatch state.world (.changeStatefulSet nspace name found)
        state.notes) := by
      refine ⟨rfl, fun key node member => ?_⟩
      simp only [noteWatch] at member
      split at member
      · exact (mem_filter.mp member).1
      · exact member
    exact ⟨guarded_of_subsides watched.guarded subsides,
      fun key => (watched.fits key).subside subsides⟩
  | editSpec | rotateCredentials | restartOperator => exact ⟨watched.guarded, watched.fits⟩

/-- In every run whose drain checks hold on to the exclusion, a node that was found empty is
excluded until it is removed, whatever was excluded in the beginning. -/
theorem drained_nodes_excluded (domain : String) (clusters : ClusterKey -> ClusterObject)
    (sets : String -> String -> Option StatefulSet) (excluded : String -> Option String)
    (steps : List Step)
    (met : Along (Noted.step noteWatch) HoldsOnToExclusion
      ⟨World.start domain clusters sets, ⟨excluded, fun _ => []⟩⟩ steps) :
    Along (Noted.step noteWatch) KeepsDrainedExcluded
      ⟨World.start domain clusters sets, ⟨excluded, fun _ => []⟩⟩ steps := by
  refine along_of_invariant watched_step ?_ steps _ ?_ met
  · intro state taken watched met
    cases taken with
    | pass =>
      exact throughout_guarded watched.guarded (outcome_watches watched met).admitted
    | editSpec | rotateCredentials | changeStatefulSet | restartOperator => exact watched.guarded
  · exact ⟨fun _ _ => nofun, fun _ => .of_free rfl (by simp [World.start, initializeDrainStatus])⟩

/-! ## The last pass of a drain -/

namespace Sample

def unwatched : Noted Watch := ⟨world 3 2, ⟨fun _ => none, fun _ => []⟩⟩

def refusedPass : Step :=
  .pass first
    { Controller.Sample.input with
      openSearch := { Controller.Sample.openSearch with clearExclusion := .refused "read-only" } }

theorem first_alone (other : ClusterKey)
    (same : openSearchURL "cluster.local" other = openSearchURL "cluster.local" first) :
    other = first := by
  rcases other with ⟨nspace, name⟩
  have whole : name.toList ++ ("-indexer.".toList ++
      (nspace.toList ++ ".svc.cluster.local:9200".toList)) =
      "wazuh-indexer.wazuh.svc.cluster.local:9200".toList := by
    have lists := congrArg String.toList same
    simpa [openSearchURL, serviceFQDN, indexerName, first] using lists
  -- The middle part occurs in the whole text at one place only.
  have middle : ("wazuh-indexer.wazuh.svc.cluster.local:9200".toList.drop name.toList.length).take 9 =
      "-indexer.".toList := by
    rw [← whole, drop_left]
    rfl
  have short : name.toList.length < 42 := by
    have lengths := congrArg length whole
    simp only [length_append] at lengths
    have total : "wazuh-indexer.wazuh.svc.cluster.local:9200".toList.length = 42 := rfl
    have inner : "-indexer.".toList.length = 9 := rfl
    omega
  have place : ∀ position < 42,
      ("wazuh-indexer.wazuh.svc.cluster.local:9200".toList.drop position).take 9 =
        "-indexer.".toList -> position = 5 := by decide
  have named : name.toList = "wazuh".toList := by
    have taken := congrArg (take name.toList.length) whole
    rw [take_left, place _ short middle] at taken
    exact taken
  have spaced : nspace.toList = "wazuh".toList := by
    rw [named] at whole
    exact append_cancel_right (append_cancel_left (append_cancel_left whole))
  rw [String.toList_inj] at named spaced
  rw [named, spaced]
  rfl

/-- The third of three nodes is drained, and its exclusion stays. -/
def refusedLast : List Step := [pass first, pass first, refusedPass]

theorem refusedLast_holdsOnToExclusion :
    Along (Noted.step noteWatch) HoldsOnToExclusion unwatched refusedLast := by
  refine ⟨?_, ?_, ?_, trivial⟩
  all_goals
    intro reaches info pending
    refine ⟨by decide, first_alone, ?_, by decide⟩
    cases pending
    decide

end Sample

open Sample

/-- The window between verification and removal passes without harm if the exclusion
cannot be cleared. -/
theorem drained_nodes_excluded_refused :
    Along (Noted.step noteWatch) HoldsOnToExclusion unwatched refusedLast ∧
      Along (Noted.step noteWatch) KeepsDrainedExcluded unwatched refusedLast :=
  ⟨refusedLast_holdsOnToExclusion,
    drained_nodes_excluded _ _ _ _ refusedLast refusedLast_holdsOnToExclusion⟩

/-- When everything succeeds, the verified node is open to shards again before it is
removed. -/
theorem verified_node_readmitted : ¬ Along (Noted.step noteWatch) KeepsDrainedExcluded unwatched
      [pass first, pass first, pass first] := by
  rintro ⟨-, -, keeps, -⟩
  have named := throughout_imp (fun watch guarded => guarded first) _ _ keeps
  revert named
  decide

end System
end WazuhOperator
