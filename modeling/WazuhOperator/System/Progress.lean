import WazuhOperator.Controller.Success
import WazuhOperator.System.World

namespace WazuhOperator
namespace System

open Procedure Drain Indexer Worker Controller Runs World

/-!
# Does every drain come to its end?

From whatever status the operator may have left, passes in which all calls
succeed and the target empties should bring the drain to `Complete`; and a
drain that takes longer than its timeout should be marked as failed, with a
time for the next attempt.

Neither holds.  A drain that was announced but could not be started stays
`Pending`, since the table of transitions has no edge from there that the code
takes; and a drain whose drainer got lost with a restart is never looked at
again, or is skipped.  The timeout and the retry manager are not consulted at
all.  The theorem says exactly which drains get to their end.
-/

namespace World

variable (world : World) (key : ClusterKey)

def scaleDown : Component -> Option ScaleDownInfo
  | .indexer =>
    pendingScaleDown (world.clusters key).spec.indexerDrainEnabled (.ok ()) (indexerName key.name)
      (world.statefulSets key.nspace (indexerName key.name))
      ((world.clusters key).spec.indexer.map IndexerSpec.desiredReplicas)
  | .manager =>
    pendingScaleDown (world.clusters key).spec.managerDrainEnabled (.ok ())
      (managerWorkerName key.name) (world.statefulSets key.nspace (managerWorkerName key.name))
      ((world.clusters key).spec.manager.map ManagerSpec.getReplicas)

def armed : Component -> Bool
  | .indexer => world.indexer.drainer.isSome
  | .manager => world.worker.drainer.isSome

def Drains : Prop := ((world.clusters key).spec.drain.map DrainConfiguration.dryRun).getD false = false

def status (component : Component) : ComponentDrainStatus :=
  ((world.drains key).part component).getD initializeDrainStatus

end World

/-! ## Statuses the operator leaves behind -/

def recordedPhase : DrainPhase -> Bool
  | .idle | .pending | .draining | .verifying | .complete => true
  | .unset | .failed | .rollingBack | .unknown _ => false

/-- No drain of any cluster has failed, and none is to be retried. -/
def Unretried (world : World) : Prop :=
  forall key component, recordedPhase (world.status key component).phase = true ∧
    (world.status key component).nextRetryTime = none

/-- No drain is to be retried, and those of the cluster are carried out. -/
structure Standing (world : World) (key : ClusterKey) : Prop where
  unretried : Unretried world
  drains : world.Drains key

theorem recordedPhase_of_phaseStep {before after : DrainPhase}
    (step : PhaseStep before decision after) (recorded : recordedPhase before) :
    recordedPhase after = true := by
  cases step with
  | refused => exact recorded
  | watched under emptied =>
    rcases under with rfl | rfl
    · rfl
    · cases emptied <;> rfl
  | passedOver => exact recorded
  | startFailed | started | unverifiable | notEmpty | verified | alreadyComplete => rfl

variable {phase : DrainPhase}

theorem phase_ne_of_recorded (recorded : recordedPhase phase) :
    phase ≠ .failed ∧ phase ≠ .rollingBack := by
  constructor <;> rintro rfl <;> cases recorded

section Unretried

variable {world : World} {key : ClusterKey} {input : PassInput} {component : Component}

theorem status_step : (world.step (.pass key input)).status key component =
    ((world.outcome key input).state.persisted.part component).getD initializeDrainStatus := by
  simp [status, World.step, World.afterPass]

theorem settled_step (notFailed : (world.status key component).phase ≠ .failed)
    (notRollingBack : (world.status key component).phase ≠ .rollingBack) :
    (world.step (.pass key input)).status key component = world.status key component ∨
      ∃ decision, PhaseStep (world.status key component).phase decision
          ((world.step (.pass key input)).status key component).phase ∧
        ((world.step (.pass key input)).status key component).nextRetryTime =
          (world.status key component).nextRetryTime := by
  have course := world.statusCourse key input component
  rw [status_step]
  cases course with
  | unattended moved =>
    rcases moved with same | moved
    · exact .inl (by rw [same]; rfl)
    · exact .inl (by rw [moved.eq_of_ne notFailed notRollingBack]; rfl)
  | checked _ rollback _ moves retry persisted =>
    rw [rollback.eq_of_ne notRollingBack] at moves retry
    rcases persisted with same | written
    · exact .inl (by rw [same]; rfl)
    · rw [written]
      exact .inr ⟨_, moves, retry⟩

/-- No step makes a drain fail or schedules a retry. -/
theorem unretried_step (taken : Step) (unretried : Unretried world) : Unretried (world.step taken) := by
  cases taken with
  | pass other =>
    intro key component
    by_cases same : key = other
    · subst same
      have before := unretried key component
      have settled := phase_ne_of_recorded before.1
      rcases settled_step settled.1 settled.2 with kept | ⟨_, moves, retry⟩
      · rw [kept]
        exact before
      · exact ⟨recordedPhase_of_phaseStep moves before.1, retry.trans before.2⟩
    · simp only [status, World.step, World.afterPass, Function.update_of_ne same]
      exact unretried key component
  | editSpec | rotateCredentials | changeStatefulSet | restartOperator => exact unretried

theorem unretried_start (domain : String) (clusters : ClusterKey -> ClusterObject)
    (sets : String -> String -> Option StatefulSet) :
    Unretried (start domain clusters sets) := by
  intro key component
  cases component <;> exact ⟨rfl, rfl⟩

theorem unretried_run (steps : List Step) (unretried : Unretried world) :
    Unretried (run World.step world steps) := by
  induction steps generalizing world with
  | nil => exact unretried
  | cons taken _ ih => exact ih (unretried_step taken unretried)

end Unretried

/-! ## Passes that get as far as the drain checks -/

variable {now : Time}

theorem retryDecision_of_unretried {status : Option ComponentDrainStatus}
    (unset : (status.getD initializeDrainStatus).nextRetryTime = none) :
    retryDecision now status = .none := by
  rcases status with none | status
  · rfl
  · have same : status.nextRetryTime = .none := unset
    simp [retryDecision, same]

section Passes

variable {world : World} {key : ClusterKey} {input : PassInput}

theorem reachesGates_of_succeeds (standing : Standing world key) (succeeds : Succeeds input) :
    ReachesGates (world.context key input) (world.passState key) :=
  ⟨succeeds.live, retryDecision_of_unretried (standing.unretried key .indexer).2,
    retryDecision_of_unretried (standing.unretried key .manager).2, succeeds.prepared, standing.drains⟩

theorem scaleDown_of_succeeds (succeeds : Succeeds input) (component : Component) :
    Controller.scaleDown (world.context key input) (world.passState key) component =
      world.scaleDown key component := by
  have indexer : (world.context key input).input.indexerGet = .ok () := succeeds.indexerGet
  have worker : (world.context key input).input.workerGet = .ok () := succeeds.workerGet
  cases component with
  | indexer =>
    rw [Controller.scaleDown, indexerScaleDown, indexer]
    rfl
  | manager =>
    rw [Controller.scaleDown, workerScaleDown, worker]
    rfl

theorem scaleDown_step_indexer
    (found : (world.outcome key input).state.statefulSets (indexerName key.name) =
      world.statefulSets key.nspace (indexerName key.name)) :
    (world.step (.pass key input)).scaleDown key .indexer = world.scaleDown key .indexer := by
  simp only [World.scaleDown, World.step, World.afterPass, Function.update_self, found]

theorem scaleDown_step_manager
    (found : (world.outcome key input).state.statefulSets (managerWorkerName key.name) =
      world.statefulSets key.nspace (managerWorkerName key.name)) :
    (world.step (.pass key input)).scaleDown key .manager = world.scaleDown key .manager := by
  simp only [World.scaleDown, World.step, World.afterPass, Function.update_self, found]

end Passes

/-! ## Drains which are stuck -/

theorem indexerEffect_stuck {config : Option IndexerDrainConfig} {made : Except String Client}
    {answers : OpenSearchAnswers} {state after : DrainState IndexerReconciler} {log : List Event}
    (effect : Indexer.CheckEffect clusterKey config made answers now info state decision after log)
    (recorded : recordedPhase state.status.phase)
    (stuck : unstuck state.memory.drainer.isSome state.status.phase = false) :
    decision ≠ .proceedDrained ∧ after.status.phase = state.status.phase ∧
      after.memory.drainer.isSome = state.memory.drainer.isSome := by
  cases effect with
  | unavailable | unverifiable | passedOver => exact ⟨by simp, rfl, rfl⟩
  | unsetPhase unset => simp [unset, recordedPhase] at recorded
  | countFailed phase | exclusionFailed phase | started phase | alreadyComplete phase => simp [phase, unstuck] at stuck
  | watched under moved =>
    refine ⟨by simp, ?_, rfl⟩
    rcases under with pending | draining
    · rw [moved, pending]
      rfl
    · have unarmed : state.memory.drainer.isSome = false := by
        simpa [draining, unstuck] using stuck
      rw [moved, draining, unarmed]
      rfl
  | notEmpty verifying present | verified verifying present => simp [verifying, present, unstuck] at stuck

theorem workerEffect_stuck {config : Option ManagerDrainConfig} {baseURL : String}
    {credentials : Except String Credentials} {queue : Except String Int64}
    {state after : DrainState WorkerReconciler} {log : List Event}
    (effect : Worker.CheckEffect clusterKey config baseURL credentials queue now info state decision
      after log)
    (recorded : recordedPhase state.status.phase)
    (stuck : unstuck state.memory.drainer.isSome state.status.phase = false) :
    decision ≠ .proceedDrained ∧ after.status.phase = state.status.phase ∧
      after.memory.drainer.isSome = state.memory.drainer.isSome := by
  cases effect with
  | unavailable | unverifiable | passedOver => exact ⟨by simp, rfl, rfl⟩
  | unsetPhase unset => simp [unset, recordedPhase] at recorded
  | queueFailed phase | started phase | alreadyComplete phase => simp [phase, unstuck] at stuck
  | watched under moved =>
    have memory : (watchedMemory clusterKey queue now state.memory).drainer.isSome =
        state.memory.drainer.isSome := by
      cases queue <;> simp [watchedMemory]
    refine ⟨by simp, ?_, memory⟩
    rcases under with pending | draining
    · rw [moved, pending]
      rfl
    · have unarmed : state.memory.drainer = none := by
        simpa [draining, unstuck] using stuck
      have unsettled : watchedSettles clusterKey queue now state.memory = false := by
        cases queue <;> simp [watchedSettles, unarmed]
      rw [moved, draining, unsettled]
      rfl
  | notEmpty verifying present | verified verifying present => simp [verifying, present, unstuck] at stuck

theorem pendingScaleDown_workload {before after : Option StatefulSet}
    (effect : WorkloadEffect needsUpdate answers built before after log)
    (wanted : forall count, desired = some count -> built.replicas = some count)
    (absent : pendingScaleDown enabled (.ok ()) name before desired = none) :
    pendingScaleDown enabled (.ok ()) name after desired = none := by
  rcases desired with none | count
  · rfl
  · have replicas := wanted count rfl
    cases effect with
    | absent | deleted written => rfl
    | untouched => exact absent
    | created | recreated written =>
      simp [pendingScaleDown, StatefulSet.currentReplicas, replicas]
    | updated =>
      simp [pendingScaleDown, StatefulSet.currentReplicas, mergeStatefulSetUpdate, replicas]

theorem stuck_step {world : World} {key : ClusterKey} {component : Component} (input : PassInput)
    (unretried : Unretried world)
    (stuck : unstuck (world.armed component) (world.status key component).phase = false) :
    (world.step (.pass key input)).armed component = world.armed component ∧
      ((world.step (.pass key input)).status key component).phase =
        (world.status key component).phase := by
  have recorded := (unretried key component).1
  rcases phase_ne_of_recorded recorded with ⟨notFailed, notRollingBack⟩
  let ctx := world.context key input
  rw [status_step]
  cases component
  case' indexer =>
    have course := reconcile_indexerCourse ctx (world.passState key)
    have same := indexerDrainState_afterRollback ctx (world.passState key) notRollingBack
    have remains := @indexerEffect_stuck
  case' manager =>
    have course := reconcile_workerCourse ctx (world.passState key)
    have same := workerDrainState_afterRollback ctx (world.passState key) notRollingBack
    have remains := @workerEffect_stuck
  all_goals
    simp only [armed, World.step, World.afterPass, World.outcome, DrainStatus.part]
    generalize concerning _ _ = log at course
    cases course with
    | unreached _ _ memory persisted =>
      refine ⟨by rw [memory]; rfl, ?_⟩
      rcases persisted with unwritten | moved
      · rw [unwritten]
        rfl
      · rw [moved.eq_of_ne notFailed notRollingBack]
        rfl
    | unchecked _ _ _ memory persisted =>
      refine ⟨by rw [memory]; rfl, ?_⟩
      rcases persisted with unwritten | step
      · rw [unwritten]
        rfl
      · rw [step.eq_of_ne notRollingBack]
        rfl
    | waited _ _ effect _ memory persisted =>
      simp only [IndexerEffect, WorkerEffect, same] at effect
      rcases remains effect recorded stuck with ⟨-, phase, drainer⟩
      refine ⟨by rw [memory]; exact drainer, ?_⟩
      rcases written_of_waited persisted with unwritten | written
      · rw [unwritten]
        rfl
      · rw [written]
        exact phase
    | undrained _ _ effect _ memory persisted =>
      simp only [IndexerEffect, WorkerEffect, same] at effect
      rcases remains effect recorded stuck with ⟨-, phase, drainer⟩
      refine ⟨by rw [memory]; exact drainer, ?_⟩
      rcases persisted with unwritten | written
      · rw [unwritten]
        rfl
      · rw [written]
        exact phase
    | drained _ _ effect =>
      simp only [IndexerEffect, WorkerEffect, same] at effect
      exact absurd rfl (remains effect recorded stuck).1

theorem ne_complete_of_stuck {armed : Bool} (stuck : unstuck armed phase = false) :
    phase ≠ .complete := by
  rintro rfl
  cases stuck

/-! ## Drains which get on -/

/-- A drain that is complete, or is on its way with everything it needs. -/
def GetsOn (world : World) (key : ClusterKey) (component : Component) : Prop :=
  (world.status key component).phase = .complete ∨
    ((world.scaleDown key component).isSome = true ∧
      unstuck (world.armed component) (world.status key component).phase = true)

section GetsOn

variable {world : World} {key : ClusterKey} {input : PassInput} {component : Component}

theorem complete_step (complete : (world.status key component).phase = .complete) :
    ((world.step (.pass key input)).status key component).phase = .complete := by
  rcases @settled_step world key input component (by simp [complete]) (by simp [complete]) with
    same | ⟨_, moves, _⟩
  · rw [same, complete]
  · exact moves.eq_complete complete

theorem indexer_step (standing : Standing world key) (succeeds : Succeeds input)
    (pending : (world.scaleDown key .indexer).isSome)
    (free : unstuck (world.armed .indexer) (world.status key .indexer).phase)
    (unfinished : (world.status key .indexer).phase ≠ .complete) :
    ((world.step (.pass key input)).status key .indexer).phase =
        advanced (emptied input.openSearch) (world.status key .indexer).phase ∧
      (((world.step (.pass key input)).status key .indexer).phase ≠ .complete ->
        (world.step (.pass key input)).armed .indexer ∧
          (world.step (.pass key input)).scaleDown key .indexer = world.scaleDown key .indexer) := by
  rw [← scaleDown_of_succeeds succeeds .indexer] at pending
  have advances := reconcile_indexer_advances succeeds
    (reachesGates_of_succeeds standing succeeds) pending free unfinished
  rw [status_step]
  refine ⟨advances.1, fun under => ?_⟩
  rcases advances.2 under with ⟨armed, found⟩
  exact ⟨armed, scaleDown_step_indexer found⟩

theorem worker_step (succeeds : Succeeds input) (read : input.queue = .ok depth)
    (reaches : ReachesWorkers (world.context key input) (world.passState key))
    (pending : (world.scaleDown key .manager).isSome)
    (free : unstuck (world.armed .manager) (world.status key .manager).phase)
    (unfinished : (world.status key .manager).phase ≠ .complete) :
    ∃ drainer, WorkerAdvance depth input.now key (world.status key .manager).phase
        world.worker.drainer ((world.step (.pass key input)).status key .manager).phase drainer ∧
      (((world.step (.pass key input)).status key .manager).phase ≠ .complete ->
        (world.step (.pass key input)).worker.drainer = drainer ∧
          (world.step (.pass key input)).scaleDown key .manager = world.scaleDown key .manager) := by
  rw [← scaleDown_of_succeeds succeeds .manager] at pending
  rcases reconcile_worker_advances succeeds read reaches pending free unfinished with
    ⟨drainer, advance, kept⟩
  rw [status_step]
  refine ⟨drainer, advance, fun under => ?_⟩
  rcases kept under with ⟨memory, found⟩
  exact ⟨memory, scaleDown_step_manager found⟩

theorem worker_step_of_unreached (unretried : Unretried world)
    (skipped : ¬ ReachesWorkers (world.context key input) (world.passState key)) :
    ((world.step (.pass key input)).status key .manager).phase = (world.status key .manager).phase ∧
      (world.step (.pass key input)).worker.drainer = world.worker.drainer ∧
      (world.step (.pass key input)).scaleDown key .manager = world.scaleDown key .manager := by
  have course := reconcile_workerCourse (world.context key input) (world.passState key)
  rcases phase_ne_of_recorded (unretried key .manager).1 with ⟨notFailed, notRollingBack⟩
  rw [status_step]
  generalize concerning _ _ = log at course
  cases course with
  | unreached _ found drainer persisted =>
    refine ⟨?_, drainer, scaleDown_step_manager found⟩
    have status := persisted.elim id (fun moved => moved.eq_of_ne notFailed notRollingBack)
    exact congrArg (fun left => (left.getD initializeDrainStatus).phase) status
  | unchecked reaches | waited reaches | undrained reaches | drained reaches =>
    exact absurd reaches skipped

theorem unstuck_of_under {armed : Bool} (under : phase = .draining ∨ phase = .verifying)
    (held : armed) : unstuck armed phase = true := by
  rcases under with rfl | rfl <;> exact held

theorem getsOn_step (standing : Standing world key) (succeeds : Succeeds input)
    (getsOn : GetsOn world key component) :
    GetsOn (world.step (.pass key input)) key component := by
  by_cases complete : (world.status key component).phase = .complete
  · exact .inl (complete_step complete)
  rcases getsOn with done | ⟨pending, free⟩
  · exact absurd done complete
  by_cases finished : ((world.step (.pass key input)).status key component).phase = .complete
  · exact .inl finished
  right
  cases component with
  | indexer =>
    rcases indexer_step standing succeeds pending free complete with ⟨moved, kept⟩
    rcases kept finished with ⟨armed, same⟩
    refine ⟨by rw [same]; exact pending, unstuck_of_under ?_ armed⟩
    rw [moved] at finished ⊢
    cases phase : (world.status key .indexer).phase with
    | idle => exact .inl rfl
    | draining => cases emptied input.openSearch <;> simp [advanced]
    | verifying =>
      rw [phase] at finished
      cases empty : emptied input.openSearch with
      | true => simp [advanced, empty] at finished
      | false => exact .inr rfl
    | complete => exact absurd phase complete
    | unset | pending | failed | rollingBack | unknown => simp [phase, unstuck] at free
  | manager =>
    by_cases reaches : ReachesWorkers (world.context key input) (world.passState key)
    · rcases succeeds.queue with ⟨depth, read⟩
      rcases worker_step succeeds read reaches pending free complete with ⟨drainer, advance, kept⟩
      rcases kept finished with ⟨memory, same⟩
      refine ⟨by rw [same]; exact pending, ?_⟩
      rcases advance.under finished with ⟨under, held⟩
      rw [armed, memory]
      exact unstuck_of_under under held
    · rcases worker_step_of_unreached standing.unretried reaches with ⟨phase, drainer, same⟩
      rw [armed, same, phase, drainer]
      exact ⟨pending, free⟩

end GetsOn

/-- How many steps a drain of the indexer is away from its end. -/
def remaining : DrainPhase -> Nat
  | .idle => 3
  | .draining => 2
  | .verifying => 1
  | _ => 0

/-! ## The indexer before the workers

A pass looks at the workers only if the indexer's drain does not make it wait. -/

section Order

variable {world : World} {key : ClusterKey} {input : PassInput}

def IndexerBlocks (world : World) (key : ClusterKey) : Prop :=
  (world.scaleDown key .indexer).isSome = true ∧
    ((world.status key .indexer).phase = .pending ∨
      ((world.status key .indexer).phase = .draining ∧ world.armed .indexer = false))

/-- The indexer lets every pass go on: there is nothing to drain, the drain is over, or it
cannot be verified. -/
def IndexerClear (world : World) (key : ClusterKey) : Prop :=
  world.scaleDown key .indexer = none ∨ (world.status key .indexer).phase = .complete ∨
    ((world.status key .indexer).phase = .verifying ∧ world.armed .indexer = false)

theorem indexerCheck_wait_iff (unretried : Unretried world) (succeeds : Succeeds input) :
    (indexerCheck (world.context key input)
        (afterRollback (world.context key input) (world.passState key))).result = .ok .wait <->
      (world.scaleDown key .indexer).isSome ∧
        gateWaits ((world.context key input).makeClient input.getClient) input.openSearch world.indexer
          (world.status key .indexer).phase = true := by
  have same : indexerDrainState (afterRollback (world.context key input) (world.passState key)) =
      ⟨world.indexer, world.status key .indexer⟩ :=
    indexerDrainState_afterRollback _ _ (phase_ne_of_recorded (unretried key .indexer).1).2
  have pending : indexerScaleDown (world.context key input)
      (afterRollback (world.context key input) (world.passState key)) =
      world.scaleDown key .indexer := scaleDown_of_succeeds succeeds .indexer
  rcases found : world.scaleDown key .indexer with none | info
  · rw [indexerCheck_none _ _ (pending.trans found)]
    simp
  · rcases indexerCheck_some _ _ (pending.trans found) with ⟨decision, drain, log, ran, effect⟩
    rw [IndexerEffect, same] at effect
    rw [ran, Option.isSome_some, eq_self_iff_true, true_and]
    exact (by simp : (Except.ok decision : Except String Verdict) = .ok .wait <-> decision = .wait).trans
      effect.wait_iff

theorem reachesWorkers_of_clear (standing : Standing world key) (succeeds : Succeeds input)
    (clear : IndexerClear world key) :
    ReachesWorkers (world.context key input) (world.passState key) := by
  refine ⟨reachesGates_of_succeeds standing succeeds, ?_, ?_⟩
  · intro waits
    rcases (indexerCheck_wait_iff standing.unretried succeeds).mp waits with ⟨pending, gate⟩
    rcases clear with absent | complete | ⟨verifying, unarmed⟩
    · simp [absent] at pending
    · simp [complete, gateWaits, Indexer.gateCompletes] at gate
    · have held : world.indexer.drainer.isSome = false := unarmed
      simp [verifying, gateWaits, gateHolds, held] at gate
  · rcases (@returns_reconcileIndexerNonBlocking (world.context key input) succeeds (fun _ => True)
      (pastIndexerCheck (world.context key input) (world.passState key)) trivial).1 with ⟨value, returned⟩
    exact returned

theorem scaleDown_none_step (succeeds : Succeeds input)
    (absent : world.scaleDown key .indexer = none) :
    (world.step (.pass key input)).scaleDown key .indexer = none := by
  have course := reconcile_indexerCourse (world.context key input) (world.passState key)
  have unseen : indexerScaleDown (world.context key input) (world.passState key) = none :=
    (scaleDown_of_succeeds succeeds .indexer).trans absent
  simp only [World.scaleDown, World.step, World.afterPass, Function.update_self, World.outcome] at absent ⊢
  generalize (reconcile (world.context key input) (world.passState key)).state = after at course ⊢
  generalize concerning .indexer _ = log at course
  cases course with
  | unreached _ found =>
    have same : after.statefulSets (indexerName key.name) =
        world.statefulSets key.nspace (indexerName key.name) := found
    rw [same]
    exact absent
  | unchecked _ _ workload =>
    refine pendingScaleDown_workload workload ?_ absent
    intro count wanted
    have spec : (world.context key input).spec = (world.clusters key).spec := rfl
    simp [builtIndexer, spec, wanted]
  | waited _ pending | undrained _ pending | drained _ pending =>
    rw [unseen] at pending
    cases pending

theorem clear_step (unretried : Unretried world) (succeeds : Succeeds input)
    (clear : IndexerClear world key) : IndexerClear (world.step (.pass key input)) key := by
  rcases clear with absent | complete | ⟨verifying, unarmed⟩
  · exact .inl (scaleDown_none_step succeeds absent)
  · exact .inr (.inl (complete_step complete))
  · have stuck : unstuck (world.armed .indexer) (world.status key .indexer).phase = false := by
      rw [verifying, unarmed]
      rfl
    rcases stuck_step input unretried stuck with ⟨armed, phase⟩
    exact .inr (.inr ⟨phase.trans verifying, armed.trans unarmed⟩)

theorem blocks_step (standing : Standing world key) (succeeds : Succeeds input)
    (blocks : IndexerBlocks world key) :
    IndexerBlocks (world.step (.pass key input)) key ∧
      ¬ ReachesWorkers (world.context key input) (world.passState key) := by
  rcases blocks with ⟨pending, phases⟩
  have stuck : unstuck (world.armed .indexer) (world.status key .indexer).phase = false := by
    rcases phases with phase | ⟨phase, unarmed⟩
    · rw [phase]
      rfl
    · rw [phase, unarmed]
      rfl
  have waits : gateWaits ((world.context key input).makeClient input.getClient) input.openSearch
      world.indexer (world.status key .indexer).phase := by
    rcases phases with phase | ⟨phase, unarmed⟩ <;> rw [phase] <;> rfl
  constructor
  · rcases stuck_step input standing.unretried stuck with ⟨armed, phase⟩
    -- A pass that waits leaves the StatefulSet alone.
    have found : (world.outcome key input).state.statefulSets (indexerName key.name) =
        world.statefulSets key.nspace (indexerName key.name) := by
      have course := reconcile_indexerCourse (world.context key input) (world.passState key)
      have same := indexerDrainState_afterRollback (world.context key input) (world.passState key)
        (phase_ne_of_recorded (standing.unretried key .indexer).1).2
      generalize concerning _ _ = log at course
      cases course with
      | unreached skipped => exact absurd (reachesGates_of_succeeds standing succeeds) skipped
      | unchecked _ absent =>
        rw [← scaleDown_of_succeeds succeeds .indexer, Controller.scaleDown, absent] at pending
        cases pending
      | waited _ _ _ found => exact found
      | undrained _ _ effect | drained _ _ effect =>
        rw [IndexerEffect, same] at effect
        cases effect.wait_iff.mpr waits
    rw [IndexerBlocks, scaleDown_step_indexer found, phase, armed]
    exact ⟨pending, phases⟩
  · intro reaches
    exact reaches.2.1 ((indexerCheck_wait_iff standing.unretried succeeds).mpr ⟨pending, waits⟩)

end Order

/-! ## Pass after pass -/

def World.passes (world : World) (key : ClusterKey) (inputs : Nat -> PassInput) : Nat -> World :=
  after World.step world (fun count => .pass key (inputs count))

/-- In every pass all calls succeed, from some pass on the targets are empty, and time goes
on. -/
structure GoodPasses (inputs : Nat -> PassInput) : Prop where
  succeed : forall count, Succeeds (inputs count)
  empties : ∃ first, forall count, first ≤ count ->
    emptied (inputs count).openSearch = true ∧ (inputs count).queue = .ok 0
  onward : forall count, (inputs count).now ≤ (inputs (count + 1)).now
  unbounded : forall time, ∃ count, time ≤ (inputs count).now

section Endless

variable {world : World} {key : ClusterKey} {inputs : Nat -> PassInput} {component : Component}

/-- The workers' drainer counts the time since the queue was seen empty. -/
structure Counting (world : World) (key : ClusterKey) (since grace : Time) : Prop where
  under : (world.status key .manager).phase = .draining ∨ (world.status key .manager).phase = .verifying
  counts : ∃ drainer recordedFor, world.worker.drainer = some drainer ∧ drainer.gracePeriod = grace ∧
    drainer.emptyQueueSeenTime = some (since, recordedFor)

/-- One pass that arrives at an unfinished drain of the workers and leaves it unfinished. -/
structure WorkerPass (before after : World) (key : ClusterKey) (now : Time) : Prop where
  advance : WorkerAdvance 0 now key (before.status key .manager).phase before.worker.drainer
    (after.status key .manager).phase after.worker.drainer
  unfinished : (after.status key .manager).phase ≠ .complete

variable {after : World}

theorem WorkerPass.under (pass : WorkerPass before after key now) :
    ((after.status key .manager).phase = .draining ∨ (after.status key .manager).phase = .verifying) ∧
      after.worker.drainer.isSome = true :=
  pass.advance.under pass.unfinished

theorem WorkerPass.counting (pass : WorkerPass before after key now)
    (under : (before.status key .manager).phase = .draining ∨
      (before.status key .manager).phase = .verifying)
    (held : before.worker.drainer = some drainer) :
    Counting after key (drainer.noted now key).1 drainer.gracePeriod := by
  have advance := pass.advance
  rw [held] at advance
  rcases advance.notes under pass.unfinished with ⟨next, left, grace, noted⟩
  exact ⟨pass.under.1, next, (drainer.noted now key).2, left, grace, noted⟩

theorem Counting.next (counting : Counting before key since grace)
    (pass : WorkerPass before after key now) :
    Counting after key since grace := by
  rcases counting.counts with ⟨drainer, recordedFor, held, rfl, seen⟩
  have counted := pass.counting counting.under held
  rw [ManagerDrainer.noted, seen] at counted
  exact counted

theorem Counting.elapsed (counting : Counting before key since grace)
    (pass : WorkerPass before after key now) (passed : since + grace ≤ now) :
    (before.status key .manager).phase = .draining ∧ (after.status key .manager).phase = .verifying := by
  rcases counting.counts with ⟨drainer, recordedFor, held, rfl, seen⟩
  have advance := pass.advance
  rw [held] at advance
  have last := advance.elapsed seen (Int.le_sub_left_of_add_le passed)
  rcases counting.under with draining | verifying
  · exact ⟨draining, last.1 draining⟩
  · exact absurd (last.2 verifying) pass.unfinished

variable (standing : Standing world key) (good : GoodPasses inputs)

include standing in
theorem passes_standing (count : Nat) : Standing (world.passes key inputs count) key := by
  induction count with
  | zero => exact standing
  | succ count ih => exact ⟨unretried_step (.pass key (inputs count)) ih.unretried, ih.drains⟩

include standing in
theorem stuck_passes
    (stuck : unstuck (world.armed component) (world.status key component).phase = false) (count : Nat) :
    unstuck ((world.passes key inputs count).armed component)
        ((world.passes key inputs count).status key component).phase = false := by
  induction count with
  | zero => exact stuck
  | succ count ih =>
    rcases stuck_step (inputs count) (passes_standing standing count).unretried ih with ⟨armed, phase⟩
    have same : world.passes key inputs (count + 1) =
        (world.passes key inputs count).step (.pass key (inputs count)) := rfl
    rw [same, armed, phase]
    exact ih

include good in
theorem now_mono (late : first ≤ count) : (inputs first).now ≤ (inputs count).now := by
  induction count, late using Nat.le_induction with
  | base => exact Int.le_refl _
  | succ count _ ih => exact Int.le_trans ih (good.onward count)

include standing good

theorem passes_getsOn (getsOn : GetsOn world key component) (count : Nat) :
    GetsOn (world.passes key inputs count) key component := by
  induction count with
  | zero => exact getsOn
  | succ count ih =>
    exact getsOn_step (passes_standing standing count) (good.succeed count) ih

theorem indexer_completes (getsOn : GetsOn world key .indexer) :
    ∃ count, ((world.passes key inputs count).status key .indexer).phase = .complete := by
  rcases good.empties with ⟨first, empty⟩
  have nearer : forall count, first ≤ count -> GetsOn (world.passes key inputs count) key .indexer ->
      ((world.passes key inputs count).status key .indexer).phase = .complete ∨
        (GetsOn (world.passes key inputs (count + 1)) key .indexer ∧
          remaining ((world.passes key inputs (count + 1)).status key .indexer).phase <
            remaining ((world.passes key inputs count).status key .indexer).phase) := by
    intro count late getsOn
    by_cases complete : ((world.passes key inputs count).status key .indexer).phase = .complete
    · exact .inl complete
    have now := @passes_standing world key inputs standing count
    refine .inr ⟨getsOn_step now (good.succeed count) getsOn, ?_⟩
    rcases getsOn with done | ⟨pending, free⟩
    · exact absurd done complete
    have moved := (indexer_step now (good.succeed count) pending free complete).1
    rw [(empty count late).1] at moved
    refine lt_of_eq_of_lt (congrArg remaining moved) ?_
    cases phase : ((world.passes key inputs count).status key .indexer).phase with
    | idle | draining | verifying => simp [advanced, remaining]
    | complete => exact absurd phase complete
    | unset | pending | failed | rollingBack | unknown => simp [phase, unstuck] at free
  have begun := passes_getsOn standing good getsOn first
  rcases @Runs.eventually_of_rank (fun count => GetsOn (world.passes key inputs count) key .indexer)
    _ (fun count => remaining ((world.passes key inputs count).status key .indexer).phase) first
    nearer begun with ⟨count, -, complete⟩
  exact ⟨count, complete⟩

theorem eventually_clear (free : ¬ IndexerBlocks world key) :
    ∃ first, forall count, first ≤ count -> IndexerClear (world.passes key inputs count) key := by
  have cleared : ∃ first, IndexerClear (world.passes key inputs first) key := by
    by_cases clear : IndexerClear world key
    · exact ⟨0, clear⟩
    · have getsOn : GetsOn world key .indexer := by
        right
        simp only [IndexerClear, IndexerBlocks, not_or, not_and] at clear free
        rcases clear with ⟨pending, unfinished, verifiable⟩
        rw [← ne_eq, Option.ne_none_iff_isSome] at pending
        refine ⟨pending, ?_⟩
        have recorded := (standing.unretried key .indexer).1
        cases phase : (world.status key .indexer).phase with
        | idle => rfl
        | pending => exact absurd phase (free pending).1
        | draining => simpa [unstuck] using (free pending).2 phase
        | verifying => simpa [unstuck] using verifiable phase
        | complete => exact absurd phase unfinished
        | unset | failed | rollingBack | unknown => simp [phase, recordedPhase] at recorded
      rcases indexer_completes standing good getsOn with ⟨first, complete⟩
      exact ⟨first, .inr (.inl complete)⟩
  rcases cleared with ⟨first, clear⟩
  refine ⟨first, fun count late => ?_⟩
  induction count, late using Nat.le_induction with
  | base => exact clear
  | succ count _ ih =>
    exact clear_step (passes_standing standing count).unretried (good.succeed count) ih

theorem manager_completes (free : ¬ IndexerBlocks world key) (getsOn : GetsOn world key .manager) :
    ∃ count, ((world.passes key inputs count).status key .manager).phase = .complete := by
  by_contra unreached
  have never : forall count,
      ((world.passes key inputs count).status key .manager).phase ≠ .complete :=
    fun count complete => unreached ⟨count, complete⟩
  rcases eventually_clear standing good free with ⟨cleared, clear⟩
  rcases good.empties with ⟨emptied, empty⟩
  have pass : forall count, cleared + emptied ≤ count ->
      WorkerPass (world.passes key inputs count) (world.passes key inputs (count + 1)) key
        (inputs count).now := by
    intro count late
    rcases passes_getsOn standing good getsOn count with complete | ⟨pending, free⟩
    · exact absurd complete (never count)
    have reaches := reachesWorkers_of_clear (passes_standing standing count) (good.succeed count)
      (clear count (by omega))
    rcases worker_step (good.succeed count) (empty count (by omega)).2 reaches pending free (never count)
      with ⟨drainer, advance, kept⟩
    rw [← (kept (never (count + 1))).1] at advance
    exact ⟨advance, never (count + 1)⟩
  -- One pass makes sure that the drain is under way, a second one that the time is counted.
  have begun := (pass _ (Nat.le_refl _)).under
  rcases Option.isSome_iff_exists.mp begun.2 with ⟨drainer, held⟩
  have counting := (pass _ (Nat.le_succ _)).counting begun.1 held
  generalize sinceEq : (drainer.noted (inputs (cleared + emptied + 1)).now key).1 = since at counting
  have counted : forall count, cleared + emptied + 2 ≤ count ->
      Counting (world.passes key inputs count) key since drainer.gracePeriod := by
    intro count late
    induction count, late using Nat.le_induction with
    | base => exact counting
    | succ count late ih => exact ih.next (pass count (by omega))
  -- After the grace period there is no third pass which leaves the drain unfinished.
  rcases good.unbounded (since + drainer.gracePeriod) with ⟨last, passed⟩
  have late : cleared + emptied + 2 ≤ last + (cleared + emptied + 2) := Nat.le_add_left _ _
  have first := (counted _ late).elapsed (pass _ (by omega))
    (Int.le_trans passed (now_mono good (Nat.le_add_right _ _)))
  have second := (counted (last + (cleared + emptied + 2) + 1) (by omega)).elapsed
    (pass _ (by omega)) (Int.le_trans passed (now_mono good (by omega)))
  rw [first.2] at second
  cases second.1

/-! ## Which drains come to their end -/

/-- The drain of the component gets on by itself; that of the workers also needs passes
which the indexer does not hold up. -/
def Advances (world : World) (key : ClusterKey) : Component -> Prop
  | .indexer => unstuck (world.armed .indexer) (world.status key .indexer).phase = true
  | .manager => (world.status key .manager).phase = .complete ∨
      (unstuck (world.armed .manager) (world.status key .manager).phase = true ∧
        ¬ IndexerBlocks world key)

theorem blocked_passes (blocks : IndexerBlocks world key) (count : Nat) :
    IndexerBlocks (world.passes key inputs count) key ∧
      ((world.passes key inputs count).status key .manager).phase =
        (world.status key .manager).phase := by
  induction count with
  | zero => exact ⟨blocks, rfl⟩
  | succ count ih =>
    have now := @passes_standing world key inputs standing count
    rcases blocks_step now (good.succeed count) ih.1 with ⟨still, skipped⟩
    exact ⟨still, (worker_step_of_unreached now.unretried skipped).1.trans ih.2⟩

theorem completes_iff (pending : (world.scaleDown key component).isSome) :
    (∃ count, ((world.passes key inputs count).status key component).phase = .complete) <->
      Advances world key component := by
  constructor
  · rintro ⟨count, complete⟩
    by_contra fails
    have free : unstuck (world.armed component) (world.status key component).phase := by
      by_contra stuck
      rw [Bool.not_eq_true] at stuck
      exact ne_complete_of_stuck (stuck_passes standing stuck count) complete
    cases component with
    | indexer => exact fails free
    | manager =>
      simp only [Advances, not_or, not_and, not_not] at fails
      have blocked := blocked_passes standing good (fails.2 free) count
      exact fails.1 (blocked.2.symm.trans complete)
  · intro advances
    cases component with
    | indexer => exact indexer_completes standing good (.inr ⟨pending, advances⟩)
    | manager =>
      rcases advances with complete | ⟨free, unblocked⟩
      · exact ⟨0, complete⟩
      · exact manager_completes standing good unblocked (.inr ⟨pending, free⟩)

end Endless

/-! ## Timeouts -/

def timeoutOf (spec : ClusterSpec) : Component -> Time
  | .indexer => Indexer.drainTimeout (spec.drain.bind DrainConfiguration.indexer)
  | .manager => Worker.drainTimeout (spec.drain.bind DrainConfiguration.manager)

/-- An unfinished drain has taken longer than it may, and another attempt is allowed. -/
structure Overdue (world : World) (key : ClusterKey) (component : Component) (now : Time) : Prop where
  unfinished : (world.status key component).phase = .pending ∨
    (world.status key component).phase = .draining ∨ (world.status key component).phase = .verifying
  late : isTimeout now (world.status key component) (timeoutOf (world.clusters key).spec component) = true
  attempts : (world.status key component).attemptCount <
    maxAttempts ((world.clusters key).spec.drain.bind DrainConfiguration.retry)

structure MarkedForRetry (world : World) (key : ClusterKey) (component : Component) : Prop where
  failed : (world.status key component).phase = .failed
  scheduled : (world.status key component).nextRetryTime.isSome = true

theorem not_markedForRetry {world : World} (unretried : Unretried world) (key : ClusterKey)
    (component : Component) : ¬ MarkedForRetry world key component :=
  fun marked => (phase_ne_of_recorded (unretried key component).1).1 marked.failed

/-- From this world on the drain of the component is not stuck: good passes complete it,
and no pass leaves it overdue. -/
structure NotStuck (world : World) (key : ClusterKey) (component : Component)
    (inputs : Nat -> PassInput) : Prop where
  completes : GoodPasses inputs ->
    ∃ count, ((world.passes key inputs count).status key component).phase = .complete
  retried : forall count,
    Overdue (world.passes key inputs count) key component (inputs count).now ->
      MarkedForRetry (world.passes key inputs (count + 1)) key component

/-- In every world the operator can get to, the drain of a pending scale-down is not stuck
exactly when it gets on by itself and is never overdue. -/
theorem notStuck_iff (domain : String) (clusters : ClusterKey -> ClusterObject)
    (sets : String -> String -> Option StatefulSet) (steps : List Step) (key : ClusterKey)
    (component : Component) (inputs : Nat -> PassInput)
    (drains : (run World.step (start domain clusters sets) steps).Drains key)
    (pending : ((run World.step (start domain clusters sets) steps).scaleDown key
      component).isSome = true) :
    NotStuck (run World.step (start domain clusters sets) steps) key component inputs <->
      (GoodPasses inputs ->
        Advances (run World.step (start domain clusters sets) steps) key component) ∧
      forall count, ¬ Overdue ((run World.step (start domain clusters sets) steps).passes key
        inputs count) key component (inputs count).now := by
  have standing := Standing.mk (unretried_run steps (unretried_start domain clusters sets)) drains
  constructor
  · rintro ⟨completes, retried⟩
    refine ⟨fun good => (completes_iff standing good pending).mp (completes good), ?_⟩
    intro count overdue
    exact not_markedForRetry (passes_standing standing (count + 1)).unretried key component
      (retried count overdue)
  · rintro ⟨advances, punctual⟩
    refine ⟨fun good => (completes_iff standing good pending).mpr (advances good), ?_⟩
    exact fun count overdue => absurd overdue (punctual count)

/-! ## A drain from the beginning, and one that could not be started -/

namespace Sample

def hourly (count : Nat) : PassInput :=
  { Controller.Sample.input with now := count * 3600000000000 }

theorem hourly_good : GoodPasses hourly where
  succeed := fun _ =>
    { live := rfl, prepared := rfl, indexerGet := rfl, getClient := rfl, shardCount := ⟨0, rfl⟩
      relocatingShards := ⟨0, rfl⟩, setExclusion := rfl, clearExclusion := rfl
      indexer := ⟨rfl, rfl, rfl, rfl, rfl⟩, workerGet := rfl, getCredentials := rfl
      queue := ⟨0, rfl⟩, worker := ⟨rfl, rfl, rfl, rfl, rfl⟩, afterWorkers := rfl
      statusWrite := rfl }
  empties := ⟨0, fun _ _ => ⟨rfl, rfl⟩⟩
  onward := fun count => by
    have later : (count : Int) * 3600000000000 ≤ ((count + 1 : Nat) : Int) * 3600000000000 := by omega
    exact later
  unbounded := fun time => ⟨Int.toNat time, by
    have reached (hour : Int) : hour ≤ (hour.toNat : Int) * 3600000000000 := by omega
    exact reached time⟩

/-- A drain of the indexer is started, and then the operator is restarted. -/
def restarted : World := run World.step (world 3 2) [pass first, .restartOperator]

theorem restarted_standing : Standing restarted first :=
  ⟨unretried_run _ (unretried_start _ _ _), rfl⟩

end Sample

open Sample

/-- Before any pass, the drain of a pending scale-down has nothing in its way. -/
theorem notStuck_iff_fresh : (world 3 2).Drains first ∧
      ((world 3 2).scaleDown first .indexer).isSome = true ∧
      (NotStuck (world 3 2) first .indexer hourly <->
        (GoodPasses hourly -> Advances (world 3 2) first .indexer) ∧
        forall count, ¬ Overdue ((world 3 2).passes first hourly count)
          first .indexer (hourly count).now) :=
  ⟨rfl, by decide, notStuck_iff _ _ _ [] first .indexer hourly rfl (by decide)⟩

/-- After the restart the drain of the indexer never completes, whatever succeeds; it is
soon overdue, and no pass marks it for a retry. -/
theorem restarted_drain_stuck : GoodPasses hourly ∧
      (restarted.scaleDown first .indexer).isSome = true ∧
      (forall count, ((restarted.passes first hourly count).status first
        .indexer).phase ≠ .complete) ∧
      Overdue (restarted.passes first hourly 1) first .indexer
        (hourly 1).now ∧
      ¬ MarkedForRetry (restarted.passes first hourly 2) first .indexer := by
  refine ⟨hourly_good, by decide, fun count => ?_, ⟨?_, by decide, by decide⟩, ?_⟩
  · apply ne_complete_of_stuck
    exact stuck_passes restarted_standing (by decide) count
  · exact .inr (.inl (by decide))
  · exact not_markedForRetry (passes_standing restarted_standing 2).unretried first .indexer

end System
end WazuhOperator
