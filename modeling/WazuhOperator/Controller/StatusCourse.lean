import WazuhOperator.Controller.Courses

namespace WazuhOperator
namespace Controller

open Procedure Drain Indexer Worker

/-!
# The drain status across a pass

For arguments about the status alone the two components need not be told
apart.  `StatusCourse` says what a pass does to the persisted status of a
component and which of the events that belong to it tell of a drain check.
-/

section Definitions

variable (ctx : PassContext) (state : PassState)

def scaleDown : Component -> Option ScaleDownInfo
  | .indexer => indexerScaleDown ctx state
  | .manager => workerScaleDown ctx state

def findsComplete : Component -> Bool
  | .indexer =>
    Indexer.gateCompletes ctx.input.openSearch state.indexer
      (state.working.indexer.getD initializeDrainStatus).phase
  | .manager =>
    Worker.gateCompletes ctx.input.queue ctx.input.now state.worker
      (state.working.manager.getD initializeDrainStatus).phase

/-- The StatefulSet of the component is there and will be written with fewer replicas, if the
pass gets there. -/
def shrinksStatefulSet : Component -> Bool
  | .indexer => (state.statefulSets ctx.indexerSts).any (fun found =>
      rewrites indexerNeedsUpdate ctx.input.indexer found (builtIndexer ctx) &&
        decide ((builtIndexer ctx).currentReplicas < found.currentReplicas))
  | .manager => (state.statefulSets ctx.workerSts).any (fun found =>
      rewrites workerNeedsUpdate ctx.input.worker found (builtWorker ctx) &&
        decide ((builtWorker ctx).currentReplicas < found.currentReplicas))

inductive StatusCourse (component : Component) :
    Option ComponentDrainStatus -> List Event -> Prop where
  | unattended (moved : after = state.persisted.part component ∨
        Unattended ctx.input.now (state.working.part component) after)
      (plain : ∀ event ∈ log,
        event.completes component = false ∧ event.evaluation component = none) :
      StatusCourse component after log
  | checked (reaches : ReachesGates ctx state)
      (rollback : RollbackStep (state.working.part component) rolled)
      (pending : (scaleDown ctx state component).isSome = true)
      (moves : PhaseStep (rolled.getD initializeDrainStatus).phase decision status.phase)
      (retry : status.nextRetryTime = (rolled.getD initializeDrainStatus).nextRetryTime)
      (persisted : after = state.persisted.part component ∨ after = some status)
      (evaluated : ∃ event ∈ log,
        event.evaluation component = some (rolled.getD initializeDrainStatus).phase)
      (completion : (∃ event ∈ log, event.completes component = true) <->
        decision = .proceedDrained)
      (found : decision = .proceedDrained <-> findsComplete ctx state component = true) :
      StatusCourse component after log

end Definitions

section Courses

variable {ctx : PassContext} {state : PassState}

/-- The events after a drain check: the controller goes on because of a completed drain,
or for another reason. -/
def onward (component : Component) (later : List Event) : Verdict -> List Event
  | .proceedDrained => .drainComplete component :: later
  | _ => later

theorem StatusCourse.ofCheck (reaches : ReachesGates ctx state)
    (rollback : RollbackStep (state.working.part component) rolled)
    (pending : (scaleDown ctx state component).isSome)
    (frame : CheckFrame component (rolled.getD initializeDrainStatus) decision status first)
    (persisted : after = state.persisted.part component ∨ after = some status)
    (plain : ∀ event ∈ later, event.completes component = false)
    (found : decision = .proceedDrained <-> findsComplete ctx state component) :
    StatusCourse ctx state component after (first ++ onward component later decision) := by
  refine .checked reaches rollback pending frame.step frame.retry persisted ?_ ?_ found
  · exact ⟨_, List.mem_append_left _ frame.looked, by simp [Event.evaluation]⟩
  · constructor
    · rintro ⟨event, member, completing⟩
      by_contra undrained
      have same : onward component later decision = later := by
        cases decision with
        | proceedDrained => exact absurd rfl undrained
        | wait | proceed => rfl
      rw [same] at member
      rcases List.mem_append.mp member with first | last
      · simp [(frame.quiet event first).2] at completing
      · simp [plain event last] at completing
    · rintro rfl
      exact ⟨.drainComplete component, by simp [onward], by simp [Event.completes]⟩

theorem written_of_waited {applied : Bool}
    (persisted : after = if applied then some status else before) :
    after = before ∨ after = some status := by
  cases applied with
  | true => exact .inr persisted
  | false => exact .inl persisted

theorem gateCompletes_of_rollback (step : RollbackStep before after)
    (completes : DrainPhase -> Bool) (rolling : completes .rollingBack = false)
    (failed : completes .failed = false) :
    completes (after.getD initializeDrainStatus).phase =
      completes (before.getD initializeDrainStatus).phase := by
  cases step with
  | same => rfl
  | ended rollingBack => simp [afterRollbackCheck, rollingBack, rolling, failed]

theorem reconcile_concerningCourse :
    StatusCourse ctx state component ((reconcile ctx state).state.persisted.part component)
      (concerning component (reconcile ctx state).log) := by
  cases component
  case' indexer =>
    have course := reconcile_indexerCourse ctx state
    have rollback : RollbackStep (state.working.part .indexer) _ := (rolledBack_step ctx state).1
    have complete := gateCompletes_of_rollback rollback
      (Indexer.gateCompletes ctx.input.openSearch state.indexer) rfl rfl
    have gates : ReachesGates ctx state -> ReachesGates ctx state := id
  case' manager =>
    have course := reconcile_workerCourse ctx state
    have rollback : RollbackStep (state.working.part .manager) _ := (rolledBack_step ctx state).2
    have complete := gateCompletes_of_rollback rollback
      (Worker.gateCompletes ctx.input.queue ctx.input.now state.worker) rfl rfl
    have gates : ReachesWorkers ctx state -> ReachesGates ctx state := And.left
  all_goals
    generalize concerning _ (reconcile ctx state).log = log at course ⊢
    cases course with
    | unreached _ _ _ persisted => exact .unattended persisted (by simp)
    | unchecked _ _ workload _ persisted =>
      exact .unattended (persisted.imp_right .rollback)
        (fun event member => ⟨(workload.quiet _ event member).1, (workload.quiet _ event member).2.1⟩)
    | waited reaches pending effect _ _ persisted =>
      rw [← List.append_nil log]
      exact .ofCheck (gates reaches) rollback (by simp [scaleDown, pending]) effect.frame
        (written_of_waited persisted) (by simp)
        (effect.proceedDrained_iff.trans (Eq.congr_left complete))
    | undrained reaches pending effect workload drainer persisted
    | drained reaches pending effect workload drainer persisted =>
      exact .ofCheck (gates reaches) rollback (by simp [scaleDown, pending]) effect.frame
        persisted (fun event member => (workload.quiet _ event member).1)
        (effect.proceedDrained_iff.trans (Eq.congr_left complete))

theorem shrinksStatefulSet_of_shrinks
    (shrunk : ∃ event ∈ (reconcile ctx state).log, event.shrinks component) :
    shrinksStatefulSet ctx state component = true := by
  rw [← exists_mem_concerning (fun _ => Event.about_of_shrinks)] at shrunk
  cases component
  case' indexer => have course := reconcile_indexerCourse ctx state
  case' manager => have course := reconcile_workerCourse ctx state
  all_goals
    generalize concerning _ (reconcile ctx state).log = log at course shrunk
    cases course with
    | unreached => simp at shrunk
    | unchecked _ _ workload => exact workload.rewrites_of_shrinks shrunk
    | waited _ _ effect =>
      exact absurd shrunk (not_shrinks_of_quiet effect.frame.quiet)
    | undrained _ _ effect workload =>
      exact workload.rewrites_of_shrinks (shrinks_after effect.frame.quiet shrunk)
    | drained _ _ effect workload =>
      exact workload.rewrites_of_shrinks (shrinks_after_completion effect.frame.quiet shrunk)

theorem StatusCourse.ofConcerning
    (course : StatusCourse ctx state component after (concerning component log)) :
    StatusCourse ctx state component after log := by
  have own : ∀ event ∈ log, event.about = some component -> event ∈ concerning component log :=
    fun event member about => List.mem_filter.mpr ⟨member, by simpa using about⟩
  cases course with
  | unattended moved plain =>
    refine .unattended moved (fun event member => ⟨?_, ?_⟩)
    · by_contra completing
      rw [Bool.not_eq_false] at completing
      have inside := own event member (Event.about_of_completes completing)
      exact absurd completing (by simp [(plain event inside).1])
    · rcases seen : event.evaluation component with none | phase
      · rfl
      · have inside := own event member (Event.about_of_evaluation seen)
        rw [(plain event inside).2] at seen
        cases seen
  | checked reaches rollback pending moves retry persisted evaluated completion found =>
    refine .checked reaches rollback pending moves retry persisted ?_ ?_ found
    · obtain ⟨event, member, seen⟩ := evaluated
      exact ⟨event, (List.mem_filter.mp member).1, seen⟩
    · rw [← completion, exists_mem_concerning (fun _ => Event.about_of_completes)]

end Courses

end Controller
end WazuhOperator
