import WazuhOperator.Controller.Pass
import WazuhOperator.Worker.Effect

namespace WazuhOperator
namespace Controller

open Procedure Proc Drain Indexer Worker

/-!
# The stages of a pass as equations

A pass either ends before the drain checks or goes through them.
`ReachesGates` says which, in terms of what is known when the pass begins.
Each stage is then given by an equation or, where it branches on many
answers, by the inversion lemma of the component it calls.
-/

/-! ## Before the gates -/

/-- The status of a component before and after the rollback check. -/
inductive RollbackStep : Option ComponentDrainStatus -> Option ComponentDrainStatus -> Prop where
  | same (status : Option ComponentDrainStatus) : RollbackStep status status
  | ended (rollingBack : status.phase = .rollingBack) :
      RollbackStep (some status) (some (afterRollbackCheck status true))

theorem verifyComponentRollback_step {get : Except String Unit}
    (checked : verifyComponentRollback get found fallback before = .ok after) :
    RollbackStep before after := by
  cases before with
  | none =>
    cases checked
    exact .same none
  | some status =>
    by_cases rollingBack : status.phase = .rollingBack
    · simp only [verifyComponentRollback, rollingBack, if_true] at checked
      rcases complete : rollbackComplete get found fallback status with text | whole
      · rw [complete] at checked
        cases checked
      · rw [complete] at checked
        cases checked
        cases whole with
        | true => exact .ended rollingBack
        | false => exact .same _
    · simp only [verifyComponentRollback, rollingBack, if_false] at checked
      cases checked
      exact .same _

theorem RollbackStep.eq_of_ne (step : RollbackStep before after)
    (different : (before.getD initializeDrainStatus).phase ≠ .rollingBack) : after = before := by
  cases step with
  | same => rfl
  | ended rollingBack => exact absurd rollingBack different

theorem RollbackStep.phase (step : RollbackStep before after) :
    after = before ∨ (before.getD initializeDrainStatus).phase = .rollingBack ∧
      (after.getD initializeDrainStatus).phase = .failed := by
  cases step with
  | same => exact .inl rfl
  | ended rollingBack => exact .inr ⟨rollingBack, rfl⟩

section BeforeGates

variable (ctx : PassContext) (state : PassState)

def rolledBack : DrainStatus :=
  match verifyComponentRollback ctx.input.indexerRollbackGet (state.statefulSets ctx.indexerSts) 3
      state.working.indexer with
  | .error _ => state.working
  | .ok indexer =>
    match verifyComponentRollback ctx.input.workerRollbackGet
        (state.statefulSets ctx.workerSts) 1 state.working.manager with
    | .error _ => { state.working with indexer := indexer }
    | .ok manager => { indexer := indexer, manager := manager }

theorem rolledBack_step : RollbackStep state.working.indexer (rolledBack ctx state).indexer ∧
    RollbackStep state.working.manager (rolledBack ctx state).manager := by
  unfold rolledBack
  cases indexer : verifyComponentRollback ctx.input.indexerRollbackGet
      (state.statefulSets ctx.indexerSts) 3 state.working.indexer with
  | error text => exact ⟨.same _, .same _⟩
  | ok after =>
    have step := verifyComponentRollback_step indexer
    cases manager : verifyComponentRollback ctx.input.workerRollbackGet
        (state.statefulSets ctx.workerSts) 1 state.working.manager with
    | error => exact ⟨step, .same _⟩
    | ok => exact ⟨step, verifyComponentRollback_step manager⟩

def afterRollback : PassState := { state with working := rolledBack ctx state }

theorem verifyRollbackComplete_attempt : ∃ result, attempt (verifyRollbackComplete ctx) state =
      ⟨.ok result, afterRollback ctx state, []⟩ := by
  unfold afterRollback rolledBack
  cases indexer : verifyComponentRollback ctx.input.indexerRollbackGet
      (state.statefulSets ctx.indexerSts) 3 state.working.indexer with
  | error text => exact ⟨.error text, by simp [verifyRollbackComplete, indexer]⟩
  | ok after =>
    cases manager : verifyComponentRollback ctx.input.workerRollbackGet
        (state.statefulSets ctx.workerSts) 1 state.working.manager with
    | error text => exact ⟨.error text, by simp [verifyRollbackComplete, indexer, manager]⟩
    | ok => exact ⟨.ok (), by simp [verifyRollbackComplete, indexer, manager]⟩

theorem RollbackStep.retry_none_iff (now : Time)
    (step : RollbackStep before after) :
    retryDecision now after = .none <-> retryDecision now before = .none := by
  cases step with
  | same => exact Iff.rfl
  | ended rollingBack =>
    rename_i status
    cases time : status.nextRetryTime with
    | none => simp [retryDecision, afterRollbackCheck, rollingBack, time]
    | some retryTime =>
      simp only [retryDecision, afterRollbackCheck, rollingBack, time, if_true]
      by_cases due : retryTime < now
      · simp [due]
      · by_cases early : now < retryTime
        · simp [due, early]
        · simp [due, early]

def ReachesGates : Prop :=
  ctx.input.endsEarly = none ∧
    retryDecision ctx.input.now state.working.indexer = .none ∧
    retryDecision ctx.input.now state.working.manager = .none ∧
    ctx.input.preparation = .ok () ∧
    (ctx.spec.drain.map DrainConfiguration.dryRun).getD false = false

theorem writeStatus_apply (answer : WriteAnswer) :
    writeStatus answer state =
      ⟨answer.toExcept, if answer.applied then { state with persisted := state.working } else state,
        if answer.applied then [.drainStatusWritten state.working] else []⟩ := by
  cases answer <;> simp [writeStatus]

theorem reconcile_reaching (reaches : ReachesGates ctx state) :
    reconcile ctx state = reconcileIndexerOnward ctx (afterRollback ctx state) := by
  rcases reaches with ⟨early, indexer, manager, prepared, live⟩
  obtain ⟨result, rollback⟩ := verifyRollbackComplete_attempt ctx state
  have indexerNone := (rolledBack_step ctx state).1.retry_none_iff ctx.input.now |>.mpr indexer
  have managerNone := (rolledBack_step ctx state).2.retry_none_iff ctx.input.now |>.mpr manager
  have noRetry : checkAndHandleRetry ctx (afterRollback ctx state) =
      ⟨.ok false, afterRollback ctx state, []⟩ := by
    simp [checkAndHandleRetry, afterRollback, indexerNone, managerNone]
  simp [reconcile, early, rollback, noRetry, prepared, live, -attempt_apply]

/-! ## Passes which do not reach the gates -/

/-- What a pass may do to the status of a component without a drain check: end its
rollback, and announce a retry that has become due. -/
inductive Unattended (now : Time) :
    Option ComponentDrainStatus -> Option ComponentDrainStatus -> Prop where
  | rollback (step : RollbackStep before after) :
      Unattended now before after
  | retried (step : RollbackStep before (some status))
      (due : retryDecision now (some status) = .due next) : Unattended now before (some next)

theorem retryDecision_due (due : retryDecision now (some status) = .due next) :
    status.nextRetryTime.isSome ∧ next.phase = .pending := by
  rw [retryDecision] at due
  split at due
  · split at due
    · cases due
    · rename_i scheduled
      split at due
      · cases due
        exact ⟨by rw [scheduled]; rfl, rfl⟩
      · split at due <;> cases due
  · cases due

theorem phase_of_retryDecision_due (due : retryDecision now (some status) = .due next) :
    status.phase = .failed ∨ status.phase = .rollingBack := by
  rw [retryDecision] at due
  split at due
  · assumption
  · cases due

variable (moved : Unattended now before after)
include moved

theorem Unattended.phase :
    after = before ∨ ∃ status, after = some status ∧
      (status.phase = .failed ∨ status.phase = .pending) := by
  cases moved with
  | rollback step =>
    cases step with
    | same => exact .inl rfl
    | ended => exact .inr ⟨_, rfl, .inl rfl⟩
  | retried _ due => exact .inr ⟨_, rfl, .inr (retryDecision_due due).2⟩

theorem Unattended.phase_ne {phase : DrainPhase}
    (different : (before.getD initializeDrainStatus).phase ≠ phase) (notFailed : phase ≠ .failed)
    (notPending : phase ≠ .pending) :
    (after.getD initializeDrainStatus).phase ≠ phase := by
  rcases moved.phase with same | ⟨status, present, failed | pending⟩
  · rw [same]
    exact different
  · rw [present, Option.getD_some, failed]
    exact notFailed.symm
  · rw [present, Option.getD_some, pending]
    exact notPending.symm

theorem Unattended.eq_of_ne (notFailed : (before.getD initializeDrainStatus).phase ≠ .failed)
    (notRollingBack : (before.getD initializeDrainStatus).phase ≠ .rollingBack) :
    after = before := by
  cases moved with
  | rollback step => exact step.eq_of_ne notRollingBack
  | retried step due =>
    have same := step.eq_of_ne notRollingBack
    subst same
    rcases phase_of_retryDecision_due due with failed | rollingBack
    · exact absurd failed notFailed
    · exact absurd rollingBack notRollingBack

/-- What is left by a pass which did not reach the gates. -/
structure Unreached (after : PassState) (log : List Event) : Prop where
  sets : after.statefulSets = state.statefulSets
  indexerDrainer : after.indexer.drainer = state.indexer.drainer
  workerDrainer : after.worker.drainer = state.worker.drainer
  indexerStatus : after.persisted.indexer = state.persisted.indexer ∨
    Unattended ctx.input.now state.working.indexer after.persisted.indexer
  managerStatus : after.persisted.manager = state.persisted.manager ∨
    Unattended ctx.input.now state.working.manager after.persisted.manager
  silent : ∀ event ∈ log, event.about = none
  unwritten : ctx.input.statusWrite.applied = false -> after.persisted = state.persisted

omit moved

theorem unreached_of_write (middle : PassState)
    (sets : middle.statefulSets = state.statefulSets)
    (indexerDrainer : middle.indexer.drainer = state.indexer.drainer)
    (workerDrainer : middle.worker.drainer = state.worker.drainer)
    (persisted : middle.persisted = state.persisted)
    (indexer : Unattended ctx.input.now state.working.indexer middle.working.indexer)
    (manager : Unattended ctx.input.now state.working.manager middle.working.manager) :
    Unreached ctx state (writeStatus ctx.input.statusWrite middle).state
      (writeStatus ctx.input.statusWrite middle).log := by
  rw [writeStatus_apply]
  cases applied : ctx.input.statusWrite.applied with
  | true =>
    exact ⟨sets, indexerDrainer, workerDrainer, .inr indexer, .inr manager,
      by simp [Event.about], by simp [applied]⟩
  | false =>
    exact ⟨sets, indexerDrainer, workerDrainer, .inl (by simp [persisted]),
      .inl (by simp [persisted]), by simp, fun _ => by simp [persisted]⟩

theorem unreached_afterRollback : Unreached ctx state (afterRollback ctx state) [] :=
  ⟨rfl, rfl, rfl, .inl rfl, .inl rfl, by simp, fun _ => rfl⟩

theorem checkAndHandleRetry_cases :
    (retryDecision ctx.input.now (rolledBack ctx state).indexer = .none ∧
        retryDecision ctx.input.now (rolledBack ctx state).manager = .none ∧
        checkAndHandleRetry ctx (afterRollback ctx state) =
          ⟨.ok false, afterRollback ctx state, []⟩) ∨
      ∃ after log, checkAndHandleRetry ctx (afterRollback ctx state) = ⟨.ok true, after, log⟩ ∧
        Unreached ctx state after log := by
  have indexerStep := (rolledBack_step ctx state).1
  have managerStep := (rolledBack_step ctx state).2
  cases indexer : retryDecision ctx.input.now (rolledBack ctx state).indexer with
  | due next =>
    right
    rcases status : (rolledBack ctx state).indexer with none | status
    · rw [status] at indexer
      cases indexer
    · rw [status] at indexer indexerStep
      have left := unreached_of_write ctx state
        { afterRollback ctx state with
          working := { rolledBack ctx state with indexer := some next } }
        rfl rfl rfl rfl (.retried indexerStep indexer) (.rollback managerStep)
      refine ⟨_, _, ?_, left⟩
      simp [checkAndHandleRetry, afterRollback, status, indexer]
  | wait =>
    right
    refine ⟨_, _, ?_, unreached_afterRollback ctx state⟩
    simp [checkAndHandleRetry, afterRollback, indexer]
  | none =>
    cases manager : retryDecision ctx.input.now (rolledBack ctx state).manager with
    | due next =>
      right
      rcases status : (rolledBack ctx state).manager with none | status
      · rw [status] at manager
        cases manager
      · rw [status] at manager managerStep
        have left := unreached_of_write ctx state
          { afterRollback ctx state with
            working := { rolledBack ctx state with manager := some next } }
          rfl rfl rfl rfl (.rollback indexerStep)
          (.retried managerStep manager)
        refine ⟨_, _, ?_, left⟩
        simp [checkAndHandleRetry, afterRollback, indexer, status, manager]
    | wait =>
      right
      refine ⟨_, _, ?_, unreached_afterRollback ctx state⟩
      simp [checkAndHandleRetry, afterRollback, indexer, manager]
    | none =>
      left
      simp [checkAndHandleRetry, afterRollback, indexer, manager]

theorem keeps_indexerDryRun
    (cached : forall reconciler client, inv reconciler -> reconciler.osClient = none ->
      ctx.makeClient ctx.input.getClient = .ok client -> inv { reconciler with osClient := some client })
    (asked : forall reconciler client, inv reconciler -> reconciler.osClient = some client ->
      emits (.dryRun .indexer client target)) :
    Keeps inv emits (indexerDryRun ctx target) := by
  apply keeps_cachedClient_bind cached
  intro reconciler holds
  split
  · exact keeps_pure _
  · rename_i client found
    exact keeps_emit (asked reconciler client holds found)

theorem keeps_managerDryRun
    (renewed : forall reconciler own, inv reconciler -> ctx.readCredentials = .ok own ->
      inv (withWazuhClient (wazuhURL ctx.domain ctx.key) own reconciler))
    (asked : forall reconciler client, inv reconciler -> reconciler.wazuhClient = some client ->
      emits (.dryRun .manager client target)) :
    Keeps inv emits (managerDryRun ctx target) := by
  refine keeps_bind (keeps_attempt fun reconciler holds => ?_) fun result => ?_
  · rw [ensureWazuhClient_apply]
    cases read : ctx.readCredentials with
    | error => exact ⟨holds, by simp⟩
    | ok own => exact ⟨renewed reconciler own holds read, by simp⟩
  split
  · exact keeps_pure _
  · apply keeps_read_bind
    intro reconciler holds
    split
    · exact keeps_pure _
    · rename_i client found
      exact keeps_emit (asked reconciler client holds found)

theorem keeps_evaluateDryRun
    (indexer : ctx.spec.indexerDrainEnabled -> forall target, Keeps inv emits
      (focus PassState.indexer (fun memory s => { s with indexer := memory })
        (indexerDryRun ctx target)))
    (manager : ctx.spec.managerDrainEnabled -> forall target, Keeps inv emits
      (focus PassState.worker (fun memory s => { s with worker := memory })
        (managerDryRun ctx target))) :
    Keeps inv emits (evaluateDryRun ctx) := by
  apply keeps_read_bind
  intro before _
  apply keeps_bind
  · unfold evaluateIndexerDryRun
    dsimp only
    split
    · rename_i enabled _
      exact indexer enabled _
    · exact keeps_pure _
  · intro _
    unfold evaluateManagerDryRun
    dsimp only
    split
    · rename_i enabled _
      exact manager enabled _
    · exact keeps_pure _

/-- The part of the store a dry run leaves alone, which is all but the cached clients. -/
def SameButClients (after : PassState) : Prop :=
  after.statefulSets = state.statefulSets ∧ after.indexer.drainer = state.indexer.drainer ∧
    after.worker.drainer = state.worker.drainer ∧ after.persisted = state.persisted ∧
    after.working = state.working

theorem keeps_evaluateDryRun_frame :
    Keeps (SameButClients state) (fun event => event.about = none) (evaluateDryRun ctx) := by
  apply keeps_evaluateDryRun
  · intro _ target
    apply keeps_focus (fun memory => memory.drainer = state.indexer.drainer)
    · exact fun before same => same.2.1
    · exact fun before after same kept => ⟨same.1, kept, same.2.2⟩
    · exact keeps_indexerDryRun ctx (fun _ _ kept _ _ => kept) (fun _ _ _ _ => rfl)
  · intro _ target
    apply keeps_focus (fun memory => memory.drainer = state.worker.drainer)
    · exact fun before same => same.2.2.1
    · exact fun before after same kept => ⟨same.1, same.2.1, kept, same.2.2.2⟩
    · refine keeps_managerDryRun ctx ?_ (fun _ _ _ _ => rfl)
      intro reconciler own kept _
      rw [withWazuhClient_drainer]
      exact kept

theorem evaluateDryRun_unreached : Unreached ctx state
      ((evaluateDryRun ctx >>= fun _ => writeStatus ctx.input.statusWrite)
        (afterRollback ctx state)).state
      ((evaluateDryRun ctx >>= fun _ => writeStatus ctx.input.statusWrite)
        (afterRollback ctx state)).log := by
  have kept := keeps_evaluateDryRun_frame ctx (afterRollback ctx state) (afterRollback ctx state)
    ⟨rfl, rfl, rfl, rfl, rfl⟩
  rw [bind_apply]
  rcases ran : evaluateDryRun ctx (afterRollback ctx state) with ⟨result, after, log⟩
  rw [ran] at kept
  obtain ⟨⟨sets, indexerDrainer, workerDrainer, persisted, working⟩, silent⟩ := kept
  cases result with
  | error =>
    exact ⟨sets, indexerDrainer, workerDrainer, .inl (by rw [persisted]; rfl),
      .inl (by rw [persisted]; rfl), silent, fun _ => persisted⟩
  | ok =>
    have indexer : RollbackStep state.working.indexer after.working.indexer := by
      rw [working]
      exact (rolledBack_step ctx state).1
    have manager : RollbackStep state.working.manager after.working.manager := by
      rw [working]
      exact (rolledBack_step ctx state).2
    have left := unreached_of_write ctx state after sets indexerDrainer
      workerDrainer persisted (.rollback indexer) (.rollback manager)
    refine { left with silent := ?_ }
    intro event member
    rcases List.mem_append.mp member with earlier | later
    · exact silent event earlier
    · exact left.silent event later

theorem reconcile_unreached (skipped : ¬ ReachesGates ctx state) :
    Unreached ctx state (reconcile ctx state).state (reconcile ctx state).log := by
  obtain ⟨result, rollback⟩ := verifyRollbackComplete_attempt ctx state
  cases early : ctx.input.endsEarly with
  | some =>
    simp only [reconcile, early, ofExcept_apply]
    exact ⟨rfl, rfl, rfl, .inl rfl, .inl rfl, by simp, fun _ => rfl⟩
  | none =>
    rcases checkAndHandleRetry_cases ctx state with ⟨indexer, manager, noRetry⟩ | ⟨after, log, ended, left⟩
    · cases prepared : ctx.input.preparation with
      | error =>
        simpa [reconcile, early, rollback, noRetry, prepared, -attempt_apply] using
          unreached_afterRollback ctx state
      | ok =>
        cases dry : (ctx.spec.drain.map DrainConfiguration.dryRun).getD false with
        | false =>
          have indexerNone := (rolledBack_step ctx state).1.retry_none_iff ctx.input.now
            |>.mp indexer
          have managerNone := (rolledBack_step ctx state).2.retry_none_iff ctx.input.now
            |>.mp manager
          exact absurd ⟨early, indexerNone, managerNone, prepared, dry⟩ skipped
        | true =>
          have whole : reconcile ctx state =
              (evaluateDryRun ctx >>= fun _ => writeStatus ctx.input.statusWrite)
                (afterRollback ctx state) := by
            simp [reconcile, early, rollback, noRetry, prepared, dry, -attempt_apply]
          rw [whole]
          exact evaluateDryRun_unreached ctx state
    · simpa [reconcile, early, rollback, ended, -attempt_apply] using left

end BeforeGates

end Controller
end WazuhOperator
