import WazuhOperator.Controller.Stages

namespace WazuhOperator
namespace Controller

open Procedure Proc Drain Indexer Worker

/-!
# From the drain checks to the end of a pass

The two drain checks, the reconciliation of the two StatefulSets, and what
the part of the pass about one component leaves alone of the other.
-/

/-! ## Detecting a scale-down in a pass -/

/-- The scale-down a drain check looks at: the component is specified, its StatefulSet
can be read, its drain is switched on, and the count is to go down. -/
def pendingScaleDown (enabled : Bool) (get : Except String Unit) (stsName : String)
    (found : Option StatefulSet) (desired : Option Nat) : Option ScaleDownInfo :=
  match desired, get, found with
  | some desired, .ok (), some sts =>
    if enabled = true ∧ desired < sts.currentReplicas then
      some (detectStatefulSetScaleDown stsName sts desired)
    else none
  | _, _, _ => none

theorem pendingScaleDown_eq_some {enabled : Bool} {get : Except String Unit} {stsName : String}
    {found : Option StatefulSet} {desired : Option Nat}
    (pending : pendingScaleDown enabled get stsName found desired = some info) :
    ∃ sts count, found = some sts ∧ desired = some count ∧ get = .ok () ∧ enabled ∧
      count < sts.currentReplicas ∧ info = detectStatefulSetScaleDown stsName sts count := by
  rcases desired with none | count
  · cases pending
  · rcases get with text | value
    · cases pending
    · rcases found with none | sts
      · cases pending
      · simp only [pendingScaleDown] at pending
        split at pending
        · rename_i both
          cases pending
          exact ⟨sts, count, rfl, rfl, rfl, both.1, both.2, rfl⟩
        · cases pending

section Check

variable {μ π : Type} (ops : DrainOperations μ π) (now : Time) (enabled : Bool) (stsName : String)
variable (get : Except String Unit) (found : Option StatefulSet) (wrap : String -> String)
variable (desired : Nat) (gate : GateState μ)

theorem checkScaleDownDrain_none
    (absent : pendingScaleDown enabled get stsName found (some desired) = none) :
    ∃ result, verdict result = .proceed ∧
      checkScaleDownDrain ops now enabled stsName ((get.map (fun _ => found)).mapError wrap)
        desired gate = ⟨result, gate, []⟩ := by
  rcases get with text | value
  · exact ⟨.error (wrap text), rfl, rfl⟩
  · rcases found with none | sts
    · exact ⟨.ok {}, rfl, rfl⟩
    · by_cases smaller : desired < sts.currentReplicas
      · cases enabled with
        | true => simp [pendingScaleDown, smaller] at absent
        | false =>
          have detected := (detect_detected_iff stsName sts desired).mpr smaller
          refine ⟨.ok { targetPod := (detectStatefulSetScaleDown stsName sts desired).targetPodName },
            rfl, ?_⟩
          simp [checkScaleDownDrain, detected, Except.map]
      · have undetected : (detectStatefulSetScaleDown stsName sts desired).detected = false := by
          rw [← Bool.not_eq_true, detect_detected_iff]
          exact smaller
        refine ⟨.ok {}, rfl, ?_⟩
        simp [checkScaleDownDrain, undetected, Except.map]

theorem checkScaleDownDrain_some
    (pending : pendingScaleDown enabled get stsName found (some desired) = some info) :
    checkScaleDownDrain ops now enabled stsName ((get.map (fun _ => found)).mapError wrap)
        desired gate =
      withDrainStatus (checkPhase ops now info) gate := by
  obtain ⟨sts, count, present, same, read, on, smaller, named⟩ := pendingScaleDown_eq_some pending
  cases same
  subst present read on named
  have detected := (detect_detected_iff stsName sts desired).mpr smaller
  simp [checkScaleDownDrain, detected, Except.map]

variable {set : GateState μ -> PassState -> PassState}

theorem controlled_none {state : PassState} (kept : set (view state) state = state)
    (absent : pendingScaleDown enabled get stsName found (some desired) = none) :
    (attempt (focus view set
      (checkScaleDownDrain ops now enabled stsName ((get.map (fun _ => found)).mapError wrap) desired)) >>=
        fun result => pure (verdict result)) state = ⟨.ok .proceed, state, []⟩ := by
  rcases checkScaleDownDrain_none ops now enabled stsName get found wrap desired (view state) absent with
    ⟨result, proceeds, ran⟩
  simp [ran, proceeds, kept]

theorem controlled_some {state : PassState}
    (pending : pendingScaleDown enabled get stsName found (some desired) = some info) :
    (attempt (focus view set
      (checkScaleDownDrain ops now enabled stsName ((get.map (fun _ => found)).mapError wrap) desired)) >>=
        fun result => pure (verdict result)) state =
      let checked := checkPhase ops now info ⟨(view state).memory, (view state).status.getD initializeDrainStatus⟩
      ⟨.ok (verdict checked.result), set ⟨checked.state.memory, some checked.state.status⟩ state, checked.log⟩ := by
  simp [checkScaleDownDrain_some ops now enabled stsName get found wrap desired (view state) pending, withDrainStatus]

end Check

section Gates

variable (ctx : PassContext) (state : PassState)

def indexerScaleDown : Option ScaleDownInfo :=
  pendingScaleDown ctx.spec.indexerDrainEnabled ctx.input.indexerGet ctx.indexerSts
    (state.statefulSets ctx.indexerSts) (ctx.spec.indexer.map IndexerSpec.desiredReplicas)

def workerScaleDown : Option ScaleDownInfo :=
  pendingScaleDown ctx.spec.managerDrainEnabled ctx.input.workerGet ctx.workerSts
    (state.statefulSets ctx.workerSts) (ctx.spec.manager.map ManagerSpec.getReplicas)

def indexerDrainState : DrainState IndexerReconciler :=
  ⟨state.indexer, state.working.indexer.getD initializeDrainStatus⟩

def workerDrainState : DrainState WorkerReconciler :=
  ⟨state.worker, state.working.manager.getD initializeDrainStatus⟩

theorem indexerDrainState_afterRollback
    (other : (state.working.indexer.getD initializeDrainStatus).phase ≠ .rollingBack) :
    indexerDrainState (afterRollback ctx state) = indexerDrainState state := by
  have kept := (rolledBack_step ctx state).1.eq_of_ne other
  simp only [indexerDrainState, afterRollback, kept]

theorem workerDrainState_afterRollback
    (other : (state.working.manager.getD initializeDrainStatus).phase ≠ .rollingBack) :
    workerDrainState (afterRollback ctx state) = workerDrainState state := by
  have kept := (rolledBack_step ctx state).2.eq_of_ne other
  simp only [workerDrainState, afterRollback, kept]

def withIndexerDrain (drain : DrainState IndexerReconciler) : PassState :=
  { state with
    indexer := drain.memory, working := { state.working with indexer := some drain.status } }

def withWorkerDrain (drain : DrainState WorkerReconciler) : PassState :=
  { state with
    worker := drain.memory, working := { state.working with manager := some drain.status } }

abbrev IndexerEffect (info : ScaleDownInfo) (decision : Verdict)
    (drain : DrainState IndexerReconciler) (log : List Event) : Prop :=
  Indexer.CheckEffect ctx.key (ctx.spec.drain.bind DrainConfiguration.indexer)
    (ctx.makeClient ctx.input.getClient) ctx.input.openSearch ctx.input.now info
    (indexerDrainState state) decision drain log

abbrev WorkerEffect (info : ScaleDownInfo) (decision : Verdict)
    (drain : DrainState WorkerReconciler) (log : List Event) : Prop :=
  Worker.CheckEffect ctx.key (ctx.spec.drain.bind DrainConfiguration.manager)
    (wazuhURL ctx.domain ctx.key) ctx.readCredentials ctx.input.queue ctx.input.now info
    (workerDrainState state) decision drain log

theorem indexerCheck_none (absent : indexerScaleDown ctx state = none) :
    indexerCheck ctx state = ⟨.ok .proceed, state, []⟩ := by
  rcases wanted : ctx.spec.indexer with none | indexer
  · simp [indexerCheck, wanted]
  · simp only [indexerScaleDown, wanted, Option.map_some] at absent
    simp only [indexerCheck, wanted]
    exact controlled_none _ _ _ _ _ _ _ _ rfl absent

theorem indexerCheck_some (pending : indexerScaleDown ctx state = some info) :
    ∃ decision drain log,
      indexerCheck ctx state = ⟨.ok decision, withIndexerDrain state drain, log⟩ ∧
        IndexerEffect ctx state info decision drain log := by
  rcases wanted : ctx.spec.indexer with none | indexer
  · simp [indexerScaleDown, pendingScaleDown, wanted] at pending
  · simp only [indexerScaleDown, wanted, Option.map_some] at pending
    refine ⟨_, _, _, ?_, Indexer.checkPhase_effect ctx.key
      (ctx.spec.drain.bind DrainConfiguration.indexer) (ctx.makeClient ctx.input.getClient)
      ctx.input.openSearch ctx.input.now info (indexerDrainState state)⟩
    simp only [indexerCheck, wanted]
    exact controlled_some _ _ _ _ _ _ _ _ pending

/-- What the indexer's `CheckScaleDownDrain` returns to the controller. -/
def indexerCheckResult : Except String (DrainCheckResult DrainProgress) :=
  match ctx.spec.indexer with
  | none => .ok {}
  | some indexer =>
    (IndexerReconciler.checkScaleDownDrain ctx.input.now ctx.key ctx.spec
      (ctx.makeClient ctx.input.getClient) ctx.input.openSearch
      (ctx.input.indexerGet.map (fun _ => state.statefulSets ctx.indexerSts))
      indexer.desiredReplicas state.indexerGate).result

theorem indexerCheck_result :
    (indexerCheck ctx state).result = .ok (verdict (indexerCheckResult ctx state)) := by
  rcases wanted : ctx.spec.indexer with none | indexer
  · simp [indexerCheck, indexerCheckResult, wanted, verdict]
  · simp [indexerCheck, indexerCheckResult, wanted]

theorem indexerCheckResult_error (pending : indexerScaleDown ctx state = some info)
    (phase : (indexerDrainState state).status.phase = .idle ∨
      (indexerDrainState state).status.phase = .unset)
    (onward : (indexerCheck ctx state).result = .ok .proceed) :
    ∃ text, indexerCheckResult ctx state = .error text := by
  rw [indexerCheck_result] at onward
  rcases wanted : ctx.spec.indexer with none | indexer
  · simp [indexerScaleDown, pendingScaleDown, wanted] at pending
  · simp only [indexerScaleDown, wanted, Option.map_some] at pending
    have ran : indexerCheckResult ctx state =
        (checkPhase (Indexer.drainOperations ctx.key (ctx.spec.drain.bind DrainConfiguration.indexer)
          (ctx.makeClient ctx.input.getClient) ctx.input.openSearch) ctx.input.now info
          (indexerDrainState state)).result := by
      simp only [indexerCheckResult, wanted]
      exact congrArg Outcome.result (checkScaleDownDrain_some _ _ _ _ _ _ _ _ state.indexerGate pending)
    rw [ran] at onward ⊢
    exact checkPhase_error_of_proceed phase (Except.ok.inj onward)

theorem workerCheck_none (absent : workerScaleDown ctx state = none) :
    workerCheck ctx state = ⟨.ok .proceed, state, []⟩ := by
  rcases wanted : ctx.spec.manager with none | manager
  · simp [workerCheck, wanted]
  · simp only [workerScaleDown, wanted, Option.map_some] at absent
    simp only [workerCheck, wanted]
    exact controlled_none _ _ _ _ _ _ _ _ rfl absent

theorem workerCheck_some (pending : workerScaleDown ctx state = some info) :
    ∃ decision drain log,
      workerCheck ctx state = ⟨.ok decision, withWorkerDrain state drain, log⟩ ∧
        WorkerEffect ctx state info decision drain log := by
  rcases wanted : ctx.spec.manager with none | manager
  · simp [workerScaleDown, pendingScaleDown, wanted] at pending
  · simp only [workerScaleDown, wanted, Option.map_some] at pending
    refine ⟨_, _, _, ?_, Worker.checkPhase_effect ctx.key
      (ctx.spec.drain.bind DrainConfiguration.manager) (wazuhURL ctx.domain ctx.key)
      ctx.readCredentials ctx.input.queue ctx.input.now info (workerDrainState state)⟩
    simp only [workerCheck, wanted]
    exact controlled_some _ _ _ _ _ _ _ _ pending

/-- What the workers' `CheckScaleDownDrain` returns to the controller. -/
def workerCheckResult : Except String (DrainCheckResult ManagerDrainProgress) :=
  match ctx.spec.manager with
  | none => .ok {}
  | some manager =>
    (WorkerReconciler.checkScaleDownDrain ctx.input.now ctx.key ctx.spec
      (wazuhURL ctx.domain ctx.key) ctx.readCredentials ctx.input.queue
      (ctx.input.workerGet.map (fun _ => state.statefulSets ctx.workerSts))
      manager.getReplicas state.workerGate).result

theorem workerCheck_result :
    (workerCheck ctx state).result = .ok (verdict (workerCheckResult ctx state)) := by
  rcases wanted : ctx.spec.manager with none | manager
  · simp [workerCheck, workerCheckResult, wanted, verdict]
  · simp [workerCheck, workerCheckResult, wanted]

theorem workerCheckResult_error (pending : workerScaleDown ctx state = some info)
    (phase : (workerDrainState state).status.phase = .idle ∨
      (workerDrainState state).status.phase = .unset)
    (onward : (workerCheck ctx state).result = .ok .proceed) :
    ∃ text, workerCheckResult ctx state = .error text := by
  rw [workerCheck_result] at onward
  rcases wanted : ctx.spec.manager with none | manager
  · simp [workerScaleDown, pendingScaleDown, wanted] at pending
  · simp only [workerScaleDown, wanted, Option.map_some] at pending
    have ran : workerCheckResult ctx state =
        (checkPhase (Worker.drainOperations ctx.input.now ctx.key
          (ctx.spec.drain.bind DrainConfiguration.manager) (wazuhURL ctx.domain ctx.key)
          ctx.readCredentials ctx.input.queue) ctx.input.now info (workerDrainState state)).result := by
      simp only [workerCheckResult, wanted]
      exact congrArg Outcome.result (checkScaleDownDrain_some _ _ _ _ _ _ _ _ state.workerGate pending)
    rw [ran] at onward ⊢
    exact checkPhase_error_of_proceed phase (Except.ok.inj onward)

/-! ## The controller's use of a drain check -/

variable {state}

theorem gated_wait (checked : check state = ⟨.ok .wait, after, log⟩) :
    gated ctx component check resetDrainState rest state =
      (writeStatus ctx.input.statusWrite after).following log := by
  simp [gated, checked]

theorem gated_proceed (checked : check state = ⟨.ok .proceed, after, log⟩) :
    gated ctx component check resetDrainState rest state = (rest after).following log := by
  simp [gated, checked]

theorem gated_proceedDrained (checked : check state = ⟨.ok .proceedDrained, after, log⟩) :
    gated ctx component check resetDrainState rest state =
      ⟨(rest after).result, resetDrainState (rest after).state,
        log ++ .drainComplete component :: (rest after).log⟩ := by
  simp [gated, checked]

/-! ## The StatefulSets -/

variable (state) in
theorem prepared_effect (noun : String) (needsUpdate : StatefulSet -> StatefulSet -> Bool)
    (answers : WorkloadAnswers) (desired : StatefulSet) (name : String) (wrap : String -> String) :
    ∃ result found log,
      (ofExcept answers.prepare >>= fun _ =>
        mapError wrap
          (onStatefulSet name (reconcileStatefulSet noun needsUpdate answers desired))) state =
        ⟨result, { state with statefulSets := Function.update state.statefulSets name found }, log⟩ ∧
      WorkloadEffect needsUpdate answers desired (state.statefulSets name) found log := by
  cases prepared : answers.prepare with
  | error text =>
    refine ⟨.error text, state.statefulSets name, [], by simp, ?_⟩
    cases state.statefulSets name with
    | none => exact .absent
    | some =>
      refine .untouched ?_
      simp [rewrites, prepared]
  | ok =>
    have effect := reconcileStatefulSet_effect noun needsUpdate answers desired prepared
      (state.statefulSets name)
    rcases ran : reconcileStatefulSet noun needsUpdate answers desired (state.statefulSets name)
      with ⟨result, found, log⟩
    rw [TakesEffect, ran] at effect
    cases result with
    | error text => exact ⟨.error (wrap text), found, log, by simp [onStatefulSet, ran], effect⟩
    | ok done => exact ⟨.ok done, found, log, by simp [onStatefulSet, ran], effect⟩

end Gates

end Controller
end WazuhOperator
