import WazuhOperator.Controller.FailClosed

namespace WazuhOperator
namespace Controller

open Procedure Drain Indexer Worker List Event

/-!
# What the drain gate of the workers guards

The gate of the workers has the weaknesses of the indexer's.  In addition its
verification speaks about a single worker, the one with the highest ordinal,
whatever the size of the scale-down, and a phase `Complete` from an earlier
pass is taken at its word.  A cluster without a manager section has its
workers scaled to zero past the gate.
-/

/-- Every pod removed in the course of a log has been verified within it. -/
def RemovesVerified (component : Component) (stsName : String) (log : List Event) : Prop :=
  ∀ event ∈ log, ∀ change ∈ event.shrink, change.1 = component ->
    ∀ ordinal < change.2.1, change.2.2 ≤ ordinal ->
      ∃ earlier ∈ log, earlier.verifies component (podName stsName ordinal) = true

instance (component : Component) (stsName : String) (log : List Event) :
    Decidable (RemovesVerified component stsName log) :=
  inferInstanceAs (Decidable (∀ event ∈ log, ∀ change ∈ event.shrink, _ -> _))

/-- The workers are scaled down only in passes which verified each of the workers
removed, and on the strength of a completed drain. -/
def WorkersGuarded (ctx : PassContext) (log : List Event) : Prop :=
  RemovesVerified .manager ctx.workerSts log ∧ FailsClosed .manager log
  deriving Decidable

/-- The gate of the workers holds in this pass, by what is known when the pass begins:
it makes the pass wait, or it verifies the only worker to be removed. -/
def workerGateHolds (ctx : PassContext) (state : PassState) : Bool :=
  match workerScaleDown ctx state with
  | none => false
  | some info =>
    match (state.working.manager.getD initializeDrainStatus).phase with
    | .idle => ctx.readCredentials.isOk && ctx.input.queue.isOk
    | .pending | .draining => true
    | .verifying =>
      match state.worker.drainer with
      | none => false
      | some drainer =>
        ctx.input.queue.isOk &&
          (!queueSettled ctx.input.queue ctx.input.now drainer ||
            info.currentReplicas = info.targetReplicas + 1)
    | _ => false

/-! ## Logs without a shrinking write, and logs without a verification -/

theorem removesVerified_concerning (component : Component) (stsName : String) (log : List Event) :
    RemovesVerified component stsName log <->
      RemovesVerified component stsName (concerning component log) := by
  have verified : forall ordinal,
      (∃ earlier ∈ concerning component log,
        earlier.verifies component (podName stsName ordinal)) <->
      ∃ earlier ∈ log, earlier.verifies component (podName stsName ordinal) :=
    fun ordinal => exists_mem_concerning (fun _ => about_of_verifies) log
  constructor
  · intro guarded event member change shrinking own ordinal below above
    rw [verified]
    exact guarded event (mem_filter.mp member).1 change shrinking own ordinal below above
  · intro guarded event member change shrinking own ordinal below above
    rw [← verified]
    have concerned := about_of_shrinks (shrinks_of_mem shrinking own)
    exact guarded event (mem_filter.mpr ⟨member, by simpa using concerned⟩) change shrinking own
      ordinal below above

variable {log : List Event}

theorem workersGuarded_of_still {ctx : PassContext}
    (still : ¬ ∃ event ∈ log, event.shrinks .manager) : WorkersGuarded ctx log := by
  constructor
  · intro event member change shrinking own
    exact absurd ⟨event, member, shrinks_of_mem shrinking own⟩ still
  · exact fun shrinking => absurd shrinking still

theorem workersGuarded_iff_still {ctx : PassContext}
    (unverified : ∀ event ∈ log, forall pod, event.verifies .manager pod = false) :
    WorkersGuarded ctx log <-> ¬ ∃ event ∈ log, event.shrinks .manager = true := by
  constructor
  · rintro guarded ⟨event, member, shrinking⟩
    obtain ⟨change, inside, own⟩ := exists_mem_shrink shrinking
    have below := lt_of_mem_shrink inside
    obtain ⟨earlier, before, verifying⟩ := guarded.1 event member change inside own
      change.2.2 below (Nat.le_refl _)
    rw [unverified earlier before] at verifying
    cases verifying
  · exact workersGuarded_of_still

/-! ## The passes in which the workers are guarded -/

section Guarded

variable {ctx : PassContext} {state : PassState}

theorem workerGateHolds_afterRollback :
    workerGateHolds ctx (afterRollback ctx state) = workerGateHolds ctx state := by
  have step := (rolledBack_step ctx state).2
  simp only [workerGateHolds, afterRollback, workerScaleDown]
  generalize (rolledBack ctx state).manager = after at step
  generalize state.working.manager = before at step
  cases step with
  | same => rfl
  | ended rollingBack => simp [afterRollbackCheck, rollingBack]

variable {sts : StatefulSet}

theorem workerGateHolds_of_effect (pending : workerScaleDown ctx state = some info)
    (effect : WorkerEffect ctx (afterRollback ctx state) info decision drain log)
    (incomplete : decision ≠ .proceedDrained) :
    workerGateHolds ctx state <-> decision = .wait := by
  rw [← workerGateHolds_afterRollback]
  replace pending : workerScaleDown ctx (afterRollback ctx state) = some info := pending
  generalize afterRollback ctx state = state at pending effect
  have phases : (state.working.manager.getD initializeDrainStatus).phase =
      (workerDrainState state).status.phase := rfl
  simp only [workerGateHolds, pending, phases]
  cases effect with
  | unavailable start unread =>
    rcases start with idle | unset
    · simp [idle, unread]
    · simp [unset]
  | unsetPhase unset => simp [unset]
  | queueFailed idle _ _ unread => simp [idle, unread]
  | started idle readable _ read => simp [idle, readable, read]
  | watched under => rcases under with phase | phase <;> simp [phase]
  | unverifiable verifying unknown =>
    rcases unknown with absent | ⟨text, unread⟩
    · have missing : state.worker.drainer = none := absent
      simp [verifying, missing]
    · cases held : state.worker.drainer with
      | none => simp [verifying]
      | some => simp [verifying, unread]
  | notEmpty verifying present read unsettled =>
    have held : state.worker.drainer = some _ := present
    simp [verifying, held, unsettled]
    simp [read]
  | verified | alreadyComplete => exact absurd rfl incomplete
  | passedOver other =>
    rcases other with phase | phase | ⟨text, phase⟩ <;> simp [phase]

variable {after : Option StatefulSet}

theorem workersGuarded_unverified_iff (first : List Event)
    (workload : WorkerWorkload ctx (some sts) after later)
    (smaller : (builtWorker ctx).currentReplicas < sts.currentReplicas)
    (quiet : ∀ event ∈ first, event.shrink = none)
    (unverified : ∀ event ∈ first, forall pod, event.verifies .manager pod = false) :
    WorkersGuarded ctx (first ++ later) <->
      rewrites workerNeedsUpdate ctx.input.worker sts (builtWorker ctx) = false := by
  have all : ∀ event ∈ first ++ later, forall pod, event.verifies .manager pod = false := by
    intro event member pod
    rcases mem_append.mp member with earlier | written
    · exact unverified event earlier pod
    · exact (workload.quiet .manager event written).2.2 pod
  rw [workersGuarded_iff_still all]
  exact (not_congr (workload.shrinks_after_iff quiet smaller)).trans (by simp)

theorem workersGuarded_verified_iff (first : List Event)
    (workload : WorkerWorkload ctx (some sts) after later)
    (smaller : (builtWorker ctx).currentReplicas < sts.currentReplicas)
    (named : target = podName ctx.workerSts (sts.currentReplicas - 1))
    (quiet : ∀ event ∈ first, event.shrink = none)
    (unverified : ∀ event ∈ first, forall pod, event.verifies .manager pod = false) :
    WorkersGuarded ctx
        (first ++ [.drainVerified .manager target, .drainComplete .manager] ++ later) <->
      sts.currentReplicas = (builtWorker ctx).currentReplicas + 1 ∨
        rewrites workerNeedsUpdate ctx.input.worker sts (builtWorker ctx) = false := by
  have quietAll : ∀ event ∈ first ++ [.drainVerified .manager target, .drainComplete .manager],
      event.shrink = none := by
    intro event member
    rcases mem_append.mp member with earlier | after
    · exact quiet event earlier
    · rcases mem_pair.mp after with rfl | rfl <;> rfl
  have shrinks := workload.shrinks_after_iff quietAll smaller
  constructor
  · intro guarded
    cases written : rewrites workerNeedsUpdate ctx.input.worker sts (builtWorker ctx) with
    | false => exact .inr rfl
    | true =>
      left
      obtain ⟨event, member, shrinking⟩ := workload.shrinks_iff.mpr ⟨written, smaller⟩
      obtain ⟨change, inside, own⟩ := exists_mem_shrink shrinking
      have counts := workload.change event member change inside
      subst counts
      obtain ⟨earlier, before, verifying⟩ := guarded.1 event (mem_append_right _ member) _
        inside rfl (builtWorker ctx).currentReplicas smaller (Nat.le_refl _)
      -- The lowest ordinal removed has to be the verified one, that is the highest.
      have lowest : target = podName ctx.workerSts (builtWorker ctx).currentReplicas := by
        rcases mem_append.mp before with before | written
        · rcases mem_append.mp before with before | after
          · rw [unverified earlier before] at verifying
            cases verifying
          · rcases mem_pair.mp after with rfl | rfl
            · simpa [verifies] using verifying
            · cases verifying
        · rw [(workload.quiet .manager earlier written).2.2] at verifying
          cases verifying
      have ordinals := podName_injective _ (named.symm.trans lowest)
      omega
  · intro condition
    rcases condition with single | unwritten
    · refine ⟨?_, fun _ => ⟨.drainComplete .manager, by simp, rfl⟩⟩
      intro event member change inside own ordinal below above
      rcases mem_append.mp member with before | written
      · rw [quietAll event before] at inside
        cases inside
      · have counts := workload.change event written change inside
        subst counts
        have highest : ordinal = sts.currentReplicas - 1 := by
          simp only at below above
          omega
        refine ⟨.drainVerified .manager target, by simp, ?_⟩
        simp [verifies, named, highest]
    · exact workersGuarded_of_still ((not_congr shrinks).mpr (by simp [unwritten]))

variable (found : state.statefulSets ctx.workerSts = some sts) (smaller :
  (builtWorker ctx).currentReplicas < sts.currentReplicas)

include found smaller in
/-- The passes which go on because of a completed drain: it has to have been verified in
the same pass. -/
theorem workersGuarded_drained_iff (pending : workerScaleDown ctx state = some info)
    (effect : WorkerEffect ctx (afterRollback ctx state) info .proceedDrained drain first)
    (workload : WorkerWorkload ctx (some sts) after later) :
    WorkersGuarded ctx (first ++ .drainComplete .manager :: later) <->
      workerGateHolds ctx state ∨
        rewrites workerNeedsUpdate ctx.input.worker sts (builtWorker ctx) = false := by
  obtain ⟨seen, count, present, wanted, read, on, below, named⟩ := pendingScaleDown_eq_some pending
  cases found.symm.trans present
  have counts : (builtWorker ctx).currentReplicas = count := by
    simp [builtWorker, StatefulSet.currentReplicas, wanted]
  have target : info.targetPodName = podName ctx.workerSts (sts.currentReplicas - 1) := by
    rw [named, detect_targetPodName _ _ _ below]
  have sizes : info.currentReplicas = sts.currentReplicas ∧ info.targetReplicas = count := by
    rw [named]
    simp [detectStatefulSetScaleDown, below]
  rw [← workerGateHolds_afterRollback]
  replace pending : workerScaleDown ctx (afterRollback ctx state) = some info := pending
  generalize afterRollback ctx state = state at pending effect
  have phases : (state.working.manager.getD initializeDrainStatus).phase =
      (workerDrainState state).status.phase := rfl
  simp only [workerGateHolds, pending, phases]
  cases effect with
  | verified verifying held queueRead seen settled =>
    rename_i drainer events since recordedFor
    have guarded := workersGuarded_verified_iff [.scaleDownEvaluated .manager .verifying,
      .queueStatus drainer.client info.targetPodName (.ok events), .emptySinceUsed recordedFor]
      workload smaller target (by simp [shrink]) (by simp [verifies])
    have present : state.worker.drainer = some drainer := held
    have answered : ctx.input.queue.isOk := by
      simp [queueRead]
    rw [counts] at guarded
    simpa [verifying, present, answered, settled, sizes] using guarded
  | alreadyComplete complete =>
    have guarded := workersGuarded_unverified_iff
      [.scaleDownEvaluated .manager .complete, .drainComplete .manager]
      workload smaller (by simp [shrink]) (by simp [verifies])
    simpa [complete] using guarded

/-- The workers' check ends without an error and without a verdict. -/
def workerFallsThrough (ctx : PassContext) (state : PassState) : Bool :=
  match (state.working.manager.getD initializeDrainStatus).phase with
  | .verifying => !(state.worker.drainer.isSome && ctx.input.queue.isOk)
  | .failed | .rollingBack | .unknown _ => true
  | _ => false

theorem workerFallsThrough_afterRollback :
    workerFallsThrough ctx (afterRollback ctx state) = workerFallsThrough ctx state := by
  have step := (rolledBack_step ctx state).2
  simp only [workerFallsThrough, afterRollback]
  generalize (rolledBack ctx state).manager = after at step
  generalize state.working.manager = before at step
  cases step with
  | same => rfl
  | ended rollingBack => simp [afterRollbackCheck, rollingBack]

theorem starts_of_not_workerFallsThrough (effect : WorkerEffect ctx state info .proceed drain log)
    (settled : workerFallsThrough ctx state = false) :
    (workerDrainState state).status.phase = .idle ∨
      (workerDrainState state).status.phase = .unset := by
  have phases : (state.working.manager.getD initializeDrainStatus).phase =
      (workerDrainState state).status.phase := rfl
  simp only [workerFallsThrough, phases] at settled
  cases effect with
  | unavailable start => exact start
  | unsetPhase unset => exact .inr unset
  | queueFailed idle => exact .inl idle
  | unverifiable verifying unknown =>
    rw [verifying] at settled
    rcases unknown with absent | ⟨text, unread⟩
    · have missing : state.worker.drainer = none := absent
      simp [missing] at settled
    · simp [unread] at settled
  | passedOver other => rcases other with phase | phase | ⟨text, phase⟩ <;> simp [phase] at settled

theorem workerCheckResult_workersEntry : workerCheckResult ctx (workersEntry ctx state) =
      workerCheckResult ctx (afterRollback ctx state) := by
  have kept := workersEntry_kept ctx state
  simp only [workerCheckResult, PassState.workerGate, kept.found, kept.memory, kept.working]

include found smaller in
theorem unseen_workerScaleDown (enabled : ctx.spec.managerDrainEnabled)
    (absent : workerScaleDown ctx state = none) :
    ctx.spec.manager = none ∨ ∃ text, workerCheckResult ctx (afterRollback ctx state) = .error text := by
  cases wanted : ctx.spec.manager with
  | none => exact .inl rfl
  | some manager =>
    right
    cases read : ctx.input.workerGet with
    | error =>
      simp only [workerCheckResult, wanted, read]
      exact ⟨_, rfl⟩
    | ok =>
      have counts : manager.getReplicas < sts.currentReplicas := by
        simpa [builtWorker, StatefulSet.currentReplicas, wanted] using smaller
      simp [workerScaleDown, pendingScaleDown, wanted, read, found, enabled, counts] at absent

include found smaller in
theorem removesVerified_of_single (pending : workerScaleDown ctx state = some info)
    (effect : WorkerEffect ctx (afterRollback ctx state) info .proceedDrained drain first)
    (workload : WorkerWorkload ctx (some sts) after later)
    (incomplete : (state.working.manager.getD initializeDrainStatus).phase ≠ .complete)
    (single : sts.currentReplicas = (builtWorker ctx).currentReplicas + 1) :
    RemovesVerified .manager ctx.workerSts (first ++ .drainComplete .manager :: later) := by
  refine ((workersGuarded_drained_iff found smaller pending effect workload).mpr (.inl ?_)).1
  obtain ⟨seen, count, present, wanted, read, on, below, named⟩ := pendingScaleDown_eq_some pending
  cases found.symm.trans present
  have sizes : info.currentReplicas = info.targetReplicas + 1 := by
    have counts : (builtWorker ctx).currentReplicas = count := by
      simp [builtWorker, StatefulSet.currentReplicas, wanted]
    rw [named]
    simp [detectStatefulSetScaleDown, single, counts]
  have there : workerScaleDown ctx (afterRollback ctx state) = some info := pending
  rw [← workerGateHolds_afterRollback]
  cases effect with
  | verified verifying held queueRead =>
    have phase : ((afterRollback ctx state).working.manager.getD initializeDrainStatus).phase =
        .verifying := verifying
    have present : (afterRollback ctx state).worker.drainer = some _ := held
    simp [workerGateHolds, there, phase, present, queueRead, sizes]
  | alreadyComplete complete =>
    -- The rollback check completes no drain.
    have unattended : Unattended ctx.input.now _ _ := .rollback (rolledBack_step ctx state).2
    rcases unattended.phase with same | ⟨status, present, failed | announced⟩
    · exact absurd (by simpa [workerDrainState, afterRollback, same] using complete) incomplete
    · simp [workerDrainState, afterRollback, present, failed] at complete
    · simp [workerDrainState, afterRollback, present, announced] at complete

end Guarded

/-- In a pass over workers whose drain is on and whose check does not fall through, their
count is lowered only if the check reported completion, with the queue of a single
worker to be removed verified in the same pass unless the drain was complete before, or
if there is no check, or if it returned an error, with which the controller proceeds
without a drain. -/
theorem reconcile_lowers_workers (ctx : PassContext) (state : PassState) (sts : StatefulSet)
    (found : state.statefulSets ctx.workerSts = some sts)
    (smaller : (builtWorker ctx).currentReplicas < sts.currentReplicas)
    (enabled : ctx.spec.managerDrainEnabled = true)
    (settled : workerFallsThrough ctx state = false)
    (shrinks : ∃ event ∈ (reconcile ctx state).log, event.shrinks .manager = true) :
    ((∃ event ∈ (reconcile ctx state).log, event.completes .manager = true) ∧
        ((state.working.manager.getD initializeDrainStatus).phase ≠ .complete ->
          sts.currentReplicas = (builtWorker ctx).currentReplicas + 1 ->
          RemovesVerified .manager ctx.workerSts (reconcile ctx state).log)) ∨
      ctx.spec.manager = none ∨
      ∃ text, workerCheckResult ctx (workersEntry ctx state) = .error text := by
  rw [← exists_mem_concerning (fun _ => about_of_shrinks)] at shrinks
  rw [← exists_mem_concerning (fun _ => about_of_completes), removesVerified_concerning,
    workerCheckResult_workersEntry]
  have course := reconcile_workerCourse ctx state
  generalize concerning .manager (reconcile ctx state).log = log at course shrinks
  cases course with
  | unreached =>
    obtain ⟨event, member, -⟩ := shrinks
    cases member
  | unchecked _ absent =>
    exact .inr (unseen_workerScaleDown found smaller enabled absent)
  | waited _ _ effect =>
    obtain ⟨event, member, shrinking⟩ := shrinks
    simp [shrinks, (effect.frame.quiet event member).1] at shrinking
  | undrained reaches pending effect workload memory persisted =>
    right
    right
    have there := pending
    have phase := starts_of_not_workerFallsThrough effect
      (by rw [workerFallsThrough_afterRollback]; exact settled)
    obtain ⟨decision, drain, log, ran, checked⟩ := workerCheck_some ctx (afterRollback ctx state) there
    have incomplete : decision ≠ .proceedDrained := by
      rw [Ne, checked.proceedDrained_iff]
      rcases phase with idle | unset <;> simp [Worker.gateCompletes, *]
    -- Two courses of the same check agree in whether they wait.
    have onward : decision ≠ .wait := by
      rw [Ne, ← workerGateHolds_of_effect pending checked incomplete,
        workerGateHolds_of_effect pending effect (by simp)]
      simp
    refine workerCheckResult_error ctx _ there phase ?_
    rw [ran]
    cases decision with
    | proceed => rfl
    | wait => exact absurd rfl onward
    | proceedDrained => exact absurd rfl incomplete
  | drained _ pending effect workload =>
    left
    rw [found] at workload
    exact ⟨⟨.drainComplete .manager, by simp, rfl⟩,
      removesVerified_of_single found smaller pending effect workload⟩

namespace Sample

/-- Three workers, of which two are wanted, with their drain in a given phase. -/
def workersInPhase (phase : DrainPhase) : PassState :=
  state 2 3 { manager := some { phase := phase } }

def emptyQueue : PassState :=
  { workersInPhase .verifying with
    worker :=
      { drainer := some
          { client := { baseURL := wazuhURL "cluster.local" key, username := "wazuh", password := "secret" }
            timeout := 900, gracePeriod := 0, emptyQueueSeenTime := some (0, key) } } }

def contextWithoutQueue : PassContext :=
  { context with input := { input with queue := .error "connection refused" } }

end Sample

open Sample

/-- A worker whose queue was seen empty and still is goes. -/
theorem reconcile_lowers_workers_verified : (∃ event ∈ (reconcile context emptyQueue).log,
        event.shrinks .manager = true) ∧
      (((∃ event ∈ (reconcile context emptyQueue).log,
            event.completes .manager = true) ∧
          ((emptyQueue.working.manager.getD initializeDrainStatus).phase ≠
              .complete ->
            (statefulSet .manager 3).currentReplicas =
              (builtWorker context).currentReplicas + 1 ->
            RemovesVerified .manager context.workerSts
              (reconcile context emptyQueue).log)) ∨
        context.spec.manager = none ∨
        ∃ text, workerCheckResult context
          (workersEntry context emptyQueue) = .error text) :=
  ⟨by decide, reconcile_lowers_workers context emptyQueue
    (statefulSet .manager 3) rfl (by decide) rfl (by decide) (by decide)⟩

/-- With the drain switched on, a worker whose queue cannot be read is removed at once. -/
theorem unread_queue_removes_worker : contextWithoutQueue.spec.managerDrainEnabled = true ∧
      (builtWorker contextWithoutQueue).currentReplicas <
        (statefulSet .manager 3).currentReplicas ∧
      ¬ WorkersGuarded contextWithoutQueue
        (reconcile contextWithoutQueue (workersInPhase .idle)).log := by
  decide

end Controller
end WazuhOperator
