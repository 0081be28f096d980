import WazuhOperator.Controller.Frames

namespace WazuhOperator
namespace Controller

open Procedure Proc Drain Indexer Worker Outcome DrainStatus

/-!
# A pass seen from one component

For each of the two components, everything a pass can do to it: the events
that belong to it, its StatefulSet, the drainer in memory and the drain status
in the API server.  Later results about whole runs go through these two
inversion theorems and never unfold the pass again.

The status in the API server after the gates is the one from before or the
one in the working copy, depending on how far the pass gets.  The deferred
reset of a completed drain comes after every write, so it shows in the memory
only.
-/

section Gated

variable (ctx : PassContext)
variable {state : PassState} {log : List Event}

theorem gated_waits (checked : check state = ⟨.ok .wait, after, log⟩) :
    (gated ctx component check resetDrainState rest state).state =
        { after with persisted := if ctx.input.statusWrite.applied then after.working else after.persisted } ∧
      forall seen,
        concerning seen (gated ctx component check resetDrainState rest state).log = concerning seen log := by
  rw [gated_wait ctx checked, writeStatus_apply, following_mk]
  cases ctx.input.statusWrite.applied with
  | true | false => exact ⟨rfl, fun seen => (concerning_append seen log _).trans (List.append_nil _)⟩

theorem concerning_drained (own : concerning component log = log) (later : List Event) :
    concerning component (log ++ .drainComplete component :: later) =
      log ++ .drainComplete component :: concerning component later := by
  rw [concerning_append, own]
  exact congrArg (log ++ ·) (List.filter_cons_of_pos (by simp [Event.about]))

end Gated

section IndexerCourse

variable (ctx : PassContext) (state : PassState)

abbrev IndexerWorkload (before after : Option StatefulSet) (log : List Event) : Prop :=
  WorkloadEffect indexerNeedsUpdate ctx.input.indexer (builtIndexer ctx) before after log

inductive IndexerCourse : PassState -> List Event -> Prop where
  | unreached (skipped : ¬ ReachesGates ctx state)
      (found : after.statefulSets ctx.indexerSts = state.statefulSets ctx.indexerSts)
      (drainer : after.indexer.drainer = state.indexer.drainer)
      (persisted : after.persisted.indexer = state.persisted.indexer ∨
        Unattended ctx.input.now state.working.indexer after.persisted.indexer) :
      IndexerCourse after []
  | unchecked {log : List Event} (reaches : ReachesGates ctx state)
      (absent : indexerScaleDown ctx state = none)
      (workload : IndexerWorkload ctx (state.statefulSets ctx.indexerSts)
        (after.statefulSets ctx.indexerSts) log)
      (drainer : after.indexer.drainer = state.indexer.drainer)
      (persisted : after.persisted.indexer = state.persisted.indexer ∨
        RollbackStep state.working.indexer after.persisted.indexer) :
      IndexerCourse after log
  | waited {log : List Event} (reaches : ReachesGates ctx state)
      (pending : indexerScaleDown ctx state = some info)
      (effect : IndexerEffect ctx (afterRollback ctx state) info .wait drain log)
      (found : after.statefulSets ctx.indexerSts = state.statefulSets ctx.indexerSts)
      (memory : after.indexer = drain.memory)
      (persisted : after.persisted.indexer =
        if ctx.input.statusWrite.applied then some drain.status else state.persisted.indexer) :
      IndexerCourse after log
  | undrained {log later : List Event} (reaches : ReachesGates ctx state)
      (pending : indexerScaleDown ctx state = some info)
      (effect : IndexerEffect ctx (afterRollback ctx state) info .proceed drain log)
      (workload : IndexerWorkload ctx (state.statefulSets ctx.indexerSts)
        (after.statefulSets ctx.indexerSts) later)
      (drainer : after.indexer.drainer = drain.memory.drainer)
      (persisted : after.persisted.indexer = state.persisted.indexer ∨
        after.persisted.indexer = some drain.status) :
      IndexerCourse after (log ++ later)
  | drained {log later : List Event} (reaches : ReachesGates ctx state)
      (pending : indexerScaleDown ctx state = some info)
      (effect : IndexerEffect ctx (afterRollback ctx state) info .proceedDrained drain log)
      (workload : IndexerWorkload ctx (state.statefulSets ctx.indexerSts)
        (after.statefulSets ctx.indexerSts) later)
      (drainer : after.indexer.drainer = none)
      (persisted : after.persisted.indexer = state.persisted.indexer ∨
        after.persisted.indexer = some drain.status) :
      IndexerCourse after (log ++ .drainComplete .indexer :: later)

theorem afterIndexerCheck_effect : IndexerWorkload ctx (state.statefulSets ctx.indexerSts)
        ((afterIndexerCheck ctx state).state.statefulSets ctx.indexerSts)
        (concerning .indexer (afterIndexerCheck ctx state).log) ∧
      (afterIndexerCheck ctx state).state.indexer.drainer = state.indexer.drainer ∧
      ((afterIndexerCheck ctx state).state.persisted.indexer = state.persisted.indexer ∨
        (afterIndexerCheck ctx state).state.persisted.indexer = state.working.indexer) := by
  obtain ⟨result, found, log, ran, effect⟩ := prepared_effect state "indexer" indexerNeedsUpdate
    ctx.input.indexer (builtIndexer ctx) ctx.indexerSts
    ("failed to reconcile indexer statefulset: " ++ ·)
  have reconciled : reconcileIndexerNonBlocking ctx state = _ := ran
  have own : concerning .indexer log = log := concerning_of_about effect.about
  rw [afterIndexerCheck, bind_apply, reconciled]
  cases result with
  | error =>
    refine ⟨?_, rfl, .inl rfl⟩
    simpa [own] using effect
  | ok =>
    have kept := keeps_reconcileManagerOnward ctx
      { state with statefulSets := Function.update state.statefulSets ctx.indexerSts found } _
      ⟨rfl, rfl, rfl, .inl rfl⟩
    refine ⟨?_, kept.1.drainer, kept.1.persisted⟩
    rw [following_log, concerning_append, own, concerning_of_not_about kept.2,
      List.append_nil, following_state, kept.1.found]
    simpa using effect

theorem reconcile_indexerCourse : IndexerCourse ctx state (reconcile ctx state).state
      (concerning .indexer (reconcile ctx state).log) := by
  by_cases reaches : ReachesGates ctx state
  · rw [reconcile_reaching ctx state reaches]
    unfold reconcileIndexerOnward
    rcases pending : indexerScaleDown ctx state with none | info
    · rw [gated_proceed ctx (indexerCheck_none ctx (afterRollback ctx state) pending)]
      obtain ⟨workload, drainer, persisted⟩ :=
        afterIndexerCheck_effect ctx (afterRollback ctx state)
      refine .unchecked reaches pending workload drainer ?_
      rcases persisted with same | written
      · exact .inl same
      · right
        rw [following_nil, written]
        exact (rolledBack_step ctx state).1
    · obtain ⟨decision, drain, log, ran, effect⟩ :=
        indexerCheck_some ctx (afterRollback ctx state) pending
      have own : concerning .indexer log = log := concerning_of_about effect.frame.about
      obtain ⟨workload, drainer, persisted⟩ :=
        afterIndexerCheck_effect ctx (withIndexerDrain (afterRollback ctx state) drain)
      cases decision with
      | wait =>
        rw [(gated_waits ctx ran).1, (gated_waits ctx ran).2, own]
        exact .waited reaches pending effect rfl rfl (apply_ite indexer _ _ _)
      | proceed =>
        rw [gated_proceed ctx ran, following_log, concerning_append, own]
        exact .undrained reaches pending effect workload drainer persisted
      | proceedDrained =>
        rw [gated_proceedDrained ctx ran, concerning_drained own]
        exact .drained reaches pending effect workload rfl persisted
  · have left := reconcile_unreached ctx state reaches
    rw [concerning_of_not_about (fun event member => by rw [left.silent event member]; simp)]
    exact .unreached reaches (by rw [left.sets]) left.indexerDrainer left.indexerStatus

end IndexerCourse

section WorkerCourse

variable (ctx : PassContext) (state : PassState)

def pastIndexerCheck : PassState := (indexerCheck ctx (afterRollback ctx state)).state

/-- The pass arrives at the workers' drain check: the indexer does not make it wait, and
its StatefulSet is reconciled without an error. -/
def ReachesWorkers : Prop :=
  ReachesGates ctx state ∧ (indexerCheck ctx (afterRollback ctx state)).result ≠ .ok .wait ∧
    (reconcileIndexerNonBlocking ctx (pastIndexerCheck ctx state)).result = .ok ()

/-- The store with which it arrives there. -/
def workersEntry : PassState := (reconcileIndexerNonBlocking ctx (pastIndexerCheck ctx state)).state

theorem pastIndexerCheck_kept :
    WorkerKept ctx (afterRollback ctx state) (pastIndexerCheck ctx state) :=
  (keeps_indexerCheck_frame ctx (afterRollback ctx state) (afterRollback ctx state)
    ⟨rfl, rfl, rfl, rfl⟩).1

theorem workersEntry_kept : WorkerKept ctx (afterRollback ctx state) (workersEntry ctx state) :=
  (keeps_reconcileIndexerNonBlocking_frame ctx (afterRollback ctx state) _
    (pastIndexerCheck_kept ctx state)).1

abbrev WorkerWorkload (before after : Option StatefulSet) (log : List Event) : Prop :=
  WorkloadEffect workerNeedsUpdate ctx.input.worker (builtWorker ctx) before after log

inductive WorkerCourse : PassState -> List Event -> Prop where
  | unreached (skipped : ¬ ReachesWorkers ctx state)
      (found : after.statefulSets ctx.workerSts = state.statefulSets ctx.workerSts)
      (drainer : after.worker.drainer = state.worker.drainer)
      (persisted : after.persisted.manager = state.persisted.manager ∨
        Unattended ctx.input.now state.working.manager after.persisted.manager) :
      WorkerCourse after []
  | unchecked {log : List Event} (reaches : ReachesWorkers ctx state)
      (absent : workerScaleDown ctx state = none)
      (workload : WorkerWorkload ctx (state.statefulSets ctx.workerSts)
        (after.statefulSets ctx.workerSts) log)
      (memory : after.worker = state.worker)
      (persisted : after.persisted.manager = state.persisted.manager ∨
        RollbackStep state.working.manager after.persisted.manager) :
      WorkerCourse after log
  | waited {log : List Event} (reaches : ReachesWorkers ctx state)
      (pending : workerScaleDown ctx state = some info)
      (effect : WorkerEffect ctx (afterRollback ctx state) info .wait drain log)
      (found : after.statefulSets ctx.workerSts = state.statefulSets ctx.workerSts)
      (memory : after.worker = drain.memory)
      (persisted : after.persisted.manager =
        if ctx.input.statusWrite.applied then some drain.status else state.persisted.manager) :
      WorkerCourse after log
  | undrained {log later : List Event} (reaches : ReachesWorkers ctx state)
      (pending : workerScaleDown ctx state = some info)
      (effect : WorkerEffect ctx (afterRollback ctx state) info .proceed drain log)
      (workload : WorkerWorkload ctx (state.statefulSets ctx.workerSts)
        (after.statefulSets ctx.workerSts) later)
      (memory : after.worker = drain.memory)
      (persisted : after.persisted.manager = state.persisted.manager ∨
        after.persisted.manager = some drain.status) :
      WorkerCourse after (log ++ later)
  | drained {log later : List Event} (reaches : ReachesWorkers ctx state)
      (pending : workerScaleDown ctx state = some info)
      (effect : WorkerEffect ctx (afterRollback ctx state) info .proceedDrained drain log)
      (workload : WorkerWorkload ctx (state.statefulSets ctx.workerSts)
        (after.statefulSets ctx.workerSts) later)
      (memory : after.worker = {})
      (persisted : after.persisted.manager = state.persisted.manager ∨
        after.persisted.manager = some drain.status) :
      WorkerCourse after (log ++ .drainComplete .manager :: later)

theorem afterWorkerCheck_effect : WorkerWorkload ctx (state.statefulSets ctx.workerSts)
        ((afterWorkerCheck ctx state).state.statefulSets ctx.workerSts)
        (concerning .manager (afterWorkerCheck ctx state).log) ∧
      (afterWorkerCheck ctx state).state.worker = state.worker ∧
      ((afterWorkerCheck ctx state).state.persisted.manager = state.persisted.manager ∨
        (afterWorkerCheck ctx state).state.persisted.manager = state.working.manager) := by
  obtain ⟨result, found, log, ran, effect⟩ := prepared_effect state "worker" workerNeedsUpdate
    ctx.input.worker (builtWorker ctx) ctx.workerSts ("failed to reconcile workers: " ++ ·)
  have reconciled : reconcileManagerNonBlocking ctx state = _ := ran
  have own : concerning .manager log = log := concerning_of_about effect.about
  rw [afterWorkerCheck, bind_apply, reconciled]
  cases result with
  | error =>
    refine ⟨?_, rfl, .inl rfl⟩
    simpa [own] using effect
  | ok =>
    have kept := keeps_finishPass_frame ctx
      { state with statefulSets := Function.update state.statefulSets ctx.workerSts found } _
      ⟨rfl, rfl, rfl, .inl rfl⟩
    have silent : concerning .manager (finishPass ctx
        { state with statefulSets := Function.update state.statefulSets ctx.workerSts found }).log = [] :=
      concerning_of_not_about (fun event member => by rw [kept.2 event member]; simp)
    refine ⟨?_, kept.1.memory, ?_⟩
    · rw [following_log, concerning_append, own, silent, List.append_nil,
        following_state, kept.1.found]
      simpa using effect
    · rcases kept.1.persisted with same | written
      · exact .inl (congrArg manager same)
      · exact .inr (congrArg manager written)

theorem reconcileManagerOnward_course (reaches : ReachesWorkers ctx state)
    (kept : WorkerKept ctx (afterRollback ctx state) entry) :
    WorkerCourse ctx state (reconcileManagerOnward ctx entry).state
      (concerning .manager (reconcileManagerOnward ctx entry).log) := by
  have sameScaleDown : workerScaleDown ctx entry = workerScaleDown ctx state := by
    simp only [workerScaleDown, kept.found]
    rfl
  have sameDrain : workerDrainState entry = workerDrainState (afterRollback ctx state) := by
    simp only [workerDrainState, kept.memory, kept.working]
  have samePersisted : entry.persisted.manager = state.persisted.manager :=
    congrArg manager kept.persisted
  have sameFound := kept.found
  unfold reconcileManagerOnward
  rcases pending : workerScaleDown ctx state with none | info
  · rw [gated_proceed ctx (workerCheck_none ctx entry (sameScaleDown.trans pending))]
    obtain ⟨workload, memory, persisted⟩ := afterWorkerCheck_effect ctx entry
    rw [sameFound] at workload
    refine .unchecked reaches pending workload (memory.trans kept.memory) ?_
    rcases persisted with same | written
    · exact .inl (same.trans samePersisted)
    · right
      rw [following_nil, written, kept.working]
      exact (rolledBack_step ctx state).2
  · obtain ⟨decision, drain, log, ran, effect⟩ :=
      workerCheck_some ctx entry (sameScaleDown.trans pending)
    have own : concerning .manager log = log := concerning_of_about effect.frame.about
    rw [WorkerEffect, sameDrain] at effect
    obtain ⟨workload, memory, persisted⟩ := afterWorkerCheck_effect ctx (withWorkerDrain entry drain)
    rw [show (withWorkerDrain entry drain).statefulSets ctx.workerSts = _ from sameFound] at workload
    rw [show (withWorkerDrain entry drain).persisted.manager = _ from samePersisted] at persisted
    cases decision with
    | wait =>
      rw [(gated_waits ctx ran).1, (gated_waits ctx ran).2, own]
      refine .waited reaches pending effect sameFound rfl ?_
      rw [← samePersisted]
      exact apply_ite manager _ _ _
    | proceed =>
      rw [gated_proceed ctx ran, following_log, concerning_append, own]
      exact .undrained reaches pending effect workload memory persisted
    | proceedDrained =>
      rw [gated_proceedDrained ctx ran, concerning_drained own]
      exact .drained reaches pending effect workload rfl persisted

theorem WorkerCourse.resetIndexer {log : List Event} (course : WorkerCourse ctx state after log) :
    WorkerCourse ctx state (resetIndexer ctx after) log := by
  cases course with
  | unreached skipped found drainer persisted => exact .unreached skipped found drainer persisted
  | unchecked reaches absent workload memory persisted =>
    exact .unchecked reaches absent workload memory persisted
  | waited reaches pending effect found memory persisted =>
    exact .waited reaches pending effect found memory persisted
  | undrained reaches pending effect workload memory persisted =>
    exact .undrained reaches pending effect workload memory persisted
  | drained reaches pending effect workload memory persisted =>
    exact .drained reaches pending effect workload memory persisted

theorem concerning_manager_of_indexer {log : List Event}
    (own : ∀ event ∈ log, event.about = some .indexer) : concerning .manager log = [] :=
  concerning_of_not_about (fun event member => by rw [own event member]; simp)

theorem indexerCheck_passes : ∃ decision log, indexerCheck ctx (afterRollback ctx state) =
        ⟨.ok decision, pastIndexerCheck ctx state, log⟩ ∧ concerning .manager log = [] := by
  have frame := keeps_indexerCheck_frame ctx (afterRollback ctx state) (afterRollback ctx state)
    ⟨rfl, rfl, rfl, rfl⟩
  rcases pending : indexerScaleDown ctx (afterRollback ctx state) with none | info
  · have ran := indexerCheck_none ctx (afterRollback ctx state) pending
    exact ⟨.proceed, [], by rw [pastIndexerCheck, ran], rfl⟩
  · obtain ⟨decision, drain, log, ran, effect⟩ := indexerCheck_some ctx (afterRollback ctx state) pending
    rw [ran] at frame
    exact ⟨decision, log, by rw [pastIndexerCheck, ran], concerning_manager_of_indexer frame.2⟩

theorem afterIndexerCheck_course (reaches : ReachesGates ctx state)
    (onward : (indexerCheck ctx (afterRollback ctx state)).result ≠ .ok .wait) :
    WorkerCourse ctx state (afterIndexerCheck ctx (pastIndexerCheck ctx state)).state
      (concerning .manager (afterIndexerCheck ctx (pastIndexerCheck ctx state)).log) := by
  have frame := keeps_reconcileIndexerNonBlocking_frame ctx (afterRollback ctx state) _
    (pastIndexerCheck_kept ctx state)
  rw [afterIndexerCheck, bind_apply]
  rcases ran : reconcileIndexerNonBlocking ctx (pastIndexerCheck ctx state) with ⟨result, entry, log⟩
  rw [ran] at frame
  have silent := concerning_manager_of_indexer frame.2
  cases result with
  | ok =>
    rw [following_log, concerning_append, silent]
    exact reconcileManagerOnward_course ctx state ⟨reaches, onward, by rw [ran]⟩ frame.1
  | error =>
    have skipped : ¬ ReachesWorkers ctx state := by
      intro arrives
      have done := arrives.2.2
      rw [ran] at done
      cases done
    simp only [silent]
    exact .unreached skipped frame.1.found (congrArg WorkerReconciler.drainer frame.1.memory)
      (.inl (congrArg manager frame.1.persisted))

theorem reconcile_workerCourse : WorkerCourse ctx state (reconcile ctx state).state
      (concerning .manager (reconcile ctx state).log) := by
  by_cases reaches : ReachesGates ctx state
  · rw [reconcile_reaching ctx state reaches]
    unfold reconcileIndexerOnward
    obtain ⟨decision, log, checked, silent⟩ := indexerCheck_passes ctx state
    have past := pastIndexerCheck_kept ctx state
    have onward : decision ≠ .wait -> WorkerCourse ctx state
        (afterIndexerCheck ctx (pastIndexerCheck ctx state)).state
        (concerning .manager (afterIndexerCheck ctx (pastIndexerCheck ctx state)).log) := by
      intro proceeds
      apply afterIndexerCheck_course ctx state reaches
      rw [checked]
      simpa using proceeds
    cases decision with
    | wait =>
      have skipped : ¬ ReachesWorkers ctx state := by
        intro arrives
        exact arrives.2.1 (by rw [checked])
      rw [(gated_waits ctx checked).1, (gated_waits ctx checked).2, silent]
      refine .unreached skipped past.found (congrArg WorkerReconciler.drainer past.memory) ?_
      cases ctx.input.statusWrite.applied with
      | true =>
        refine .inr (.rollback ?_)
        simp only [if_true, past.working]
        exact (rolledBack_step ctx state).2
      | false => exact .inl (congrArg manager past.persisted)
    | proceed =>
      rw [gated_proceed ctx checked, following_log, concerning_append, silent]
      exact onward (by simp)
    | proceedDrained =>
      rw [gated_proceedDrained ctx checked, concerning_append, silent]
      exact (onward (by simp)).resetIndexer
  · have left := reconcile_unreached ctx state reaches
    rw [concerning_of_not_about (fun event member => by rw [left.silent event member]; simp)]
    exact .unreached (fun arrives => reaches arrives.1) (by rw [left.sets]) left.workerDrainer
      left.managerStatus

end WorkerCourse

end Controller
end WazuhOperator
