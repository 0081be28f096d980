import WazuhOperator.Controller.FailClosed

namespace WazuhOperator
namespace Controller

open Procedure Proc Drain Indexer Worker ManagerDrainer

/-!
# Passes in which every call succeeds

What a pass over a cluster with a scale-down does when nothing goes wrong on
the way: the drain check moves the status of its component on, and the status
it leaves in the working copy is the one in the API server at the end.
-/

structure WorkloadSucceeds (answers : WorkloadAnswers) : Prop where
  prepare : answers.prepare = .ok ()
  get : answers.get = .ok ()
  create : answers.create = .accepted
  delete : answers.delete = .accepted
  update : answers.update = .accepted

structure Succeeds (input : PassInput) : Prop where
  live : input.endsEarly = none
  prepared : input.preparation = .ok ()
  indexerGet : input.indexerGet = .ok ()
  getClient : input.getClient = .ok ()
  shardCount : ∃ count, input.openSearch.shardCount = .ok count
  relocatingShards : ∃ count, input.openSearch.relocatingShards = .ok count
  setExclusion : input.openSearch.setExclusion = .accepted
  clearExclusion : input.openSearch.clearExclusion = .accepted
  indexer : WorkloadSucceeds input.indexer
  workerGet : input.workerGet = .ok ()
  getCredentials : input.getCredentials = .ok ()
  queue : ∃ depth, input.queue = .ok depth
  worker : WorkloadSucceeds input.worker
  afterWorkers : input.afterWorkers = .ok ()
  statusWrite : input.statusWrite = .accepted

/-! ## The status is written -/

theorem reconcileStatefulSet_result (succeeds : WorkloadSucceeds answers)
    (noun : String) (needsUpdate : StatefulSet -> StatefulSet -> Bool) (desired : StatefulSet)
    (before : Option StatefulSet) :
    (reconcileStatefulSet noun needsUpdate answers desired before).result = .ok () := by
  cases before with
  | none =>
    simp [reconcileStatefulSet, succeeds.get, succeeds.create]
  | some found =>
    cases recreation : needsStatefulSetRecreation found desired with
    | true =>
      simp [reconcileStatefulSet, succeeds.get, succeeds.create, succeeds.delete, recreation]
    | false =>
      cases changed : needsUpdate found desired <;>
        simp [reconcileStatefulSet, succeeds.get, succeeds.update, recreation, changed]

section Written

variable {ctx : PassContext} (succeeds : Succeeds ctx.input) (about : DrainStatus -> Prop)

include succeeds in
theorem returns_reconcileIndexerNonBlocking :
    Returns (fun state => about state.working) (fun state => about state.working)
      (reconcileIndexerNonBlocking ctx) := by
  intro state holds
  have result := reconcileStatefulSet_result succeeds.indexer "indexer" indexerNeedsUpdate
    (builtIndexer ctx) (state.statefulSets ctx.indexerSts)
  rcases ran : reconcileStatefulSet "indexer" indexerNeedsUpdate ctx.input.indexer
    (builtIndexer ctx) (state.statefulSets ctx.indexerSts) with ⟨outcome, found, log⟩
  rw [ran] at result
  cases result
  simpa [reconcileIndexerNonBlocking, succeeds.indexer.prepare, onStatefulSet, ran] using holds

include succeeds in
theorem returns_reconcileManagerNonBlocking :
    Returns (fun state => about state.working) (fun state => about state.working)
      (reconcileManagerNonBlocking ctx) := by
  intro state holds
  have result := reconcileStatefulSet_result succeeds.worker "worker" workerNeedsUpdate
    (builtWorker ctx) (state.statefulSets ctx.workerSts)
  rcases ran : reconcileStatefulSet "worker" workerNeedsUpdate ctx.input.worker
    (builtWorker ctx) (state.statefulSets ctx.workerSts) with ⟨outcome, found, log⟩
  rw [ran] at result
  cases result
  simpa [reconcileManagerNonBlocking, succeeds.worker.prepare, onStatefulSet, ran] using holds

include succeeds in
theorem returns_writeStatus :
    Returns (fun state => about state.working) (fun state => about state.persisted)
      (writeStatus ctx.input.statusWrite) := by
  intro state holds
  rw [writeStatus_apply, succeeds.statusWrite]
  exact ⟨⟨(), rfl⟩, holds⟩

include succeeds in
theorem returns_finishPass :
    Returns (fun state => about state.working) (fun state => about state.persisted)
      (finishPass ctx) := by
  apply returns_bind (returns_ofExcept succeeds.afterWorkers (fun _ holds => holds))
  intro _
  have restarted : Keeps (fun state : PassState => about state.working) (fun _ => True)
      (focus PassState.indexer (fun memory s => { s with indexer := memory })
        (orchestrateRollingRestart ctx.spec (ctx.makeClient ctx.input.restart.getClient)
          ctx.input.restart)) :=
    fun state holds => ⟨holds, fun _ _ => trivial⟩
  apply returns_bind (returns_attempt restarted)
  exact fun _ => returns_writeStatus succeeds about

include succeeds in
theorem returns_afterWorkerCheck :
    Returns (fun state => about state.working) (fun state => about state.persisted)
      (afterWorkerCheck ctx) := by
  apply returns_bind (returns_reconcileManagerNonBlocking succeeds about)
  exact fun _ => returns_finishPass succeeds about

include succeeds in
theorem returns_afterIndexerCheck (about : Option ComponentDrainStatus -> Prop) :
    Returns (fun state => about state.working.indexer) (fun state => about state.persisted.indexer)
      (afterIndexerCheck ctx) := by
  apply returns_bind
    (returns_reconcileIndexerNonBlocking succeeds (fun status => about status.indexer))
  intro _ state holds
  have written := returns_writeStatus succeeds (fun status => about status.indexer)
  have onward := returns_afterWorkerCheck succeeds (fun status => about status.indexer)
  unfold reconcileManagerOnward
  rcases pending : workerScaleDown ctx state with none | info
  · rw [gated_proceed ctx (workerCheck_none ctx state pending), Outcome.following_nil]
    exact onward state holds
  · rcases workerCheck_some ctx state pending with ⟨decision, drain, log, ran, -⟩
    cases decision with
    | wait =>
      rw [gated_wait ctx ran]
      exact written (withWorkerDrain state drain) holds
    | proceed =>
      rw [gated_proceed ctx ran]
      exact onward (withWorkerDrain state drain) holds
    | proceedDrained =>
      rw [gated_proceedDrained ctx ran]
      exact onward (withWorkerDrain state drain) holds

end Written

/-! ## The next phase -/

/-- A drain in this phase gets on, given whether the reconciler holds a drainer.  A drain
that was only announced does not. -/
def unstuck (armed : Bool) : DrainPhase -> Bool
  | .idle | .complete => true
  | .draining | .verifying => armed
  | _ => false

/-- The phase after a check of such a drain, given whether it finds the node emptied. -/
def advanced (emptied : Bool) : DrainPhase -> DrainPhase
  | .idle => .draining
  | .draining => if emptied then .verifying else .draining
  | .verifying => if emptied then .complete else .verifying
  | phase => phase

theorem indexerEffect_advances {client : Client} (available : made = .ok client)
    (counted : ∃ count, answers.shardCount = .ok count)
    (moving : ∃ count, answers.relocatingShards = .ok count)
    (excluded : answers.setExclusion = .accepted)
    (free : unstuck state.memory.drainer.isSome state.status.phase)
    (unfinished : state.status.phase ≠ .complete)
    (effect : Indexer.CheckEffect key config made answers now info state decision after log) :
    after.status.phase = advanced (emptied answers) state.status.phase ∧
      ((decision = .wait ∧ after.memory.drainer.isSome ∧ after.status.phase ≠ .complete) ∨
        (decision = .proceedDrained ∧ after.status.phase = .complete)) := by
  rcases counted with ⟨shards, counted⟩
  rcases moving with ⟨relocating, moving⟩
  cases effect with
  | unavailable _ failed =>
    rcases state with ⟨⟨cached, drainer⟩, status⟩
    cases cached <;> simp [startClient, available] at failed
  | unsetPhase unset => simp [unset, unstuck] at free
  | countFailed _ _ count => simp [counted] at count
  | exclusionFailed _ _ _ failed => simp [excluded] at failed
  | started idle =>
    simp [idle, advanced, entered]
  | watched under moved =>
    rcases under with pending | draining
    · simp [pending, unstuck] at free
    · have armed : state.memory.drainer.isSome := by simpa [draining, unstuck] using free
      rw [armed, Bool.true_and, draining] at moved
      refine ⟨?_, .inl ⟨rfl, armed, ?_⟩⟩
      · rw [moved, draining]
        rfl
      · rw [moved, watchedPhase]
        split <;> simp
  | unverifiable verifying unknown =>
    have armed : state.memory.drainer.isSome := by simpa [verifying, unstuck] using free
    rcases unknown with absent | unanswered
    · simp [absent] at armed
    · cases shards <;> simp [verifiable, counted, moving] at unanswered
  | notEmpty verifying present _ busy =>
    simp [verifying, advanced, busy, present]
  | verified verifying _ empty settled =>
    rw [orKeep_markComplete_of_verifying now verifying]
    simp [verifying, advanced, emptied, empty, settled, entered]
  | alreadyComplete complete => exact absurd complete unfinished
  | passedOver other =>
    rcases other with phase | phase | ⟨text, phase⟩ <;> simp [phase, unstuck] at free

section Advance

variable {ctx : PassContext}

theorem reconcile_indexer_advances (succeeds : Succeeds ctx.input) (reaches : ReachesGates ctx state)
    (pending : (indexerScaleDown ctx state).isSome)
    (free : unstuck state.indexer.drainer.isSome
      (state.working.indexer.getD initializeDrainStatus).phase)
    (unfinished : (state.working.indexer.getD initializeDrainStatus).phase ≠ .complete) :
    ((reconcile ctx state).state.persisted.indexer.getD initializeDrainStatus).phase =
        advanced (emptied ctx.input.openSearch)
          (state.working.indexer.getD initializeDrainStatus).phase ∧
      (((reconcile ctx state).state.persisted.indexer.getD initializeDrainStatus).phase ≠ .complete ->
        (reconcile ctx state).state.indexer.drainer.isSome ∧
          (reconcile ctx state).state.statefulSets ctx.indexerSts =
            state.statefulSets ctx.indexerSts) := by
  have same := indexerDrainState_afterRollback ctx state (by
    intro rollingBack
    simp [rollingBack, unstuck] at free)
  rcases Option.isSome_iff_exists.mp pending with ⟨info, found⟩
  rcases indexerCheck_some ctx (afterRollback ctx state) found with ⟨decision, drain, log, ran, effect⟩
  rw [IndexerEffect, same] at effect
  have made : ctx.makeClient ctx.input.getClient = .ok ctx.ownClient := by
    rw [succeeds.getClient]
    rfl
  rcases indexerEffect_advances made succeeds.shardCount succeeds.relocatingShards
    succeeds.setExclusion free unfinished effect with ⟨moved, ⟨rfl, armed, under⟩ | ⟨rfl, complete⟩⟩
  · rw [reconcile_reaching ctx state reaches, reconcileIndexerOnward, gated_wait ctx ran,
      writeStatus_apply, succeeds.statusWrite]
    exact ⟨moved, fun _ => ⟨armed, rfl⟩⟩
  · have written := (returns_afterIndexerCheck succeeds (fun status => status = some drain.status)
      (withIndexerDrain (afterRollback ctx state) drain) rfl).2
    rw [reconcile_reaching ctx state reaches, reconcileIndexerOnward, gated_proceedDrained ctx ran]
    simp only [resetIndexer, PassState.setIndexerGate, written, Option.getD_some]
    exact ⟨moved, fun other => absurd complete other⟩

end Advance

/-! ## The same for the workers

A worker's queue must have been empty for a grace period, so what the drainer
has noted matters for the next phase. -/

/-- One check of a worker's drain that gets on, with the queue at a given depth: the phase
and the drainer before it and after it. -/
inductive WorkerAdvance (depth : Int64) (now : Time) (key : ClusterKey) :
    DrainPhase -> Option ManagerDrainer -> DrainPhase -> Option ManagerDrainer -> Prop where
  | started (drainer : ManagerDrainer) :
      WorkerAdvance depth now key .idle held .draining (some drainer)
  | watched (drainer : ManagerDrainer) :
      WorkerAdvance depth now key .draining (some drainer)
        (if drainer.settles depth now key then .verifying else .draining)
        (some (drainer.reading depth now key))
  | unsettled (drainer : ManagerDrainer) (busy : queueSettled (.ok depth) now drainer = false) :
      WorkerAdvance depth now key .verifying (some drainer) .verifying
        (some (drainer.checking depth now key))
  | settled (drainer : ManagerDrainer)
      (empty : queueSettled (.ok depth) now drainer = true) :
      WorkerAdvance depth now key .verifying (some drainer) .complete held

section Machine

variable {depth : Int64}
variable {drainer : ManagerDrainer}

theorem WorkerAdvance.under (advance : WorkerAdvance depth now key before held after left)
    (unfinished : after ≠ .complete) :
    (after = .draining ∨ after = .verifying) ∧ left.isSome = true := by
  cases advance with
  | started => exact ⟨.inl rfl, rfl⟩
  | watched =>
    refine ⟨?_, rfl⟩
    split
    · exact .inr rfl
    · exact .inl rfl
  | unsettled => exact ⟨.inr rfl, rfl⟩
  | settled => exact absurd rfl unfinished

theorem WorkerAdvance.notes (advance : WorkerAdvance 0 now key before (some drainer) after left)
    (under : before = .draining ∨ before = .verifying) (unfinished : after ≠ .complete) :
    ∃ next, left = some next ∧ next.gracePeriod = drainer.gracePeriod ∧
      next.emptyQueueSeenTime = some (drainer.noted now key) := by
  cases advance with
  | started => rcases under with idle | idle <;> cases idle
  | watched => exact ⟨_, rfl, rfl, by simp [reading]⟩
  | unsettled =>
    exact ⟨_, rfl, by simp [checking],
      by simp [checking, ManagerDrainer.noted]⟩
  | settled => exact absurd rfl unfinished

theorem WorkerAdvance.elapsed (advance : WorkerAdvance 0 now key before (some drainer) after left)
    (noted : drainer.emptyQueueSeenTime = some (since, recordedFor))
    (passed : drainer.gracePeriod ≤ now - since) :
    (before = .draining -> after = .verifying) ∧ (before = .verifying -> after = .complete) := by
  cases advance with
  | started => exact ⟨by simp, by simp⟩
  | watched => simp [ManagerDrainer.settles, ManagerDrainer.noted, noted, passed]
  | unsettled _ busy => simp [queueSettled, noted, passed] at busy
  | settled => exact ⟨by simp, fun _ => rfl⟩

end Machine

theorem workerEffect_advances {depth : Int64}
    (readable : credentials = .ok own) (read : queue = .ok depth)
    (free : unstuck state.memory.drainer.isSome state.status.phase)
    (unfinished : state.status.phase ≠ .complete)
    (effect : Worker.CheckEffect key config baseURL credentials queue now info state decision after log) :
    (decision = .wait ∧ after.status.phase ≠ .complete ∧
        WorkerAdvance depth now key state.status.phase state.memory.drainer after.status.phase
          after.memory.drainer) ∨
      (decision = .proceedDrained ∧ after.status.phase = .complete ∧
        WorkerAdvance depth now key state.status.phase state.memory.drainer .complete none) := by
  cases effect with
  | unavailable _ unread => simp [readable] at unread
  | unsetPhase unset => simp [unset, unstuck] at free
  | queueFailed _ _ _ unread => simp [read] at unread
  | started idle _ =>
    refine .inl ⟨rfl, by simp [entered], ?_⟩
    rw [idle]
    exact .started _
  | watched under moved =>
    rcases under with pending | draining
    · simp [pending, unstuck] at free
    · have armed : state.memory.drainer.isSome := by simpa [draining, unstuck] using free
      rcases Option.isSome_iff_exists.mp armed with ⟨drainer, held⟩
      simp only [watchedSettles, read, held, Option.any_some, draining, watchedPhase] at moved
      refine .inl ⟨rfl, ?_, ?_⟩
      · rw [moved]
        split <;> simp
      · simp only [watchedMemory, read, held, draining, moved, Option.map_some]
        exact .watched drainer
  | unverifiable verifying unknown =>
    have armed : state.memory.drainer.isSome := by simpa [verifying, unstuck] using free
    rcases unknown with absent | ⟨text, unread⟩
    · simp [absent] at armed
    · simp [read] at unread
  | notEmpty verifying present answered busy =>
    rw [read] at answered busy
    cases answered
    refine .inl ⟨rfl, by simp [verifying], ?_⟩
    simp only [verifying, present]
    exact .unsettled _ busy
  | verified verifying present _ _ empty =>
    rw [read] at empty
    rw [orKeep_markComplete_of_verifying now verifying, verifying, present]
    exact .inr ⟨rfl, rfl, .settled _ empty⟩
  | alreadyComplete complete => exact absurd complete unfinished
  | passedOver other =>
    rcases other with phase | phase | ⟨text, phase⟩ <;> simp [phase, unstuck] at free

section WorkerAdvance

variable {ctx : PassContext}

theorem reconcile_workersOnward (reaches : ReachesWorkers ctx state) :
    (reconcile ctx state).state.persisted =
        (reconcileManagerOnward ctx (workersEntry ctx state)).state.persisted ∧
      (reconcile ctx state).state.worker =
        (reconcileManagerOnward ctx (workersEntry ctx state)).state.worker ∧
      (reconcile ctx state).state.statefulSets =
        (reconcileManagerOnward ctx (workersEntry ctx state)).state.statefulSets := by
  rcases reaches with ⟨gates, onward, returned⟩
  rcases indexerCheck_passes ctx state with ⟨decision, log, checked, -⟩
  have rest : (afterIndexerCheck ctx (pastIndexerCheck ctx state)).state =
      (reconcileManagerOnward ctx (workersEntry ctx state)).state := by
    rw [workersEntry, afterIndexerCheck, bind_apply]
    rcases ran : reconcileIndexerNonBlocking ctx (pastIndexerCheck ctx state) with ⟨result, entry, first⟩
    rw [ran] at returned
    cases returned
    rfl
  rw [reconcile_reaching ctx state gates, reconcileIndexerOnward]
  cases decision with
  | wait => exact absurd (by rw [checked]) onward
  | proceed =>
    rw [gated_proceed ctx checked, Outcome.following_state, rest]
    exact ⟨rfl, rfl, rfl⟩
  | proceedDrained =>
    rw [gated_proceedDrained ctx checked, rest]
    exact ⟨rfl, rfl, rfl⟩

theorem reconcile_worker_advances {depth : Int64} (succeeds : Succeeds ctx.input)
    (read : ctx.input.queue = .ok depth) (reaches : ReachesWorkers ctx state)
    (pending : (workerScaleDown ctx state).isSome)
    (free : unstuck state.worker.drainer.isSome
      (state.working.manager.getD initializeDrainStatus).phase)
    (unfinished : (state.working.manager.getD initializeDrainStatus).phase ≠ .complete) :
    ∃ drainer, WorkerAdvance depth ctx.input.now ctx.key
        (state.working.manager.getD initializeDrainStatus).phase state.worker.drainer
        ((reconcile ctx state).state.persisted.manager.getD initializeDrainStatus).phase drainer ∧
      (((reconcile ctx state).state.persisted.manager.getD initializeDrainStatus).phase ≠ .complete ->
        (reconcile ctx state).state.worker.drainer = drainer ∧
          (reconcile ctx state).state.statefulSets ctx.workerSts =
            state.statefulSets ctx.workerSts) := by
  have entry := workersEntry_kept ctx state
  have kept : (rolledBack ctx state).manager = state.working.manager := by
    apply (rolledBack_step ctx state).2.eq_of_ne
    intro rollingBack
    simp [rollingBack, unstuck] at free
  have same : workerDrainState (workersEntry ctx state) = workerDrainState state := by
    have working := entry.working.trans kept
    simp only [workerDrainState, entry.memory, working]
    rfl
  have sameScaleDown : workerScaleDown ctx (workersEntry ctx state) = workerScaleDown ctx state := by
    simp only [workerScaleDown, entry.found]
    rfl
  rcases Option.isSome_iff_exists.mp pending with ⟨info, found⟩
  rcases workerCheck_some ctx (workersEntry ctx state) (sameScaleDown.trans found) with
    ⟨decision, drain, log, ran, effect⟩
  rw [WorkerEffect, same] at effect
  have readable : ctx.readCredentials = .ok ctx.apiCredentials := by
    rw [PassContext.readCredentials, succeeds.getCredentials]
    rfl
  rcases reconcile_workersOnward reaches with ⟨persisted, memory, sets⟩
  rw [persisted, memory, sets]
  rcases workerEffect_advances readable read free unfinished effect with
    ⟨rfl, under, advance⟩ | ⟨rfl, complete, advance⟩
  · rw [reconcileManagerOnward, gated_wait ctx ran, writeStatus_apply, succeeds.statusWrite]
    exact ⟨_, advance, fun _ => ⟨rfl, entry.found⟩⟩
  · have written := (returns_afterWorkerCheck succeeds (fun status => status.manager = some drain.status)
      (withWorkerDrain (workersEntry ctx state) drain) rfl).2
    rw [reconcileManagerOnward, gated_proceedDrained ctx ran]
    simp only [resetWorker, PassState.setWorkerGate, written, Option.getD_some, complete]
    exact ⟨none, advance, fun other => absurd rfl other⟩

end WorkerAdvance

end Controller
end WazuhOperator
