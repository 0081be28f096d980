import WazuhOperator.Controller.Gates

namespace WazuhOperator
namespace Controller

open Procedure Proc Drain Indexer Worker

/-!
# What the parts of a pass keep

One rule for each part of a pass from the gates on, over an arbitrary
invariant of the store and an arbitrary condition on events.  The two frame
lemmas at the end say what the part about one component leaves alone of the
other.
-/

section Rules

variable {ctx : PassContext} {inv : PassState -> Prop} {emits : Event -> Prop}

theorem keeps_writeStatus (written : answer.applied -> forall state, inv state ->
      inv { state with persisted := state.working })
    (reported : forall status, emits (.drainStatusWritten status)) :
    Keeps inv emits (writeStatus answer) := by
  intro state holds
  rw [writeStatus_apply]
  cases applied : answer.applied with
  | true => exact ⟨written applied state holds, by simpa using reported state.working⟩
  | false => exact ⟨holds, by simp⟩

theorem keeps_indexerCheck_of_effect (checked : forall state info decision drain log, inv state ->
      indexerScaleDown ctx state = some info -> IndexerEffect ctx state info decision drain log ->
      inv (withIndexerDrain state drain) ∧ ∀ event ∈ log, emits event) :
    Keeps inv emits (indexerCheck ctx) := by
  intro state holds
  rcases pending : indexerScaleDown ctx state with none | info
  · rw [indexerCheck_none ctx state pending]
    exact ⟨holds, by simp⟩
  · obtain ⟨decision, drain, log, ran, effect⟩ := indexerCheck_some ctx state pending
    rw [ran]
    exact checked state info decision drain log holds pending effect

theorem keeps_indexerCheck
    (checked : forall state drain, inv state -> inv (withIndexerDrain state drain))
    (own : forall event, event.about = some .indexer -> emits event) :
    Keeps inv emits (indexerCheck ctx) :=
  keeps_indexerCheck_of_effect (fun state _ _ drain _ holds _ effect =>
    ⟨checked state drain holds, fun event member => own event (effect.frame.about event member)⟩)

theorem keeps_workerCheck_of_effect (checked : forall state info decision drain log, inv state ->
      workerScaleDown ctx state = some info -> WorkerEffect ctx state info decision drain log ->
      inv (withWorkerDrain state drain) ∧ ∀ event ∈ log, emits event) :
    Keeps inv emits (workerCheck ctx) := by
  intro state holds
  rcases pending : workerScaleDown ctx state with none | info
  · rw [workerCheck_none ctx state pending]
    exact ⟨holds, by simp⟩
  · obtain ⟨decision, drain, log, ran, effect⟩ := workerCheck_some ctx state pending
    rw [ran]
    exact checked state info decision drain log holds pending effect

theorem keeps_workerCheck
    (checked : forall state drain, inv state -> inv (withWorkerDrain state drain))
    (own : forall event, event.about = some .manager -> emits event) :
    Keeps inv emits (workerCheck ctx) :=
  keeps_workerCheck_of_effect (fun state _ _ drain _ holds _ effect =>
    ⟨checked state drain holds, fun event member => own event (effect.frame.about event member)⟩)

theorem keeps_prepared (replaced : forall state found, inv state ->
      inv { state with statefulSets := Function.update state.statefulSets name found })
    (own : forall event, event.about = some desired.component -> event.plain -> emits event) :
    Keeps inv emits (ofExcept answers.prepare >>= fun _ =>
      mapError wrap (onStatefulSet name (reconcileStatefulSet noun needsUpdate answers desired))) := by
  intro state holds
  obtain ⟨result, found, log, ran, effect⟩ := prepared_effect state noun needsUpdate answers desired name wrap
  rw [ran]
  exact ⟨replaced state found holds,
    fun event member => own event (effect.about event member) (effect.plain event member)⟩

theorem keeps_reconcileIndexerNonBlocking (replaced : forall state found, inv state ->
      inv { state with statefulSets := Function.update state.statefulSets ctx.indexerSts found })
    (own : forall event, event.about = some .indexer -> event.plain -> emits event) :
    Keeps inv emits (reconcileIndexerNonBlocking ctx) :=
  keeps_prepared replaced own

theorem keeps_reconcileManagerNonBlocking (replaced : forall state found, inv state ->
      inv { state with statefulSets := Function.update state.statefulSets ctx.workerSts found })
    (own : forall event, event.about = some .manager -> event.plain -> emits event) :
    Keeps inv emits (reconcileManagerNonBlocking ctx) :=
  keeps_prepared replaced own

theorem keeps_finishPass_of_restart (restarted : Keeps inv emits
      (focus PassState.indexer (fun memory s => { s with indexer := memory })
        (orchestrateRollingRestart ctx.spec (ctx.makeClient ctx.input.restart.getClient)
          ctx.input.restart)))
    (written : ctx.input.statusWrite.applied -> forall state, inv state ->
      inv { state with persisted := state.working })
    (reported : forall status, emits (.drainStatusWritten status)) :
    Keeps inv emits (finishPass ctx) := by
  apply keeps_bind (keeps_ofExcept _)
  intro _
  apply keeps_bind (keeps_attempt restarted)
  exact fun _ => keeps_writeStatus written reported

theorem keeps_finishPass (restarted : forall state client, inv state ->
      inv { state with indexer := { state.indexer with osClient := client } })
    (written : ctx.input.statusWrite.applied -> forall state, inv state ->
      inv { state with persisted := state.working })
    (neutral : forall event, event.about = none -> emits event) :
    Keeps inv emits (finishPass ctx) := by
  refine keeps_finishPass_of_restart ?_ written (fun _ => neutral _ rfl)
  intro state holds
  have kept : Keeps
      (fun memory : IndexerReconciler => ∃ client, memory = { state.indexer with osClient := client })
      emits (orchestrateRollingRestart ctx.spec (ctx.makeClient ctx.input.restart.getClient)
        ctx.input.restart) := by
    apply keeps_orchestrateRollingRestart
    · rintro reconciler client ⟨cached, rfl⟩ _ _
      exact ⟨some client, rfl⟩
    · exact fun _ _ _ _ _ => neutral _ rfl
    · exact fun _ => neutral _ rfl
  rcases kept state.indexer ⟨state.indexer.osClient, rfl⟩ with ⟨⟨client, same⟩, allowed⟩
  rw [focus_apply]
  refine ⟨?_, allowed⟩
  simp only [same]
  exact restarted state client holds

theorem keeps_gated (checked : Keeps inv emits check) (onward : Keeps inv emits rest)
    (cleared : forall state, inv state -> inv (resetDrainState state))
    (written : ctx.input.statusWrite.applied -> forall state, inv state ->
      inv { state with persisted := state.working })
    (reported : forall status, emits (.drainStatusWritten status))
    (completed : emits (.drainComplete component)) :
    Keeps inv emits (gated ctx component check resetDrainState rest) := by
  apply keeps_bind checked
  intro decision
  cases decision with
  | proceed => exact onward
  | wait => exact keeps_writeStatus written reported
  | proceedDrained =>
    exact keeps_bind (keeps_emit completed)
      (fun _ => keeps_andFinally onward cleared)

variable (ctx inv) in
/-- The changes which the part of a pass from the gates on is made of. -/
structure StableOnward : Prop where
  indexerChecked : forall state drain, inv state -> inv (withIndexerDrain state drain)
  workerChecked : forall state drain, inv state -> inv (withWorkerDrain state drain)
  indexerReplaced : forall state found, inv state ->
    inv { state with statefulSets := Function.update state.statefulSets ctx.indexerSts found }
  workerReplaced : forall state found, inv state ->
    inv { state with statefulSets := Function.update state.statefulSets ctx.workerSts found }
  restarted : forall state client, inv state ->
    inv { state with indexer := { state.indexer with osClient := client } }
  written : ctx.input.statusWrite.applied = true -> forall state, inv state ->
    inv { state with persisted := state.working }
  indexerReset : forall state, inv state -> inv (resetIndexer ctx state)
  workerReset : forall state, inv state -> inv (resetWorker ctx state)

theorem StableOnward.keeps (stable : StableOnward ctx inv) :
    Keeps inv (fun _ => True) (reconcileIndexerOnward ctx) := by
  apply keeps_gated (keeps_indexerCheck stable.indexerChecked (fun _ _ => trivial)) _
    stable.indexerReset stable.written (fun _ => trivial) trivial
  apply keeps_bind
    (keeps_reconcileIndexerNonBlocking stable.indexerReplaced (fun _ _ _ => trivial))
  intro _
  apply keeps_gated (keeps_workerCheck stable.workerChecked (fun _ _ => trivial)) _
    stable.workerReset stable.written (fun _ => trivial) trivial
  apply keeps_bind
    (keeps_reconcileManagerNonBlocking stable.workerReplaced (fun _ _ _ => trivial))
  exact fun _ => keeps_finishPass stable.restarted stable.written (fun _ _ => trivial)

variable (ctx inv emits) in
/-- What the parts of a whole pass keep of the memory which outlives it. -/
structure StablePass : Prop where
  statuses : forall state working persisted, inv state ->
    inv { state with working := working, persisted := persisted }
  sets : forall state sets, inv state -> inv { state with statefulSets := sets }
  indexerCheck : Keeps inv emits (indexerCheck ctx)
  workerCheck : Keeps inv emits (workerCheck ctx)
  dryRun : Keeps inv emits (evaluateDryRun ctx)
  restart : Keeps inv emits
    (focus PassState.indexer (fun memory s => { s with indexer := memory })
      (orchestrateRollingRestart ctx.spec (ctx.makeClient ctx.input.restart.getClient)
        ctx.input.restart))
  indexerReset : forall state, inv state -> inv (resetIndexer ctx state)
  workerReset : forall state, inv state -> inv (resetWorker ctx state)
  plain : forall event, event.plain = true -> emits event

namespace StablePass

variable (stable : StablePass ctx inv emits)

include stable in
theorem keeps_write : Keeps inv emits (writeStatus ctx.input.statusWrite) :=
  keeps_writeStatus (fun _ state => stable.statuses state _ _) (fun _ => stable.plain _ rfl)

include stable in
theorem keeps_onward : Keeps inv emits (reconcileIndexerOnward ctx) := by
  have written : ctx.input.statusWrite.applied -> forall state, inv state ->
      inv { state with persisted := state.working } := fun _ state => stable.statuses state _ _
  have reported : forall status, emits (.drainStatusWritten status) := fun _ => stable.plain _ rfl
  apply keeps_gated stable.indexerCheck _ stable.indexerReset written reported (stable.plain _ rfl)
  apply keeps_bind (keeps_reconcileIndexerNonBlocking (fun state _ => stable.sets state _)
    (fun event _ => stable.plain event))
  intro _
  apply keeps_gated stable.workerCheck _ stable.workerReset written reported (stable.plain _ rfl)
  apply keeps_bind (keeps_reconcileManagerNonBlocking (fun state _ => stable.sets state _)
    (fun event _ => stable.plain event))
  exact fun _ => keeps_finishPass_of_restart stable.restart written reported

include stable in
theorem keeps_retry : Keeps inv emits (checkAndHandleRetry ctx) := by
  have announced : forall change : DrainStatus -> DrainStatus, Keeps inv emits
      (modify (fun s : PassState => { s with working := change s.working }) >>= fun _ =>
        attempt (writeStatus ctx.input.statusWrite) >>= fun _ => pure true) := by
    intro change
    apply keeps_bind (keeps_modify (fun state => stable.statuses state _ _))
    exact fun _ => keeps_bind (keeps_attempt stable.keeps_write)
      (fun _ => keeps_pure _)
  apply keeps_read_bind
  intro state _
  split
  · exact announced (fun working => { working with indexer := some _ })
  · exact keeps_pure _
  · split
    · exact announced (fun working => { working with manager := some _ })
    · exact keeps_pure _
    · exact keeps_pure _

include stable in
theorem keeps : Keeps inv emits (reconcile ctx) := by
  unfold reconcile
  split
  · exact keeps_ofExcept _
  · apply keeps_bind
    · intro state holds
      rcases verifyRollbackComplete_attempt ctx state with ⟨result, ran⟩
      rw [ran]
      exact ⟨stable.statuses state _ _ holds, by simp⟩
    · intro _
      apply keeps_bind stable.keeps_retry
      intro ended
      split
      · exact keeps_pure _
      · apply keeps_bind (keeps_ofExcept _)
        intro _
        split
        · exact keeps_bind stable.dryRun (fun _ => stable.keeps_write)
        · exact stable.keeps_onward

end StablePass

end Rules

/-! ## Frames -/

section Frames

variable (ctx : PassContext) (before : PassState)

theorem indexerSts_ne_workerSts : ctx.indexerSts ≠ ctx.workerSts :=
  indexerName_ne_managerWorkerName ctx.key.name ctx.key.name

/-- What the part of a pass after the indexer leaves alone of the indexer.  The status
may have been written, as it then was in the working copy. -/
structure IndexerKept (after : PassState) : Prop where
  working : after.working.indexer = before.working.indexer
  found : after.statefulSets ctx.indexerSts = before.statefulSets ctx.indexerSts
  drainer : after.indexer.drainer = before.indexer.drainer
  persisted : after.persisted.indexer = before.persisted.indexer ∨
    after.persisted.indexer = before.working.indexer

theorem keeps_reconcileManagerOnward :
    Keeps (IndexerKept ctx before) (fun event => event.about ≠ some .indexer)
      (reconcileManagerOnward ctx) := by
  have written : ctx.input.statusWrite.applied -> forall state, IndexerKept ctx before state ->
      IndexerKept ctx before { state with persisted := state.working } :=
    fun _ state kept => { kept with persisted := .inr kept.working }
  have own : forall event : Event, event.about = some .manager -> event.about ≠ some .indexer := by
    simp +contextual
  have neutral : forall event : Event, event.about = none -> event.about ≠ some .indexer := by
    simp +contextual
  apply keeps_gated
  · exact keeps_workerCheck (fun state drain kept => { kept with }) own
  · apply keeps_bind
    · refine keeps_reconcileManagerNonBlocking ?_ (fun event about _ => own event about)
      intro state found kept
      refine { kept with found := ?_ }
      rw [← kept.found]
      exact Function.update_of_ne (indexerSts_ne_workerSts ctx) _ _
    · exact fun _ => keeps_finishPass (fun state client kept => { kept with }) written neutral
  · exact fun state kept => { kept with }
  · exact written
  · exact fun _ => neutral _ rfl
  · exact own _ rfl

structure WorkerKept (after : PassState) : Prop where
  memory : after.worker = before.worker
  working : after.working.manager = before.working.manager
  found : after.statefulSets ctx.workerSts = before.statefulSets ctx.workerSts
  persisted : after.persisted = before.persisted

theorem keeps_indexerCheck_frame :
    Keeps (WorkerKept ctx before) (fun event => event.about = some .indexer)
      (indexerCheck ctx) :=
  keeps_indexerCheck (fun _ _ kept => { kept with }) (fun _ own => own)

theorem keeps_reconcileIndexerNonBlocking_frame :
    Keeps (WorkerKept ctx before) (fun event => event.about = some .indexer)
      (reconcileIndexerNonBlocking ctx) := by
  refine keeps_reconcileIndexerNonBlocking ?_ (fun _ own _ => own)
  intro state found kept
  refine { kept with found := ?_ }
  rw [← kept.found]
  exact Function.update_of_ne (indexerSts_ne_workerSts ctx).symm _ _

structure FinishKept (after : PassState) : Prop where
  memory : after.worker = before.worker
  found : after.statefulSets = before.statefulSets
  working : after.working = before.working
  persisted : after.persisted = before.persisted ∨ after.persisted = before.working

theorem keeps_finishPass_frame :
    Keeps (FinishKept before) (fun event => event.about = none) (finishPass ctx) :=
  keeps_finishPass (fun _ _ kept => { kept with })
    (fun _ _ kept => { kept with persisted := .inr kept.working }) (fun _ neither => neither)

theorem reconcile_statefulSets_of_ne (indexer : name ≠ ctx.indexerSts)
    (worker : name ≠ ctx.workerSts) :
    (reconcile ctx before).state.statefulSets name = before.statefulSets name := by
  by_cases reaches : ReachesGates ctx before
  · have stable : StableOnward ctx
        (fun state => state.statefulSets name = before.statefulSets name) :=
      { indexerChecked := fun _ _ same => same
        workerChecked := fun _ _ same => same
        indexerReplaced := fun _ _ same => (Function.update_of_ne indexer _ _).trans same
        workerReplaced := fun _ _ same => (Function.update_of_ne worker _ _).trans same
        restarted := fun _ _ same => same
        written := fun _ _ same => same
        indexerReset := fun _ same => same
        workerReset := fun _ same => same }
    rw [reconcile_reaching ctx before reaches]
    exact (stable.keeps (afterRollback ctx before) rfl).1
  · rw [(reconcile_unreached ctx before reaches).sets]

theorem reconcile_persisted_of_unwritten (unwritten : ctx.input.statusWrite.applied = false) :
    (reconcile ctx before).state.persisted = before.persisted := by
  by_cases reaches : ReachesGates ctx before
  · have stable : StableOnward ctx (fun state => state.persisted = before.persisted) :=
      { indexerChecked := fun _ _ same => same
        workerChecked := fun _ _ same => same
        indexerReplaced := fun _ _ same => same
        workerReplaced := fun _ _ same => same
        restarted := fun _ _ same => same
        written := fun applied => by simp [unwritten] at applied
        indexerReset := fun _ same => same
        workerReset := fun _ same => same }
    rw [reconcile_reaching ctx before reaches]
    exact (stable.keeps (afterRollback ctx before) rfl).1
  · exact (reconcile_unreached ctx before reaches).unwritten unwritten

end Frames

end Controller
end WazuhOperator
