import WazuhOperator.Reporting.Writers

namespace WazuhOperator
namespace Reporting

/-!
# Which computed fields survive the pass

The last write of a pass starts from the stored object and takes over a fixed
list of parts from the working copy.  A field on the list survives whatever it
is.  Of the others, the statuses of the volume expansion keep their stored
values, and those inside the indexer's status are replaced together with it by
a status which `GetStatus` builds without them.  `Carried` says for each field
what this leaves of the computed value.
-/

/-! ## The comparison of the last write with the working copy -/

/-- Every field which a step of the pass has computed is the same in the persisted
status and in the working copy. -/
def ComputedSurvives (steps : List StatusStep) (persisted working : ClusterStatus) : Prop :=
  ∀ step ∈ steps, ∀ field ∈ step.fields, Agrees field persisted working

/-- The field of the working copy is carried into the persisted status: it is one of
those taken over; or it belongs to the volume expansion and is stored already; or it
belongs to the indexer's status and is stored already where the StatefulSet cannot be
read, and where it can be read has the value of a freshly built status. -/
def Carried (found : Except String (Option WorkloadStatus)) (working stored : ClusterStatus)
    (field : Field) : Prop :=
  let indexer := working.indexer.getD {}
  match field, found with
  | .drain, _ | .security, _ | .certificateRollouts, _ | .rollingRestart, _ | .securityReady, _ =>
    True
  | .indexerExpansion, _ | .managerMasterExpansion, _ | .managerWorkersExpansion, _ =>
    Agrees field stored working
  | .topologyMode, .error _ | .nodePoolStatuses, .error _ | .appliedSettingsHash, .error _
  | .replicaTotals, .error _ => Agrees field stored working
  | .topologyMode, .ok _ => indexer.topologyMode = ""
  | .nodePoolStatuses, .ok _ => indexer.nodePoolStatuses = []
  | .appliedSettingsHash, .ok _ => indexer.appliedSettingsHash = ""
  | .replicaTotals, .ok none =>
    indexer.replicas = 0 ∧ indexer.readyReplicas = 0 ∧ indexer.phase = none
  | .replicaTotals, .ok (some workload) =>
    indexer.replicas = workload.replicas ∧ indexer.readyReplicas = workload.readyReplicas ∧
      indexer.phase = some (workloadPhase workload)

/-- The fields which `updateStatus` takes over from the working copy. -/
def Field.copied : Field -> Bool
  | drain | security | certificateRollouts | rollingRestart | securityReady => true
  | _ => false

theorem carried_of_copied (copied : field.copied)
    (found : Except String (Option WorkloadStatus)) (working stored : ClusterStatus) :
    Carried found working stored field := by
  cases field with
  | drain | security | certificateRollouts | rollingRestart | securityReady => trivial
  | _ => cases copied

section Call

variable (answers : StatusAnswers) (working stored : ClusterStatus)

/-- The reports on the phase touch none of the fields which steps compute. -/
theorem agrees_nextStatus (other : ClusterStatus) (field : Field) :
    Agrees field (nextStatus answers working stored) other <->
      Agrees field (takeOver answers working stored) other := by
  unfold nextStatus
  dsimp only
  cases field with
  | securityReady =>
    split
    · simp only [Agrees, reportRunning]
      rw [conditionOf_updateCondition_other (by decide), conditionOf_updateCondition_other (by decide)]
    · simp only [Agrees, reportCreating]
      rw [conditionOf_updateCondition_other (by decide)]
  | _ => split <;> exact Iff.rfl

theorem agrees_takeOver_iff (field : Field) :
    Agrees field (takeOver answers working stored) working <->
      Carried answers.reads.indexer working stored field := by
  cases field with
  | topologyMode | nodePoolStatuses | appliedSettingsHash =>
    simp only [Agrees, takeOver, StatusAnswers.indexer, indexerGetStatus, singleWorkloadStatus]
    cases answers.reads.indexer with
    | error => exact Iff.rfl
    | ok found =>
      cases found with
      | none | some => exact eq_comm
  | replicaTotals =>
    simp only [Agrees, takeOver, StatusAnswers.indexer, indexerGetStatus, singleWorkloadStatus]
    cases answers.reads.indexer with
    | error => exact Iff.rfl
    | ok found =>
      cases found with
      | none | some => exact and_congr eq_comm (and_congr eq_comm eq_comm)
  | indexerExpansion | managerMasterExpansion | managerWorkersExpansion => exact Iff.rfl
  | drain | security | certificateRollouts | rollingRestart | securityReady =>
    exact ⟨fun _ => trivial, fun _ => rfl⟩

end Call

/-- In every pass which succeeds, the fields its steps have computed are in the persisted
status exactly if each of them is carried. -/
theorem computed_survives_iff (steps : List StatusStep) (fetched stored : ClusterStatus)
    (answers : StatusAnswers)
    (returned : (updateStatus answers (workingCopy fetched steps) stored).result = .ok ()) :
    ComputedSurvives steps (updateStatus answers (workingCopy fetched steps) stored).state
        (workingCopy fetched steps) <->
      ∀ step ∈ steps, ∀ field ∈ step.fields,
        Carried answers.reads.indexer (workingCopy fetched steps) stored field := by
  rw [updateStatus_of_persists (StatusAnswers.persists_of_ok returned)]
  apply forall₂_congr
  intro step member
  apply forall₂_congr
  intro field computed
  rw [agrees_nextStatus]
  exact agrees_takeOver_iff answers (workingCopy fetched steps) stored field

/-- The spec refers to an indexer, and there are no volume claims to look at. -/
def references : PassFindings := { PassFindings.uneventful with indexer := none }

/-- Such a pass computes nothing but what is copied. -/
theorem computed_survives_iff_references : ComputedSurvives (passSteps references)
      (updateStatus .allReady (workingCopy {} (passSteps references)) {}).state
      (workingCopy {} (passSteps references)) := by
  have copied : ∀ step ∈ passSteps references, ∀ field ∈ step.fields, field.copied := by
    decide
  apply (computed_survives_iff (passSteps references) {} {} .allReady rfl).mpr
  intro step member field computed
  exact carried_of_copied (copied step member field computed) _ _ _

def expansionFailed : PassFindings :=
  { PassFindings.uneventful with
    masterVolumes := some
      { requestedSize := "100Gi", firstSize := some "50Gi", pvcsExpanded := [],
        pvcsPending := ["wazuh-manager-data-wazuh-manager-master-0"],
        expansionError := some "storage class does not allow volume expansion" } }

/-- The topology mode and the failed expansion are in the working copy and nowhere in
the status which is persisted. -/
theorem topology_and_expansion_forgotten :
    ((workingCopy {} (passSteps expansionFailed)).indexer.map ComponentStatus.topologyMode) =
        some "simple" ∧
      ((workingCopy {} (passSteps expansionFailed)).volumeExpansion.bind
        VolumeExpansionStatus.managerMasterExpansion).map ComponentExpansionStatus.phase =
          some .failed ∧
      (updateStatus .allReady (workingCopy {} (passSteps expansionFailed)) {}).result = .ok () ∧
      (updateStatus .allReady (workingCopy {} (passSteps expansionFailed)) {}).state.volumeExpansion =
        none ∧
      ¬ ComputedSurvives (passSteps expansionFailed)
        (updateStatus .allReady (workingCopy {} (passSteps expansionFailed)) {}).state
        (workingCopy {} (passSteps expansionFailed)) := by
  refine ⟨by decide, by decide, rfl, rfl, ?_⟩
  intro survives
  have kept := survives (.topologyMode { replicas := 3 }) List.mem_cons_self .topologyMode
    List.mem_cons_self
  exact absurd kept (by decide)

/-! ## The topology mode -/

end Reporting
end WazuhOperator
