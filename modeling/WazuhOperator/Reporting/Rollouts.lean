import WazuhOperator.Library.Runs
import WazuhOperator.Reporting.Writers

namespace WazuhOperator
namespace Reporting

open List Runs

/-!
# Certificate rollouts

A renewed certificate restarts the workloads which mount it.  The status keeps
an entry for each such rollout, and every pass asks for the unfinished entries
whether the workload has come through.  The first part is that question, as the
`RolloutWaiter` answers it for each kind of workload; the second follows the
list of entries over additions and checks.
-/

/-! ## Is a rollout complete? -/

/-- What both kinds of workload report, and the generation which they should have seen. -/
structure WorkloadCounters where
  replicas : Option Int32
  (generation observedGeneration : Int)
  (updatedReplicas readyReplicas : Int32)

/-- An absent count means one replica. -/
def WorkloadCounters.desired (counters : WorkloadCounters) : Int32 := counters.replicas.getD 1

structure StatefulSetReport extends WorkloadCounters where
  (currentRevision updateRevision : String)

structure DeploymentReport extends WorkloadCounters where
  availableReplicas : Int32

/-- `utils.RolloutStatus` without the duration; an error is that of the lookup. -/
structure RolloutStatus where
  (complete ready : Bool)
  (readyReplicas desired updated : Int32)
  message : String

def WorkloadCounters.answer (counters : WorkloadCounters) (complete : Bool) : RolloutStatus where
  complete := complete
  ready := complete
  readyReplicas := counters.readyReplicas
  desired := counters.desired
  updated := counters.updatedReplicas
  message :=
    if complete then s!"Rollout complete: {counters.desired}/{counters.desired} pods ready"
    else s!"{counters.readyReplicas}/{counters.desired} pods ready, {counters.updatedReplicas} updated"

def checkStatefulSetStatus (sts : StatefulSetReport) : RolloutStatus :=
  sts.answer (sts.updatedReplicas = sts.desired ∧ sts.readyReplicas = sts.desired ∧
    sts.currentRevision = sts.updateRevision)

def checkDeploymentStatus (deployment : DeploymentReport) : RolloutStatus :=
  deployment.answer (deployment.updatedReplicas = deployment.desired ∧
    deployment.readyReplicas = deployment.desired ∧
    deployment.availableReplicas = deployment.desired ∧
    deployment.generation ≤ deployment.observedGeneration)

/-- The controller of the workload has seen the current generation, and all desired replicas
are updated and ready. -/
def WorkloadCounters.Current (counters : WorkloadCounters) : Prop :=
  counters.generation ≤ counters.observedGeneration ∧
    counters.updatedReplicas = counters.desired ∧ counters.readyReplicas = counters.desired

/-- A Deployment counts as ready only for its current spec.  A StatefulSet does where its
controller has caught up or the counters, which may be those of the previous spec, do not look
complete. -/
theorem ready_only_current_iff (sts : StatefulSetReport) (deployment : DeploymentReport) :
    (((checkStatefulSetStatus sts).ready = true -> sts.Current) <->
      (sts.generation ≤ sts.observedGeneration ∨ sts.updatedReplicas ≠ sts.desired ∨
        sts.readyReplicas ≠ sts.desired ∨ sts.currentRevision ≠ sts.updateRevision)) ∧
    ((checkDeploymentStatus deployment).ready = true -> deployment.Current) := by
  simp only [checkStatefulSetStatus, checkDeploymentStatus, WorkloadCounters.answer,
    WorkloadCounters.Current, decide_eq_true_eq]
  constructor
  · constructor
    · intro onlyCurrent
      by_cases seen : sts.generation ≤ sts.observedGeneration
      · exact .inl seen
      · by_cases updated : sts.updatedReplicas = sts.desired
        · by_cases ready : sts.readyReplicas = sts.desired
          · exact .inr (.inr (.inr fun same => seen (onlyCurrent ⟨updated, ready, same⟩).1))
          · exact .inr (.inr (.inl ready))
        · exact .inr (.inl updated)
    · rintro (seen | behind | unready | rolling) ⟨updated, ready, same⟩
      · exact ⟨seen, updated, ready⟩
      · exact absurd updated behind
      · exact absurd ready unready
      · exact absurd same rolling
  · rintro ⟨updated, ready, _, seen⟩
    exact ⟨seen, updated, ready⟩

/-- Right after an update of a StatefulSet of three replicas: the status is still that of the
previous generation. -/
def justUpdated : StatefulSetReport where
  replicas := some 3
  generation := 5
  observedGeneration := 4
  updatedReplicas := 3
  readyReplicas := 3
  currentRevision := "a"
  updateRevision := "a"

theorem justUpdated_ready_not_current :
    (checkStatefulSetStatus justUpdated).ready = true ∧ ¬ justUpdated.Current :=
  ⟨by decide, fun current => absurd current.1 (by decide)⟩

/-! ## The list of rollouts -/

def ClusterStatus.rollouts (status : ClusterStatus) : List PendingCertRollout :=
  (status.certificateRollouts.getD {}).pendingRollouts

def unfinished (entries : List PendingCertRollout) : List String :=
  (entries.filter fun entry => !entry.ready).map PendingCertRollout.component

def completed (entries : List PendingCertRollout) : List PendingCertRollout :=
  entries.filter PendingCertRollout.ready

/-- One entry of `addPendingRollouts`. -/
def enter (rollout : PendingCertRollout) (entries : List PendingCertRollout) :
    List PendingCertRollout :=
  FirstMatch.put
    (fun existing => decide (existing.component = rollout.component) && !existing.ready)
    { rollout with ready := false } entries

def renew (check : PendingCertRollout -> Except String Bool) (entry : PendingCertRollout) :
    PendingCertRollout :=
  if entry.ready then entry
  else
    match check entry with
    | .ok true => { entry with ready := true }
    | _ => entry

inductive RolloutStep where
  | added (first : PendingCertRollout) (others : List PendingCertRollout)
  | checked (check : PendingCertRollout -> Except String Bool)

/-- The two functions which edit the list. -/
def rolloutStep (status : ClusterStatus) : RolloutStep -> ClusterStatus
  | .added first others => addPendingRollouts (first :: others) status
  | .checked check => checkAndUpdatePendingRollouts check status

/-- At most one rollout of a component is unfinished, and the flag says whether there is one. -/
structure ClusterStatus.Tracked (status : ClusterStatus) : Prop where
  single : (unfinished status.rollouts).Nodup
  flagged : (status.certificateRollouts.getD {}).rolloutsInProgress = true <->
    unfinished status.rollouts ≠ []

/-- An unfinished rollout stays so until a check finds it ready, and completed ones stay for
history. -/
def LosesNothing (status : ClusterStatus) (step : RolloutStep) : Prop :=
  let after := (rolloutStep status step).rollouts
  (∀ entry ∈ status.rollouts, entry.ready = false ->
    entry.component ∈ unfinished after ∨
      ∃ check, step = .checked check ∧ check entry = .ok true ∧ { entry with ready := true } ∈ after) ∧
  (completed status.rollouts).Sublist (completed after)

section Entries

variable (rollout : PendingCertRollout) (entries : List PendingCertRollout)
variable (check : PendingCertRollout -> Except String Bool)

theorem enter_cases :
    (∃ before old later, entries = before ++ old :: later ∧ old.component = rollout.component ∧
      old.ready = false ∧
      enter rollout entries = before ++ { rollout with ready := false } :: later) ∨
    (rollout.component ∉ unfinished entries ∧
      enter rollout entries = entries ++ [{ rollout with ready := false }]) := by
  rcases FirstMatch.put_cases
      (fun existing => decide (existing.component = rollout.component) && !existing.ready)
      { rollout with ready := false } entries with
    ⟨before, old, later, split, fits, placed⟩ | ⟨none, appended⟩
  · have fits : old.component = rollout.component ∧ old.ready = false := by simpa using fits
    exact .inl ⟨before, old, later, split, fits.1, fits.2, placed⟩
  · refine .inr ⟨fun member => ?_, appended⟩
    rcases mem_map.mp member with ⟨other, kept, same⟩
    have misses := none other (mem_of_mem_filter kept)
    simp [same, (mem_filter.mp kept).2] at misses

theorem enter_spec : completed (enter rollout entries) = completed entries ∧
      ((rollout.component ∈ unfinished entries ∧
          unfinished (enter rollout entries) = unfinished entries) ∨
        (rollout.component ∉ unfinished entries ∧
          unfinished (enter rollout entries) = unfinished entries ++ [rollout.component])) := by
  rcases enter_cases rollout entries with
    ⟨before, old, later, split, same, unready, placed⟩ | ⟨unknown, appended⟩
  · rw [placed, split]
    refine ⟨by simp [completed, unready], .inl ⟨?_, by simp [unfinished, same, unready]⟩⟩
    exact mem_map.mpr ⟨old, by simp [unready], same⟩
  · rw [appended]
    exact ⟨by simp [completed], .inr ⟨unknown, by simp [unfinished]⟩⟩

theorem mem_unfinished_enter : rollout.component ∈ unfinished (enter rollout entries) := by
  rcases (enter_spec rollout entries).2 with ⟨known, same⟩ | ⟨_, grown⟩
  · rw [same]
    exact known
  · rw [grown]
    exact mem_append_right _ mem_cons_self

theorem subset_unfinished_enter : unfinished entries ⊆ unfinished (enter rollout entries) := by
  rcases (enter_spec rollout entries).2 with ⟨_, same⟩ | ⟨_, grown⟩
  · rw [same]
    exact Subset.refl _
  · rw [grown]
    exact subset_append_left _ _

theorem nodup_unfinished_enter (single : (unfinished entries).Nodup) :
    (unfinished (enter rollout entries)).Nodup := by
  rcases (enter_spec rollout entries).2 with ⟨_, same⟩ | ⟨unknown, grown⟩
  · rw [same]
    exact single
  · rw [grown]
    exact Nodup.append single (nodup_singleton _) (by simpa using unknown)

theorem enterAll_spec (others : List PendingCertRollout) : forall entries,
    let after := others.foldl (fun pending other => enter other pending) entries
    completed after = completed entries ∧ unfinished entries ⊆ unfinished after ∧
      ((unfinished entries).Nodup -> (unfinished after).Nodup) := by
  induction others with
  | nil => exact fun entries => ⟨rfl, Subset.refl _, id⟩
  | cons other _ ih =>
    intro entries
    have rest := ih (enter other entries)
    refine ⟨rest.1.trans (enter_spec other entries).1, ?_, ?_⟩
    · exact Subset.trans (subset_unfinished_enter other entries) rest.2.1
    · exact fun single => rest.2.2 (nodup_unfinished_enter other entries single)

theorem unfinished_renew :
    (unfinished (entries.map (renew check))).Sublist (unfinished entries) := by
  induction entries with
  | nil => exact Sublist.refl _
  | cons entry rest ih =>
    cases ready : entry.ready with
    | true => simpa [unfinished, renew, ready] using ih
    | false =>
      have entire : unfinished (entry :: rest) = entry.component :: unfinished rest := by
        simp [unfinished, ready]
      have kept : entry.component :: unfinished (rest.map (renew check)) =
          unfinished (entry :: rest.map (renew check)) := by
        simp [unfinished, ready]
      rw [entire, map_cons, renew, if_neg (by simp [ready])]
      split
      · simpa [unfinished] using ih.cons entry.component
      · rw [← kept]
        exact ih.cons_cons _

theorem completed_renew : (completed entries).Sublist (completed (entries.map (renew check))) := by
  induction entries with
  | nil => exact Sublist.refl _
  | cons entry rest ih =>
    cases ready : entry.ready with
    | true => simpa [completed, renew, ready] using ih
    | false =>
      have entire : completed (entry :: rest) = completed rest := by simp [completed, ready]
      rw [entire]
      refine ih.trans ?_
      rw [map_cons, completed, completed, filter_cons]
      split
      · exact sublist_cons_self _ _
      · exact Sublist.refl _

/-- An unfinished entry is renewed to an unfinished one, or the check found it ready. -/
theorem renew_unfinished (listed : entry ∈ entries) (unready : entry.ready = false) :
    entry.component ∈ unfinished (entries.map (renew check)) ∨
      (check entry = .ok true ∧ { entry with ready := true } ∈ entries.map (renew check)) := by
  have member := mem_map_of_mem (f := renew check) listed
  by_cases found : check entry = .ok true
  · right
    rw [renew, if_neg (by simp [unready]), found] at member
    exact ⟨found, member⟩
  · left
    have same : renew check entry = entry := by
      rw [renew, if_neg (by simp [unready])]
      split
      · exact absurd ‹_› found
      · rfl
    rw [same] at member
    exact mem_map.mpr ⟨entry, mem_filter.mpr ⟨member, by simp [unready]⟩, rfl⟩

end Entries

/-! ## Every history of the list -/

section Steps

variable {status : ClusterStatus}

theorem rollouts_added (first : PendingCertRollout) (others : List PendingCertRollout) :
    (rolloutStep status (.added first others)).rollouts =
      others.foldl (fun pending other => enter other pending) (enter first status.rollouts) := rfl

/-- A check of an empty list changes nothing, and leaves the flag as it was. -/
theorem rollouts_checked (status : ClusterStatus) (check : PendingCertRollout -> Except String Bool) :
    (rolloutStep status (.checked check)).rollouts = status.rollouts.map (renew check) ∧
      (status.rollouts = [] ∧ rolloutStep status (.checked check) = status ∨
        ((rolloutStep status (.checked check)).certificateRollouts.getD {}).rolloutsInProgress =
          (status.rollouts.map (renew check)).any fun entry => !entry.ready) := by
  rw [rolloutStep, checkAndUpdatePendingRollouts, ClusterStatus.rollouts, ClusterStatus.rollouts]
  cases known : status.certificateRollouts with
  | none => simp [known]
  | some recorded =>
    cases entries : recorded.pendingRollouts with
    | nil => simp [known, entries]
    | cons entry rest =>
      simp only [entries, isEmpty_cons, Bool.false_eq_true, if_false, Option.getD_some]
      exact ⟨rfl, .inr rfl⟩

theorem tracked_step (tracked : status.Tracked) (step : RolloutStep) :
    (rolloutStep status step).Tracked := by
  cases step with
  | added first others =>
    have loop := enterAll_spec others (enter first status.rollouts)
    refine ⟨loop.2.2 (nodup_unfinished_enter first _ tracked.single), fun _ => ?_, fun _ => rfl⟩
    exact ne_nil_of_mem (loop.2.1 (mem_unfinished_enter first status.rollouts))
  | checked check =>
    rcases rollouts_checked status check with ⟨entries, idle | flag⟩
    · rw [idle.2]
      exact tracked
    · refine ⟨?_, ?_⟩
      · rw [entries]
        exact tracked.single.sublist (unfinished_renew _ check)
      · rw [flag, entries]
        simp [unfinished]

theorem losesNothing_step (step : RolloutStep) : LosesNothing status step := by
  cases step with
  | added first others =>
    have loop := enterAll_spec others (enter first status.rollouts)
    refine ⟨fun entry listed unready => .inl ?_, ?_⟩
    · apply loop.2.1
      apply subset_unfinished_enter
      exact mem_map.mpr ⟨entry, mem_filter.mpr ⟨listed, by simp [unready]⟩, rfl⟩
    · rw [rollouts_added, loop.1, (enter_spec first _).1]
  | checked check =>
    have entries := (rollouts_checked status check).1
    refine ⟨fun entry listed unready => ?_, ?_⟩
    · rw [entries]
      rcases renew_unfinished _ check listed unready with stays | done
      · exact .inl stays
      · exact .inr ⟨check, rfl, done⟩
    · rw [entries]
      exact completed_renew _ check

end Steps

/-- In every history of additions and checks, whatever the checks answer, at most one rollout of
a component is unfinished, the flag is exact, an unfinished rollout goes only by becoming ready,
and every completed one is kept. -/
theorem rollouts_tracked (status : ClusterStatus) (steps : List RolloutStep) :
    Throughout rolloutStep ClusterStatus.Tracked
        { status with certificateRollouts := none } steps ∧
      Along rolloutStep LosesNothing { status with certificateRollouts := none } steps := by
  constructor
  · have always : forall (state : ClusterStatus) (step : RolloutStep), state.Tracked -> True ->
        (rolloutStep state step).Tracked := fun _ step tracked _ => tracked_step tracked step
    refine throughout_of_invariant always (fun _ tracked => tracked) steps _ ?_ ?_
    · exact ⟨nodup_nil, fun raised => (Bool.false_ne_true raised).elim, fun given => absurd rfl given⟩
    · exact along_of_forall (fun _ _ _ => trivial) _
  · exact along_of_forall (fun step _ _ => losesNothing_step step) _

/-! The list grows with every rollout of a component whose last one was completed. -/

def dashboardRollout : PendingCertRollout where
  component := "dashboard"
  workloadName := "wazuh-dashboard"
  workloadType := "Deployment"

def oneRollout : List RolloutStep := [.added dashboardRollout [], .checked fun _ => .ok true]

theorem rollouts_unbounded : ¬∃ bound : Nat, ∀ steps : List RolloutStep,
    (run rolloutStep {} steps).rollouts.length ≤ bound := by
  suffices grown : forall count, ∃ steps,
      (run rolloutStep {} steps).rollouts =
        replicate count { dashboardRollout with ready := true } by
    rintro ⟨bound, bounded⟩
    rcases grown (bound + 1) with ⟨steps, entries⟩
    have short := bounded steps
    rw [entries, length_replicate] at short
    exact Nat.not_succ_le_self bound short
  intro count
  induction count with
  | zero => exact ⟨[], rfl⟩
  | succ count ih =>
    rcases ih with ⟨steps, entries⟩
    refine ⟨steps ++ oneRollout, ?_⟩
    have appended : enter dashboardRollout
        (replicate count { dashboardRollout with ready := true }) =
          replicate count { dashboardRollout with ready := true } ++ [dashboardRollout] := by
      rcases enter_cases dashboardRollout
          (replicate count { dashboardRollout with ready := true }) with
        ⟨before, old, later, split, _, unready, _⟩ | ⟨_, placed⟩
      · have listed : old ∈ replicate count { dashboardRollout with ready := true } := by
          rw [split]
          exact mem_append_right before mem_cons_self
        simp [eq_of_mem_replicate listed] at unready
      · exact placed
    rw [run_append, oneRollout, run, foldl_cons, foldl_cons, foldl_nil,
      (rollouts_checked _ _).1, rollouts_added, entries, foldl_nil, appended, map_append,
      map_replicate, replicate_succ']
    rfl

end Reporting
end WazuhOperator
