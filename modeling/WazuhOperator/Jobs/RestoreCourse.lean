import WazuhOperator.Jobs.Course
import WazuhOperator.Jobs.Restore

namespace WazuhOperator
namespace Jobs

/-!
# Restores over a run

A restore overwrites the data of a running manager, so it is meant to run
once and to be over when it is reported as failed.  Two things stand in the
way.  The reconciler takes a missing Job for one that was never created, and
a Job removes itself a day after its end whether or not its end was recorded.
And the first failed pod makes the restore `Failed`, while the Job, which may
retry once, starts another pod.

The run keeps two more flags that nobody sees: that the restore has been
reported as `Failed`, and that a pod started or succeeded after that.
-/

structure RestoreRun where
  world : World RestoreSpec RestoreStatus Unit
  (reportedFailed strayPod : Bool := false)

def RestoreRun.begin (name : String) (spec : RestoreSpec) : RestoreRun where
  world := World.begin { name := name, spec := spec, status := {} } ()

abbrev RestoreMove : Type := Move RestoreAnswers RestoreSpec Unit

def podAdvances (site : RestoreSite) : RestoreMove -> Bool
  | .outside (.pod .starts) => (site.job.stored.bind (·.react .starts)).isSome
  | .outside (.pod .succeeds) => (site.job.stored.bind (·.react .succeeds)).isSome
  | _ => false

def RestoreRun.step (run : RestoreRun) (move : RestoreMove) : RestoreRun where
  world := run.world.step restorePass move
  reportedFailed := run.reportedFailed || decide (HoldsFailed (run.world.step restorePass move).site)
  strayPod := run.strayPod || (run.reportedFailed && podAdvances run.world.site move)

/-- At most one Job has been created, and no pod has started or succeeded after the restore was
reported as `Failed`. -/
def RestoredOnce (run : RestoreRun) : Prop := run.world.created.length ≤ 1 ∧ run.strayPod = false
  deriving Decidable

def JobOver (site : RestoreSite) : Prop := ∀ job ∈ site.job.stored, job.finished = true
  deriving Decidable

/-- What keeps a pass from doing harm.  Where it finds the Job missing, no Job of the restore has been
removed and the restore has not been reported as `Failed`; where it comes to the verdict `Failed`, the
Job, if there is one, has finished. -/
def PassInTime (run : RestoreRun) : RestoreMove -> Prop
  | .outside _ => True
  | .pass answers => ∀ copy ∈ foundCopy answers.getRestore run.world.site,
      (RestoreReachesMissingJob answers (run.world.site.desk copy) ->
        run.world.removed = [] ∧ run.reportedFailed = false) ∧
      (ComesToFailure answers (run.world.site.desk copy) -> JobOver run.world.site)

instance (run : RestoreRun) (move : RestoreMove) : Decidable (PassInTime run move) :=
  match move with
  | .outside _ => isTrue trivial
  | .pass answers =>
    inferInstanceAs (Decidable (∀ copy ∈ foundCopy answers.getRestore run.world.site, _))

/-! ## One pass -/

def newRestoreJob (answers : RestoreAnswers) (site : RestoreSite) : Option Restore :=
  (foundCopy answers.getRestore site).bind fun copy =>
    if RestoreReachesMissingJob answers (site.desk copy) then
      some (started { copy with finalizer := true }) else none

theorem restorePass_opens (answers : RestoreAnswers) (site : RestoreSite) :
    (restorePass answers site).created = (newRestoreJob answers site).toList ∧
      (restorePass answers site).site.job =
        jobAfter buildRestoreJob site.job (newRestoreJob answers site) :=
  runPass_opens answers.getRestore 30 restoreRequeueAfter fun copy =>
    opens_reconcileRestore answers (site.desk copy)

theorem reaches_of_newRestoreJob (creates : newRestoreJob answers site = some new) :
    ∃ copy, foundCopy answers.getRestore site = some copy ∧
      RestoreReachesMissingJob answers (site.desk copy) := by
  rcases Option.bind_eq_some_iff.mp creates with ⟨copy, found, reaches⟩
  exact ⟨copy, found, (Option.ite_none_right_eq_some.mp reaches).1⟩

theorem createsOneAtMost_restorePass : CreatesOneAtMost restorePass buildRestoreJob where
  stamped _ := rfl
  opens answers site := by
    rcases restorePass_opens answers site with ⟨created, left⟩
    refine ⟨newRestoreJob answers site, created, left, fun new => ?_⟩
    rcases Option.isSome_iff_exists.mp new with ⟨copy, isNew⟩
    rcases reaches_of_newRestoreJob isNew with ⟨_, _, _, _, _, _, _, absent, _⟩
    exact absent

theorem not_comesToFailure_of_reaches
    (reaches : RestoreReachesMissingJob answers desk) : ¬ ComesToFailure answers desk := by
  rintro ⟨_, verdict⟩
  rcases reaches with ⟨_, ⟨cluster, validated⟩, _, _, missing, _, _⟩
  rcases verdict with noCluster | ⟨_, rejected | ⟨_, _, job, seen, _⟩⟩
  · rw [cluster] at noCluster
    cases noCluster
  · rw [validated] at rejected
    cases rejected
  · rw [missing] at seen
    cases seen

theorem restorePass_job_same (finds : forall copy, foundCopy answers.getRestore site = some copy ->
      ¬ RestoreReachesMissingJob answers (site.desk copy)) :
    (restorePass answers site).site.job = site.job := by
  have nothing : newRestoreJob answers site = none := by
    cases creates : newRestoreJob answers site with
    | none => rfl
    | some =>
      rcases reaches_of_newRestoreJob creates with ⟨copy, found, reaches⟩
      exact absurd reaches (finds copy found)
  rw [(restorePass_opens answers site).2, nothing]
  rfl

/-! ## Whole runs -/

theorem podAdvances_of_jobOver (quiet : JobOver site) (move : RestoreMove) :
    podAdvances site move = false := by
  have still : forall event, (site.job.stored.bind (·.react event)).isSome = false := by
    intro event
    cases stored : site.job.stored with
    | none => rfl
    | some job => simp [Job.react_of_finished (quiet job stored)]
  unfold podAdvances
  split
  · exact still .starts
  · exact still .succeeds
  · rfl

theorem jobOver_of_change
    (change : Change world next) (quiet : JobOver world.site) : JobOver next.site := by
  intro job stored
  cases change.job with
  | same _ same => exact quiet job (same ▸ stored)
  | reacted there reacts _ _ =>
    rw [Job.react_of_finished (quiet _ there)] at reacts
    cases reacts
  | gone _ _ none =>
    rw [none] at stored
    cases stored

theorem holdsFailed_of_change
    (change : Change world next) (failed : HoldsFailed next.site) : HoldsFailed world.site := by
  rcases Option.map_eq_some_iff.mp failed with ⟨restore, stored, phase⟩
  rcases change.status restore stored with ⟨earlier, there, same⟩
  exact Option.map_eq_some_iff.mpr ⟨earlier, there, same ▸ phase⟩

/-- The invariant: the books are in order, and a restore that was reported as `Failed` has no Job
which could do anything. -/
structure UnderControl (run : RestoreRun) : Prop where
  accounted : Accounted run.world
  once : run.world.created.length ≤ 1
  noStray : run.strayPod = false
  seen : HoldsFailed run.world.site -> run.reportedFailed = true
  quiet : run.reportedFailed = true -> JobOver run.world.site

theorem underControl_begin (name : String) (spec : RestoreSpec) :
    UnderControl (RestoreRun.begin name spec) where
  accounted := accounted_begin _ _
  once := Nat.zero_le 1
  noStray := rfl
  seen := nofun
  quiet := nofun

/-- At most one Job, since the second is only made where the first has been removed. -/
theorem created_le_one (control : UnderControl run)
    (inTime : PassInTime run move) : (run.step move).world.created.length ≤ 1 := by
  have books := created_step createsOneAtMost_restorePass run.world move
  rw [RestoreRun.step, books]
  cases creates : opened restorePass run.world move with
  | none => simpa using control.once
  | some new =>
    cases move with
    | outside => cases creates
    | pass answers =>
      have isNew : newRestoreJob answers run.world.site = some new := by
        rw [opened, (restorePass_opens answers run.world.site).1] at creates
        cases made : newRestoreJob answers run.world.site <;> simp_all
      rcases reaches_of_newRestoreJob isNew with ⟨copy, found, reaches⟩
      have removed := ((inTime copy found).1 reaches).1
      have empty : run.world.created = [] := by
        have sameJobs := created_iff_removed createsOneAtMost_restorePass control.accounted creates
        rw [removed] at sameJobs
        exact List.map_eq_nil_iff.mp (List.eq_nil_iff_forall_not_mem.mpr
          fun generation member => List.not_mem_nil ((sameJobs generation).mp member))
      simp [empty]

theorem jobOver_pass (control : UnderControl run)
    (inTime : PassInTime run (.pass answers)) (failed : (run.step (.pass answers)).reportedFailed) :
    JobOver (run.step (.pass answers)).world.site := by
  have kept : JobOver run.world.site ->
      (forall copy, foundCopy answers.getRestore run.world.site = some copy ->
        ¬ RestoreReachesMissingJob answers (run.world.site.desk copy)) ->
      JobOver (run.step (.pass answers)).world.site := by
    intro quiet finds job stored
    refine quiet job ?_
    rw [← restorePass_job_same finds]
    exact stored
  cases before : run.reportedFailed with
  | true =>
    refine kept (control.quiet before) fun copy found reaches => ?_
    have unreported := ((inTime copy found).1 reaches).2
    rw [before] at unreported
    cases unreported
  | false =>
    have newly : HoldsFailed (restorePass answers run.world.site).site := by
      rw [RestoreRun.step, before] at failed
      exact of_decide_eq_true failed
    have unfailed : ¬ HoldsFailed run.world.site := fun held => by
      rw [control.seen held] at before
      cases before
    -- Only a verdict can have done it, and then the Job is over and was not missing.
    by_cases verdict : ∃ copy, foundCopy answers.getRestore run.world.site = some copy ∧
        ComesToFailure answers (run.world.site.desk copy)
    · rcases verdict with ⟨copy, found, comes⟩
      refine kept ((inTime copy found).2 comes) fun other same reaches => ?_
      cases found.symm.trans same
      exact not_comesToFailure_of_reaches reaches comes
    · exact absurd newly (not_holdsFailed_restorePass answers unfailed
        fun copy found comes => verdict ⟨copy, found, comes⟩)

theorem underControl_step (run : RestoreRun) (move : RestoreMove) (control : UnderControl run)
    (inTime : PassInTime run move) : UnderControl (run.step move) where
  accounted := accounted_step createsOneAtMost_restorePass run.world move control.accounted
  once := created_le_one control inTime
  noStray := by
    have still : (run.reportedFailed && podAdvances run.world.site move) = false := by
      cases reported : run.reportedFailed with
      | false => rfl
      | true => exact podAdvances_of_jobOver (control.quiet reported) move
    rw [RestoreRun.step, control.noStray, still]
    rfl
  seen held := Bool.or_eq_true_iff.mpr (.inr (decide_eq_true held))
  quiet := by
    cases move with
    | pass => exact jobOver_pass control inTime
    | outside happening =>
      intro failed
      have change := change_happen run.world happening
      refine jobOver_of_change change (control.quiet ?_)
      rcases Bool.or_eq_true_iff.mp failed with before | held
      · exact before
      · exact control.seen (holdsFailed_of_change change (of_decide_eq_true held))

/-- In every run whose passes come in time, a restore gets at most one Job, and no pod of it starts or
succeeds after the restore was reported as `Failed`. -/
theorem restored_once (name : String) (spec : RestoreSpec) (moves : List RestoreMove)
    (inTime : Runs.Along RestoreRun.step PassInTime (RestoreRun.begin name spec) moves) :
    Runs.Throughout RestoreRun.step RestoredOnce (RestoreRun.begin name spec) moves :=
  Runs.throughout_of_invariant underControl_step (fun _ control => ⟨control.once, control.noStray⟩)
    moves _ (underControl_begin name spec) inTime

namespace Sample

def s3Restore : RestoreSpec where
  clusterRef := "wazuh-cluster"
  source :=
    { s3 := some
        { bucket := "wazuh-backups"
          key := "wazuh-cluster/wazuh/daily-backup-20250105-020000.tar.gz"
          endpoint := "http://minio.minio.svc.cluster.local:9000"
          forcePathStyle := true
          credentialsSecret := { name := "minio-backup-credentials" } } }

def goodRestore : List RestoreMove :=
  [.pass {}, .outside .restart, .outside (.pod .starts), .outside (.pod .succeeds), .outside .restart,
    .pass {}, .outside .restart, .outside .expire, .outside .restart, .pass {}]

def retriedRestore : List RestoreMove :=
  [.pass {}, .outside .restart, .outside (.pod .starts), .outside (.pod .fails), .outside .restart,
    .pass {}, .outside (.pod .starts), .outside (.pod .succeeds)]

/-- The restore goes well, but its end cannot be recorded before the Job is removed. -/
def unrecordedRestore : List RestoreMove :=
  [.pass {}, .outside .restart, .outside (.pod .starts), .outside (.pod .succeeds), .outside .restart,
    .pass { status := .refused "etcdserver: request timed out" }, .outside .expire, .outside .restart,
    .pass {}]

end Sample

open Sample

/-- The documented restore, when all goes well. -/
theorem restored_once_documented :
    Runs.Throughout RestoreRun.step RestoredOnce (RestoreRun.begin "restore-from-backup" s3Restore)
      goodRestore :=
  restored_once "restore-from-backup" s3Restore goodRestore (by decide)

/-- A pod starts and succeeds after the restore was reported as `Failed`; and a restore whose end was not
recorded within a day is run again. -/
theorem restore_runs_twice : ¬ Runs.Throughout RestoreRun.step RestoredOnce
        (RestoreRun.begin "restore-from-backup" s3Restore) retriedRestore ∧
      (Runs.run RestoreRun.step (RestoreRun.begin "restore-from-backup" s3Restore)
        unrecordedRestore).world.created.length = 2 := by decide

end Jobs
end WazuhOperator
