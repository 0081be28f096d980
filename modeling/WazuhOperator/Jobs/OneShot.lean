import WazuhOperator.Jobs.Backup
import WazuhOperator.Jobs.Course

namespace WazuhOperator
namespace Jobs

open Runs

/-!
# One-shot backups over a run

A backup without a schedule is meant to run once.  The reconciler knows that
it has run only from the Job itself: where the Job is missing it creates one.
A Job removes itself a day after it has finished, and the removal is an event
that wakes the controller, so the next pass makes the backup again.

The exact condition under which no generation gets a second Job is that no
pass finds the Job missing after the Job of that generation was removed.  The
`suspend` field is documented to apply to scheduled backups only, and a pass
does not read it before it creates the Job.
-/

def FindsJobMissing (answers : BackupAnswers) (site : BackupSite) (copy : Backup) : Prop :=
  foundCopy answers.getBackup site = some copy ∧ ReachesMissingJob answers (site.desk copy)

def newBackupJob (answers : BackupAnswers) (site : BackupSite) : Option Backup :=
  (foundCopy answers.getBackup site).bind fun copy =>
    if ReachesMissingJob answers (site.desk copy) then some { copy with finalizer := true } else none

variable (answers : BackupAnswers)

theorem newBackupJob_eq_some_iff (site : BackupSite) (new : Backup) :
    newBackupJob answers site = some new <->
      ∃ copy, FindsJobMissing answers site copy ∧ new = { copy with finalizer := true } := by
  simp only [newBackupJob, FindsJobMissing, Option.bind_eq_some_iff, Option.ite_none_right_eq_some,
    Option.some.injEq]
  exact exists_congr fun copy => by rw [and_assoc, eq_comm (a := new)]

theorem backupPass_opens (site : BackupSite) :
    (backupPass answers site).created = (newBackupJob answers site).toList ∧
      (backupPass answers site).site.job =
        jobAfter buildBackupJob site.job (newBackupJob answers site) :=
  runPass_opens answers.getBackup 30 backupRequeueAfter fun copy =>
    opens_reconcileBackup answers (site.desk copy)

theorem createsOneAtMost_backupPass : CreatesOneAtMost backupPass buildBackupJob where
  stamped _ := rfl
  opens answers site := by
    rcases backupPass_opens answers site with ⟨created, left⟩
    refine ⟨newBackupJob answers site, created, left, fun new => ?_⟩
    rcases Option.isSome_iff_exists.mp new with ⟨copy, isNew⟩
    rcases (newBackupJob_eq_some_iff answers site copy).mp isNew with ⟨_, ⟨_, reaches⟩, _⟩
    rcases reaches with ⟨_, _, _, _, _, _, _, absent, _⟩
    exact absent

/-! ## Runs -/

theorem opened_backupPass (world : World BackupSpec BackupStatus (Feed (Option CronJob)))
    (answers : BackupAnswers) :
    opened backupPass world (.pass answers) = newBackupJob answers world.site := by
  rw [opened, (backupPass_opens answers world.site).1]
  cases newBackupJob answers world.site <;> rfl

theorem distinct_generations_iff (backup : Backup) (cronJob : Feed (Option CronJob))
    (moves : List (Move BackupAnswers BackupSpec (Feed (Option CronJob)))) :
    Throughout (World.step backupPass) (fun world =>
        (world.created.map (·.generation)).Nodup) (World.begin backup cronJob) moves <->
      Along (World.step backupPass) (fun world move => forall answers copy,
        move = .pass answers -> FindsJobMissing answers world.site copy ->
          copy.generation ∉ world.removed) (World.begin backup cronJob) moves := by
  refine (pairwise_iff_removed createsOneAtMost_backupPass (· ≠ ·) backup cronJob moves).trans
    (along_congr (fun world move => ?_) moves _)
  constructor
  · rintro kept answers copy rfl finds removed
    refine kept { copy with finalizer := true } ?_ copy.generation removed rfl
    rw [opened_backupPass]
    exact (newBackupJob_eq_some_iff answers world.site _).mpr ⟨copy, finds, rfl⟩
  · intro kept new creates generation removed same
    cases move with
    | pass answers =>
      rw [opened_backupPass] at creates
      rcases (newBackupJob_eq_some_iff answers world.site new).mp creates with ⟨copy, finds, rfl⟩
      exact kept answers copy rfl finds (same ▸ removed)
    | outside => cases creates

/-- A backup without a schedule gets at most one Job for each generation, as long as no pass finds
the Job missing after the Job of that generation was removed.  Whether it is suspended makes no
difference: where a pass gets as far as a missing Job, it creates it. -/
theorem one_shot_job_once (backup : Backup) (cronJob : Feed (Option CronJob))
    (moves : List (Move BackupAnswers BackupSpec (Feed (Option CronJob)))) :
    (Along (World.step backupPass) (fun world move => forall answers copy,
        move = .pass answers -> FindsJobMissing answers world.site copy ->
          copy.generation ∉ world.removed) (World.begin backup cronJob) moves ->
      Throughout (World.step backupPass) (fun world =>
        (world.created.map (·.generation)).Nodup) (World.begin backup cronJob) moves) ∧
    forall answers site copy, FindsJobMissing answers site copy ->
      (backupPass answers site).created = [{ copy with finalizer := true }] := by
  refine ⟨(distinct_generations_iff backup cronJob moves).mpr, ?_⟩
  intro answers site copy finds
  rw [(backupPass_opens answers site).1,
    (newBackupJob_eq_some_iff answers site _).mpr ⟨copy, finds, rfl⟩]
  rfl

namespace Sample

/-- A backup without a schedule, as the documentation has it. -/
def preMigrationBackup : Backup where
  name := "pre-migration-backup"
  spec := { clusterRef := "wazuh-cluster", credentialsSecret := some "minio-backup-credentials" }
  status := {}

/-- The backup is made, reported, and its Job looked at once more. -/
def backupRun : List (Move BackupAnswers BackupSpec (Feed (Option CronJob))) :=
  [.pass {}, .outside .restart, .outside (.pod .starts), .pass {}, .outside (.pod .succeeds),
    .outside .restart, .pass {}]

/-- The Job is gone when the backup is edited, and a pass makes one for the edited backup. -/
def editedRun : List (Move BackupAnswers BackupSpec (Feed (Option CronJob))) :=
  backupRun ++ [.outside .expire, .outside (.edit { preMigrationBackup.spec with suspend := true }),
    .outside .restart, .pass {}]

def nextDay : List (Move BackupAnswers BackupSpec (Feed (Option CronJob))) :=
  [.outside .restart, .outside .expire, .outside .restart, .pass {}]

end Sample

open Sample

theorem new_of_shown {site : BackupSite} {removed : List Nat}
    (new : ∀ copy ∈ site.resource.shown, copy.generation ∉ removed) {answers : BackupAnswers} {copy : Backup}
    (finds : FindsJobMissing answers site copy) : copy.generation ∉ removed :=
  new copy (shown_of_foundCopy finds.1)

/-- The documented backup gets one Job for each of its two generations. -/
theorem one_shot_job_once_edited :
    Throughout (World.step backupPass) (fun world => (world.created.map (·.generation)).Nodup)
        (World.begin preMigrationBackup { shown := none }) editedRun ∧
      (backupPass {} (World.begin preMigrationBackup { shown := none }).site).created =
        [{ preMigrationBackup with finalizer := true }] := by
  have once := one_shot_job_once preMigrationBackup { shown := none } editedRun
  refine ⟨once.1 ?_, once.2 {} _ preMigrationBackup ⟨rfl, by decide⟩⟩
  refine ⟨?_, ?_, ?_, ?_, ?_, ?_, ?_, ?_, ?_, ?_, ?_, trivial⟩ <;> rintro _ _ ⟨⟩ <;>
    exact new_of_shown (by decide)

/-- After the second pass of the run there has been a Job for each generation. -/
example : (run (World.step backupPass) (World.begin preMigrationBackup { shown := none })
    editedRun).created.map (·.generation) = [1, 2] := by decide

/-- A day later the Job is gone, and the pass that notices it makes the backup again. -/
example : (run (World.step backupPass) (World.begin preMigrationBackup { shown := none })
    (backupRun ++ nextDay)).created.map (·.generation) = [1, 1] := by decide

/-- A backup which is suspended when it is made is carried out all the same. -/
theorem suspended_backup_is_made : ((World.begin { preMigrationBackup with
        spec := { preMigrationBackup.spec with suspend := true } }
      ({ shown := none } : Feed (Option CronJob))).step backupPass
        (.pass {} : Move BackupAnswers BackupSpec (Feed (Option CronJob)))).created.map
          (fun copy => (copy.spec.isScheduled, copy.spec.suspend)) = [(false, true)] := by decide

end Jobs
end WazuhOperator
