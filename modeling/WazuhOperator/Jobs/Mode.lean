import WazuhOperator.Jobs.Backup
import WazuhOperator.Jobs.Course

namespace WazuhOperator
namespace Jobs

open Procedure Proc

/-!
# The workload of a backup whose mode changes

A pass over a backup with a schedule writes its CronJob, and one over a backup
without a schedule looks at its Job.  Nothing removes a CronJob, so the one
made for an earlier schedule stays, and goes on running, when the schedule is
taken away.
-/

/-- The CronJob is there exactly if the backup has a schedule, and follows it. -/
def FollowsMode (site : BackupSite) : Prop :=
  ∀ backup ∈ site.resource.stored,
    site.others.stored = if backup.spec.isScheduled then some (buildCronJob backup) else none

/-- A pass which finds this copy, gets as far as its workload and reports success. -/
structure Reconciles (answers : BackupAnswers) (site : BackupSite) (copy : Backup) : Prop where
  found : foundCopy answers.getBackup site = some copy
  live : copy.deletionTimestamp = false
  checked : ChecksOut answers copy.spec
  succeeds : (backupPass answers site).result = .ok ()

def about (desk : BackupDesk) : String × BackupSpec × Bool × Feed (Option CronJob) :=
  (desk.copy.name, desk.copy.spec, desk.copy.deletionTimestamp, desk.site.others)

def Settled (spec : BackupSpec) (cronJob : Option CronJob) (site : BackupSite) : Prop :=
  ∃ backup, site.resource.stored = some backup ∧ backup.spec = spec ∧
    site.others.stored = if spec.isScheduled then some (buildCronJob backup) else cronJob

section Pass

variable (answers : BackupAnswers) {desk : BackupDesk}

attribute [local simp] about editCopy put addFinalizer reconcileBackupJob getJob createJob noteBackup
  reconcileCronJob createCronJob updateCronJob putCronJob buildCronJob backupResourceName

theorem about_addFinalizer (answer : WriteAnswer) : about (addFinalizer answer desk).state = about desk := by
  cases missing : desk.copy.finalizer <;> cases fresh : desk.fresh <;> cases answer <;>
    simp [missing, fresh]

theorem about_reconcileBackupJob : about (reconcileBackupJob answers desk).state = about desk := by
  cases looked : cachedJob answers.getJob desk.site.job <;> cases stored : desk.site.job.stored <;>
    cases answer : answers.createJob <;> simp [looked, stored, answer]

theorem reconcileCronJob_ok (returned : (reconcileCronJob answers desk).result = .ok ()) :
    ∃ others, about (reconcileCronJob answers desk).state = about { desk with site.others := others } ∧
      others.stored = some (buildCronJob desk.copy) := by
  cases read : answers.getCronJob with
  | some => simp [read] at returned
  | none =>
    cases shown : desk.site.others.shown with
    | none => cases stored : desk.site.others.stored <;> cases answer : answers.createCronJob <;> simp_all
    | some => cases fresh : desk.site.others.upToDate <;> cases answer : answers.updateCronJob <;> simp_all

theorem settled_of_reported (kept : about later = about { desk with site.others := others })
    (written : others.stored = if desk.copy.spec.isScheduled then some (buildCronJob desk.copy) else cronJob)
    (returned : (updateBackupStatus answers phase message later).result = .ok ()) :
    Settled desk.copy.spec cronJob (updateBackupStatus answers phase message later).state.site := by
  cases fresh : later.fresh <;> cases answer : answers.status <;>
    simp_all [updateBackupStatus, writeStatus, Settled]

theorem ensures_reconcileWorkload : Ensures (about · = about desk)
    (fun _ after => Settled desk.copy.spec desk.site.others.stored after.site) (reconcileWorkload answers) := by
  refine ensures_read_bind fun copy same => ?_
  refine ensures_bind (fun _ => (· = copy)) (ensures_ofExcept fun _ _ _ same => same) fun _ => ?_
  simp only [about, Prod.mk.injEq] at same
  rw [← same.2.1, ← same.2.2.2]
  cases scheduled : copy.copy.spec.isScheduled with
  | true =>
    refine ensures_bind (fun _ later => ∃ others, about later = about { copy with site.others := others } ∧
      others.stored = some (buildCronJob copy.copy)) (ensures_mapError ?_) fun _ later own _ returned => ?_
    · rintro _ rfl _ returned
      exact reconcileCronJob_ok answers returned
    · rcases own with ⟨others, kept, written⟩
      exact settled_of_reported answers kept (by rw [written, if_pos scheduled]) returned
  | false =>
    refine ensures_bind (fun _ later => about later = about copy) (ensures_mapError ?_)
      fun _ later kept _ returned => ?_
    · rintro _ rfl _ _
      exact about_reconcileBackupJob answers
    · exact settled_of_reported answers kept (by simp [scheduled]) returned

theorem ensures_reconcileBackup (live : desk.copy.deletionTimestamp = false)
    (checked : ChecksOut answers desk.copy.spec) : Ensures (· = desk)
      (fun _ after => Settled desk.copy.spec desk.site.others.stored after.site) (reconcileBackup answers) := by
  refine ensures_bind (fun _ later => about later = about desk) ?_ fun _ => ensures_read_bind fun later same => ?_
  · rintro _ rfl _ _
    exact about_addFinalizer _
  · have kept := same
    simp only [about, Prod.mk.injEq] at kept
    rw [kept.2.2.1, live]
    rintro later rfl value returned
    have goesOn : checkCluster answers later = reconcileWorkload answers later := by
      rcases checked with ⟨cluster, unnamed | found⟩
      · simp [checkCluster, checkCredentials, cluster, kept, unnamed]
      · cases named : desk.copy.spec.credentialsSecret <;>
          simp [checkCluster, checkCredentials, cluster, kept, named, found]
    simp only [Bool.false_eq_true, if_false, goesOn] at returned ⊢
    exact ensures_reconcileWorkload answers later same value returned

end Pass

/-- A pass that succeeds leaves the right CronJob exactly if there is a schedule or was no CronJob. -/
theorem followsMode_iff {answers : BackupAnswers}
    (reconciles : Reconciles answers site copy) : FollowsMode (backupPass answers site).site <->
      (copy.spec.isScheduled ∨ site.others.stored = none) := by
  rcases reconciles with ⟨found, live, checked, succeeds⟩
  have shown := shown_of_foundCopy found
  have ensured := @ensures_reconcileBackup answers (site.desk copy) live checked _ rfl ()
  cases read : answers.getBackup with
  | some => simp [foundCopy, read] at found
  | none =>
    simp only [backupPass, runPass, read, shown] at succeeds ⊢
    rcases ran : reconcileBackup answers (site.desk copy) with ⟨result, after, created⟩
    rw [ran] at succeeds ensured
    cases result with
    | error => cases succeeds
    | ok =>
      rcases ensured rfl with ⟨backup, stored, spec, left⟩
      simp only [FollowsMode, stored, left]
      cases scheduled : copy.spec.isScheduled <;> simp [scheduled, Site.desk, spec]

/-! ## Runs -/

abbrev BackupWorld : Type := World BackupSpec BackupStatus (Feed (Option CronJob))

abbrev BackupMove : Type := Move BackupAnswers BackupSpec (Feed (Option CronJob))

def OfReconciling (holds : BackupAnswers -> BackupSite -> Backup -> Prop) (world : BackupWorld) :
    BackupMove -> Prop
  | .pass answers => forall copy, Reconciles answers world.site copy -> holds answers world.site copy
  | .outside _ => True

def LeavesOwnWorkload (answers : BackupAnswers) (site : BackupSite) (_ : Backup) : Prop :=
  FollowsMode (backupPass answers site).site

/-- In every run, all successful passes leave the workload of the current mode exactly if each of
them is about a backup with a schedule or finds no CronJob. -/
theorem backup_follows_mode_iff (backup : Backup) (cronJob : Feed (Option CronJob))
    (moves : List BackupMove) :
    Runs.Along (World.step backupPass) (OfReconciling LeavesOwnWorkload)
        (World.begin backup cronJob) moves <->
      Runs.Along (World.step backupPass)
        (OfReconciling fun _ site copy => copy.spec.isScheduled = true ∨ site.others.stored = none)
        (World.begin backup cronJob) moves := by
  refine Runs.along_congr (fun world move => ?_) moves _
  cases move with
  | outside => exact Iff.rfl
  | pass => exact forall₂_congr fun _ reconciles => followsMode_iff reconciles

/-- The schedule of a backup is removed, and its CronJob stays. -/
theorem cronJob_outlives_schedule :
    ¬ Runs.Along (World.step backupPass) (OfReconciling LeavesOwnWorkload)
      (World.begin ⟨"nightly", 1, false, false, { clusterRef := "wazuh", schedule := "0 2 * * *" }, {}⟩
        { shown := none })
      [.pass {}, .outside (.edit { clusterRef := "wazuh" }), .outside .restart, .pass {}] := by
  rintro ⟨_, _, _, leaves, _⟩
  cases leaves _ ⟨rfl, rfl, ⟨rfl, .inl rfl⟩, rfl⟩ _ rfl

end Jobs
end WazuhOperator
