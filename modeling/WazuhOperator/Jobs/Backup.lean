import WazuhOperator.Jobs.Objects

namespace WazuhOperator
namespace Jobs

/-!
# The backup reconciler

A `WazuhBackup` with a schedule is carried out by a CronJob, one without a
schedule by a Job that runs once.  A pass checks the cluster and the
credentials, brings the service account and its rights up to date, sees to
the workload and reports.

The main result of the module says exactly when a pass creates a Job: its
checks go through, the backup has no schedule, and there is no Job of that
name.  Neither the reported state of an earlier Job nor the `suspend` field
is part of the condition.
-/

open Procedure Proc

/-! ## The resource -/

/-- The part of `WazuhBackupSpec` the reconciler reads itself. -/
structure BackupSpec where
  clusterRef : String
  schedule : String := ""
  suspend : Bool := false
  credentialsSecret : Option String := none
  serviceAccount : Option ServiceAccountConfig := none
  deriving DecidableEq

inductive BackupPhase where
  | pending
  | active
  | suspended
  | failed
  deriving DecidableEq

/-- `BackupInfo` without the time. -/
structure BackupInfo where
  (status message : String)
  deriving DecidableEq

def backupStatusSuccess : String := "Success"

def backupStatusFailed : String := "Failed"

/-- The condition the reconcilers of this module set; each has one type of condition. -/
structure Condition where
  status : Bool
  (reason message : String)
  observedGeneration : Nat
  deriving DecidableEq

/-- `WazuhBackupStatus`; the phase is absent until the first report. -/
structure BackupStatus where
  phase : Option BackupPhase := none
  message : String := ""
  lastBackup : Option BackupInfo := none
  (cronJobName jobName : String := "")
  condition : Option Condition := none
  observedGeneration : Nat := 0
  deriving DecidableEq

abbrev Backup : Type := Resource BackupSpec BackupStatus

def BackupSpec.isScheduled (spec : BackupSpec) : Bool := spec.schedule ≠ ""

structure CronJob where
  (name schedule : String)
  suspend : Bool
  deriving DecidableEq

abbrev BackupSite : Type := Site BackupSpec BackupStatus (Feed (Option CronJob))

abbrev BackupDesk : Type := Desk BackupSpec BackupStatus (Feed (Option CronJob))

/-! ## The builder -/

def backupResourceName (backup : Backup) : String := backup.name ++ "-backup"

def buildBackupJob (backup : Backup) : Job where
  name := backupResourceName backup
  restartPolicy := .onFailure
  backoffLimit := 2
  ttlSecondsAfterFinished := 86400
  madeFor := backup.generation

def buildCronJob (backup : Backup) : CronJob where
  name := backupResourceName backup
  schedule := backup.spec.schedule
  suspend := backup.spec.suspend

/-! ## A pass -/

/-- The answers a pass gets.  `get…` gives the text of a read that fails. -/
structure BackupAnswers where
  getBackup : Option String := none
  (addFinalizer removeFinalizer : WriteAnswer := .accepted)
  (cluster credentials : Fetched Unit := .found ())
  rbac : RBACAnswers := {}
  getCronJob : Option String := none
  (createCronJob updateCronJob : WriteAnswer := .accepted)
  getJob : Option String := none
  (createJob status : WriteAnswer := .accepted)

def backupCondition (backup : Backup) (phase : BackupPhase) (message : String) : Condition :=
  let (status, reason) :=
    match phase with
    | .active => (true, "BackupReady")
    | .failed => (false, "BackupFailed")
    | .suspended => (false, "BackupSuspended")
    | .pending => (false, "BackupPending")
  { status := status, reason := reason, message := message,
    observedGeneration := backup.generation }

section Pass

variable (answers : BackupAnswers)

def updateBackupStatus (phase : BackupPhase) (message : String) : Proc BackupDesk Backup Unit := do
  let desk ← read
  writeStatus answers.status { desk.copy.status with
    phase := some phase
    message := message
    observedGeneration := desk.copy.generation
    condition := some (backupCondition desk.copy phase message) }

def noteBackup (change : BackupStatus -> BackupStatus) : Proc BackupDesk Backup Unit :=
  editCopy fun copy => { copy with status := change copy.status }

def putCronJob (answer : WriteAnswer) (cronJob : CronJob) : Proc BackupDesk Backup Unit := do
  if answer.applied then
    modify fun desk =>
      { desk with site := { desk.site with others := desk.site.others.write (some cronJob) } }
  ofExcept answer.toExcept

def createCronJob (cronJob : CronJob) : Proc BackupDesk Backup Unit := do
  let desk ← read
  match desk.site.others.stored with
  | some _ => fail ("cronjobs.batch " ++ cronJob.name ++ " already exists")
  | none => putCronJob answers.createCronJob cronJob

def updateCronJob (cronJob : CronJob) : Proc BackupDesk Backup Unit := do
  let desk ← read
  if desk.site.others.upToDate then putCronJob answers.updateCronJob cronJob
  else fail conflictText

def reconcileCronJob : Proc BackupDesk Backup Unit := do
  let desk ← read
  let cronJob := buildCronJob desk.copy
  match answers.getCronJob, desk.site.others.shown with
  | some text, _ => fail text
  | none, none =>
    mapError ("failed to create CronJob: " ++ ·) (createCronJob answers cronJob)
    noteBackup fun status => { status with cronJobName := cronJob.name }
  | none, some _ =>
    mapError ("failed to update CronJob: " ++ ·) (updateCronJob answers cronJob)
    noteBackup fun status => { status with cronJobName := cronJob.name }

/-- The result of a Job that is there, as `reconcileJob` records it. -/
def lastBackupOf (job : Job) (earlier : Option BackupInfo) : Option BackupInfo :=
  if 0 < job.succeeded then
    some { status := backupStatusSuccess, message := "Backup completed successfully" }
  else if 0 < job.failed then
    some { status := backupStatusFailed, message := "Backup job failed" }
  else earlier

def reconcileBackupJob : Proc BackupDesk Backup Unit := do
  let desk ← read
  let job := buildBackupJob desk.copy
  let existing ← getJob answers.getJob
  match existing with
  | .failed text => fail text
  | .notFound =>
    -- Neither `suspend` nor the `lastBackup` of an earlier Job is looked at.
    mapError ("failed to create Job: " ++ ·) (createJob answers.createJob job)
    noteBackup fun status => { status with jobName := job.name }
  | .found existing =>
    noteBackup fun status =>
      { status with jobName := existing.name, lastBackup := lastBackupOf existing status.lastBackup }

/-- The phase and the message of a pass that went through. -/
def backupReport (backup : Backup) : BackupPhase × String :=
  if backup.spec.suspend then (.suspended, "Backup suspended")
  else if backup.spec.isScheduled then (.active, "Backup scheduled")
  else (.active, "One-shot backup job created")

/-- The last part of `Reconcile`: the workload and the report. -/
def reconcileWorkload : Proc BackupDesk Backup Unit := do
  let desk ← read
  ofExcept ((reconcileRBAC desk.copy.spec.serviceAccount answers.rbac).mapError
    ("failed to reconcile RBAC: " ++ ·))
  if desk.copy.spec.isScheduled then
    mapError ("failed to reconcile CronJob: " ++ ·) (reconcileCronJob answers)
  else
    mapError ("failed to reconcile Job: " ++ ·) (reconcileBackupJob answers)
  updateBackupStatus answers (backupReport desk.copy).1 (backupReport desk.copy).2

def checkCredentials : Proc BackupDesk Backup Unit := do
  let desk ← read
  match desk.copy.spec.credentialsSecret, answers.credentials with
  | none, _ => reconcileWorkload answers
  | some _, .found _ => reconcileWorkload answers
  | some name, .notFound =>
    updateBackupStatus answers .failed ("Credentials Secret '" ++ name ++ "' not found")
  | some _, .failed text => fail ("failed to get credentials Secret: " ++ text)

def checkCluster : Proc BackupDesk Backup Unit := do
  let desk ← read
  match answers.cluster with
  | .found _ => checkCredentials answers
  | .notFound =>
    updateBackupStatus answers .failed ("WazuhCluster '" ++ desk.copy.spec.clusterRef ++ "' not found")
  | .failed text => fail ("failed to get WazuhCluster: " ++ text)

def reconcileBackup : Proc BackupDesk Backup Unit := do
  addFinalizer answers.addFinalizer
  let desk ← read
  if desk.copy.deletionTimestamp then handleDeletion answers.removeFinalizer
  else checkCluster answers

/-- The wait before the next look at a one-shot backup whose Job has not ended, in seconds. -/
def backupRequeueAfter (backup : Backup) : Option Nat :=
  if backup.spec.isScheduled = false ∧ backup.status.phase ≠ some .failed ∧
      backup.status.lastBackup.all (·.status = "") then some 30
  else none

def backupPass (site : BackupSite) : PassResult BackupSpec BackupStatus (Feed (Option CronJob)) :=
  runPass answers.getBackup (reconcileBackup answers) 30 backupRequeueAfter site

/-! ## When a pass creates a Job -/

theorem leavesJob_updateBackupStatus (phase : BackupPhase) (message : String) :
    LeavesJob (updateBackupStatus answers phase message) :=
  fun job => keeps_read_bind fun _ _ => leavesJob_writeStatus _ _ job

theorem leavesJob_putCronJob (answer : WriteAnswer) (cronJob : CronJob) :
    LeavesJob (putCronJob answer cronJob) := by
  intro job
  rw [putCronJob]
  split
  · exact keeps_bind (keeps_modify fun _ same => same) fun _ => keeps_ofExcept _
  · exact keeps_ofExcept _

theorem leavesJob_reconcileCronJob : LeavesJob (reconcileCronJob answers) := by
  refine fun job => keeps_read_bind fun desk _ => ?_
  split
  · exact keeps_fail _
  · refine keeps_bind (keeps_mapError (keeps_read_bind fun desk _ => ?_)) fun _ => leavesJob_editCopy _ job
    split
    · exact keeps_fail _
    · exact leavesJob_putCronJob _ _ job
  · refine keeps_bind (keeps_mapError (keeps_read_bind fun desk _ => ?_)) fun _ => leavesJob_editCopy _ job
    split
    · exact leavesJob_putCronJob _ _ job
    · exact keeps_fail _

variable (desk : BackupDesk)

theorem opens_reconcileBackupJob :
    Opens buildBackupJob (reconcileBackupJob answers) desk
      (if MissesJob answers.getJob answers.createJob desk.site.job then some desk.copy else none) := by
  apply opens_read_bind
  refine opens_getJob_bind (fun text _ => keeps_fail text) (fun _ => leavesJob_editCopy _) ?_
  exact opens_bind (opens_mapError (opens_createJob answers.createJob desk)) fun _ => leavesJob_editCopy _

def LacksJob (desk : BackupDesk) : Prop :=
  (reconcileRBAC desk.copy.spec.serviceAccount answers.rbac).isOk = true ∧
    desk.copy.spec.isScheduled = false ∧ MissesJob answers.getJob answers.createJob desk.site.job
  deriving Decidable

theorem opens_reconcileWorkload :
    Opens buildBackupJob (reconcileWorkload answers) desk
      (if LacksJob answers desk then some desk.copy else none) := by
  refine opens_read_bind (opens_answer_bind fun value _ => ?_)
  cases scheduled : desk.copy.spec.isScheduled with
  | true =>
    simp only [Bool.true_eq_false, false_and, if_false]
    exact opens_bind (opens_none (fun job => keeps_mapError (leavesJob_reconcileCronJob answers job)) _)
      fun _ => leavesJob_updateBackupStatus _ _ _
  | false =>
    simp only [true_and]
    exact opens_bind (opens_mapError (opens_reconcileBackupJob answers desk))
      fun _ => leavesJob_updateBackupStatus _ _ _

def ChecksOut (spec : BackupSpec) : Prop :=
  answers.cluster = .found () ∧ (spec.credentialsSecret = none ∨ answers.credentials = .found ())
  deriving Decidable

theorem opens_checkCredentials :
    Opens buildBackupJob (checkCredentials answers) desk
      (if (desk.copy.spec.credentialsSecret = none ∨ answers.credentials = .found ()) ∧
          LacksJob answers desk then some desk.copy else none) := by
  apply opens_read_bind
  cases named : desk.copy.spec.credentialsSecret with
  | none =>
    simp only [true_or, true_and]
    exact opens_reconcileWorkload answers desk
  | some =>
    cases read : answers.credentials with
    | found =>
      simp only [or_true, true_and]
      exact opens_reconcileWorkload answers desk
    | notFound =>
      simp only [reduceCtorEq, or_self, false_and, if_false]
      exact opens_none (leavesJob_updateBackupStatus _ _ _) desk
    | failed =>
      simp only [reduceCtorEq, or_self, false_and, if_false]
      exact opens_none (fun _ => keeps_fail _) desk

theorem opens_checkCluster :
    Opens buildBackupJob (checkCluster answers) desk
      (if ChecksOut answers desk.copy.spec ∧ LacksJob answers desk then some desk.copy else none) := by
  apply opens_read_bind
  cases read : answers.cluster with
  | found =>
    simp only [ChecksOut, read, true_and]
    exact opens_checkCredentials answers desk
  | notFound =>
    simp only [ChecksOut, read, reduceCtorEq, false_and, if_false]
    exact opens_none (leavesJob_updateBackupStatus _ _ _) desk
  | failed =>
    simp only [ChecksOut, read, reduceCtorEq, false_and, if_false]
    exact opens_none (fun _ => keeps_fail _) desk

/-- The pass gets as far as the Job and finds it missing: the finalizer is there or can be added,
the backup is not being deleted and has no schedule, and every request on the way is answered well. -/
def ReachesMissingJob (desk : BackupDesk) : Prop :=
  HasFinalizer answers.addFinalizer desk ∧ desk.copy.deletionTimestamp = false ∧
    ChecksOut answers desk.copy.spec ∧ LacksJob answers desk
  deriving Decidable

theorem opens_reconcileBackup :
    Opens buildBackupJob (reconcileBackup answers) desk
      (if ReachesMissingJob answers desk then some { desk.copy with finalizer := true } else none) := by
  refine opens_addFinalizer_bind (fun has after copied sameJob => opens_read_bind ?_)
    fun lacks => if_neg fun reaches => lacks reaches.1
  have same : ReachesMissingJob answers desk <->
      after.copy.deletionTimestamp = false ∧ ChecksOut answers after.copy.spec ∧
        LacksJob answers after := by
    simp [ReachesMissingJob, LacksJob, copied, sameJob, has]
  rw [← copied]
  simp only [same]
  cases deleted : after.copy.deletionTimestamp with
  | true =>
    simp only [reduceCtorEq, false_and, if_false]
    exact opens_none (leavesJob_handleDeletion _) after
  | false =>
    simp only [true_and]
    exact opens_checkCluster answers after

end Pass

end Jobs
end WazuhOperator
