import WazuhOperator.Jobs.RestoreSource

namespace WazuhOperator
namespace Jobs

/-!
# The restore reconciler

A `WazuhRestore` is carried out by one Job.  A pass over a restore that has
not come to an end checks the cluster and the source, brings the service
account and its rights up to date, and then creates the Job or copies its
state into the phase of the resource.  The phases `Completed` and `Failed`
are final: a pass that reads them does nothing.

The phase is the only memory of the reconciler, and it follows the Job: the
first result of the module says when a pass creates a Job, the second when it
can report a failure.
-/

open Procedure Proc

/-! ## The resource -/

inductive RestorePhase where
  | pending
  | validating
  | stopping
  | backingUp
  | restoring
  | starting
  | completed
  | failed
  deriving DecidableEq

/-- `WazuhRestoreStatus` without the times; the phase is absent until the first report. -/
structure RestoreStatus where
  phase : Option RestorePhase := none
  message : String := ""
  sourceBackup : Option String := none
  jobName : String := ""
  condition : Option Condition := none
  observedGeneration : Nat := 0
  deriving DecidableEq

abbrev Restore : Type := Resource RestoreSpec RestoreStatus

abbrev RestoreSite : Type := Site RestoreSpec RestoreStatus Unit

abbrev RestoreDesk : Type := Desk RestoreSpec RestoreStatus Unit

/-- `BuildJob` of `RestoreJobBuilder`.  The limit of one is a limit on retries. -/
def buildRestoreJob (restore : Restore) : Job where
  name := restore.name ++ "-restore"
  restartPolicy := .never
  backoffLimit := 1
  ttlSecondsAfterFinished := 86400
  madeFor := restore.generation

/-! ## A pass -/

/-- The answers a pass gets.  `get…` gives the text of a read that fails. -/
structure RestoreAnswers where
  getRestore : Option String := none
  (addFinalizer removeFinalizer : WriteAnswer := .accepted)
  (cluster secret : Fetched Unit := .found ())
  backup : Fetched BackupStatus := .notFound
  rbac : RBACAnswers := {}
  getJob : Option String := none
  (createJob status : WriteAnswer := .accepted)

def restoreCondition (restore : Restore) (phase : RestorePhase) (message : String) : Condition :=
  let (status, reason) :=
    match phase with
    | .completed => (true, "RestoreComplete")
    | .failed => (false, "RestoreFailed")
    | _ => (false, "RestoreInProgress")
  { status := status, reason := reason, message := message,
    observedGeneration := restore.generation }

section Pass

variable (answers : RestoreAnswers)

def updateRestoreStatus (phase : RestorePhase) (message : String) : Proc RestoreDesk Restore Unit := do
  let desk ← read
  writeStatus answers.status { desk.copy.status with
    phase := some phase
    message := message
    observedGeneration := desk.copy.generation
    condition := some (restoreCondition desk.copy phase message) }

def started (restore : Restore) : Restore :=
  { restore with
    status := { restore.status with
      jobName := (buildRestoreJob restore).name
      sourceBackup :=
        match restore.spec.source.s3 with
        | some s3 => some ("s3://" ++ s3.bucket ++ "/" ++ s3.key)
        | none => restore.status.sourceBackup } }

def jobReport (job : Job) : RestorePhase × String :=
  if 0 < job.succeeded then (.completed, "Restore completed successfully")
  else if 0 < job.failed then (.failed, "Restore job failed")
  else (.restoring, "Restore in progress")

def reconcileRestoreJob : Proc RestoreDesk Restore Unit := do
  let desk ← read
  let job := buildRestoreJob desk.copy
  let existing ← getJob answers.getJob
  match existing with
  | .failed text => fail text
  | .notFound =>
    editCopy started
    mapError ("failed to create Job: " ++ ·) (createJob answers.createJob job)
    updateRestoreStatus answers .restoring "Restore job created"
  | .found existing =>
    editCopy fun copy => { copy with status := { copy.status with jobName := existing.name } }
    updateRestoreStatus answers (jobReport existing).1 (jobReport existing).2

/-- The last part of `Reconcile`: rights and Job. -/
def reconcileRestoreWorkload : Proc RestoreDesk Restore Unit := do
  let desk ← read
  ofExcept ((reconcileRBAC desk.copy.spec.serviceAccount answers.rbac).mapError
    ("failed to reconcile RBAC: " ++ ·))
  mapError ("failed to reconcile Job: " ++ ·) (reconcileRestoreJob answers)

def checkSource : Proc RestoreDesk Restore Unit := do
  let desk ← read
  match validateSource desk.copy.spec.source answers.secret answers.backup with
  | .ok _ => reconcileRestoreWorkload answers
  | .error text =>
    -- A read that fails is treated like a source that is wrong.
    updateRestoreStatus answers .failed ("Invalid source configuration: " ++ text)

def checkRestoreCluster : Proc RestoreDesk Restore Unit := do
  let desk ← read
  match answers.cluster with
  | .found _ => checkSource answers
  | .notFound =>
    updateRestoreStatus answers .failed ("WazuhCluster '" ++ desk.copy.spec.clusterRef ++ "' not found")
  | .failed text => fail ("failed to get WazuhCluster: " ++ text)

def RestoreStatus.ended (status : RestoreStatus) : Bool :=
  status.phase = some .completed ∨ status.phase = some .failed

/-- `WazuhRestoreReconciler.Reconcile` of the package `reconciler`. -/
def reconcileRestore : Proc RestoreDesk Restore Unit := do
  addFinalizer answers.addFinalizer
  let desk ← read
  if desk.copy.deletionTimestamp then handleDeletion answers.removeFinalizer
  else if desk.copy.status.ended then pure ()
  else checkRestoreCluster answers

/-- The wait before the next look at a restore that has not ended, in seconds. -/
def restoreRequeueAfter (restore : Restore) : Option Nat :=
  if restore.status.phase = none ∨ restore.status.ended then none else some 10

/-- `WazuhRestoreReconciler.Reconcile` of the package `controllers`. -/
def restorePass (site : RestoreSite) : PassResult RestoreSpec RestoreStatus Unit :=
  runPass answers.getRestore (reconcileRestore answers) 30 restoreRequeueAfter site

/-! ## When a pass creates a Job -/

theorem leavesJob_updateRestoreStatus (phase : RestorePhase) (message : String) :
    LeavesJob (updateRestoreStatus answers phase message) :=
  fun job => keeps_read_bind fun _ _ => leavesJob_writeStatus _ _ job

variable (desk : RestoreDesk)

theorem opens_reconcileRestoreJob :
    Opens buildRestoreJob (reconcileRestoreJob answers) desk
      (if MissesJob answers.getJob answers.createJob desk.site.job then
        some (started desk.copy) else none) := by
  apply opens_read_bind
  refine opens_getJob_bind (fun text _ => keeps_fail text) (fun _ job => keeps_bind (leavesJob_editCopy _ job)
    fun _ => leavesJob_updateRestoreStatus _ _ _ job) ?_
  refine opens_after (leavesJob_editCopy _) rfl (opens_bind (opens_mapError ?_)
    fun _ => leavesJob_updateRestoreStatus _ _ _)
  exact opens_createJob answers.createJob { desk with copy := started desk.copy }

def LacksRestoreJob (desk : RestoreDesk) : Prop :=
  (reconcileRBAC desk.copy.spec.serviceAccount answers.rbac).isOk = true ∧
    MissesJob answers.getJob answers.createJob desk.site.job
  deriving Decidable

theorem opens_reconcileRestoreWorkload :
    Opens buildRestoreJob (reconcileRestoreWorkload answers) desk
      (if LacksRestoreJob answers desk then
        some (started desk.copy) else none) := by
  exact opens_read_bind (opens_answer_bind fun _ _ => opens_mapError (opens_reconcileRestoreJob answers desk))

def RestoreChecksOut (spec : RestoreSpec) : Prop :=
  answers.cluster = .found () ∧ (validateSource spec.source answers.secret answers.backup).isOk = true
  deriving Decidable

theorem opens_checkRestoreCluster :
    Opens buildRestoreJob (checkRestoreCluster answers) desk
      (if RestoreChecksOut answers desk.copy.spec ∧ LacksRestoreJob answers desk then
        some (started desk.copy) else none) := by
  apply opens_read_bind
  cases read : answers.cluster with
  | found =>
    refine opens_read_bind ?_
    cases validated : validateSource desk.copy.spec.source answers.secret answers.backup with
    | ok =>
      simp only [RestoreChecksOut, read, validated, Except.isOk, Except.toBool, true_and]
      exact opens_reconcileRestoreWorkload answers desk
    | error =>
      simp only [RestoreChecksOut, validated, Except.isOk, Except.toBool, Bool.false_eq_true,
        and_false, false_and, if_false]
      exact opens_none (leavesJob_updateRestoreStatus _ _ _) desk
  | notFound =>
    simp only [RestoreChecksOut, read, reduceCtorEq, false_and, if_false]
    exact opens_none (leavesJob_updateRestoreStatus _ _ _) desk
  | failed =>
    simp only [RestoreChecksOut, read, reduceCtorEq, false_and, if_false]
    exact opens_none (fun _ => keeps_fail _) desk

/-- The pass is one over a restore that has not ended and is not being deleted. -/
def IsUnderWay (desk : RestoreDesk) : Prop :=
  HasFinalizer answers.addFinalizer desk ∧ desk.copy.deletionTimestamp = false ∧
    desk.copy.status.ended = false
  deriving Decidable

def RestoreReachesMissingJob (desk : RestoreDesk) : Prop :=
  IsUnderWay answers desk ∧ RestoreChecksOut answers desk.copy.spec ∧ LacksRestoreJob answers desk
  deriving Decidable

theorem opens_reconcileRestore :
    Opens buildRestoreJob (reconcileRestore answers) desk
      (if RestoreReachesMissingJob answers desk then
        some (started { desk.copy with finalizer := true }) else none) := by
  refine opens_addFinalizer_bind (fun has after copied sameJob => opens_read_bind ?_)
    fun lacks => if_neg fun reaches => lacks reaches.1.1
  have same : RestoreReachesMissingJob answers desk <->
      after.copy.deletionTimestamp = false ∧ after.copy.status.ended = false ∧
        RestoreChecksOut answers after.copy.spec ∧ LacksRestoreJob answers after := by
    simp [RestoreReachesMissingJob, IsUnderWay, LacksRestoreJob, copied, sameJob, has, and_assoc]
  rw [← copied]
  simp only [same]
  cases deleted : after.copy.deletionTimestamp with
  | true =>
    simp only [reduceCtorEq, false_and, if_false]
    exact opens_none (leavesJob_handleDeletion _) after
  | false =>
    cases ended : after.copy.status.ended with
    | true =>
      simp only [reduceCtorEq, false_and, and_false, if_false]
      exact opens_none (fun _ => keeps_pure ()) after
    | false =>
      simp only [true_and]
      exact opens_checkRestoreCluster answers after

/-! ## When a pass reports a failure -/

def HoldsFailed (site : RestoreSite) : Prop :=
  site.resource.stored.map (·.status.phase) = some (some .failed)
  deriving Decidable

/-- Neither the API server nor a copy that could be written has the restore as `Failed`. -/
def Unfailed (fresh : Bool) (desk : RestoreDesk) : Prop :=
  desk.fresh = fresh ∧ ¬ HoldsFailed desk.site ∧
    (fresh = true -> desk.copy.status.phase ≠ some .failed)

variable {fresh : Bool}

/-- What is recorded does not matter here. -/
abbrev KeepsUnfailed (fresh : Bool) {α : Type} (procedure : Proc RestoreDesk Restore α) : Prop :=
  Keeps (Unfailed fresh) (fun _ => True) procedure

theorem keepsUnfailed_editCopy
    (same : forall copy, copy.status.phase ≠ some .failed -> (change copy).status.phase ≠ some .failed) :
    KeepsUnfailed fresh (editCopy change) :=
  keeps_modify fun _ unfailed =>
    ⟨unfailed.1, unfailed.2.1, fun current => same _ (unfailed.2.2 current)⟩

theorem keepsUnfailed_put {answer : WriteAnswer}
    (fine : fresh -> forall restore, next = some restore -> restore.status.phase ≠ some .failed) :
    KeepsUnfailed fresh (put answer next) := by
  apply keeps_read_bind
  intro desk unfailed
  split
  · rename_i current
    have notFailed := fine (unfailed.1.symm.trans current)
    split
    · refine keeps_bind (keeps_modify fun state kept => ⟨kept.1, ?_, kept.2.2⟩)
        fun _ => keeps_ofExcept _
      rw [HoldsFailed, Feed.stored_write, Option.map_eq_some_iff]
      rintro ⟨restore, stored, failed⟩
      exact notFailed restore stored failed
    · exact keeps_ofExcept _
  · exact keeps_fail _

variable (answer : WriteAnswer)

theorem keepsUnfailed_addFinalizer : KeepsUnfailed fresh (addFinalizer answer) := by
  apply keeps_read_bind
  intro desk unfailed
  split
  · exact keeps_pure ()
  · refine keeps_bind (keepsUnfailed_editCopy fun _ notFailed => notFailed)
      fun _ => keeps_mapError (keepsUnfailed_put fun current => ?_)
    rintro restore ⟨⟩
    exact unfailed.2.2 current

theorem keepsUnfailed_handleDeletion : KeepsUnfailed fresh (handleDeletion answer) :=
  keeps_bind (keepsUnfailed_editCopy fun _ notFailed => notFailed)
    fun _ => keeps_mapError (keepsUnfailed_put fun _ _ gone => nomatch gone)

theorem keepsUnfailed_updateRestoreStatus (other : phase ≠ .failed)
    (message : String) : KeepsUnfailed fresh (updateRestoreStatus answers phase message) := by
  apply keeps_read_bind
  intro desk _
  refine keeps_bind (keepsUnfailed_editCopy fun _ _ => by simpa using other)
    fun _ => keeps_read_bind fun edited unfailed => keepsUnfailed_put fun current => ?_
  rintro restore ⟨⟩
  exact unfailed.2.2 current

theorem keepsUnfailed_createJob (job : Job) : KeepsUnfailed fresh (createJob answer job) := by
  apply keeps_read_bind
  intro desk _
  split
  · exact keeps_fail _
  · split
    · exact keeps_bind (keeps_emit trivial) fun _ =>
        keeps_bind (keeps_modify fun _ kept => kept) fun _ => keeps_ofExcept _
    · exact keeps_ofExcept _

def ShowsFailure (job : Job) : Prop := job.succeeded = 0 ∧ 0 < job.failed
  deriving Decidable

theorem jobReport_ne_failed (fine : ¬ ShowsFailure job) : (jobReport job).1 ≠ .failed := by
  rw [jobReport]
  by_cases succeeded : 0 < job.succeeded
  · simp [succeeded]
  · have sound : ¬ 0 < job.failed := fun failed => fine ⟨Nat.eq_zero_of_not_pos succeeded, failed⟩
    simp [succeeded, sound]

theorem ends_reconcileRestoreJob {desk : RestoreDesk} (unfailed : Unfailed fresh desk)
    (fine : answers.getJob = none -> ∀ job ∈ desk.site.job.shown, ¬ ShowsFailure job) :
    Ends (Unfailed fresh) (reconcileRestoreJob answers) desk := by
  apply ends_read_bind
  apply ends_getJob_bind
  cases looked : cachedJob answers.getJob desk.site.job with
  | failed => exact unfailed
  | notFound =>
    have kept : KeepsUnfailed fresh (do
        editCopy started
        mapError ("failed to create Job: " ++ ·)
          (createJob answers.createJob (buildRestoreJob desk.copy))
        updateRestoreStatus answers .restoring "Restore job created") :=
      keeps_bind (keepsUnfailed_editCopy fun _ notFailed => notFailed) fun _ =>
        keeps_bind (keeps_mapError (keepsUnfailed_createJob _ _)) fun _ =>
          keepsUnfailed_updateRestoreStatus answers (by decide) _
    exact ends_of_keeps kept unfailed
  | found job =>
    have seen := cachedJob_eq_found_iff.mp looked
    exact ends_of_keeps (keeps_bind (keepsUnfailed_editCopy fun _ notFailed => notFailed)
      fun _ => keepsUnfailed_updateRestoreStatus answers
        (jobReport_ne_failed (fine seen.1 job seen.2)) _) unfailed

/-- The checks of the cluster and the source and the look at the Job end with the verdict `Failed`:
the cluster is missing, the source is rejected, or the cache shows a pod of the Job that failed. -/
def VerdictFailed (desk : RestoreDesk) : Prop :=
  answers.cluster = .notFound ∨ answers.cluster = .found () ∧
    ((validateSource desk.copy.spec.source answers.secret answers.backup).isOk = false ∨
      (reconcileRBAC desk.copy.spec.serviceAccount answers.rbac).isOk = true ∧
        answers.getJob = none ∧ ∃ job ∈ desk.site.job.shown, ShowsFailure job)
  deriving Decidable

theorem ends_checkRestoreCluster {desk : RestoreDesk} (unfailed : Unfailed fresh desk)
    (fine : ¬ VerdictFailed answers desk) :
    Ends (Unfailed fresh) (checkRestoreCluster answers) desk := by
  apply ends_read_bind
  cases read : answers.cluster with
  | notFound => exact absurd (.inl read) fine
  | failed => exact unfailed
  | found =>
    refine ends_read_bind ?_
    cases validated : validateSource desk.copy.spec.source answers.secret answers.backup with
    | error => exact absurd (.inr ⟨read, .inl (by rw [validated]; rfl)⟩) fine
    | ok =>
      refine ends_read_bind ?_
      cases rights : reconcileRBAC desk.copy.spec.serviceAccount answers.rbac with
      | error => exact unfailed
      | ok =>
        refine ends_mapError (ends_reconcileRestoreJob answers unfailed
          fun looked job seen shows => fine (.inr ⟨read, .inr ⟨?_, looked, job, seen, shows⟩⟩))
        rw [rights]
        rfl

/-- A pass over a restore that has not ended comes to the verdict `Failed`. -/
def ComesToFailure (desk : RestoreDesk) : Prop :=
  IsUnderWay answers desk ∧ VerdictFailed answers desk
  deriving Decidable

/-- A pass that does not come to the verdict does not make the restore `Failed`. -/
theorem ends_reconcileRestore {desk : RestoreDesk} (unfailed : Unfailed fresh desk)
    (fine : ¬ ComesToFailure answers desk) :
    Ends (Unfailed fresh) (reconcileRestore answers) desk := by
  refine ends_bind (keepsUnfailed_addFinalizer _) unfailed fun value went => ?_
  by_cases has : HasFinalizer answers.addFinalizer desk
  · have copied := (addFinalizer_goes has).2
    have sameJob := (leavesJob_addFinalizer answers.addFinalizer desk.site.job desk rfl).1
    have still := (keepsUnfailed_addFinalizer answers.addFinalizer desk unfailed).1
    generalize (addFinalizer answers.addFinalizer desk).state = after at copied sameJob still ⊢
    refine ends_read_bind ?_
    cases deleted : after.copy.deletionTimestamp with
    | true => exact ends_of_keeps (keepsUnfailed_handleDeletion _) still
    | false =>
      cases ended : after.copy.status.ended with
      | true => exact still
      | false =>
        refine ends_checkRestoreCluster answers still fun verdict => fine ⟨⟨has, ?_, ?_⟩, ?_⟩
        · simpa [copied] using deleted
        · simpa [copied] using ended
        · simpa [VerdictFailed, copied, sameJob] using verdict
  · rcases addFinalizer_stops has with ⟨text, stopped⟩
    rw [stopped] at went
    cases went

theorem not_holdsFailed_restorePass (before : ¬ HoldsFailed site)
    (fine : forall copy, foundCopy answers.getRestore site = some copy ->
      ¬ ComesToFailure answers (site.desk copy)) : ¬ HoldsFailed (restorePass answers site).site := by
  refine runPass_ends (¬ HoldsFailed ·) before fun copy found => ?_
  have unfailed : Unfailed site.resource.upToDate (site.desk copy) := by
    refine ⟨rfl, before, fun current failed => before ?_⟩
    -- A copy that is up to date is what the API server has.
    rw [HoldsFailed, Feed.stored_eq_shown current, shown_of_foundCopy found, Option.map_some]
    exact congrArg some failed
  exact (ends_reconcileRestore answers unfailed (fine copy found)).2.1

end Pass

end Jobs
end WazuhOperator
