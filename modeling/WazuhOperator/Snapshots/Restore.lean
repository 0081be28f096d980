import WazuhOperator.Jobs.Backup
import WazuhOperator.Snapshots.Objects

namespace WazuhOperator
namespace Snapshots

open Procedure Proc Drafts
open Jobs (Resource Condition Fetched)

/-!
# The reconciler of OpenSearch restores

`internal/opensearch/reconciler/restore_reconciler.go`, with the replies of
`internal/opensearch/api/snapshots_api.go` it looks at.  A pass over a restore
that has not come to an end checks the repository and the snapshot, issues the
restore, and looks at the recovery of the restored indices, as far as the phase
says that this remains to be done.

The answers of a pass also say which shards a restore really covers, which no
reply shows, and where the operator is stopped in the middle of the pass.
-/

/-! ## The resource -/

/-- `api.RestoreOptions`, as `Reconcile` fills them from the spec. -/
structure RestoreOptions where
  indices : List String := []
  ignoreUnavailable : Bool := true
  includeGlobalState : Bool := false
  (renamePattern renameReplacement : String := "")
  indexSettings : List (String × String) := []
  allowPartial : Bool := false
  deriving DecidableEq

structure RestoreSpec where
  (repository snapshot : String)
  options : RestoreOptions := {}
  deriving DecidableEq

inductive RestorePhase where
  | pending
  | validating
  | inProgress
  | completed
  | failed
  deriving DecidableEq

structure ShardStats where
  (total successful failed : Int32)
  deriving DecidableEq

/-- `OpenSearchRestoreStatus`; the phase is absent until the first report.  Of the times it is
kept whether the start was set. -/
structure RestoreStatus where
  phase : Option RestorePhase := none
  message : String := ""
  startTime : Bool := false
  restoredIndices : List String := []
  shards : Option ShardStats := none
  condition : Option Condition := none
  observedGeneration : Nat := 0
  deriving DecidableEq

abbrev Restore : Type := Resource RestoreSpec RestoreStatus

/-! ## Replies -/

abbrev Shard : Type := String × Nat

structure ShardRecoveryInfo where
  id : Nat
  stage : String
  deriving DecidableEq

/-- The recovery of one or more indices, as `GetRestoreStatus` returns it. -/
abbrev RecoveryReport : Type := List (String × List ShardRecoveryInfo)

/-- The loop of `monitorRestoreProgress`. -/
def RecoveryReport.allDone (report : RecoveryReport) : Bool :=
  report.all fun info => info.2.all fun shard => shard.stage == "DONE"

def RecoveryReport.Reports (report : RecoveryReport) (shard : Shard) : Prop :=
  ∃ info ∈ report, info.1 = shard.1 ∧ ∃ entry ∈ info.2, entry.id = shard.2 ∧ entry.stage = "DONE"
  deriving Decidable

/-- `api.RestoreResult`.  The reply to a restore which is not waited for has none of its fields;
decoded, it names no index and no shard. -/
structure RestoreResult where
  indices : List String := []
  (total successful failed : Int := 0)
  deriving DecidableEq

/-- The shards of a reply, in the 32 bits of the status. -/
def RestoreResult.shards (result : RestoreResult) : ShardStats where
  total := Int32.ofInt result.total
  successful := Int32.ofInt result.successful
  failed := Int32.ofInt result.failed

/-- What a run records of OpenSearch: the checks which succeeded, the restores which were issued
with the shards they cover, and the recovery reports which were read. -/
inductive RestoreCall where
  | checked (repository snapshot : String)
  | restoreSnapshot (repository snapshot : String) (options : RestoreOptions) (extent : List Shard)
  | recovery (index : String) (report : RecoveryReport)
  deriving DecidableEq

/-- The moments at which a pass may be stopped between its requests: after the write of a phase,
after the checks, and after the restore was issued. -/
inductive Checkpoint where
  | validating
  | checked
  | started
  | issued
  deriving DecidableEq

structure RestoreAnswers where
  getRestore : Option String := none
  (addFinalizer removeFinalizer : WriteAnswer := .accepted)
  client : Except String Unit := .ok ()
  validating : WriteAnswer := .accepted
  repository : Fetched Unit := .found ()
  snapshot : Fetched String := .found "SUCCESS"
  inProgress : WriteAnswer := .accepted
  extent : List Shard := []
  restoreSnapshot : Except String RestoreResult := .ok {}
  recovery : Fetched RecoveryReport := .notFound
  conclude : WriteAnswer := .accepted
  interrupted : Option Checkpoint := none

/-! ## A pass -/

abbrev RestoreProc (α : Type) : Type := Proc (Draft Restore) (Note RestoreStatus RestoreCall) α

def restoreCondition (restore : Restore) (phase : RestorePhase) (message : String) : Condition :=
  let (status, reason) :=
    match phase with
    | .completed => (true, "RestoreComplete")
    | .failed => (false, "RestoreFailed")
    | _ => (false, "RestoreInProgress")
  { status := status, reason := reason, message := message,
    observedGeneration := restore.generation }

/-- The status which `updateStatus` writes. -/
def restoreReport (restore : Restore) (phase : RestorePhase) (message : String) : RestoreStatus :=
  { restore.status with
    phase := some phase
    message := message
    observedGeneration := restore.generation
    condition := some (restoreCondition restore phase message) }

def updateRestoreStatus (answer : WriteAnswer) (phase : RestorePhase) (message : String) :
    RestoreProc Unit := do
  let draft ← read
  putStatus answer (restoreReport draft.copy phase message)

/-- The message with which the validation ends the restore, if it does. -/
def rejection (spec : RestoreSpec) (repository : Fetched Unit) (snapshot : Fetched String) :
    Option String :=
  match repository with
  | .failed text => some ("Failed to check repository: " ++ text)
  | .notFound => some ("Repository '" ++ spec.repository ++ "' not found")
  | .found () =>
    match snapshot with
    | .failed text => some ("Failed to check snapshot: " ++ text)
    | .notFound => some ("Snapshot '" ++ spec.snapshot ++ "' not found in repository '" ++
        spec.repository ++ "'")
    | .found state =>
      if state ≠ "SUCCESS" ∧ state ≠ "PARTIAL" then
        some ("Snapshot is not in a restorable state: " ++ state)
      else none

section Pass

variable (answers : RestoreAnswers)

def checkpoint (point : Checkpoint) : RestoreProc Unit :=
  if answers.interrupted = some point then fail "interrupted" else pure ()

/-- The part `Phase: Validating` of `Reconcile`; the result says whether the pass goes on. -/
def validateRestore : RestoreProc Bool := do
  let _ ← attempt
    (updateRestoreStatus answers.validating .validating "Validating snapshot and repository")
  checkpoint answers .validating
  let draft ← read
  match rejection draft.copy.spec answers.repository answers.snapshot with
  | some message =>
    updateRestoreStatus answers.conclude .failed message
    pure false
  | none =>
    emit (.call (.checked draft.copy.spec.repository draft.copy.spec.snapshot))
    checkpoint answers .checked
    pure true

def atStart (restore : Restore) : Restore :=
  { restore with status := { restore.status with startTime := true } }

def withResult (result : RestoreResult) (restore : Restore) : Restore :=
  { restore with status := { restore.status with
      restoredIndices := result.indices, shards := some result.shards } }

/-- The part `Phase: Execute restore` of `Reconcile`; the result says whether the pass goes on. -/
def startRestore : RestoreProc Bool := do
  edit atStart
  let _ ← attempt (updateRestoreStatus answers.inProgress .inProgress "Restoring indices")
  checkpoint answers .started
  let draft ← read
  emit (.call (.restoreSnapshot draft.copy.spec.repository draft.copy.spec.snapshot
    draft.copy.spec.options answers.extent))
  checkpoint answers .issued
  match answers.restoreSnapshot with
  | .error text =>
    updateRestoreStatus answers.conclude .failed ("Failed to restore snapshot: " ++ text)
    pure false
  | .ok result =>
    edit (withResult result)
    pure true

def monitorRestoreProgress : RestoreProc Unit := do
  let draft ← read
  match draft.copy.status.restoredIndices with
  | [] =>
    if draft.copy.status.startTime ∧ draft.copy.status.shards.map ShardStats.total = some 0 then
      updateRestoreStatus answers.conclude .completed
        "Restore completed (no matching indices to restore)"
    else
      updateRestoreStatus answers.conclude .inProgress "Waiting for restore to start"
  | index :: _ =>
    match answers.recovery with
    | .failed _ => pure ()
    | .notFound => updateRestoreStatus answers.conclude .inProgress "Restore in progress"
    | .found report =>
      emit (.call (.recovery index report))
      if report.allDone then
        updateRestoreStatus answers.conclude .completed "Restore completed successfully"
      else
        updateRestoreStatus answers.conclude .inProgress "Restore in progress"

/-- `Phase` is absent or `Pending`: the restore has not been looked at. -/
def RestoreStatus.isNew (status : RestoreStatus) : Bool :=
  status.phase = none ∨ status.phase = some .pending

def executeRestore : RestoreProc Unit := do
  let draft ← read
  if draft.copy.status.phase = some .validating then
    let started ← startRestore answers
    if started then monitorRestoreProgress answers
  else
    monitorRestoreProgress answers

/-- `Reconcile` from the moment it has a client. -/
def carryOutRestore : RestoreProc Unit := do
  let draft ← read
  if draft.copy.status.isNew then
    let validated ← validateRestore answers
    if validated then executeRestore answers
  else
    executeRestore answers

/-- `Reconcile` after the finalizer has been added. -/
def continueRestore : RestoreProc Unit := do
  let draft ← read
  if draft.copy.deletionTimestamp then handleDeletion answers.removeFinalizer
  else if draft.copy.status.phase = some .completed ∨ draft.copy.status.phase = some .failed then pure ()
  else
    mapError ("failed to get OpenSearch client: " ++ ·) (ofExcept answers.client)
    carryOutRestore answers

def reconcileRestore : RestoreProc Unit := do
  addFinalizer answers.addFinalizer
  continueRestore answers

/-- The phases after which `OpenSearchRestoreReconciler` looks again soon. -/
def RestoreStatus.unfinished (status : RestoreStatus) : Bool :=
  status.phase = some .inProgress ∨ status.phase = some .pending ∨ status.phase = some .validating

/-- `Reconcile` of `OpenSearchRestoreReconciler`. -/
def restorePass (object : Feed (Option Restore)) : PassResult RestoreSpec RestoreStatus RestoreCall :=
  runPass answers.getRestore (reconcileRestore answers) RestoreStatus.unfinished object

end Pass

/-! ## What a pass can do -/

section Rules

variable {answers : RestoreAnswers} {draft : Draft Restore}

theorem leads_updateRestoreStatus (each : forall result after later,
      Noted answer (restoreReport draft.copy phase message) draft history after later ->
      post result after later) :
    Leads post (updateRestoreStatus answer phase message) history draft :=
  leads_read_bind (leads_putStatus each)

theorem leads_checkpoint_bind
    (stopped : answers.interrupted = some point -> post (.error "interrupted") draft history)
    (goesOn : answers.interrupted ≠ some point -> Leads post (next ()) history draft) :
    Leads post (checkpoint answers point >>= next) history draft := by
  apply leads_bind
  rw [checkpoint]
  split
  · exact leads_fail (stopped ‹_›)
  · exact leads_pure (goesOn ‹_›)

/-- A pass over this copy gets as far as OpenSearch. -/
structure Proceeds (object : Feed (Option Restore)) (answers : RestoreAnswers) (copy : Restore) : Prop
    extends Arrives object answers.getRestore answers.addFinalizer copy where
  unfinished : ¬ (copy.status.phase = some .completed ∨ copy.status.phase = some .failed)
  client : answers.client = .ok ()

theorem restorePass_keeps (blind : forall history, past history -> past (history ++ [.metadata]))
    (steady : forall history restore, memory history restore ->
      memory (history ++ [.metadata]) { restore with finalizer := true })
    (known : Remembers past memory object history)
    (onward : forall copy after later, Proceeds object answers copy ->
      Opened past memory (desk object copy) after history later ->
      Leads (fun _ draft history => Remembers past memory draft.object history)
        (carryOutRestore answers) later after) :
    Remembers past memory (restorePass answers object).object
      (history ++ (restorePass answers object).notes) := by
  refine runPass_keeps blind steady rfl known fun copy draft later arrives opened => ?_
  by_cases ended : draft.copy.status.phase = some .completed ∨ draft.copy.status.phase = some .failed
  · rw [if_pos ended]
    exact leads_pure opened.known
  · rw [if_neg ended]
    apply leads_bind
    apply leads_mapError
    apply leads_ofExcept
    cases client : answers.client with
    | error => exact opened.known
    | ok => exact onward copy draft later ⟨arrives, opened.status ▸ ended, client⟩ opened

end Rules

end Snapshots
end WazuhOperator
