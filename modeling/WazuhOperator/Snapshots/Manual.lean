import WazuhOperator.Security.Resources
import WazuhOperator.Snapshots.Restore

namespace WazuhOperator
namespace Snapshots

open Procedure Proc Drafts
open Jobs (Resource Condition Fetched)
open Security (ClusterReference)

/-!
# The reconciler of manual snapshots

`internal/opensearch/reconciler/manual_snapshot_reconciler.go`.  An
`OpenSearchSnapshot` stands for one snapshot whose name is made from the name
of the resource and the time, and is kept in the status.  A pass looks for a
snapshot of that name in the repository, requests it where there is none, and
copies its state into the status.  The phase is written and never read.

The repositories of OpenSearch are part of a run: what has happened to them is
recorded in its history beside the requests, so that their contents follow from
the history.
-/

/-! ## The resource -/

/-- `OpenSearchSnapshotSpec`, as far as `Reconcile` reads it. -/
structure SnapshotSpec where
  clusterRef : ClusterReference
  repository : String
  indices : List String := ["wazuh-*"]
  includeGlobalState : Bool := false
  deriving DecidableEq

/-- `SnapshotPhase`; `partly` is `Partial`. -/
inductive SnapshotPhase where
  | pending
  | inProgress
  | completed
  | failed
  | partly
  deriving DecidableEq

/-- `OpenSearchSnapshotStatus`, with times in seconds.  The duration and the size are kept as
numbers, not as texts. -/
structure SnapshotStatus where
  phase : Option SnapshotPhase := none
  (snapshotName state : String := "")
  (startTime endTime : Option Nat := none)
  duration : Option Int := none
  indices : List String := []
  shards : Option ShardStats := none
  totalSize : Option Int := none
  message : String := ""
  condition : Option Condition := none
  observedGeneration : Nat := 0
  deriving DecidableEq

abbrev ManualSnapshot : Type := Resource SnapshotSpec SnapshotStatus

/-! ## Repositories -/

abbrev Place : Type := ClusterReference × String

def SnapshotSpec.place (spec : SnapshotSpec) : Place := (spec.clusterRef, spec.repository)

/-- `api.Snapshot`, as far as it is read. -/
structure SnapshotInfo where
  state : String
  indices : List String := []
  deriving DecidableEq

/-- What a run records of OpenSearch: the requests for a snapshot, and every change of a
repository, whoever made it. -/
inductive SnapshotCall where
  | createSnapshot (place : Place) (name : String) (indices : List String) (includeGlobalState : Bool)
  | changed (place : Place) (name : String) (info : Option SnapshotInfo)
  deriving DecidableEq

abbrev SnapshotNote : Type := Note SnapshotStatus SnapshotCall

abbrev SnapshotHistory : Type := List SnapshotNote

abbrev Contents : Type := Place -> String -> Option SnapshotInfo

def Contents.after (contents : Contents) : SnapshotNote -> Contents
  | .call (.changed place name info) =>
    fun otherPlace otherName => if otherPlace = place ∧ otherName = name then info else contents otherPlace otherName
  | _ => contents

def contents (history : SnapshotHistory) : Contents := history.foldl Contents.after fun _ _ => none

/-! ## A pass -/

/-- The moments at which a pass may be stopped around its request. -/
inductive Halt where
  | beforeRequest
  | afterRequest
  deriving DecidableEq

/-- The answers a pass gets.  `lookup` and `poll` give the texts of the two reads of the snapshot
where they fail; `details` is the first entry of the reply of `GetSnapshotStatus`. -/
structure SnapshotAnswers where
  getSnapshot : Option String := none
  (addFinalizer removeFinalizer : WriteAnswer := .accepted)
  client : Except String Unit := .ok ()
  repository : Fetched Unit := .found ()
  timestamp : String := "20250105-143022"
  lookup : Option String := none
  startedAt : Nat := 0
  (inProgress create : WriteAnswer := .accepted)
  created : SnapshotInfo := { state := "IN_PROGRESS" }
  poll : Option String := none
  details : Option (RestoreResult × Int) := none
  endedAt : Nat := 0
  conclude : WriteAnswer := .accepted
  halt : Option Halt := none

abbrev SnapshotProc (α : Type) : Type := Proc (Draft ManualSnapshot) SnapshotNote α

def snapshotCondition (snapshot : ManualSnapshot) (phase : SnapshotPhase) (message : String) : Condition :=
  let (status, reason) :=
    match phase with
    | .completed => (true, "SnapshotComplete")
    | .failed => (false, "SnapshotFailed")
    | .partly => (true, "SnapshotPartial")
    | _ => (false, "SnapshotInProgress")
  { status := status, reason := reason, message := message,
    observedGeneration := snapshot.generation }

/-- The status which `updateStatus` writes. -/
def snapshotReport (snapshot : ManualSnapshot) (phase : SnapshotPhase) (state message : String) :
    SnapshotStatus :=
  { snapshot.status with
    phase := some phase
    message := message
    state := if state = "" then snapshot.status.state else state
    observedGeneration := snapshot.generation
    condition := some (snapshotCondition snapshot phase message) }

def updateStatus (answer : WriteAnswer) (phase : SnapshotPhase) (state message : String) :
    SnapshotProc Unit := do
  let draft ← read
  putStatus answer (snapshotReport draft.copy phase state message)

def generateSnapshotName (baseName timestamp : String) : String := baseName ++ "-" ++ timestamp

def chosenName (timestamp : String) (snapshot : ManualSnapshot) : String :=
  if snapshot.status.snapshotName = "" then generateSnapshotName snapshot.name timestamp
  else snapshot.status.snapshotName

def named (timestamp : String) (snapshot : ManualSnapshot) : ManualSnapshot :=
  { snapshot with status := { snapshot.status with snapshotName := chosenName timestamp snapshot } }

/-- The copy when the snapshot is about to be requested. -/
def startedAt (now : Nat) (snapshot : ManualSnapshot) : ManualSnapshot :=
  { snapshot with status := { snapshot.status with startTime := some now } }

/-- The phase and the message for a state, and whether the end and the duration are recorded. -/
def phaseOf (state : String) : SnapshotPhase × String × Bool × Bool :=
  if state = "IN_PROGRESS" then (.inProgress, "Snapshot in progress", false, false)
  else if state = "SUCCESS" then (.completed, "Snapshot completed successfully", true, true)
  else if state = "FAILED" then (.failed, "Snapshot failed", true, false)
  else if state = "PARTIAL" then (.partly, "Snapshot completed with some failures", true, true)
  else (.inProgress, "Unknown state: " ++ state, false, false)

/-- The copy with what OpenSearch says about the snapshot. -/
def described (info : SnapshotInfo) (details : Option (RestoreResult × Int)) (now : Nat)
    (snapshot : ManualSnapshot) : ManualSnapshot :=
  let (_, _, ended, timed) := phaseOf info.state
  { snapshot with
    status := { snapshot.status with
      state := info.state
      indices := info.indices
      shards := match details with
        | some (counts, _) => some counts.shards
        | none => snapshot.status.shards
      totalSize := match details with
        | some (_, bytes) => some bytes
        | none => snapshot.status.totalSize
      endTime := if ended then some now else snapshot.status.endTime
      duration := match timed, snapshot.status.startTime with
        | true, some start => some ((now : Int) - start)
        | _, _ => snapshot.status.duration } }

section Pass

variable (answers : SnapshotAnswers)

def haltPoint (point : Halt) : SnapshotProc Unit :=
  if answers.halt = some point then fail "interrupted" else pure ()

def updateSnapshotStatus (entry : Option SnapshotInfo) : SnapshotProc Unit := do
  let draft ← read
  if draft.copy.status.snapshotName = "" then fail "snapshot name not set"
  else
    match answers.poll, entry with
    | some text, _ => updateStatus answers.conclude .failed "" ("Failed to get snapshot status: " ++ text)
    | none, none => updateStatus answers.conclude .failed "" "Snapshot not found in repository"
    | none, some info =>
      edit (described info answers.details answers.endedAt)
      updateStatus answers.conclude (phaseOf info.state).1 info.state (phaseOf info.state).2.1

/-- The call of `CreateSnapshot`, which may take effect whatever it returns. -/
def requestSnapshot : SnapshotProc Unit := do
  let draft ← read
  emit (.call (.createSnapshot draft.copy.spec.place draft.copy.status.snapshotName
    draft.copy.spec.indices draft.copy.spec.includeGlobalState))
  if answers.create.applied then
    emit (.call (.changed draft.copy.spec.place draft.copy.status.snapshotName (some answers.created)))
  else pure ()

/-- The part `Create new snapshot` of `Reconcile`, and the poll which follows it. -/
def createSnapshot : SnapshotProc Unit := do
  edit (startedAt answers.startedAt)
  let _ ← attempt (updateStatus answers.inProgress .inProgress "" "Creating snapshot")
  haltPoint answers .beforeRequest
  requestSnapshot answers
  haltPoint answers .afterRequest
  match answers.create.toExcept with
  | .error text => updateStatus answers.conclude .failed "" ("Failed to create snapshot: " ++ text)
  | .ok _ => updateSnapshotStatus answers (some answers.created)

/-- `Reconcile` from the moment it has a client. -/
def takeSnapshot (store : Contents) : SnapshotProc Unit := do
  let draft ← read
  match answers.repository with
  | .failed text => updateStatus answers.conclude .failed "" ("Failed to check repository: " ++ text)
  | .notFound =>
    updateStatus answers.conclude .failed "" ("Repository '" ++ draft.copy.spec.repository ++ "' not found")
  | .found () =>
    edit (named answers.timestamp)
    match answers.lookup, store draft.copy.spec.place (chosenName answers.timestamp draft.copy) with
    | some text, _ => updateStatus answers.conclude .failed "" ("Failed to check snapshot: " ++ text)
    | none, some info => updateSnapshotStatus answers (some info)
    | none, none => createSnapshot answers

/-- `Reconcile` after the finalizer has been added. -/
def continueSnapshot (store : Contents) : SnapshotProc Unit := do
  let draft ← read
  if draft.copy.deletionTimestamp then handleDeletion answers.removeFinalizer
  else
    mapError ("failed to get OpenSearch client: " ++ ·) (ofExcept answers.client)
    takeSnapshot answers store

/-- `Reconcile` of `ManualSnapshotReconciler`. -/
def reconcileSnapshot (store : Contents) : SnapshotProc Unit := do
  addFinalizer answers.addFinalizer
  continueSnapshot answers store

/-- The phases after which `OpenSearchSnapshotReconciler` looks again soon. -/
def SnapshotStatus.unfinished (status : SnapshotStatus) : Bool :=
  status.phase = some .inProgress ∨ status.phase = some .pending

/-- `Reconcile` of `OpenSearchSnapshotReconciler`. -/
def snapshotPass (store : Contents) (object : Feed (Option ManualSnapshot)) :
    PassResult SnapshotSpec SnapshotStatus SnapshotCall :=
  runPass answers.getSnapshot (reconcileSnapshot answers store) SnapshotStatus.unfinished object

end Pass

end Snapshots
end WazuhOperator
