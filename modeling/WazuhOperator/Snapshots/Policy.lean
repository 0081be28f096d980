import Mathlib.Data.List.Infix
import WazuhOperator.Cluster.Events
import WazuhOperator.Security.Resources

namespace WazuhOperator
namespace Snapshots

open Security (ResourcePhase)

/-!
# The reconciler of snapshot policies

`internal/opensearch/reconciler/snapshot_policy_reconciler.go`.  A policy in
OpenSearch is updated against the version which was read before, and again
after a conflict.  Once that is done, a pass compares the hash of the
specification with the one in its copy of the status and notes both there; but
its report writes the phase and the message into the resource as it is read
again, and the copy with the notes is dropped.
-/

/-! ## Updates -/

/-- `_seq_no` and `_primary_term`. -/
structure PolicyVersion where
  (seqNo primaryTerm : Int)

inductive PolicyCall where
  | getPolicyInfo (reply : Except String (Option PolicyVersion))
  | updatePolicy (version : PolicyVersion) (reply : Except String Unit)

namespace PolicyCall

def isUpdate : PolicyCall -> Bool
  | updatePolicy _ _ => true
  | getPolicyInfo _ => false

def updateReply : PolicyCall -> Option (Except String Unit)
  | updatePolicy _ reply => some reply
  | getPolicyInfo _ => none

def readReply : PolicyCall -> Option (Except String (Option PolicyVersion))
  | updatePolicy _ _ => none
  | getPolicyInfo reply => some reply

end PolicyCall

def isSnapshotPolicyConflictError (text : String) : Bool :=
  ["version_conflict_engine_exception", "\"status\":409", "version conflict"].any fun part =>
    part.toList <:+: text.toLower.toList

/-- What the API replies, by the number of attempts which are left. -/
structure PolicyReplies where
  read : Nat -> Except String (Option PolicyVersion)
  update : Nat -> Except String Unit

section Updates

variable (name : String) (replies : PolicyReplies)

/-- The loop of `updateSnapshotPolicyWithRetry`, once there is a version. -/
def retryUpdate : Nat -> PolicyVersion -> List PolicyCall × Except String Unit
  | 0, _ => ([], .error "unexpected snapshot policy update retry termination")
  | left + 1, current =>
    match replies.update left with
    | .ok _ => ([.updatePolicy current (.ok ())], .ok ())
    | .error text =>
      if isSnapshotPolicyConflictError text = false ∨ left = 0 then
        ([.updatePolicy current (.error text)], .error text)
      else
        match replies.read left with
        | .error failure =>
          ([.updatePolicy current (.error text), .getPolicyInfo (.error failure)],
            .error ("failed to refresh snapshot policy metadata after conflict: " ++ failure))
        | .ok none =>
          ([.updatePolicy current (.error text), .getPolicyInfo (.ok none)],
            .error ("snapshot policy " ++ name ++ " disappeared during conflict retry"))
        | .ok (some latest) =>
          ([.updatePolicy current (.error text), .getPolicyInfo (.ok (some latest))] ++
            (retryUpdate left latest).1, (retryUpdate left latest).2)

def updateSnapshotPolicyWithRetry (policyInfo : Option PolicyVersion) :
    List PolicyCall × Except String Unit :=
  match policyInfo with
  | some current => retryUpdate name replies 4 current
  | none =>
    match replies.read 4 with
    | .error failure =>
      ([.getPolicyInfo (.error failure)],
        .error ("failed to refresh snapshot policy metadata: " ++ failure))
    | .ok none =>
      ([.getPolicyInfo (.ok none)],
        .error ("snapshot policy " ++ name ++ " not found during update"))
    | .ok (some current) =>
      (.getPolicyInfo (.ok (some current)) :: (retryUpdate name replies 4 current).1,
        (retryUpdate name replies 4 current).2)

def Opens : Option PolicyVersion -> PolicyCall -> Prop
  | some given, .updatePolicy version _ => version = given
  | none, .getPolicyInfo _ => True
  | _, _ => False

/-- Only a conflict is followed by anything, by a read; and only the read of a version is
followed by a further update, which carries that version. -/
def Follows : PolicyCall -> PolicyCall -> Prop
  | .updatePolicy _ (.error text), .getPolicyInfo _ => isSnapshotPolicyConflictError text = true
  | .getPolicyInfo reply, .updatePolicy version _ => reply = .ok (some version)
  | _, _ => False

/-- The calls end with a success, with an error which is no conflict, with a read which finds no
policy, or with a conflict where no update is left. -/
def Ends (spent : Prop) : PolicyCall -> Prop
  | .updatePolicy _ (.ok _) => True
  | .updatePolicy _ (.error text) => isSnapshotPolicyConflictError text = true -> spent
  | .getPolicyInfo reply => forall version, reply ≠ .ok (some version)

/-- The number of reads which there can be: without a version, one comes before the first update. -/
def readLimit (limit : Nat) : Option PolicyVersion -> Nat
  | some _ => limit
  | none => limit + 1

/-- The calls of an update with retries.  As they follow one another and end, a conflict before the
last allowed update is followed by a read, and a version which is read by an update. -/
structure RetriesConflicts (replies : PolicyReplies) (given : Option PolicyVersion) (limit : Nat)
    (course : List PolicyCall × Except String Unit) : Prop where
  bounded : course.1.countP PolicyCall.isUpdate ≤ limit
  starts : ∃ call, course.1.head? = some call ∧ Opens given call
  follows : course.1.IsChain Follows
  ends : ∀ call ∈ course.1.getLast?, Ends (course.1.countP PolicyCall.isUpdate = limit) call
  returned : course.2 = .ok () <->
    ∃ version, course.1.getLast? = some (.updatePolicy version (.ok ()))
  /-- The replies are those of the API, in their order. -/
  updates : course.1.filterMap PolicyCall.updateReply <+: (List.range limit).reverse.map replies.update
  reads : course.1.filterMap PolicyCall.readReply <+:
    (List.range (readLimit limit given)).reverse.map replies.read

attribute [local simp] PolicyCall.isUpdate PolicyCall.updateReply PolicyCall.readReply Opens Follows Ends
  readLimit List.countP_cons List.filterMap_cons List.range_succ

variable {name replies}

theorem RetriesConflicts.read (found : replies.read limit = .ok (some version))
    (rest : RetriesConflicts replies (some version) limit course) :
    RetriesConflicts replies none limit (.getPolicyInfo (.ok (some version)) :: course.1, course.2) := by
  rcases course with ⟨calls, result⟩
  rcases rest with ⟨bounded, ⟨call, heads, opens⟩, follows, ends, returned, updates, reads⟩
  rcases calls with _ | ⟨first, calls⟩
  · cases heads
  · cases heads
    cases call <;> constructor <;> simp_all

theorem retryUpdate_retries (left : Nat) (current : PolicyVersion) :
    RetriesConflicts replies (some current) (left + 1) (retryUpdate name replies (left + 1) current) := by
  induction left generalizing current with
  | zero =>
    rw [retryUpdate]
    split
    · constructor <;> simp_all
    · constructor <;> simp_all
  | succ left ih =>
    rw [retryUpdate]
    split
    · constructor <;> simp_all
    · split
      · constructor <;> simp_all
      · rename_i text _ retried
        split
        · constructor <;> simp_all
        · constructor <;> simp_all
        · rename_i latest found
          have later := (ih latest).read found
          rcases later with ⟨bounded, _, follows, ends, returned, updates, reads⟩
          constructor <;> simp_all

/-- Whatever the API replies, only conflicts are retried, with the version read after them, and
there are four updates at most. -/
theorem policy_updates_retry_conflicts (name : String) (replies : PolicyReplies)
    (policyInfo : Option PolicyVersion) :
    RetriesConflicts replies policyInfo 4 (updateSnapshotPolicyWithRetry name replies policyInfo) := by
  cases policyInfo with
  | some current => exact retryUpdate_retries 3 current
  | none =>
    rw [updateSnapshotPolicyWithRetry]
    split
    · constructor <;> simp_all
    · constructor <;> simp_all
    · next found => exact (retryUpdate_retries 3 _).read found

end Updates

/-! ## The report -/

/-- `OpenSearchSnapshotPolicyStatus`, without the time of the last pass. -/
structure PolicyStatus where
  phase : Option ResourcePhase := none
  (message lastAppliedHash : String := "")
  driftDetected : Bool := false
  lastDriftTime : Option Nat := none

def PolicyStatus.drift (status : PolicyStatus) : String × Bool × Option Nat :=
  (status.lastAppliedHash, status.driftDetected, status.lastDriftTime)

structure PolicyDesk where
  (copy stored : PolicyStatus)

/-- What a pass over a policy which is not being deleted comes to.  `applied` is the part up to
the label `policyApplied`; an error there may come with a phase and a message to report. -/
structure PolicyAnswers where
  applied : Except (Option (ResourcePhase × String) × String) Unit := .ok ()
  specHash : Except String String
  now : Nat := 0
  status : WriteAnswer := .accepted

section Pass

variable (answers : PolicyAnswers)

/-- `updateStatus`, which changes the resource as it is read anew. -/
def updatePolicyStatus (phase : ResourcePhase) (message : String) (desk : PolicyDesk) :
    Except String Unit × PolicyDesk :=
  let latest := { desk.stored with phase := some phase, message }
  match answers.status with
  | .accepted => (.ok (), ⟨latest, latest⟩)
  | .refused text => (.error text, desk)
  | .unacknowledged text => (.error text, { desk with stored := latest })

def noteDrift (status : PolicyStatus) : PolicyStatus :=
  match answers.specHash with
  | .error _ => { status with driftDetected := false }
  | .ok hash =>
    if status.lastAppliedHash ≠ "" ∧ status.lastAppliedHash ≠ hash then
      { status with
        driftDetected := true, lastDriftTime := some answers.now, lastAppliedHash := hash }
    else { status with driftDetected := false, lastAppliedHash := hash }

/-- `Reconcile` of `SnapshotPolicyReconciler`. -/
def reconcilePolicy (desk : PolicyDesk) : Except String Unit × PolicyDesk :=
  match answers.applied with
  | .error (none, text) => (.error text, desk)
  | .error (some (phase, message), text) =>
    (.error text, (updatePolicyStatus answers phase message desk).2)
  | .ok _ =>
    let (result, after) :=
      updatePolicyStatus answers .ready "Snapshot policy reconciled successfully"
        { desk with copy := noteDrift answers desk.copy }
    (result.mapError ("failed to update status: " ++ ·), after)

end Pass

/-- The pass stores the drift fields it computes; so a later pass, for which the stored status is
the copy, finds drift exactly if the hash of the specification has changed. -/
structure DriftPersists (answers : PolicyAnswers) (desk after : PolicyDesk) : Prop where
  stored : after.stored.drift = (noteDrift answers desk.copy).drift
  compared : forall hash, answers.specHash = .ok hash -> hash ≠ "" ->
    forall next later, next.specHash = .ok later ->
      ((noteDrift next after.stored).driftDetected = true <-> hash ≠ later)

/-- The hash of the specification is known, and the copy has another one. -/
def Drifts (answers : PolicyAnswers) (copy : PolicyStatus) : Prop :=
  ∃ hash, answers.specHash = .ok hash ∧ copy.lastAppliedHash ≠ "" ∧ copy.lastAppliedHash ≠ hash

/-- The stored status has, before the pass, the hash of the specification (that of the copy where
it cannot be computed), and the drift between the copy and that hash. -/
structure StoredBefore (answers : PolicyAnswers) (desk : PolicyDesk) : Prop where
  hash : forall hash, answers.specHash = .ok hash -> desk.stored.lastAppliedHash = hash
  unknown : forall text, answers.specHash = .error text ->
    desk.stored.lastAppliedHash = desk.copy.lastAppliedHash
  detected : desk.stored.driftDetected = true <-> Drifts answers desk.copy
  since : Drifts answers desk.copy -> desk.stored.lastDriftTime = some answers.now
  unchanged : ¬ Drifts answers desk.copy -> desk.stored.lastDriftTime = desk.copy.lastDriftTime

section Stored

variable {answers : PolicyAnswers} {desk : PolicyDesk}

theorem noteDrift_hash {hash : String}
    (known : answers.specHash = .ok hash) (status : PolicyStatus) :
    (noteDrift answers status).lastAppliedHash = hash ∧
      ((noteDrift answers status).driftDetected <->
        status.lastAppliedHash ≠ "" ∧ status.lastAppliedHash ≠ hash) := by
  rw [noteDrift, known]
  dsimp only
  split
  · next drifted => exact ⟨rfl, iff_of_true rfl drifted⟩
  · next same => exact ⟨rfl, iff_of_false Bool.false_ne_true same⟩

theorem noteDrift_drift_iff :
    desk.stored.drift = (noteDrift answers desk.copy).drift <-> StoredBefore answers desk := by
  rcases desk with ⟨copy, phase, message, hash, detected, since⟩
  have fields : StoredBefore answers ⟨copy, phase, message, hash, detected, since⟩ <->
      (forall known, answers.specHash = .ok known -> hash = known) ∧
      (forall text, answers.specHash = .error text -> hash = copy.lastAppliedHash) ∧
      (detected = true <-> Drifts answers copy) ∧ (Drifts answers copy -> since = some answers.now) ∧
      (¬ Drifts answers copy -> since = copy.lastDriftTime) :=
    ⟨fun before => ⟨before.hash, before.unknown, before.detected, before.since, before.unchanged⟩,
      fun ⟨known, unknown, found, later, same⟩ => ⟨known, unknown, found, later, same⟩⟩
  rw [fields, noteDrift, PolicyStatus.drift]
  cases known : answers.specHash with
  | error text => cases detected <;> simp [Drifts, known, PolicyStatus.drift]
  | ok spec =>
    by_cases drifted : copy.lastAppliedHash ≠ "" ∧ copy.lastAppliedHash ≠ spec
    · cases detected <;> simp [Drifts, known, drifted, PolicyStatus.drift]
    · cases detected <;> simp [Drifts, known, drifted, PolicyStatus.drift]

/-- No report touches the drift fields, whatever becomes of it. -/
theorem updatePolicyStatus_drift (phase : ResourcePhase) (message : String) :
    (updatePolicyStatus answers phase message desk).2.stored.drift = desk.stored.drift := by
  unfold updatePolicyStatus
  split <;> rfl

theorem reconcilePolicy_drift : (reconcilePolicy answers desk).2.stored.drift = desk.stored.drift := by
  unfold reconcilePolicy
  split
  · rfl
  · exact updatePolicyStatus_drift ..
  · exact updatePolicyStatus_drift ..

end Stored

/-- A pass over what is stored, with the copy which the cache has. -/
def passPolicy (stored : PolicyStatus) (pass : PolicyStatus × PolicyAnswers) : PolicyStatus :=
  (reconcilePolicy pass.2 ⟨pass.1, stored⟩).2.stored

theorem passes_drift (passes : List (PolicyStatus × PolicyAnswers)) (stored : PolicyStatus) :
    (passes.foldl passPolicy stored).drift = stored.drift := by
  induction passes generalizing stored with
  | nil => rfl
  | cons pass rest ih => exact (ih _).trans reconcilePolicy_drift

/-- A pass stores its findings if and only if they were stored before.  So no pass over a policy
which was new once ever stores a hash, and none of its findings are kept. -/
theorem drift_persists_iff (answers : PolicyAnswers) :
    (forall desk, DriftPersists answers desk (reconcilePolicy answers desk).2 <-> StoredBefore answers desk) ∧
    forall (passes : List (PolicyStatus × PolicyAnswers)) (copy : PolicyStatus),
      let desk : PolicyDesk := ⟨copy, passes.foldl passPolicy {}⟩
      desk.stored.lastAppliedHash = "" ∧
        forall hash, answers.specHash = .ok hash -> hash ≠ "" ->
          ¬ DriftPersists answers desk (reconcilePolicy answers desk).2 := by
  constructor
  · intro desk
    rw [<- noteDrift_drift_iff, <- @reconcilePolicy_drift answers desk]
    constructor
    · exact DriftPersists.stored
    · intro kept
      refine ⟨kept, fun hash known present next later read => ?_⟩
      have recorded : (reconcilePolicy answers desk).2.stored.lastAppliedHash = hash :=
        (congrArg Prod.fst kept).trans (noteDrift_hash known _).1
      rw [(noteDrift_hash read _).2, recorded]
      exact and_iff_right present
  · intro passes copy desk
    have empty : desk.stored.lastAppliedHash = "" := congrArg Prod.fst (passes_drift passes {})
    refine ⟨empty, fun hash known present persists => present ?_⟩
    have kept := congrArg Prod.fst (reconcilePolicy_drift.symm.trans persists.stored)
    exact (noteDrift_hash known copy).1.symm.trans (kept.symm.trans empty)

namespace Sample

def applied : PolicyAnswers where
  specHash := .ok "1f"

def hashed : PolicyStatus where
  lastAppliedHash := "1f"

end Sample

open Sample

theorem drift_persists_iff_known : (reconcilePolicy applied ⟨hashed, hashed⟩).1 = .ok () ∧
    DriftPersists applied ⟨hashed, hashed⟩ (reconcilePolicy applied ⟨hashed, hashed⟩).2 :=
  ⟨rfl, ((drift_persists_iff _).1 _).mpr (noteDrift_drift_iff.mp rfl)⟩

/-- The hash of a new policy is not stored by its first pass. -/
theorem first_hash_lost : (reconcilePolicy applied ⟨{}, {}⟩).1 = .ok () ∧
    ¬ DriftPersists applied ⟨{}, {}⟩ (reconcilePolicy applied ⟨{}, {}⟩).2 :=
  ⟨rfl, fun persists => absurd persists.stored (by decide)⟩

end Snapshots
end WazuhOperator
