import Mathlib.Data.List.TakeWhile
import WazuhOperator.Library.Runs
import WazuhOperator.Jobs.Objects
import WazuhOperator.Reporting.Writers

namespace WazuhOperator
namespace Credentials

open Procedure Proc List Runs Reporting StatusStep
open Jobs (Fetched)
open Reporting (ClusterStatus StatusAnswers StatusStep nextStatus)

/-!
# A change of the indexer's credentials

`reconcileSecurityInitJob` notices that the credentials or the internal users
of the indexer have changed, by hashes which the status of the cluster
records.  It pushes the internal users with `securityadmin.sh`, records the
hashes in the working copy of the status, and asks the workloads which read
the credentials at their start to restart.  The status is persisted at the
end of the pass.

An error of the push ends the step, and the next pass tries again.  The
restarts come after the hash has been recorded, so that it is persisted "even
if a restart call fails"; their errors are logged.
-/

/-! ## Hashes -/

abbrev SecretData := List (String × String)

def valueOf (data : SecretData) (key : String) : String := (data.lookup key).getD ""

/-- The texts of hashes: they are not empty, and have no bar in them. -/
structure Digest where
  text : SecretData -> String
  nonempty : forall data, text data ≠ ""
  plain : forall data, '|' ∉ (text data).toList

def computeSecretHash (digest : Digest) (data : SecretData) : String :=
  if data = [] then "" else digest.text data

def internalUsersHash (digest : Digest) (content : String) : String :=
  if content = "" then "" else computeSecretHash digest [("internal_users.yml", content)]

def joinSecuritySyncHash (credentials users : String) : String :=
  if users = "" then credentials else credentials ++ "|" ++ users

/-- `splitSecuritySyncHash`, which cuts at the first bar. -/
def splitSecuritySyncHash (stored : String) : String × String :=
  (String.ofList (stored.toList.takeWhile (· ≠ '|')),
    String.ofList ((stored.toList.dropWhile (· ≠ '|')).drop 1))

theorem split_join (plain : '|' ∉ credentials.toList) (users : String) :
    splitSecuritySyncHash (joinSecuritySyncHash credentials users) = (credentials, users) := by
  have passes : ∀ char ∈ credentials.toList, decide (char ≠ '|') := by
    intro char member
    exact decide_eq_true (fun same => plain (same ▸ member))
  by_cases empty : users = ""
  · have whole := takeWhile_eq_self_iff.mpr passes
    have nothing := dropWhile_eq_nil_iff.mpr passes
    rw [joinSecuritySyncHash, if_pos empty, empty, splitSecuritySyncHash, whole, nothing]
    simp
  · rw [splitSecuritySyncHash, joinSecuritySyncHash, if_neg empty]
    simp only [String.toList_append, append_assoc]
    rw [takeWhile_append_of_pos passes, dropWhile_append_of_pos passes]
    simp

/-! ## Workloads -/

inductive Workload where
  | indexer
  | nodePool (name : String)
  | managerMaster
  | managerWorkers
  | dashboard
  deriving DecidableEq

namespace Workload

def component : Workload -> String
  | indexer => "Indexer"
  | nodePool name => "Indexer nodepool " ++ name
  | managerMaster => "Manager master"
  | managerWorkers => "Manager workers"
  | dashboard => "Dashboard"

def objectKind : Workload -> String
  | dashboard => "deployment"
  | _ => "statefulset"

def objectName (clusterName : String) : Workload -> String
  | indexer => indexerName clusterName
  | nodePool name => indexerNodePoolName clusterName name
  | managerMaster => clusterName ++ "-manager-master"
  | managerWorkers => managerWorkerName clusterName
  | dashboard => clusterName ++ "-dashboard"

end Workload

/-- The workloads which read the indexer's credentials at their start. -/
def dependents : List Workload := [.managerMaster, .managerWorkers, .dashboard]

/-! ## The step -/

/-- What happens in a pass, as far as it is about the credentials. -/
inductive Deed where
  /-- The internal users were pushed, for credentials with this hash. -/
  | pushed (credentials users : String)
  /-- A workload is to be restarted with a hash. -/
  | requested (workload : Workload) (hash : String)
  /-- Its pod template was changed to carry the hash. -/
  | told (workload : Workload) (hash : String)
  deriving DecidableEq

/-- The status of the cluster as the pass works on it, and the hash annotation in the pod template
of each workload that exists. -/
structure Desk where
  working : ClusterStatus
  templates : Workload -> Option String

def Desk.mark (desk : Desk) (workload : Workload) (hash : String) : Desk :=
  { desk with templates := Function.update desk.templates workload (some hash) }

def Desk.record (desk : Desk) (hash : String) : Desk :=
  { desk with working := Reporting.reconcileSecurityInitJob (some hash) desk.working }

theorem Desk.mark_self (desk : Desk) (workload : Workload) (hash : String) :
    (desk.mark workload hash).templates workload = some hash :=
  Function.update_self ..

variable {workload other : Workload}

theorem Desk.mark_of_ne (desk : Desk) (different : other ≠ workload) (hash : String) :
    (desk.mark workload hash).templates other = desk.templates other :=
  Function.update_of_ne different ..

structure SyncAnswers where
  clusterName : String
  indexer : Option IndexerSpec
  /-- The number of ready replicas, if there is a status. -/
  status : Except String (Option Nat)
  credentials : Fetched SecretData
  /-- The security Secret, and the internal users if it has them. -/
  security : Fetched (Option String)
  executor : Bool
  push : WriteAnswer
  get : Workload -> Except String Unit
  update : Workload -> WriteAnswer

def credentialsHashOf (status : ClusterStatus) : String := (status.security.getD {}).credentialsHash

section Step

variable (digest : Digest) (answers : SyncAnswers)

/-- `restartStatefulSet` and `restartDeployment`. -/
def restartWorkload (hash : String) (workload : Workload) : Proc Desk Deed Unit := do
  let named := workload.component ++ " " ++ workload.objectKind ++ " " ++
    workload.objectName answers.clusterName
  emit (.requested workload hash)
  mapError ("failed to get " ++ named ++ ": " ++ ·) (ofExcept (answers.get workload))
  match (← read).templates workload with
  | none => fail ("failed to get " ++ named ++ ": not found")
  | some annotation =>
    if annotation = hash then return ()
    else if (answers.update workload).applied then
      modify fun desk => desk.mark workload hash
      emit (.told workload hash)
      mapError ("failed to update " ++ named ++ " for restart: " ++ ·)
        (ofExcept (answers.update workload).toExcept)
    else
      mapError ("failed to update " ++ named ++ " for restart: " ++ ·)
        (ofExcept (answers.update workload).toExcept)

def indexerSets : Option IndexerSpec -> List Workload
  | none => []
  | some spec =>
    if spec.isAdvancedMode then spec.nodePools.map fun pool => .nodePool pool.name else [.indexer]

/-- `restartIndexerStatefulSets`, which ends with the first error. -/
def restartIndexerStatefulSets (hash : String) : Proc Desk Deed Unit :=
  forEach (restartWorkload answers hash) (indexerSets answers.indexer)

/-- The restarts after a change of the credentials.  Errors are logged. -/
def restartDependents (hash : String) : Proc Desk Deed Unit := do
  let _ ← attempt (restartIndexerStatefulSets answers hash)
  let _ ← attempt (restartWorkload answers hash .managerMaster)
  let _ ← attempt (restartWorkload answers hash .managerWorkers)
  let _ ← attempt (restartWorkload answers hash .dashboard)
  return ()

def credentialsChanged (credentials : String) (working : ClusterStatus) : Bool :=
  credentials ≠ "" && credentials ≠ (splitSecuritySyncHash (credentialsHashOf working)).1

def internalUsersChanged (users : String) (working : ClusterStatus) : Bool :=
  users ≠ (splitSecuritySyncHash (credentialsHashOf working)).2

def alreadySynced (credentials users : String) (working : ClusterStatus) : Bool :=
  working.security.isSome && !credentialsChanged credentials working && !internalUsersChanged users working

/-- The end of `reconcileSecurityInitJob`, after a push which succeeded. -/
def recordAndRestart (credentials users : String) (changed : Bool) : Proc Desk Deed Unit := do
  modify fun desk => desk.record (joinSecuritySyncHash credentials users)
  if changed then restartDependents answers credentials else return ()

/-- `reconcileSecurityInitJob` for given credentials and internal users. -/
def syncUsers (data : SecretData) (content : String) : Proc Desk Deed Unit := do
  let credentials := computeSecretHash digest data
  let users := internalUsersHash digest content
  let working := (← read).working
  if alreadySynced credentials users working then return ()
  else if !answers.executor then return ()
  else
    match answers.push with
    | .refused _ => return ()
    | .unacknowledged _ => emit (.pushed credentials content)
    | .accepted =>
      emit (.pushed credentials content)
      recordAndRestart answers credentials users (credentialsChanged credentials working)

def reconcileSecurityInitJob : Proc Desk Deed Unit := do
  match ← mapError ("failed to get indexer status: " ++ ·) (ofExcept answers.status) with
  | none | some 0 => return ()
  | some _ =>
    match answers.credentials with
    | .notFound => return ()
    | .failed text => fail ("failed to get credentials secret: " ++ text)
    | .found data =>
      if valueOf data "admin-password" = "" then return ()
      else
        match answers.security with
        | .failed text => fail ("failed to get indexer security secret: " ++ text)
        | .notFound => syncUsers digest answers data ""
        | .found content => syncUsers digest answers data (content.getD "")

end Step

/-! ## Passes and runs -/

def isSync : StatusStep -> Bool
  | .credentialsSync _ => true
  | _ => false

def otherSteps (steps : List StatusStep) (status : ClusterStatus) : ClusterStatus :=
  (steps.filter fun step => !isSync step).foldl apply status

structure PassAnswers where
  before : Except String Unit
  earlier : List StatusStep
  sync : SyncAnswers
  later : List StatusStep
  after : Except String Unit
  status : StatusAnswers

/-- The stored status, the hash annotations of the workloads, and what has happened so far. -/
structure World where
  stored : ClusterStatus
  templates : Workload -> Option String
  history : List Deed

namespace World

variable (digest : Digest)

def fresh (templates : Workload -> Option String) : World where
  stored := {}
  templates := templates
  history := []

def desk (world : World) (answers : PassAnswers) : Desk where
  working := otherSteps answers.earlier world.stored
  templates := world.templates

/-- A pass of the controller.  The error of the security step is logged; where another step ends
the pass, a condition is persisted and nothing else of the status. -/
def pass (world : World) (answers : PassAnswers) : World :=
  match answers.before with
  | .error _ => world
  | .ok () =>
    let outcome := reconcileSecurityInitJob digest answers.sync (world.desk answers)
    let done :=
      { world with
        templates := outcome.state.templates
        history := world.history ++ outcome.log }
    match answers.after with
    | .error _ => done
    | .ok () =>
      { done with
        stored :=
          (updateStatus answers.status
            (otherSteps answers.later outcome.state.working) world.stored).state }

inductive Move where
  | pass (answers : PassAnswers)
  /-- Someone else creates, changes or deletes a workload, as the reconcilers do which build it. -/
  | rewrite (workload : Workload) (template : Option String)

def step (world : World) : Move -> World
  | .pass answers => world.pass digest answers
  | .rewrite workload template =>
    { world with templates := Function.update world.templates workload template }

end World

/-! ## What is recorded -/

def RequestedAfterPush (history : List Deed) (credentials : String) (workload : Workload) : Prop :=
  ∃ earlier users later, history = earlier ++ Deed.pushed credentials users :: later ∧
    Deed.requested workload credentials ∈ later

/-- A recorded text stands for credentials and users which were pushed, and with whose hash the
dependent workloads were asked to restart. -/
def Justified (digest : Digest) (history : List Deed) (recorded : String) : Prop :=
  recorded ≠ "" -> ∃ data users,
    recorded = joinSecuritySyncHash (digest.text data) (internalUsersHash digest users) ∧
      Deed.pushed (digest.text data) users ∈ history ∧
      ∀ workload ∈ dependents, RequestedAfterPush history (digest.text data) workload

variable {history : List Deed}

theorem RequestedAfterPush.append
    (requested : RequestedAfterPush history credentials workload) (log : List Deed) :
    RequestedAfterPush (history ++ log) credentials workload := by
  rcases requested with ⟨earlier, users, later, split, member⟩
  refine ⟨earlier, users, later ++ log, ?_, mem_append_left _ member⟩
  rw [split, append_assoc, cons_append]

theorem Justified.append {digest : Digest}
    (justified : Justified digest history recorded) (log : List Deed) :
    Justified digest (history ++ log) recorded := by
  intro kept
  rcases justified kept with ⟨data, users, same, pushed, requested⟩
  exact ⟨data, users, same, mem_append_left _ pushed,
    fun workload member => (requested workload member).append log⟩

/-! ## The working copy in a pass -/

def hashesOf (status : ClusterStatus) : String × String × String :=
  let security := status.security.getD {}
  (security.credentialsHash, security.apiCredentialsHash, security.authdCredentialsHash)

def recordsHash : StatusStep -> Bool
  | .credentialsSync _ | .apiCredentials _ | .authdCredentials _ => true
  | _ => false

theorem hashesOf_apply (other : recordsHash step = false) (status : ClusterStatus) :
    hashesOf (step.apply status) = hashesOf status := by
  cases step with
  | credentialsSync | apiCredentials | authdCredentials => cases other
  | securityInitialization answer => cases answer <;> rfl
  | defaultAdmin resolved => cases resolved <;> rfl
  | securitySync synced =>
    cases found : status.security with
    | none => simp [apply, syncSecurityCRDs, found]
    | some security =>
      cases synced with
      | error => simp [apply, syncSecurityCRDs, found]
      | ok =>
        cases ready : security.initialized <;>
          simp [apply, syncSecurityCRDs, found, ready, hashesOf]
  | indexerRestart listed =>
    cases listed with
    | error => rfl
    | ok =>
      simp only [apply, detectIndexerRestart, onSecurity,
        hashesOf, Option.getD_some]
      split <;> rfl
  | clusterSettings =>
    simp only [apply, reconcileClusterSettings]
    split
    · rfl
    · split <;> rfl
  | rolloutChecks =>
    simp only [apply, checkAndUpdatePendingRollouts]
    split
    · rfl
    · split <;> rfl
  | newRollouts =>
    simp only [apply, addPendingRollouts]
    split <;> rfl
  | _ => rfl

theorem credentialsHashOf_apply (other : isSync step = false)
    (status : ClusterStatus) : credentialsHashOf (step.apply status) = credentialsHashOf status := by
  cases recording : recordsHash step with
  | false => exact congrArg Prod.fst (hashesOf_apply recording status)
  | true =>
    cases step with
    | credentialsSync => cases other
    | apiCredentials computed =>
      cases computed with
      | none => rfl
      | some =>
        simp only [apply, reconcileAPICredentials]
        split <;> rfl
    | authdCredentials computed => cases computed <;> rfl
    | _ => cases recording

theorem credentialsHashOf_otherSteps (steps : List StatusStep) (status : ClusterStatus) :
    credentialsHashOf (otherSteps steps status) = credentialsHashOf status := by
  refine @run_of_step _ _ apply (fun first last => credentialsHashOf last = credentialsHashOf first) _
    (fun _ => rfl) (fun first state step member same => ?_) status
  have other : isSync step = false := by simpa using (mem_filter.mp member).2
  exact (credentialsHashOf_apply other state).trans same

theorem nextStatus_security (answers : StatusAnswers) (working latest : ClusterStatus) :
    (nextStatus answers working latest).security = working.security := by
  simp only [nextStatus]
  split <;> rfl

section Restarts

variable {answers : SyncAnswers} {hash : String}

theorem restartWorkload_keeps (preserved : forall desk, inv desk -> inv (desk.mark workload hash)) :
    Keeps inv (fun _ => True) (restartWorkload answers hash workload) := by
  refine keeps_bind (keeps_emit trivial) fun _ => ?_
  refine keeps_bind (keeps_mapError (keeps_ofExcept _)) fun _ => ?_
  refine keeps_read_bind fun desk _ => ?_
  cases desk.templates workload with
  | none => exact keeps_fail _
  | some annotation =>
    dsimp only
    split
    · exact keeps_pure _
    · split
      · refine keeps_bind (keeps_modify preserved) fun _ => ?_
        refine keeps_bind (keeps_emit trivial) fun _ => ?_
        exact keeps_mapError (keeps_ofExcept _)
      · exact keeps_mapError (keeps_ofExcept _)

theorem restartIndexerStatefulSets_keeps
    (preserved : ∀ workload ∈ indexerSets answers.indexer, forall desk, inv desk ->
      inv (desk.mark workload hash)) :
    Keeps inv (fun _ => True) (restartIndexerStatefulSets answers hash) :=
  keeps_forEach fun workload listed => restartWorkload_keeps (preserved workload listed)

theorem restartDependents_keeps (working : ClusterStatus) :
    Keeps (fun desk => desk.working = working) (fun _ => True)
      (restartDependents answers hash) := by
  have one : forall workload, Keeps (fun desk => desk.working = working) (fun _ => True)
      (attempt (restartWorkload answers hash workload)) :=
    fun _ => keeps_attempt (restartWorkload_keeps fun _ same => same)
  refine keeps_bind (keeps_attempt ?_) fun _ => ?_
  · exact restartIndexerStatefulSets_keeps fun _ _ _ same => same
  refine keeps_bind (one .managerMaster) fun _ => ?_
  refine keeps_bind (one .managerWorkers) fun _ => ?_
  exact keeps_bind (one .dashboard) fun _ => keeps_pure _

theorem requested_mem_restartWorkload (workload : Workload) (desk : Desk) :
    Deed.requested workload hash ∈ (restartWorkload answers hash workload desk).log := by
  exact mem_append_left _ mem_cons_self

theorem requested_mem_restartDependents (dependent : workload ∈ dependents) (desk : Desk) :
    Deed.requested workload hash ∈ (restartDependents answers hash desk).log := by
  simp only [restartDependents, attempt_bind_apply, Outcome.following_log, mem_append]
  rcases mem_cons.mp dependent with rfl | dependent
  · exact .inr (.inl (requested_mem_restartWorkload _ _))
  · rcases mem_cons.mp dependent with rfl | dependent
    · exact .inr (.inr (.inl (requested_mem_restartWorkload _ _)))
    · rw [mem_singleton.mp dependent]
      exact .inr (.inr (.inr (.inl (requested_mem_restartWorkload _ _))))

end Restarts

/-! ## What the security step does -/

/-- The security step leaves the working copy as it is, or it has pushed users and recorded their
hash; new credentials come with requests to all dependent workloads. -/
inductive SyncEffect (digest : Digest) (desk : Desk) (outcome : Outcome Desk Deed Unit) : Prop where
  | unrecorded (same : outcome.state.working = desk.working)
  | recorded (data : SecretData) (users : String) (later : List Deed)
      (log : outcome.log = Deed.pushed (digest.text data) users :: later)
      (working : outcome.state.working =
        Reporting.reconcileSecurityInitJob
          (some (joinSecuritySyncHash (digest.text data) (internalUsersHash digest users))) desk.working)
      (requested : credentialsChanged (digest.text data) desk.working = true ->
        ∀ workload ∈ dependents, Deed.requested workload (digest.text data) ∈ later)

theorem recordAndRestart_changed (answers : SyncAnswers) (credentials users : String) (desk : Desk) :
    recordAndRestart answers credentials users true desk =
      restartDependents answers credentials (desk.record (joinSecuritySyncHash credentials users)) := by
  simp [recordAndRestart]

variable {data : SecretData} {desk : Desk}

theorem syncUsers_pushed {digest : Digest} {answers : SyncAnswers} (present : data ≠ [])
    (differs : ¬ alreadySynced (digest.text data) (internalUsersHash digest users) desk.working)
    (configured : answers.executor) (pushed : answers.push = .accepted) :
    syncUsers digest answers data users desk =
      (recordAndRestart answers (digest.text data) (internalUsersHash digest users)
        (credentialsChanged (digest.text data) desk.working) desk).following
          [Deed.pushed (digest.text data) users] := by
  have hashed : computeSecretHash digest data = digest.text data := if_neg present
  simp [syncUsers, hashed, differs, configured, pushed]

theorem syncEffect_syncUsers {digest : Digest} {answers : SyncAnswers} (present : data ≠ [])
    (users : String) (desk : Desk) :
    SyncEffect digest desk (syncUsers digest answers data users desk) := by
  have hashed : computeSecretHash digest data = digest.text data := if_neg present
  by_cases synced : alreadySynced (digest.text data) (internalUsersHash digest users) desk.working
  · exact .unrecorded (by simp [syncUsers, hashed, synced])
  · cases configured : answers.executor with
    | false => exact .unrecorded (by simp [syncUsers, hashed, configured])
    | true =>
      cases pushed : answers.push with
      | refused => exact .unrecorded (by simp [syncUsers, hashed, configured, pushed])
      | unacknowledged =>
        exact .unrecorded (by simp [syncUsers, hashed, synced, configured, pushed])
      | accepted =>
        rw [syncUsers_pushed present synced configured pushed]
        cases changed : credentialsChanged (digest.text data) desk.working with
        | false =>
          exact .recorded data users [] rfl rfl fun yes => absurd (changed.symm.trans yes) nofun
        | true =>
          rw [recordAndRestart_changed]
          refine .recorded data users _ rfl ?_ fun _ workload dependent =>
            requested_mem_restartDependents dependent _
          exact (restartDependents_keeps _ _ rfl).1

attribute [local simp] reconcileSecurityInitJob

theorem syncEffect_reconcileSecurityInitJob (digest : Digest) (answers : SyncAnswers) (desk : Desk) :
    SyncEffect digest desk (reconcileSecurityInitJob digest answers desk) := by
  cases status : answers.status with
  | error => exact .unrecorded (by simp [status])
  | ok reported =>
    cases ready : reported.getD 0 with
    | zero =>
      refine .unrecorded ?_
      cases reported with
      | none => simp [status]
      | some replicas =>
        rw [show replicas = 0 from ready] at status
        simp [status]
    | succ replicas =>
      have found : reported = some (replicas + 1) := by
        cases reported with
        | none => cases ready
        | some => exact congrArg some ready
      rw [found] at status
      cases credentials : answers.credentials with
      | notFound | failed => exact .unrecorded (by simp [status, credentials])
      | found data =>
        by_cases empty : valueOf data "admin-password" = ""
        · exact .unrecorded (by simp [status, credentials, empty])
        · have present : data ≠ [] := by
            rintro rfl
            exact empty rfl
          cases security : answers.security with
          | failed =>
            exact .unrecorded
              (by simp [status, credentials, empty, security])
          | notFound =>
            simpa [status, credentials, empty, security] using
              syncEffect_syncUsers present "" desk
          | found content =>
            simpa [status, credentials, empty, security] using
              syncEffect_syncUsers present (content.getD "") desk

/-! ## Runs -/

theorem SyncEffect.justified {digest : Digest} (effect : SyncEffect digest desk outcome)
    (before : Justified digest history (credentialsHashOf desk.working)) :
    Justified digest (history ++ outcome.log) (credentialsHashOf outcome.state.working) := by
  cases effect with
  | unrecorded same =>
    rw [same]
    exact before.append _
  | recorded data users later log working requested =>
    rw [working, log]
    intro _
    refine ⟨data, users, rfl, mem_append_right _ mem_cons_self, ?_⟩
    intro workload dependent
    cases changed : credentialsChanged (digest.text data) desk.working with
    | true => exact ⟨history, users, later, rfl, requested changed workload dependent⟩
    | false =>
      -- The credentials are those recorded before, so the requests were made then.
      have same : digest.text data = (splitSecuritySyncHash (credentialsHashOf desk.working)).1 := by
        simpa [credentialsChanged, digest.nonempty data] using changed
      have known : credentialsHashOf desk.working ≠ "" := by
        intro blank
        rw [blank] at same
        exact digest.nonempty data same
      rcases before known with ⟨oldData, oldUsers, stored, _, asked⟩
      rw [stored, split_join (digest.plain oldData)] at same
      rw [same]
      exact (asked workload dependent).append _

theorem credentialsHashOf_desk (world : World) (answers : PassAnswers) :
    credentialsHashOf (world.desk answers).working = credentialsHashOf world.stored :=
  credentialsHashOf_otherSteps answers.earlier world.stored

theorem credentialsHashOf_updateStatus {answers : StatusAnswers} (persists : answers.Persists)
    (later : List StatusStep) (working stored : ClusterStatus) :
    credentialsHashOf (updateStatus answers (otherSteps later working) stored).state =
      credentialsHashOf working := by
  rw [updateStatus_of_persists persists, credentialsHashOf, nextStatus_security,
    ← credentialsHashOf, credentialsHashOf_otherSteps]

theorem justified_step {digest : Digest} (world : World) (move : World.Move)
    (justified : Justified digest world.history (credentialsHashOf world.stored)) :
    Justified digest (world.step digest move).history (credentialsHashOf (world.step digest move).stored) := by
  cases move with
  | rewrite => exact justified
  | pass answers =>
    rw [World.step, World.pass]
    cases answers.before with
    | error => exact justified
    | ok =>
      cases answers.after with
      | error => exact justified.append _
      | ok =>
        dsimp only
        by_cases persists : answers.status.Persists
        · rw [credentialsHashOf_updateStatus persists]
          refine (syncEffect_reconcileSecurityInitJob digest answers.sync _).justified ?_
          rw [credentialsHashOf_desk]
          exact justified
        · rcases Reporting.updateStatus_of_not_persists persists
            (otherSteps answers.later (reconcileSecurityInitJob digest answers.sync
              (world.desk answers)).state.working) world.stored with ⟨text, ran⟩
          rw [ran]
          exact justified.append _

/-! ## Passes without failures -/

def SyncAnswers.users (answers : SyncAnswers) : Option String :=
  match answers.security with
  | .failed _ => none
  | .notFound => some ""
  | .found content => some (content.getD "")

/-- The pass finds the indexer ready and these credentials and users, and nothing fails. -/
structure Smooth (answers : PassAnswers) (data : SecretData) (users : String) : Prop where
  before : answers.before = .ok ()
  ready : ∃ replicas, answers.sync.status = .ok (some (replicas + 1))
  credentials : answers.sync.credentials = .found data
  password : valueOf data "admin-password" ≠ ""
  internalUsers : answers.sync.users = some users
  executor : answers.sync.executor = true
  push : answers.sync.push = .accepted
  get : forall workload, answers.sync.get workload = .ok ()
  update : forall workload, answers.sync.update workload = .accepted
  after : answers.after = .ok ()
  persists : answers.status.Persists

section Smooth

variable {answers : SyncAnswers} {hash : String}

theorem restartWorkload_frame (desk : Desk) (different : other ≠ workload) :
    (restartWorkload answers hash workload desk).state.templates other = desk.templates other := by
  have kept : Keeps (fun after => after.templates other = desk.templates other) (fun _ => True)
      (restartWorkload answers hash workload) :=
    restartWorkload_keeps fun after same => (after.mark_of_ne different hash).trans same
  exact (kept desk rfl).1

theorem ne_of_mem_indexerSets (dependent : other ∈ dependents) :
    ∀ workload ∈ indexerSets spec, other ≠ workload := by
  rintro workload listed rfl
  cases spec with
  | none => exact absurd listed not_mem_nil
  | some spec =>
    cases advanced : spec.isAdvancedMode with
    | true =>
      rw [indexerSets, if_pos advanced] at listed
      rcases mem_map.mp listed with ⟨pool, _, rfl⟩
      exact absurd dependent (by simp [dependents])
    | false =>
      rw [indexerSets, advanced] at listed
      rw [mem_singleton.mp listed] at dependent
      exact absurd dependent (by decide)

theorem restartWorkload_carries (got : answers.get workload = .ok ())
    (updated : answers.update workload = .accepted) (desk : Desk) :
    (restartWorkload answers hash workload desk).state.templates workload =
      (desk.templates workload).map fun _ => hash := by
  cases found : desk.templates workload with
  | none => simp [restartWorkload, got, found]
  | some annotation =>
    by_cases same : annotation = hash
    · simp [restartWorkload, got, found, same]
    · simp [restartWorkload, got, found, same, updated, Desk.mark_self]

theorem restartIndexerStatefulSets_frame (desk : Desk) (dependent : other ∈ dependents) :
    (restartIndexerStatefulSets answers hash desk).state.templates other = desk.templates other := by
  have kept : Keeps (fun after => after.templates other = desk.templates other) (fun _ => True)
      (restartIndexerStatefulSets answers hash) :=
    restartIndexerStatefulSets_keeps fun workload listed after same =>
      (after.mark_of_ne (ne_of_mem_indexerSets dependent workload listed) hash).trans same
  exact (kept desk rfl).1

theorem restartDependents_carries (got : forall workload, answers.get workload = .ok ())
    (updated : forall workload, answers.update workload = .accepted) (desk : Desk)
    (dependent : workload ∈ dependents) :
    (restartDependents answers hash desk).state.templates workload =
      (desk.templates workload).map fun _ => hash := by
  have indexer : (restartIndexerStatefulSets answers hash desk).state.templates workload =
      desk.templates workload := restartIndexerStatefulSets_frame desk dependent
  simp only [restartDependents, attempt_bind_apply, Outcome.following_state, pure_apply]
  rcases mem_cons.mp dependent with rfl | rest
  · rw [restartWorkload_frame _ (by decide), restartWorkload_frame _ (by decide),
      restartWorkload_carries (got _) (updated _), indexer]
  · rcases mem_cons.mp rest with rfl | rest
    · rw [restartWorkload_frame _ (by decide), restartWorkload_carries (got _) (updated _),
        restartWorkload_frame _ (by decide), indexer]
    · cases mem_singleton.mp rest
      rw [restartWorkload_carries (got _) (updated _), restartWorkload_frame _ (by decide),
        restartWorkload_frame _ (by decide), indexer]

theorem alreadySynced_iff (present : credentials ≠ "") (users : String) (working : ClusterStatus) :
    alreadySynced credentials users working <->
      splitSecuritySyncHash (credentialsHashOf working) = (credentials, users) := by
  cases found : working.security with
  | none =>
    have empty : splitSecuritySyncHash (credentialsHashOf working) = ("", "") := by
      rw [credentialsHashOf, found]
      rfl
    rw [empty]
    simp [alreadySynced, found, present.symm]
  | some =>
    simp only [alreadySynced, credentialsChanged, internalUsersChanged, found, Prod.ext_iff,
      Option.isSome_some, Bool.true_and, Bool.and_eq_true, Bool.not_eq_true', decide_eq_false_iff_not,
      present, ne_eq, not_false_eq_true, decide_true, not_not]
    exact and_congr eq_comm eq_comm

structure Synced (digest : Digest) (data : SecretData) (users : String) (desk : Desk)
    (outcome : Outcome Desk Deed Unit) : Prop where
  recorded : splitSecuritySyncHash (credentialsHashOf outcome.state.working) =
    (digest.text data, internalUsersHash digest users)
  pushed : splitSecuritySyncHash (credentialsHashOf desk.working) ≠
      (digest.text data, internalUsersHash digest users) ->
    Deed.pushed (digest.text data) users ∈ outcome.log
  told : (splitSecuritySyncHash (credentialsHashOf desk.working)).1 ≠ digest.text data ->
    ∀ workload ∈ dependents,
      outcome.state.templates workload = (desk.templates workload).map fun _ => digest.text data

theorem recordAndRestart_synced {digest : Digest} (data : SecretData) (users : String)
    (got : forall workload, answers.get workload = .ok ())
    (updated : forall workload, answers.update workload = .accepted) (desk : Desk) :
    Synced digest data users desk
      ((recordAndRestart answers (digest.text data) (internalUsersHash digest users)
        (credentialsChanged (digest.text data) desk.working) desk).following
          [Deed.pushed (digest.text data) users]) := by
  have joined := split_join (digest.plain data) (internalUsersHash digest users)
  refine ⟨?_, fun _ => mem_cons_self, ?_⟩
  · cases credentialsChanged (digest.text data) desk.working with
    | false => exact joined
    | true =>
      rw [recordAndRestart_changed, Outcome.following_state, (restartDependents_keeps _ _ rfl).1]
      exact joined
  · intro differs workload dependent
    have changed : credentialsChanged (digest.text data) desk.working := by
      simp [credentialsChanged, digest.nonempty data, differs.symm]
    rw [changed, recordAndRestart_changed, Outcome.following_state]
    exact restartDependents_carries got updated _ dependent

theorem Smooth.present {answers : PassAnswers} (smooth : Smooth answers data users)
    : data ≠ [] := by
  rintro rfl
  exact smooth.password rfl

theorem Smooth.reconcile {digest : Digest} {answers : PassAnswers}
    (smooth : Smooth answers data users) (desk : Desk) :
    reconcileSecurityInitJob digest answers.sync desk = syncUsers digest answers.sync data users desk := by
  rcases smooth.ready with ⟨replicas, ready⟩
  have password := smooth.password
  have read := smooth.internalUsers
  cases security : answers.sync.security with
  | failed => simp [SyncAnswers.users, security] at read
  | notFound | found =>
    rw [SyncAnswers.users, security, Option.some_inj] at read
    simp [ready, smooth.credentials, password, security, ← read]

/-- What is recorded is not done again. -/
theorem Smooth.syncUsers_idle {digest : Digest} {answers : PassAnswers}
    (smooth : Smooth answers data users)
    (same : splitSecuritySyncHash (credentialsHashOf desk.working) =
      (digest.text data, internalUsersHash digest users)) :
    syncUsers digest answers.sync data users desk = ⟨.ok (), desk, []⟩ := by
  have synced := (alreadySynced_iff (digest.nonempty data) _ _).mpr same
  have hashed : computeSecretHash digest data = digest.text data := if_neg smooth.present
  simp [syncUsers, hashed, synced]

theorem Smooth.synced {digest : Digest} {answers : PassAnswers}
    (smooth : Smooth answers data users) (desk : Desk) :
    Synced digest data users desk (syncUsers digest answers.sync data users desk) := by
  by_cases same : splitSecuritySyncHash (credentialsHashOf desk.working) =
      (digest.text data, internalUsersHash digest users)
  · rw [smooth.syncUsers_idle same]
    refine ⟨same, fun differs => absurd same differs, fun differs => ?_⟩
    rw [same] at differs
    exact absurd rfl differs
  · have differs := mt (alreadySynced_iff (digest.nonempty data) _ _).mp same
    rw [syncUsers_pushed smooth.present differs smooth.executor smooth.push]
    exact recordAndRestart_synced data users smooth.get smooth.update desk

end Smooth

/-- What a pass without failures has done about credentials and users. -/
structure CaughtUp (digest : Digest) (data : SecretData) (users : String) (before after : World) :
    Prop where
  /-- Their hashes are recorded. -/
  recorded : splitSecuritySyncHash (credentialsHashOf after.stored) =
    (digest.text data, internalUsersHash digest users)
  /-- The users were pushed, unless the hashes had been recorded before. -/
  pushed : splitSecuritySyncHash (credentialsHashOf before.stored) ≠
      (digest.text data, internalUsersHash digest users) ->
    ∃ log, after.history = before.history ++ log ∧ Deed.pushed (digest.text data) users ∈ log
  /-- The dependent workloads which exist carry the hash of new credentials. -/
  told : (splitSecuritySyncHash (credentialsHashOf before.stored)).1 ≠ digest.text data ->
    ∀ workload ∈ dependents,
      after.templates workload = (before.templates workload).map fun _ => digest.text data

theorem smooth_pass {digest : Digest} {answers : PassAnswers}
    (smooth : Smooth answers data users) (world : World) :
    CaughtUp digest data users world (world.pass digest answers) := by
  have synced : Synced digest data users (world.desk answers)
      (reconcileSecurityInitJob digest answers.sync (world.desk answers)) := by
    rw [smooth.reconcile]
    exact smooth.synced _
  rw [World.pass, smooth.before, smooth.after]
  refine ⟨?_, ?_, ?_⟩
  · dsimp only
    rw [credentialsHashOf_updateStatus smooth.persists]
    exact synced.recorded
  · intro differs
    rw [← credentialsHashOf_desk world answers] at differs
    exact ⟨_, rfl, synced.pushed differs⟩
  · intro differs
    rw [← credentialsHashOf_desk world answers] at differs
    exact synced.told differs

theorem smooth_pass_idle {digest : Digest} {answers : PassAnswers} {users : String}
    (smooth : Smooth answers data users) {world : World}
    (same : splitSecuritySyncHash (credentialsHashOf world.stored) =
      (digest.text data, internalUsersHash digest users)) :
    (world.pass digest answers).templates = world.templates ∧
      (world.pass digest answers).history = world.history := by
  rw [← credentialsHashOf_desk world answers] at same
  rw [World.pass, smooth.before, smooth.after]
  rw [smooth.reconcile, smooth.syncUsers_idle same]
  exact ⟨rfl, append_nil _⟩

/-! ## A restart which fails -/

namespace Sample

def digest : Digest where
  text data := if valueOf data "admin-password" = "secret" then "1111" else "2222"
  nonempty := by
    intro data
    split <;> decide
  plain := by
    intro data
    split <;> decide

def credentials (password : String) : SecretData := [("admin-password", password)]

def pass (password : String) (failing : List Workload) : PassAnswers where
  before := .ok ()
  earlier := []
  sync :=
    { clusterName := "wazuh"
      indexer := some {}
      status := .ok (some 3)
      credentials := .found (credentials password)
      security := .found (some "admin:")
      executor := true
      push := .accepted
      get := fun _ => .ok ()
      update := fun workload => if workload ∈ failing then .refused "conflict" else .accepted }
  later := []
  after := .ok ()
  status := .allReady

def deployed : World := World.fresh fun _ => some ""

/-- After the credentials have changed, with a restart of the master which fails, and a pass
without failures. -/
def changed : World :=
  run (World.step digest) deployed
    [.pass (pass "secret" []), .pass (pass "other" [.managerMaster]), .pass (pass "other" [])]

end Sample

open Sample in
theorem smooth_sample (password : String) (given : password ≠ "") :
    Smooth (pass password []) (credentials password) "admin:" where
  before := rfl
  ready := ⟨2, rfl⟩
  credentials := rfl
  password := given
  internalUsers := rfl
  executor := rfl
  push := rfl
  get := fun _ => rfl
  update := fun _ => rfl
  after := rfl
  persists := ⟨rfl, rfl⟩

/-- In every run the recorded hash stands for credentials and users which were pushed, with
requests to restart all dependent workloads made after it, whatever became of the requests.  And
from every state, a pass without failures pushes and tells what is not recorded yet. -/
theorem recorded_after_requests (digest : Digest) (templates : Workload -> Option String)
    (moves : List World.Move) :
    Throughout (World.step digest)
        (fun world => Justified digest world.history (credentialsHashOf world.stored))
        (World.fresh templates) moves ∧
      forall world answers data users, Smooth answers data users ->
        CaughtUp digest data users world (world.pass digest answers) := by
  refine ⟨?_, fun world answers data users smooth => smooth_pass smooth world⟩
  have any : Along (World.step digest) (fun _ _ => True) (World.fresh templates) moves :=
    along_of_forall (fun _ _ _ => trivial) _
  exact throughout_of_invariant (fun world move justified _ => justified_step world move justified)
    (fun _ justified => justified) moves _ (fun known => absurd rfl known) any

open Sample in
/-- A pass with new credentials after one in which the restart of the master failed. -/
theorem recorded_after_requests_two_passes :
    Justified digest (deployed.step digest (.pass (pass "secret" [.managerMaster]))).history
        (credentialsHashOf (deployed.step digest (.pass (pass "secret" [.managerMaster]))).stored) ∧
      CaughtUp digest (credentials "other") "admin:"
        (deployed.step digest (.pass (pass "secret" [.managerMaster])))
        ((deployed.step digest (.pass (pass "secret" [.managerMaster]))).pass digest (pass "other" [])) := by
  have both := recorded_after_requests digest (fun _ => some "") [.pass (pass "secret" [.managerMaster])]
  exact ⟨both.1.2, both.2 _ _ _ _ (smooth_sample "other" (by decide))⟩

open Sample in
/-- The restart of the master fails, the new hash is recorded, and no later pass makes up for it. -/
theorem recorded_without_restart :
    digest.text (credentials "secret") ≠ digest.text (credentials "other") ∧
      forall passes,
        let world := run (World.step digest) changed
          (replicate passes (.pass (pass "other" [])))
        splitSecuritySyncHash (credentialsHashOf world.stored) =
            (digest.text (credentials "other"), internalUsersHash digest "admin:") ∧
          world.templates .managerMaster = some (digest.text (credentials "secret")) ∧
          Deed.told .managerMaster (digest.text (credentials "other")) ∉ world.history := by
  refine ⟨by decide, fun passes => ?_⟩
  have smooth := smooth_sample "other" (by decide)
  induction passes with
  | zero =>
    refine ⟨?_, ?_, ?_⟩ <;> decide +kernel
  | succ _ ih =>
    rcases ih with ⟨recorded, template, untold⟩
    have idle := smooth_pass_idle smooth recorded
    rw [replicate_succ', run_append]
    refine ⟨(smooth_pass smooth _).recorded, ?_, ?_⟩
    · exact (congrFun idle.1 _).trans template
    · exact idle.2.symm ▸ untold

end Credentials
end WazuhOperator
