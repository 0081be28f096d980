import WazuhOperator.Rolling.Quorum

namespace WazuhOperator
namespace Rolling

open Procedure Proc List

/-!
# The rolling restart of the managers, and what its results mean

`internal/wazuh/reconciler/cluster_rolling_restart.go`.  The workers go first;
the master follows once the call for them does not report that it is still in
progress.  So the order rests on what the orchestrator means by `Idle` and
`Complete`.  It says the one whenever the two revisions of the StatefulSet are
equal, without a look at the pods, and the other when there is no outdated pod
among those it finds, however many these are.
-/

/-! ## The two StatefulSets -/

/-- What the call reads, and the answers to its requests.  A StatefulSet that is not found reads
as none. -/
structure ManagerRestartInput where
  (workerSts masterSts : Except String (Option RevisionedSet))
  (workerPods masterPods : List Pod)
  /-- Of two pods in a namespace no more than one has a name. -/
  distinct : ∀ worker ∈ workerPods, ∀ master ∈ masterPods, worker.name ≠ master.name
  (listWorkers listMasters checkWorkers checkManagers : Except String Unit)
  (deleteWorker deleteMaster : WriteAnswer)

def listing (answer : Except String Unit) (pods : List Pod) : Except String (List Pod) :=
  answer.map fun _ => pods

section Calls

variable {σ : Type}

/-- The common part of the calls for workers and master: nothing is done without a StatefulSet
or a pending update. -/
def orchestrateIfPending (unreadable : String) (found : Except String (Option RevisionedSet))
    (listed : Except String (List Pod)) (checker : HealthChecker σ) (deletion : WriteAnswer) :
    Proc σ Event (Option RestartResult) := do
  match ← mapError (unreadable ++ ": " ++ ·) (ofExcept found) with
  | none => return none
  | some sts =>
    if sts.updateRevision = sts.currentRevision then
      return none
    else do
      let result ← orchestrateRestart sts listed checker.isHealthyForRestart deletion true
      return some result

namespace ManagerRestartInput

variable (input : ManagerRestartInput)

def workerChecker : HealthChecker σ :=
  managerWorkerHealthChecker σ (listing input.checkWorkers input.workerPods)

def masterChecker : HealthChecker σ :=
  managerWorkerHealthChecker σ
    (listing input.checkManagers (input.masterPods ++ input.workerPods))

end ManagerRestartInput

def orchestrateWorkerRestart (input : ManagerRestartInput) :
    Proc σ Event (Option RestartResult) :=
  orchestrateIfPending "failed to get worker StatefulSet" input.workerSts
    (listing input.listWorkers input.workerPods) input.workerChecker input.deleteWorker

def orchestrateMasterRestart (input : ManagerRestartInput) :
    Proc σ Event (Option RestartResult) :=
  orchestrateIfPending "failed to get master StatefulSet" input.masterSts
    (listing input.listMasters input.masterPods) input.masterChecker input.deleteMaster

def inProgress (result : Option RestartResult) : Bool :=
  result.any (·.phase = .inProgress)

/-- `OrchestrateManagerRollingRestart`, with the results for master and workers; the flag tells
whether the specification has a manager. -/
def orchestrateManagerRollingRestart (manager : Bool) (input : ManagerRestartInput) :
    Proc σ Event (Option RestartResult × Option RestartResult) :=
  if manager then do
    let workerResult ← mapError ("worker rolling restart failed: " ++ ·)
      (orchestrateWorkerRestart input)
    if inProgress workerResult then
      return (none, workerResult)
    else do
      let masterResult ← mapError ("master rolling restart failed: " ++ ·)
        (orchestrateMasterRestart input)
      return (masterResult, workerResult)
  else return (none, none)

end Calls

/-! ## What a call reports -/

def UpToDate (sts : RevisionedSet) (desired : Nat) (pods : List Pod) : Prop :=
  desired ≤ (ownedPods sts pods).length ∧ ∀ pod ∈ ownedPods sts pods, pod.revision = sts.updateRevision

def ReportsSettled {σ : Type} (outcome : Outcome σ Event RestartResult) : Prop :=
  exists result, outcome.result = .ok result ∧ result.phase ≠ .inProgress

theorem outdatedPods_eq_nil_iff (sts : RevisionedSet) (pods : List Pod) :
    outdatedPods sts pods = [] <->
      ∀ pod ∈ ownedPods sts pods, pod.revision = sts.updateRevision := by
  simp [outdatedPods, filter_eq_nil_iff]

theorem deletionOrder_eq_nil_iff (highestFirst : Bool) (pods : List Pod) :
    deletionOrder highestFirst pods = [] <-> pods = [] := by
  simp only [eq_nil_iff_forall_not_mem, mem_deletionOrder]

section Reports

attribute [local simp] ReportsSettled orchestrateRestart

variable {σ : Type} (sts : RevisionedSet) (pods : List Pod) (healthy : Proc σ Event (Bool × String))
  (deletion : WriteAnswer) (highestFirst : Bool) (store : σ)

theorem reportsSettled_iff :
    ReportsSettled (orchestrateRestart sts (.ok pods) healthy deletion highestFirst store) <->
      sts.updateRevision = sts.currentRevision ∨ outdatedPods sts pods = [] := by
  by_cases same : sts.updateRevision = sts.currentRevision
  · simp [same]
  · rw [← deletionOrder_eq_nil_iff highestFirst]
    cases order : deletionOrder highestFirst (outdatedPods sts pods) with
    | nil => simp [same, order]
    | cons pod =>
      -- From here on the call is in progress, or fails.
      simp only [same, reduceCtorEq, or_self, iff_false]
      rintro ⟨result, reported, settled⟩
      apply settled
      cases unready : (ownedPods sts pods).find? (fun pod => !isPodReady pod) with
      | some =>
        simp [same, order, unready] at reported
        rw [← reported]
      | none =>
        rcases ran : healthy store with ⟨answer, after, log⟩
        rcases answer with text | ⟨isHealthy, reason⟩
        · simp [same, order, unready, ran] at reported
        · cases isHealthy with
          | false =>
            simp [same, order, unready, ran] at reported
            rw [← reported]
          | true =>
            cases told : deletion.toExcept with
            | error =>
              cases applied : deletion.applied <;>
                simp [same, order, unready, ran, told, applied] at reported
            | ok =>
              simp [same, order, unready, ran, told, WriteAnswer.applied_of_toExcept told] at reported
              rw [← reported]

end Reports

/-! ## What the calls for workers and master delete -/

def deletions {σ α : Type} (outcome : Outcome σ Event α) : List String :=
  outcome.log.filterMap Event.deletedPod

section Deletions

attribute [local simp] deletions orchestrateIfPending

variable {σ : Type} (unreadable : String) (found : Except String (Option RevisionedSet))
  (answer : Except String Unit) (pods : List Pod) (checker : HealthChecker σ)
  (deletion : WriteAnswer) (store : σ)

/-- The StatefulSet is there, its pods can be listed, and the orchestrator gets as far as deleting
one of them. -/
def due (health : Except String (Bool × String)) : Bool :=
  match found, answer with
  | .ok (some sts), .ok () => restartDeletes sts pods health deletion
  | _, _ => false

theorem deletions_orchestrateIfPending :
    (due found answer pods deletion (checker.isHealthyForRestart store).result = false ∧
      deletions (orchestrateIfPending unreadable found (listing answer pods) checker deletion
        store) = []) ∨
    (due found answer pods deletion (checker.isHealthyForRestart store).result ∧
      ∃ pod ∈ pods, deletions (orchestrateIfPending unreadable found (listing answer pods) checker
        deletion store) = [pod.name]) := by
  rcases found with text | _ | sts
  · left
    simp [due]
  · left
    simp [due]
  · by_cases same : sts.updateRevision = sts.currentRevision
    · left
      cases answer <;> simp [due, same, restartDeletes]
    · have ran (listed : Except String (List Pod)) :
          deletions (orchestrateIfPending unreadable (.ok (some sts)) listed checker deletion store) =
            deletions (orchestrateRestart sts listed checker.isHealthyForRestart deletion true
              store) := by
        rcases restarted : orchestrateRestart sts listed checker.isHealthyForRestart deletion true
          store with ⟨result, after, log⟩
        cases result <;> simp [same, restarted]
      rw [ran]
      cases answer with
      | error =>
        left
        simp [due, listing, orchestrateRestart, same, Except.map]
      | ok =>
        cases deletes :
          restartDeletes sts pods (checker.isHealthyForRestart store).result deletion with
        | false =>
          exact .inl ⟨deletes,
            orchestrateRestart_waits sts pods checker deletion true store deletes⟩
        | true =>
          rcases (orchestrateRestart_deletes sts pods checker deletion true store deletes).1 with
            ⟨pod, owned, deleted, -⟩
          exact .inr ⟨deletes, pod, (mem_filter.mp owned).1, deleted⟩

/-- The call neither fails nor reports to be in progress. -/
def Passes (outcome : Outcome σ Event (Option RestartResult)) : Prop :=
  exists result, outcome.result = .ok result ∧ inProgress result = false

theorem passes_orchestrateIfPending_iff :
    Passes (orchestrateIfPending unreadable found (listing answer pods) checker deletion store) <->
      found = .ok none ∨ exists sts, found = .ok (some sts) ∧
        (sts.updateRevision = sts.currentRevision ∨ answer = .ok () ∧ outdatedPods sts pods = []) := by
  rcases found with text | _ | sts
  · simp [Passes]
  · simp [Passes, inProgress]
  · by_cases same : sts.updateRevision = sts.currentRevision
    · simp [Passes, same, inProgress]
    · have ran (listed : Except String (List Pod)) :
          Passes (orchestrateIfPending unreadable (.ok (some sts)) listed checker deletion store) <->
            ReportsSettled (orchestrateRestart sts listed checker.isHealthyForRestart deletion true
              store) := by
        rcases restarted : orchestrateRestart sts listed checker.isHealthyForRestart deletion true
          store with ⟨result, after, log⟩
        cases result <;>
          simp [Passes, ReportsSettled, same, restarted, inProgress]
      rw [ran]
      cases answer with
      | error => simp [ReportsSettled, listing, orchestrateRestart, same, Except.map]
      | ok done =>
        have listed : listing (.ok done) pods = .ok pods := rfl
        rw [listed, reportsSettled_iff]
        simp [same]

end Deletions

/-! ## Master after workers -/

section Order

variable {σ : Type} (manager : Bool) (input : ManagerRestartInput) (desired : Nat) (store : σ)

def WorkersDone : Prop :=
  match input.workerSts with
  | .error _ => False
  | .ok none => desired = 0
  | .ok (some sts) =>
    UpToDate sts desired input.workerPods ∧
      ∀ pod ∈ ownedPods sts input.workerPods, isPodReady pod = true

/-- The call deletes a master only when the workers are done. -/
def MasterAfterWorkers : Prop :=
  ∀ name ∈ deletions (orchestrateManagerRollingRestart manager input store),
    (∃ master ∈ input.masterPods, master.name = name) -> WorkersDone input desired

def masterHealth : Except String (Bool × String) :=
  let check : Proc Unit Event (Bool × String) := input.masterChecker.isHealthyForRestart
  (check ()).result

/-- The master's turn, as far as it is concerned: the orchestrator would delete it. -/
def masterDue : Bool :=
  due input.masterSts input.listMasters input.masterPods input.deleteMaster (masterHealth input)

theorem managerIsHealthyForRestart_result (listed : Except String (List Pod))
    (store : σ) (other : τ) :
    (managerIsHealthyForRestart listed store).result =
      (managerIsHealthyForRestart listed other).result := by
  cases listed with
  | error => simp [managerIsHealthyForRestart]
  | ok pods =>
    cases unready : pods.find? (fun pod => !isPodReady pod) <;>
      simp [managerIsHealthyForRestart, unready]

theorem ready_of_masterDue (due : masterDue input) :
    ∀ pod ∈ input.workerPods, isPodReady pod = true := by
  have healthy : exists reason, masterHealth input = .ok (true, reason) := by
    simp only [masterDue, Rolling.due] at due
    split at due
    · simp only [restartDeletes, Bool.and_eq_true] at due
      cases health : masterHealth input with
      | error => simp [health] at due
      | ok answer =>
        rcases answer with ⟨isHealthy, reason⟩
        simp only [health] at due
        exact ⟨reason, by rw [due.1.2]⟩
    · cases due
  rcases healthy with ⟨reason, answered⟩
  intro pod member
  cases checked : input.checkManagers with
  | error =>
    simp [masterHealth, ManagerRestartInput.masterChecker, managerWorkerHealthChecker,
      managerIsHealthyForRestart, checked, listing, Except.map] at answered
  | ok =>
    cases unready : (input.masterPods ++ input.workerPods).find? (fun pod => !isPodReady pod) with
    | some =>
      simp [masterHealth, ManagerRestartInput.masterChecker, managerWorkerHealthChecker,
        managerIsHealthyForRestart, checked, listing, Except.map, unready] at answered
    | none =>
      have ready := find?_eq_none.mp unready pod (mem_append_right _ member)
      simpa using ready

theorem deletions_workers : ∀ name ∈ deletions (orchestrateWorkerRestart input store),
      ¬ ∃ master ∈ input.masterPods, master.name = name := by
  intro name deleted
  rintro ⟨master, masterMember, named⟩
  rcases deletions_orchestrateIfPending "failed to get worker StatefulSet" input.workerSts
      input.listWorkers input.workerPods input.workerChecker input.deleteWorker store with
    ⟨_, nothing⟩ | ⟨_, worker, workerMember, only⟩
  · rw [orchestrateWorkerRestart, nothing] at deleted
    cases deleted
  · rw [orchestrateWorkerRestart, only, mem_singleton] at deleted
    exact input.distinct worker workerMember master masterMember (deleted.symm.trans named.symm)

theorem deletions_master : (∃ name ∈ deletions (orchestrateMasterRestart input store),
      ∃ master ∈ input.masterPods, master.name = name) <-> masterDue input = true := by
  have health : (input.masterChecker.isHealthyForRestart store).result = masterHealth input :=
    managerIsHealthyForRestart_result _ store ()
  rcases deletions_orchestrateIfPending "failed to get master StatefulSet" input.masterSts
      input.listMasters input.masterPods input.masterChecker input.deleteMaster store with
    ⟨undue, nothing⟩ | ⟨due, master, member, only⟩
  · rw [health] at undue
    simp [orchestrateMasterRestart, nothing, masterDue, undue]
  · rw [health] at due
    simp only [masterDue, due, iff_true]
    refine ⟨master.name, ?_, master, member, rfl⟩
    rw [orchestrateMasterRestart, only]
    exact mem_singleton_self _

theorem master_deleted_iff :
    (∃ name ∈ deletions (orchestrateManagerRollingRestart manager input store),
        ∃ master ∈ input.masterPods, master.name = name) <->
      manager ∧ Passes (orchestrateWorkerRestart input store) ∧ masterDue input = true := by
  cases manager with
  | false => simp [orchestrateManagerRollingRestart, deletions]
  | true =>
    have workers := deletions_workers input store
    rcases ran : orchestrateWorkerRestart input store with ⟨answer, after, log⟩
    rw [ran] at workers
    cases answer with
    | error =>
      have only : deletions (orchestrateManagerRollingRestart true input store) =
          log.filterMap Event.deletedPod := by
        simp [orchestrateManagerRollingRestart, deletions, ran]
      rw [only]
      constructor
      · rintro ⟨name, deleted, isMaster⟩
        exact absurd isMaster (workers name deleted)
      · rintro ⟨_, ⟨result, passed, _⟩, _⟩
        cases passed
    | ok result =>
      cases going : inProgress result with
      | true =>
        have only : deletions (orchestrateManagerRollingRestart true input store) =
            log.filterMap Event.deletedPod := by
          simp [orchestrateManagerRollingRestart, deletions, ran, going]
        rw [only]
        constructor
        · rintro ⟨name, deleted, isMaster⟩
          exact absurd isMaster (workers name deleted)
        · rintro ⟨_, ⟨_, passed, stopped⟩, _⟩
          cases passed
          rw [going] at stopped
          cases stopped
      | false =>
        have both : deletions (orchestrateManagerRollingRestart true input store) =
            log.filterMap Event.deletedPod ++
              deletions (orchestrateMasterRestart input after) := by
          rcases followed : orchestrateMasterRestart input after with ⟨later, last, more⟩
          cases later <;>
            simp [orchestrateManagerRollingRestart, deletions, ran, going, followed]
        rw [both, ← deletions_master input after]
        constructor
        · rintro ⟨name, deleted, isMaster⟩
          rcases mem_append.mp deleted with early | late
          · exact absurd isMaster (workers name early)
          · exact ⟨rfl, ⟨result, rfl, going⟩, name, late, isMaster⟩
        · rintro ⟨_, _, name, late, isMaster⟩
          exact ⟨name, mem_append_right _ late, isMaster⟩

/-- Equal revisions of the workers' StatefulSet go with no outdated worker, and when none is
outdated the desired ones are there. -/
def WorkersAccounted : Prop :=
  match input.workerSts with
  | .error _ => True
  | .ok none => desired = 0
  | .ok (some sts) =>
    (sts.updateRevision = sts.currentRevision -> outdatedPods sts input.workerPods = []) ∧
      (sts.updateRevision = sts.currentRevision ∨ input.listWorkers = .ok () ->
        outdatedPods sts input.workerPods = [] ->
          desired ≤ (ownedPods sts input.workerPods).length)

theorem workersDone_iff (passed : Passes (orchestrateWorkerRestart input store))
    (ready : ∀ pod ∈ input.workerPods, isPodReady pod) :
    WorkersDone input desired <-> WorkersAccounted input desired := by
  rw [orchestrateWorkerRestart, passes_orchestrateIfPending_iff] at passed
  rcases passed with absent | ⟨sts, found, passed⟩
  · rw [WorkersDone, WorkersAccounted, absent]
  · have ownedReady : ∀ pod ∈ ownedPods sts input.workerPods, isPodReady pod :=
      fun pod owned => ready pod (mem_filter.mp owned).1
    rw [WorkersDone, WorkersAccounted, found]
    simp only [UpToDate, ← outdatedPods_eq_nil_iff]
    constructor
    · rintro ⟨⟨there, updated⟩, _⟩
      exact ⟨fun _ => updated, fun _ _ => there⟩
    · rintro ⟨equalMeansUpdated, updatedMeansThere⟩
      refine ⟨?_, ownedReady⟩
      rcases passed with same | ⟨listed, updated⟩
      · exact ⟨updatedMeansThere (.inl same) (equalMeansUpdated same), equalMeansUpdated same⟩
      · exact ⟨updatedMeansThere (.inr listed) updated, updated⟩

theorem workersAccounted_of_not_passes
    (stopped : ¬ Passes (orchestrateWorkerRestart input store)) : WorkersAccounted input desired := by
  rw [orchestrateWorkerRestart, passes_orchestrateIfPending_iff] at stopped
  rw [WorkersAccounted]
  split
  · trivial
  · next absent => exact absurd (.inl absent) stopped
  · next sts found =>
      have pending := fun passed => stopped (.inr ⟨sts, found, passed⟩)
      constructor
      · exact fun same => absurd (.inl same) pending
      · rintro (same | listed) updated
        · exact absurd (.inl same) pending
        · exact absurd (.inr ⟨listed, updated⟩) pending

theorem masterAfterWorkers_iff : MasterAfterWorkers manager input desired store <->
      (manager -> masterDue input -> WorkersAccounted input desired) := by
  have deleted := master_deleted_iff manager input store
  constructor
  · intro ordered isManager due
    by_cases passed : Passes (orchestrateWorkerRestart input store)
    · rcases deleted.mpr ⟨isManager, passed, due⟩ with ⟨name, member, isMaster⟩
      apply (workersDone_iff input desired store passed (ready_of_masterDue input due)).mp
      exact ordered name member isMaster
    · exact workersAccounted_of_not_passes input desired store passed
  · intro accounted name member isMaster
    rcases deleted.mp ⟨name, member, isMaster⟩ with ⟨isManager, passed, due⟩
    apply (workersDone_iff input desired store passed (ready_of_masterDue input due)).mpr
    exact accounted isManager due

end Order

/-- What `Idle` and `Complete` mean for one StatefulSet, and what follows from it for the order of
workers and master. -/
theorem restart_reports_iff {σ : Type} (store : σ) (desired : Nat) (sts : RevisionedSet)
    (pods : List Pod) (healthy : Proc σ Event (Bool × String)) (deletion : WriteAnswer)
    (highestFirst manager : Bool) (input : ManagerRestartInput) :
    ((ReportsSettled (orchestrateRestart sts (.ok pods) healthy deletion highestFirst store) ->
          UpToDate sts desired pods) <->
        (sts.updateRevision = sts.currentRevision -> outdatedPods sts pods = []) ∧
          (outdatedPods sts pods = [] -> desired ≤ (ownedPods sts pods).length)) ∧
      (MasterAfterWorkers manager input desired store <->
        (manager = true -> masterDue input = true -> WorkersAccounted input desired)) := by
  refine ⟨?_, masterAfterWorkers_iff manager input desired store⟩
  rw [reportsSettled_iff, UpToDate, ← outdatedPods_eq_nil_iff]
  constructor
  · intro truthful
    exact ⟨fun same => (truthful (.inl same)).2, fun updated => (truthful (.inr updated)).1⟩
  · rintro ⟨equalMeansUpdated, updatedMeansThere⟩ (same | updated)
    · exact ⟨updatedMeansThere (equalMeansUpdated same), equalMeansUpdated same⟩
    · exact ⟨updatedMeansThere updated, updated⟩

namespace Sample

def revertedWorkers : RevisionedSet :=
  { workers with updateRevision := "first", currentRevision := "first" }

def master : RevisionedSet :=
  { name := "wazuh-manager-master", uid := "8", currentRevision := "old", updateRevision := "new",
    statusReplicas := 1 }

def masterPod : Pod :=
  { name := podName master.name 0, ownerUIDs := [master.uid], revision := "old",
    conditions := [("Ready", "True")] }

/-- Two of three workers are there, on a revision that is no longer wanted, and the master is to
be updated. -/
def afterRevert : ManagerRestartInput where
  workerSts := .ok (some revertedWorkers)
  masterSts := .ok (some master)
  workerPods := [readyPod 0, readyPod 1]
  masterPods := [masterPod]
  distinct := by decide
  listWorkers := .ok ()
  listMasters := .ok ()
  checkWorkers := .ok ()
  checkManagers := .ok ()
  deleteWorker := .accepted
  deleteMaster := .accepted

end Sample

open Sample

/-- The orchestrator reports `Idle` for the workers, of which one is missing and two are outdated,
and `Complete` where all three are missing; and the master is deleted. -/
theorem settled_with_outdated_workers :
    (ReportsSettled (orchestrateRestart revertedWorkers (.ok afterRevert.workerPods)
        afterRevert.workerChecker.isHealthyForRestart .accepted true ()) ∧
      ¬ UpToDate revertedWorkers 3 afterRevert.workerPods) ∧
    (ReportsSettled (orchestrateRestart workers (.ok [])
        afterRevert.workerChecker.isHealthyForRestart .accepted true ()) ∧
      ¬ UpToDate workers 3 []) ∧
    ¬ MasterAfterWorkers true afterRevert 3 () := by
  refine ⟨⟨⟨_, rfl, by decide⟩, ?_⟩, ⟨⟨_, rfl, by decide⟩, ?_⟩, ?_⟩
  · rintro ⟨there, _⟩
    revert there
    decide
  · rintro ⟨there, _⟩
    revert there
    decide
  · intro ordered
    rcases ordered masterPod.name (by decide) ⟨masterPod, mem_singleton_self _, rfl⟩
      with ⟨⟨there, _⟩, _⟩
    revert there
    decide

end Rolling
end WazuhOperator
