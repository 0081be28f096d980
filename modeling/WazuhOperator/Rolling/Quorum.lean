import WazuhOperator.Library.Runs
import WazuhOperator.Rolling.Orchestrator

namespace WazuhOperator
namespace Rolling

open Procedure Proc Runs List

/-!
# Does a rolling restart keep the quorum?

The orchestrator deletes a pod when every pod it finds is ready.  A pod that
is not there at all, because it was deleted a moment ago and has not been
created again, or could not be, is not among those it finds.  So the question
is not answered by the readiness check but by whether all desired pods are
listed.

The health checker is arbitrary, except that it deletes no pods itself.
-/

/-- `HealthChecker`: anything that looks and answers. -/
structure HealthChecker (σ : Type) where
  isHealthyForRestart : Proc σ Event (Bool × String)
  harmless : forall store, ∀ event ∈ (isHealthyForRestart store).log, event.deletedPod = none

def indexerHealthChecker (σ : Type) (client : Client) (desiredNodeCount : Nat)
    (answer : Except String ClusterHealth) : HealthChecker σ where
  isHealthyForRestart := indexerIsHealthyForRestart client desiredNodeCount answer
  harmless := by
    have kept : Keeps (fun _ : σ => True) (fun event => event.deletedPod = none)
        (indexerIsHealthyForRestart client desiredNodeCount answer) :=
      keeps_indexerIsHealthyForRestart rfl
    exact fun store => (kept store trivial).2

def managerWorkerHealthChecker (σ : Type) (listed : Except String (List Pod)) :
    HealthChecker σ where
  isHealthyForRestart := managerIsHealthyForRestart listed
  harmless := by
    have kept : Keeps (fun _ : σ => True) (fun event => event.deletedPod = none)
        (managerIsHealthyForRestart listed) := by
      unfold managerIsHealthyForRestart
      apply Proc.keeps_bind (Proc.keeps_mapError (Proc.keeps_ofExcept _))
      intro pods
      split
      · exact Proc.keeps_pure _
      · exact Proc.keeps_pure _
    exact fun store => (kept store trivial).2

/-! ## One call -/

def Present (sts : RevisionedSet) (pods : List Pod) (ordinal : Nat) : Prop :=
  ∃ pod ∈ ownedPods sts pods, pod.name = podName sts.name ordinal

def Available (sts : RevisionedSet) (pods : List Pod) (ordinal : Nat) : Prop :=
  ∃ pod ∈ ownedPods sts pods, pod.name = podName sts.name ordinal ∧ isPodReady pod = true

/-- Whatever a call deletes, the other desired pods are there and ready. -/
def KeepsQuorum (sts : RevisionedSet) (desired : Nat) (pods : List Pod) (log : List Event) : Prop :=
  ∀ name ∈ log.filterMap Event.deletedPod, ∀ ordinal < desired,
    podName sts.name ordinal ≠ name -> Available sts pods ordinal

def restartDeletes (sts : RevisionedSet) (pods : List Pod) (answer : Except String (Bool × String))
    (deletion : WriteAnswer) : Bool :=
  sts.updateRevision ≠ sts.currentRevision && !(outdatedPods sts pods).isEmpty &&
    (ownedPods sts pods).all isPodReady &&
    (match answer with
      | .ok (healthy, _) => healthy
      | .error _ => false) &&
    deletion.applied

section Call

variable {σ : Type} (sts : RevisionedSet) (pods : List Pod) (checker : HealthChecker σ)
variable (deletion : WriteAnswer) (highestFirst : Bool) (store : σ)

theorem mem_deletionOrder {pod : Pod} {candidates : List Pod} :
    pod ∈ deletionOrder highestFirst candidates <-> pod ∈ candidates := by
  unfold deletionOrder
  split
  · exact (perm_insertionSort _ _).mem_iff
  · exact (perm_insertionSort _ _).mem_iff

theorem orchestrateRestart_waits
    (waits : restartDeletes sts pods (checker.isHealthyForRestart store).result deletion = false) :
    (orchestrateRestart sts (.ok pods) checker.isHealthyForRestart deletion highestFirst
      store).log.filterMap Event.deletedPod = [] := by
  by_cases same : sts.updateRevision = sts.currentRevision
  · simp [orchestrateRestart, same]
  · cases order : deletionOrder highestFirst (outdatedPods sts pods) with
    | nil => simp [orchestrateRestart, same, order]
    | cons pod =>
      have outdated : pod ∈ outdatedPods sts pods := by
        rw [← mem_deletionOrder highestFirst, order]
        exact mem_cons_self
      have nonempty : outdatedPods sts pods ≠ [] := ne_nil_of_mem outdated
      cases unready : (ownedPods sts pods).find? (fun pod => !isPodReady pod) with
      | some => simp [orchestrateRestart, same, order, unready]
      | none =>
        have ready : (ownedPods sts pods).all isPodReady := by
          simpa using unready
        have silent := checker.harmless store
        rcases ran : checker.isHealthyForRestart store with ⟨result, after, log⟩
        rw [ran] at silent waits
        have nothing : log.filterMap Event.deletedPod = [] :=
          filterMap_eq_nil_iff.mpr silent
        rcases result with text | ⟨healthy, reason⟩
        · simp [orchestrateRestart, same, order, unready, ran, nothing]
        · cases healthy with
          | false => simp [orchestrateRestart, same, order, unready, ran, nothing]
          | true =>
            have refused : deletion.applied = false := by
              simpa [restartDeletes, same, nonempty, ready] using waits
            cases told : deletion.toExcept with
            | error =>
              simp [orchestrateRestart, same, order, unready, ran, refused, told, nothing]
            | ok => simp [WriteAnswer.applied_of_toExcept told] at refused

theorem orchestrateRestart_deletes
    (deletes : restartDeletes sts pods (checker.isHealthyForRestart store).result deletion) :
    (∃ pod ∈ ownedPods sts pods,
        let ran := orchestrateRestart sts (.ok pods) checker.isHealthyForRestart deletion
          highestFirst store
        ran.log.filterMap Event.deletedPod = [pod.name] ∧
          (deletionOrder highestFirst (outdatedPods sts pods)).head? = some pod ∧
          forall result, ran.result = .ok result -> result.phase = .inProgress) ∧
      ∀ pod ∈ ownedPods sts pods, isPodReady pod = true := by
  simp only [restartDeletes, Bool.and_eq_true, decide_eq_true_eq] at deletes
  obtain ⟨⟨⟨⟨different, some_⟩, ready⟩, healthy⟩, applied⟩ := deletes
  have allReady : ∀ pod ∈ ownedPods sts pods, isPodReady pod := by simpa using ready
  refine ⟨?_, allReady⟩
  have unready : (ownedPods sts pods).find? (fun pod => !isPodReady pod) = none := by
    simpa using allReady
  cases order : deletionOrder highestFirst (outdatedPods sts pods) with
  | nil =>
    have empty : outdatedPods sts pods = [] := by
      apply eq_nil_iff_forall_not_mem.mpr
      intro pod member
      rw [← mem_deletionOrder highestFirst, order] at member
      cases member
    simp [empty] at some_
  | cons pod =>
    have outdated : pod ∈ outdatedPods sts pods := by
      rw [← mem_deletionOrder highestFirst, order]
      exact mem_cons_self
    refine ⟨pod, (mem_filter.mp outdated).1, ?_⟩
    have silent := checker.harmless store
    rcases ran : checker.isHealthyForRestart store with ⟨result, after, log⟩
    rw [ran] at silent healthy
    have nothing : log.filterMap Event.deletedPod = [] := filterMap_eq_nil_iff.mpr silent
    rcases result with text | ⟨isHealthy, reason⟩
    · cases healthy
    · simp only at healthy
      subst healthy
      cases told : deletion.toExcept with
      | error | ok =>
        simp [orchestrateRestart, different, order, unready, ran, applied, told, nothing,
          Event.deletedPod]

theorem keepsQuorum_iff (desired : Nat) :
    KeepsQuorum sts desired pods
        (orchestrateRestart sts (.ok pods) checker.isHealthyForRestart deletion highestFirst
          store).log <->
      restartDeletes sts pods (checker.isHealthyForRestart store).result deletion = false ∨
        ∀ ordinal < desired, Present sts pods ordinal := by
  cases deletes : restartDeletes sts pods (checker.isHealthyForRestart store).result deletion with
  | false =>
    have nothing := orchestrateRestart_waits sts pods checker deletion highestFirst store deletes
    simp [KeepsQuorum, nothing]
  | true =>
    obtain ⟨⟨victim, member, deleted⟩, ready⟩ :=
      orchestrateRestart_deletes sts pods checker deletion highestFirst store deletes
    constructor
    · intro kept
      right
      intro ordinal below
      -- The deleted pod itself is there; the others are by assumption.
      by_cases own : podName sts.name ordinal = victim.name
      · exact ⟨victim, member, own.symm⟩
      · obtain ⟨pod, found, named, _⟩ := kept victim.name (by simp [deleted]) ordinal below own
        exact ⟨pod, found, named⟩
    · rintro (impossible | present)
      · cases impossible
      · intro name _ ordinal below _
        obtain ⟨pod, found, named⟩ := present ordinal below
        exact ⟨pod, found, named, ready pod found⟩

end Call

/-! ## Calls between the doings of Kubernetes -/

/-- The pods of a StatefulSet, and the names of those which the orchestrator deleted and
which have not come back ready since.  A pod may stay listed while it terminates. -/
structure Fleet where
  pods : List Pod
  leaving : List String

/-- A call of the orchestrator with the revisions, the answer of the health checker and
the fate of the deletion at that moment; or Kubernetes terminates, creates and changes
pods as it likes, some of which are the replacements of deleted ones. -/
inductive FleetStep where
  | call (currentRevision updateRevision : String) (health : Except String (Bool × String))
      (deletion : WriteAnswer) (highestFirst : Bool)
  | kubernetes (pods : List Pod) (replaced : List String)

def atRevisions (sts : RevisionedSet) (currentRevision updateRevision : String) : RevisionedSet :=
  { sts with currentRevision := currentRevision, updateRevision := updateRevision }

def answering (answer : Except String (Bool × String)) : HealthChecker Unit where
  isHealthyForRestart := ofExcept answer
  harmless := by simp

def callEvents (sts : RevisionedSet) (pods : List Pod) (currentRevision updateRevision : String)
    (health : Except String (Bool × String)) (deletion : WriteAnswer) (highestFirst : Bool) :
    List Event :=
  (orchestrateRestart (atRevisions sts currentRevision updateRevision) (.ok pods)
    (answering health).isHealthyForRestart deletion highestFirst ()).log

def isBack (sts : RevisionedSet) (pods : List Pod) (replaced : List String) (name : String) : Bool :=
  replaced.contains name &&
    (ownedPods sts pods).any (fun pod => pod.name = name && isPodReady pod)

def Fleet.step (sts : RevisionedSet) (fleet : Fleet) : FleetStep -> Fleet
  | .call currentRevision updateRevision health deletion highestFirst =>
    { fleet with
      leaving :=
        (callEvents sts fleet.pods currentRevision updateRevision health deletion
          highestFirst).filterMap Event.deletedPod ++ fleet.leaving }
  | .kubernetes pods replaced =>
    { pods := pods, leaving := fleet.leaving.filter (fun name => !isBack sts pods replaced name) }

section Runs

variable (sts : RevisionedSet) (desired : Nat)

/-- Of the desired pods at most one is away because of the orchestrator. -/
def AtMostOneAway (fleet : Fleet) : Prop :=
  ∀ first < desired, ∀ second < desired, podName sts.name first ∈ fleet.leaving ->
    podName sts.name second ∈ fleet.leaving -> first = second

/-- A call deletes nothing, or finds all desired pods there and none of them leaving. -/
def CalledWhole (fleet : Fleet) : FleetStep -> Prop
  | .call currentRevision updateRevision health deletion _ =>
    restartDeletes (atRevisions sts currentRevision updateRevision) fleet.pods health deletion =
        false ∨
      ∀ ordinal < desired, Present sts fleet.pods ordinal ∧
        podName sts.name ordinal ∉ fleet.leaving
  | .kubernetes _ _ => True

def StepKeepsQuorum (fleet : Fleet) : FleetStep -> Prop
  | .call currentRevision updateRevision health deletion highestFirst =>
    KeepsQuorum (atRevisions sts currentRevision updateRevision) desired fleet.pods
      (callEvents sts fleet.pods currentRevision updateRevision health deletion highestFirst)
  | .kubernetes _ _ => True

theorem stepKeepsQuorum_of_calledWhole (fleet : Fleet) (step : FleetStep)
    (whole : CalledWhole sts desired fleet step) : StepKeepsQuorum sts desired fleet step := by
  cases step with
  | kubernetes pods replaced => trivial
  | call _ _ health deletion highestFirst =>
    apply (keepsQuorum_iff _ fleet.pods (answering health) deletion highestFirst () desired).mpr
    rcases whole with waits | whole
    · exact .inl waits
    · exact .inr (fun ordinal below => (whole ordinal below).1)

theorem atMostOneAway_step (fleet : Fleet) (step : FleetStep)
    (before : AtMostOneAway sts desired fleet) (whole : CalledWhole sts desired fleet step) :
    AtMostOneAway sts desired (Fleet.step sts fleet step) := by
  cases step with
  | kubernetes =>
    intro first firstBelow second secondBelow firstAway secondAway
    exact before first firstBelow second secondBelow (mem_filter.mp firstAway).1
      (mem_filter.mp secondAway).1
  | call currentRevision updateRevision health deletion highestFirst =>
    have waits := orchestrateRestart_waits (atRevisions sts currentRevision updateRevision)
      fleet.pods (answering health) deletion highestFirst ()
    have deletes := orchestrateRestart_deletes (atRevisions sts currentRevision updateRevision)
      fleet.pods (answering health) deletion highestFirst ()
    intro first firstBelow second secondBelow firstAway secondAway
    rcases whole with waiting | whole
    · simp only [Fleet.step, callEvents, waits waiting, nil_append] at firstAway secondAway
      exact before first firstBelow second secondBelow firstAway secondAway
    · cases decided : restartDeletes (atRevisions sts currentRevision updateRevision) fleet.pods
          health deletion with
      | false =>
        simp only [Fleet.step, callEvents, waits decided, nil_append] at firstAway secondAway
        exact before first firstBelow second secondBelow firstAway secondAway
      | true =>
        rcases deletes decided with ⟨⟨victim, member, deleted, -⟩, -⟩
        simp only [Fleet.step, callEvents, deleted, singleton_append, mem_cons,
          (whole first firstBelow).2, (whole second secondBelow).2, or_false] at firstAway secondAway
        exact podName_injective sts.name (firstAway.trans secondAway.symm)

end Runs

/-- A call keeps the quorum exactly if it deletes nothing or all desired pods are listed.
And in every run whose calls all find the desired pods whole, or delete nothing, each of
them keeps the quorum and at most one desired pod is away because of the orchestrator at
any time. -/
theorem rolling_restart_quorum (sts : RevisionedSet) (desired : Nat) :
    (forall (σ : Type) (store : σ) (pods : List Pod) (checker : HealthChecker σ)
        (deletion : WriteAnswer) (highestFirst : Bool),
      KeepsQuorum sts desired pods
          (orchestrateRestart sts (.ok pods) checker.isHealthyForRestart deletion highestFirst
            store).log <->
        restartDeletes sts pods (checker.isHealthyForRestart store).result deletion = false ∨
          ∀ ordinal < desired, Present sts pods ordinal) ∧
      forall (pods : List Pod) (steps : List FleetStep),
        Along (Fleet.step sts) (CalledWhole sts desired) ⟨pods, []⟩ steps ->
          Along (Fleet.step sts) (StepKeepsQuorum sts desired) ⟨pods, []⟩ steps ∧
            Throughout (Fleet.step sts) (AtMostOneAway sts desired) ⟨pods, []⟩ steps := by
  constructor
  · intro σ store pods checker deletion highestFirst
    exact keepsQuorum_iff sts pods checker deletion highestFirst store desired
  · intro pods steps met
    have nobody : AtMostOneAway sts desired ⟨pods, []⟩ := by
      intro first _ second _ away
      cases away
    have preserved := atMostOneAway_step sts desired
    exact ⟨along_of_invariant preserved
        (fun fleet step _ whole => stepKeepsQuorum_of_calledWhole sts desired fleet step whole)
        steps _ nobody met,
      throughout_of_invariant preserved (fun _ holds => holds) steps _ nobody met⟩

/-! ## The window after a deletion -/

namespace Sample

def workers : RevisionedSet :=
  { name := "wazuh-manager-worker", uid := "7", currentRevision := "old", updateRevision := "new",
    statusReplicas := 3 }

def readyPod (ordinal : Nat) : Pod :=
  { name := podName workers.name ordinal, ownerUIDs := [workers.uid], revision := "old",
    conditions := [("Ready", "True")] }

end Sample

open Sample

/-- Of three desired workers the third was deleted and is not listed yet.  The next call
finds the other two ready and healthy, and deletes the second. -/
theorem restart_deletes_into_gap : ¬ KeepsQuorum workers 3 [readyPod 0, readyPod 1]
      (orchestrateRestart workers (.ok [readyPod 0, readyPod 1])
        (managerWorkerHealthChecker Unit
          (.ok [readyPod 0, readyPod 1])).isHealthyForRestart
        .accepted true ()).log := by
  intro kept
  obtain ⟨pod, member, named, _⟩ := kept (podName workers.name 1) (by decide) 2 (by decide)
    (by decide)
  revert pod
  decide

end Rolling
end WazuhOperator
