import WazuhOperator.Cluster.Workload
import WazuhOperator.Rolling.Quorum

namespace WazuhOperator
namespace Rolling

open Procedure Runs

/-!
# Applying a new specification to a StatefulSet and its pods

A new specification reaches the pods in two ways.  The reconciler updates the
StatefulSet, and then its pods are replaced one by one, by the orchestrator
under `OnDelete` or by Kubernetes itself under `RollingUpdate`.  Or it deletes
the StatefulSet and creates it again, and the deletion takes all of its pods
along.  `NeedsStatefulSetRecreation` chooses the second way for a change of
the security context of the pods, which Kubernetes would update in place.
-/

/-! ## Changes in place -/

/-- The two differ only in what Kubernetes updates in place; of the other fields the reconciler
looks at the pod management policy alone. -/
def InPlace (found desired : StatefulSet) : Prop :=
  found.template.podManagementPolicy = desired.template.podManagementPolicy

/-- Kubernetes refuses an update for an immutable field only if it changes one. -/
def HonestRefusal (answers : WorkloadAnswers) (found desired : StatefulSet) : Prop :=
  answers.immutableField = true -> ¬ InPlace found (mergeStatefulSetUpdate found desired)

/-! ## The reconciliation -/

structure Application where
  noun : String
  needsUpdate : StatefulSet -> StatefulSet -> Bool
  answers : WorkloadAnswers
  desired : StatefulSet

def Application.reconcile (application : Application) : Proc (Option StatefulSet) Event Unit := do
  Proc.ofExcept application.answers.prepare
  reconcileStatefulSet application.noun application.needsUpdate application.answers
    application.desired

def takesDown : Event -> Bool
  | .statefulSetDeleted _ _ _ => true
  | _ => false

/-- The reconciliation gets as far as deleting a StatefulSet, if it means to. -/
def Application.reaches (application : Application) : Bool :=
  application.answers.prepare.isOk && application.answers.get.isOk &&
    application.answers.delete.applied

section Evaluation

attribute [local simp] Application.reconcile Application.reaches reconcileStatefulSet

variable (application : Application)

theorem reconcile_takesDown_iff (found : StatefulSet) (inPlace : InPlace found application.desired)
    (honest : HonestRefusal application.answers found application.desired) :
    (application.reconcile (some found)).log.any takesDown <->
      application.reaches ∧
        found.template.securityContext ≠ application.desired.template.securityContext := by
  rcases application with ⟨noun, needsUpdate, answers, desired⟩
  have samePolicy : found.template.podManagementPolicy = desired.template.podManagementPolicy :=
    inPlace
  have mutable : answers.immutableField = false := Bool.eq_false_iff.mpr fun refusal => honest refusal rfl
  cases prepared : answers.prepare with
  | error =>
    simp [prepared]
  | ok =>
    cases read : answers.get with
    | error =>
      simp [prepared, read]
    | ok =>
      by_cases same : found.template.securityContext = desired.template.securityContext
      · have stays : needsStatefulSetRecreation found desired = false := by
          simp [needsStatefulSetRecreation, same, samePolicy]
        cases changed : needsUpdate found desired with
        | false =>
          simp [prepared, read, stays, changed, same]
        | true =>
          cases update : answers.update <;>
            simp [prepared, read, stays, changed, same, update, mutable, takesDown]
      · have recreated : needsStatefulSetRecreation found desired := by
          simp [needsStatefulSetRecreation, same]
        cases deletion : answers.delete <;> cases creation : answers.create <;>
          simp [prepared, read, recreated, same, deletion, creation, takesDown]

theorem reconcile_none_keeps : (application.reconcile none).log.any takesDown = false := by
  rcases application with ⟨noun, needsUpdate, answers, desired⟩
  cases prepared : answers.prepare <;> cases read : answers.get <;>
    cases creation : answers.create <;>
    simp [prepared, read, creation, takesDown]

end Evaluation

/-! ## The StatefulSet together with its pods -/

structure Deployed where
  set : Option StatefulSet
  fleet : Fleet

/-- The reconciler applies a specification, the orchestrator and Kubernetes do what they do to the
pods, or Kubernetes replaces a pod in its own rolling update. -/
inductive DeployedStep where
  | apply (application : Application)
  | fleet (step : FleetStep)
  | rolls (name : String)

section System

variable (sts : RevisionedSet) (desired : Nat)

/-- The pods of a StatefulSet that is taken down are all on their way out. -/
def Deployed.apply (deployed : Deployed) (application : Application) : Deployed :=
  let outcome := application.reconcile deployed.set
  { set := outcome.state
    fleet :=
      if outcome.log.any takesDown then
        { deployed.fleet with
          leaving := (ownedPods sts deployed.fleet.pods).map Pod.name ++ deployed.fleet.leaving }
      else deployed.fleet }

def Fleet.whole (fleet : Fleet) : Bool :=
  (List.range desired).all fun ordinal =>
    (ownedPods sts fleet.pods).any
        (fun pod => pod.name = podName sts.name ordinal && isPodReady pod) &&
      !fleet.leaving.contains (podName sts.name ordinal)

/-- A rolling update of Kubernetes takes the next pod only when all are ready. -/
def Deployed.step (deployed : Deployed) : DeployedStep -> Deployed
  | .apply application => deployed.apply sts application
  | .fleet step => { deployed with fleet := deployed.fleet.step sts step }
  | .rolls name =>
    if deployed.fleet.whole sts desired then
      { deployed with fleet := { deployed.fleet with leaving := name :: deployed.fleet.leaving } }
    else deployed

/-- The specification differs from the one found in place, and in the security context only where
the reconciliation does not reach the deletion. -/
def AppliedInPlace (found : StatefulSet) (application : Application) : Prop :=
  InPlace found application.desired ∧
    HonestRefusal application.answers found application.desired ∧
    (application.reaches = true ->
      found.template.securityContext = application.desired.template.securityContext)

def GentleStep (deployed : Deployed) : DeployedStep -> Prop
  | .apply application => ∀ found ∈ deployed.set, AppliedInPlace found application
  | .fleet step => CalledWhole sts desired deployed.fleet step
  | .rolls _ => True

def KeepsSet (deployed : Deployed) : DeployedStep -> Prop
  | .apply application => (application.reconcile deployed.set).log.any takesDown = false
  | _ => True

/-! ## One application -/

variable {sts desired} {deployed : Deployed}

theorem not_atMostOneAway_of_takenDown {application : Application} (several : 1 < desired)
    (there : ∀ ordinal < desired, Available sts deployed.fleet.pods ordinal)
    (down : (application.reconcile deployed.set).log.any takesDown) :
    ¬ AtMostOneAway sts desired (deployed.apply sts application).fleet := by
  intro atMostOne
  have away (ordinal : Nat) (below : ordinal < desired) :
      podName sts.name ordinal ∈ (deployed.apply sts application).fleet.leaving := by
    rcases there ordinal below with ⟨pod, owned, named, _⟩
    simp only [Deployed.apply, down, if_true]
    apply List.mem_append_left
    exact List.mem_map.mpr ⟨pod, owned, named⟩
  have zeroBelow : 0 < desired := Nat.lt_of_succ_lt several
  have same := atMostOne 0 zeroBelow 1 several (away 0 zeroBelow) (away 1 several)
  cases same

variable {application : Application}

theorem apply_fleet_of_kept
    (kept : (application.reconcile deployed.set).log.any takesDown = false) :
    (deployed.apply sts application).fleet = deployed.fleet := by
  simp [Deployed.apply, kept]

theorem apply_atMostOneAway_iff (several : 1 < desired)
    (there : ∀ ordinal < desired, Available sts fleet.pods ordinal) (nobody : fleet.leaving = [])
    (inPlace : InPlace found application.desired)
    (honest : HonestRefusal application.answers found application.desired) :
    AtMostOneAway sts desired (Deployed.apply sts ⟨some found, fleet⟩ application).fleet <->
      (application.reaches ->
        found.template.securityContext = application.desired.template.securityContext) := by
  have taken := reconcile_takesDown_iff application found inPlace honest
  constructor
  · intro atMostOne reached
    by_contra different
    have down := taken.mpr ⟨reached, different⟩
    exact @not_atMostOneAway_of_takenDown sts desired ⟨some found, fleet⟩ application several there
      down atMostOne
  · intro unchanged
    have kept : (application.reconcile (some found)).log.any takesDown = false := by
      apply Bool.eq_false_iff.mpr
      intro down
      rcases taken.mp down with ⟨reached, different⟩
      exact different (unchanged reached)
    rw [apply_fleet_of_kept kept]
    intro first _ second _ away
    rw [nobody] at away
    cases away

/-! ## Runs -/

theorem keepsSet_of_gentle (deployed : Deployed) (step : DeployedStep)
    (gentle : GentleStep sts desired deployed step) : KeepsSet deployed step := by
  cases step with
  | fleet step | rolls name => trivial
  | apply application =>
    apply Bool.eq_false_iff.mpr
    intro down
    cases present : deployed.set with
    | none =>
      rw [present, reconcile_none_keeps] at down
      cases down
    | some found =>
      rcases gentle found present with ⟨inPlace, honest, unchanged⟩
      rw [present] at down
      rcases (reconcile_takesDown_iff application found inPlace honest).mp down with
        ⟨reached, different⟩
      exact different (unchanged reached)

theorem atMostOneAway_gentle (deployed : Deployed) (step : DeployedStep)
    (before : AtMostOneAway sts desired deployed.fleet)
    (gentle : GentleStep sts desired deployed step) :
    AtMostOneAway sts desired (deployed.step sts desired step).fleet := by
  cases step with
  | apply application =>
    have kept := keepsSet_of_gentle deployed (.apply application) gentle
    rw [Deployed.step, apply_fleet_of_kept kept]
    exact before
  | fleet step => exact atMostOneAway_step sts desired deployed.fleet step before gentle
  | rolls name =>
    rw [Deployed.step]
    split
    · next whole =>
        intro first firstBelow second secondBelow firstAway secondAway
        have others (ordinal : Nat) (below : ordinal < desired)
            (away : podName sts.name ordinal ∈ name :: deployed.fleet.leaving) :
            podName sts.name ordinal = name := by
          have staying := List.all_eq_true.mp whole ordinal (List.mem_range.mpr below)
          rcases List.mem_cons.mp away with named | leaving
          · exact named
          · simp [leaving] at staying
        exact podName_injective sts.name ((others first firstBelow firstAway).trans
          (others second secondBelow secondAway).symm)
    · exact before

end System

/-- Of several ready pods no more than one is made unavailable by an application just if it brings
no new security context, or does not reach the deletion.  And in every run whose steps are of this
kind, and whose calls of the orchestrator find the pods whole, the StatefulSet is never taken down
and at most one of the pods is away at any time. -/
theorem application_availability (sts : RevisionedSet) (desired : Nat) (several : 1 < desired) :
    (forall (found : StatefulSet) (fleet : Fleet) (application : Application),
      (∀ ordinal < desired, Available sts fleet.pods ordinal) -> fleet.leaving = [] ->
      InPlace found application.desired ->
      HonestRefusal application.answers found application.desired ->
        (AtMostOneAway sts desired (Deployed.apply sts ⟨some found, fleet⟩ application).fleet <->
          (application.reaches = true ->
            found.template.securityContext = application.desired.template.securityContext))) ∧
      forall (set : Option StatefulSet) (pods : List Pod) (steps : List DeployedStep),
        Along (Deployed.step sts desired) (GentleStep sts desired) ⟨set, ⟨pods, []⟩⟩ steps ->
          Along (Deployed.step sts desired) KeepsSet ⟨set, ⟨pods, []⟩⟩ steps ∧
            Throughout (Deployed.step sts desired)
              (fun deployed => AtMostOneAway sts desired deployed.fleet) ⟨set, ⟨pods, []⟩⟩ steps := by
  constructor
  · intro found fleet application there nobody inPlace honest
    exact apply_atMostOneAway_iff several there nobody inPlace honest
  · intro set pods steps gentle
    have nobody : AtMostOneAway sts desired (⟨pods, []⟩ : Fleet) := by
      intro first _ second _ away
      cases away
    have preserved := @atMostOneAway_gentle sts desired
    exact ⟨along_of_invariant preserved
        (fun deployed step _ asked => keepsSet_of_gentle deployed step asked) steps _ nobody gentle,
      throughout_of_invariant preserved (fun _ holds => holds) steps _ nobody gentle⟩

namespace Sample

def workersWith (securityContext tolerations : String) : StatefulSet where
  controller := none
  component := .manager
  replicas := some 3
  template :=
    { podManagementPolicy := "Parallel", securityContext := securityContext,
      tolerations := tolerations }

def applied (desired : StatefulSet) : Application where
  noun := "worker"
  needsUpdate := workerNeedsUpdate
  answers :=
    { prepare := .ok (), template := desired.template, get := .ok (), create := .accepted,
      delete := .accepted, update := .accepted, immutableField := false }
  desired := desired

def threeReady : Fleet := ⟨[readyPod 0, readyPod 1, readyPod 2], []⟩

theorem threeReady_available : ∀ ordinal < 3, Available workers threeReady.pods ordinal := by
  intro ordinal below
  refine ⟨readyPod ordinal, List.mem_filter.mpr ⟨?_, rfl⟩, rfl, rfl⟩
  have one : ordinal = 0 ∨ ordinal = 1 ∨ ordinal = 2 := by omega
  rcases one with rfl | rfl | rfl <;> simp [threeReady]

end Sample

open Sample

/-- New tolerations for three ready workers. -/
theorem application_availability_tolerations : AtMostOneAway workers 3
      (Deployed.apply workers ⟨some (workersWith "fsGroup: 101" ""), threeReady⟩
        (applied (workersWith "fsGroup: 101" "dedicated"))).fleet := by
  have decided := (application_availability workers 3 (by decide)).1
    (workersWith "fsGroup: 101" "") threeReady
    (applied (workersWith "fsGroup: 101" "dedicated")) threeReady_available rfl
    rfl (by intro refusal; cases refusal)
  exact decided.mpr (fun _ => rfl)

/-- A new security context for three ready workers takes all of them down. -/
theorem securityContext_takes_workers_down : let found := workersWith "fsGroup: 101" ""
    let application := applied (workersWith "fsGroup: 1000" "")
    InPlace found application.desired ∧
      (application.reconcile (some found)).log.any takesDown ∧
      ¬ AtMostOneAway workers 3
        (Deployed.apply workers ⟨some found, threeReady⟩ application).fleet := by
  refine ⟨rfl, by decide, ?_⟩
  exact not_atMostOneAway_of_takenDown (by decide) threeReady_available (by decide)

end Rolling
end WazuhOperator
