import WazuhOperator.Library.Procedure
import WazuhOperator.Cluster.Events

namespace WazuhOperator

open Procedure Proc

/-!
# Reconciling a StatefulSet

`reconcileStatefulSetNonBlocking` of the indexer and
`reconcileWorkersNonBlocking` of the manager end in the same decision: create
the StatefulSet, delete and create it again, update it, or leave it alone.
Neither asks whether the replica count goes down.  The two differ in the
changes they look for and in the wording of their errors.
-/

/-- `NeedsStatefulSetRecreation`: one of the two fields the code treats as immutable
differs. -/
def needsStatefulSetRecreation (current desired : StatefulSet) : Bool :=
  current.template.podManagementPolicy ≠ desired.template.podManagementPolicy ||
    current.template.securityContext ≠ desired.template.securityContext

def hashChanged (recorded computed : String) : Bool := computed ≠ "" && computed ≠ recorded

def indexerNeedsUpdate (found desired : StatefulSet) : Bool :=
  hashChanged found.template.specHash desired.template.specHash ||
    found.template.tolerations ≠ desired.template.tolerations ||
    found.template.affinity ≠ desired.template.affinity ||
    hashChanged found.template.certHash desired.template.certHash ||
    hashChanged found.template.configHash desired.template.configHash

/-- The update check of the manager workers, which also follows the rules and
decoders, in both directions. -/
def workerNeedsUpdate (found desired : StatefulSet) : Bool :=
  hashChanged found.template.certHash desired.template.certHash ||
    hashChanged found.template.configHash desired.template.configHash ||
    hashChanged found.template.specHash desired.template.specHash ||
    found.template.tolerations ≠ desired.template.tolerations ||
    found.template.affinity ≠ desired.template.affinity ||
    found.template.ruleHash ≠ desired.template.ruleHash ||
    found.template.decoderHash ≠ desired.template.decoderHash

/-- `MergeStatefulSetUpdate`: labels and annotations are merged, where the built object
wins, the controller reference, the replica count and the pod template are
overwritten, the rest is kept. -/
def mergeStatefulSetUpdate (current desired : StatefulSet) : StatefulSet :=
  { current with
    controller := desired.controller
    component := desired.component
    replicas := desired.replicas
    template :=
      { desired.template with
        podManagementPolicy := current.template.podManagementPolicy
        specHash :=
          if desired.template.specHash = "" then current.template.specHash
          else desired.template.specHash } }

structure WorkloadAnswers where
  /-- The steps before the StatefulSet is read, such as secrets, services and config maps. -/
  prepare : Except String Unit := .ok ()
  template : Template
  get : Except String Unit := .ok ()
  (create delete update : WriteAnswer := .accepted)
  /-- A refusal of the update is about an immutable field. -/
  immutableField : Bool := false

def createStatefulSet (answer : WriteAnswer) (desired : StatefulSet) :
    Proc (Option StatefulSet) Event Unit := do
  if answer.applied then
    modify (fun _ => some desired)
    emit (.statefulSetCreated desired.component desired.currentReplicas)
  ofExcept answer.toExcept

/-- `Delete` of a StatefulSet that is about to be created again as `desired`. -/
def deleteStatefulSet (answer : WriteAnswer) (found desired : StatefulSet) :
    Proc (Option StatefulSet) Event Unit := do
  if answer.applied then
    modify (fun _ => none)
    emit (.statefulSetDeleted desired.component found.currentReplicas desired.currentReplicas)
  ofExcept answer.toExcept

def updateStatefulSet (answer : WriteAnswer) (found desired : StatefulSet) :
    Proc (Option StatefulSet) Event Unit := do
  if answer.applied then
    modify (fun _ => some (mergeStatefulSetUpdate found desired))
    emit (.statefulSetUpdated desired.component found.currentReplicas desired.currentReplicas)
  ofExcept answer.toExcept

def reconcileStatefulSet (noun : String) (needsUpdate : StatefulSet -> StatefulSet -> Bool)
    (answers : WorkloadAnswers) (desired : StatefulSet) : Proc (Option StatefulSet) Event Unit := do
  mapError ("failed to get " ++ noun ++ " statefulset: " ++ ·) (ofExcept answers.get)
  match ← read with
  | none =>
    mapError ("failed to create " ++ noun ++ " statefulset: " ++ ·)
      (createStatefulSet answers.create desired)
  | some found =>
    if needsStatefulSetRecreation found desired then
      mapError ("failed to delete " ++ noun ++ " statefulset for recreation: " ++ ·)
        (deleteStatefulSet answers.delete found desired)
      mapError ("failed to create " ++ noun ++ " statefulset after recreation: " ++ ·)
        (createStatefulSet answers.create desired)
    else if needsUpdate found desired then
      match ← attempt (updateStatefulSet answers.update found desired) with
      | .ok () => return ()
      | .error text =>
        -- `RecreateStatefulSetOnError`: the next pass creates what is deleted here.
        if answers.immutableField && !answers.update.applied then
          mapError ("failed to update " ++ noun ++ " statefulset: " ++ ·)
            (deleteStatefulSet answers.delete found desired)
          fail "statefulset deleted for immutable field recreation"
        else
          fail ("failed to update " ++ noun ++ " statefulset: " ++ text)
    else return ()

/-! ## What a reconciliation can do -/

section Effect

variable (noun : String) (needsUpdate : StatefulSet -> StatefulSet -> Bool)
variable (answers : WorkloadAnswers) (found desired : StatefulSet)

/-- The reconciliation of an existing StatefulSet gets as far as a write that takes
effect, an update or a deletion. -/
def rewrites : Bool :=
  answers.prepare.isOk && answers.get.isOk &&
    if needsStatefulSetRecreation found desired then answers.delete.applied
    else
      needsUpdate found desired &&
        (answers.update.applied || (answers.immutableField && answers.delete.applied))

inductive WorkloadEffect :
    Option StatefulSet -> Option StatefulSet -> List Event -> Prop where
  | absent : WorkloadEffect none none []
  | created :
      WorkloadEffect none (some desired)
        [.statefulSetCreated desired.component desired.currentReplicas]
  | untouched {found : StatefulSet}
      (kept : rewrites needsUpdate answers found desired = false) :
      WorkloadEffect (some found) (some found) []
  | updated {found : StatefulSet}
      (written : rewrites needsUpdate answers found desired = true) :
      WorkloadEffect (some found) (some (mergeStatefulSetUpdate found desired))
        [.statefulSetUpdated desired.component found.currentReplicas desired.currentReplicas]
  | deleted {found : StatefulSet}
      (written : rewrites needsUpdate answers found desired = true) :
      WorkloadEffect (some found) none
        [.statefulSetDeleted desired.component found.currentReplicas desired.currentReplicas]
  | recreated {found : StatefulSet}
      (written : rewrites needsUpdate answers found desired = true) :
      WorkloadEffect (some found) (some desired)
        [.statefulSetDeleted desired.component found.currentReplicas desired.currentReplicas,
          .statefulSetCreated desired.component desired.currentReplicas]

@[simp] theorem createStatefulSet_apply (answer : WriteAnswer) (before : Option StatefulSet) :
    createStatefulSet answer desired before =
      ⟨answer.toExcept, if answer.applied then some desired else before,
        if answer.applied then
          [.statefulSetCreated desired.component desired.currentReplicas]
        else []⟩ := by
  cases answer <;> simp [createStatefulSet]

@[simp] theorem deleteStatefulSet_apply (answer : WriteAnswer) (before : Option StatefulSet) :
    deleteStatefulSet answer found desired before =
      ⟨answer.toExcept, if answer.applied then none else before,
        if answer.applied then
          [.statefulSetDeleted desired.component found.currentReplicas desired.currentReplicas]
        else []⟩ := by
  cases answer <;> simp [deleteStatefulSet]

@[simp] theorem updateStatefulSet_apply (answer : WriteAnswer) (before : Option StatefulSet) :
    updateStatefulSet answer found desired before =
      ⟨answer.toExcept, if answer.applied then some (mergeStatefulSetUpdate found desired) else before,
        if answer.applied then
          [.statefulSetUpdated desired.component found.currentReplicas desired.currentReplicas]
        else []⟩ := by
  cases answer <;> simp [updateStatefulSet]

section Branches

/-- Reconciling the stored StatefulSet has one of the effects above. -/
def TakesEffect (before : Option StatefulSet) : Prop :=
  let outcome := reconcileStatefulSet noun needsUpdate answers desired before
  WorkloadEffect needsUpdate answers desired before outcome.state outcome.log

attribute [local simp] reconcileStatefulSet rewrites TakesEffect

theorem reconcileStatefulSet_recreation (prepared : answers.prepare = .ok ())
    (read : answers.get = .ok ()) (recreation : needsStatefulSetRecreation found desired) :
    TakesEffect noun needsUpdate answers desired (some found) := by
  have written (removed : answers.delete.applied) : rewrites needsUpdate answers found desired := by
    simp [prepared, read, recreation, removed]
  cases deletion : answers.delete with
  | accepted =>
    cases creation : answers.create with
    | accepted | unacknowledged text =>
      simpa [read, recreation, deletion, creation] using
        WorkloadEffect.recreated (written (by simp [deletion]))
    | refused =>
      simpa [read, recreation, deletion, creation] using
        WorkloadEffect.deleted (written (by simp [deletion]))
  | refused =>
    have kept : rewrites needsUpdate answers found desired = false := by
      simp [recreation, deletion]
    simpa [read, recreation, deletion] using WorkloadEffect.untouched kept
  | unacknowledged =>
    simpa [read, recreation, deletion] using WorkloadEffect.deleted (written (by simp [deletion]))

theorem reconcileStatefulSet_update (prepared : answers.prepare = .ok ())
    (read : answers.get = .ok ())
    (noRecreation : needsStatefulSetRecreation found desired = false)
    (changed : needsUpdate found desired) :
    TakesEffect noun needsUpdate answers desired (some found) := by
  cases update : answers.update with
  | accepted | unacknowledged text =>
    have written : rewrites needsUpdate answers found desired := by
      simp [prepared, read, noRecreation, changed, update]
    simpa [read, noRecreation, changed, update] using WorkloadEffect.updated written
  | refused text =>
    cases immutable : answers.immutableField with
    | false =>
      have kept : rewrites needsUpdate answers found desired = false := by simp [noRecreation, update, immutable]
      simpa [read, noRecreation, changed, update, immutable] using WorkloadEffect.untouched kept
    | true =>
      cases deletion : answers.delete with
      | accepted | unacknowledged text =>
        have written : rewrites needsUpdate answers found desired := by
          simp [prepared, read, noRecreation, changed, immutable, deletion]
        simpa [read, noRecreation, changed, update, immutable, deletion] using WorkloadEffect.deleted written
      | refused =>
        have kept : rewrites needsUpdate answers found desired = false := by simp [noRecreation, update, deletion]
        simpa [read, noRecreation, changed, update, immutable, deletion] using WorkloadEffect.untouched kept

theorem reconcileStatefulSet_effect (prepared : answers.prepare = .ok ())
    (before : Option StatefulSet) :
    TakesEffect noun needsUpdate answers desired before := by
  cases read : answers.get with
  | error =>
    cases before with
    | none => simpa [read] using WorkloadEffect.absent
    | some found =>
      have kept : rewrites needsUpdate answers found desired = false := by
        simp [read]
      simpa [read] using WorkloadEffect.untouched kept
  | ok =>
    cases before with
    | none =>
      cases creation : answers.create with
      | accepted | unacknowledged text =>
        simpa [read, creation] using WorkloadEffect.created
      | refused =>
        simpa [read, creation] using WorkloadEffect.absent
    | some found =>
      cases recreation : needsStatefulSetRecreation found desired with
      | true =>
        exact reconcileStatefulSet_recreation noun needsUpdate answers found desired prepared
          read recreation
      | false =>
        cases changed : needsUpdate found desired with
        | true =>
          exact reconcileStatefulSet_update noun needsUpdate answers found desired prepared
            read recreation changed
        | false =>
          have kept : rewrites needsUpdate answers found desired = false := by
            simp [recreation, changed]
          simpa [read, recreation, changed] using
            WorkloadEffect.untouched kept

end Branches

variable {needsUpdate : StatefulSet -> StatefulSet -> Bool} {answers : WorkloadAnswers}
variable {desired : StatefulSet} {after : Option StatefulSet} {found : StatefulSet}

theorem WorkloadEffect.about (effect : WorkloadEffect needsUpdate answers desired before after log) :
    ∀ event ∈ log, event.about = some desired.component := by
  cases effect <;> simp [Event.about]

theorem WorkloadEffect.plain (effect : WorkloadEffect needsUpdate answers desired before after log) :
    ∀ event ∈ log, event.plain = true := by
  cases effect <;> simp [Event.plain]

variable (effect : WorkloadEffect needsUpdate answers desired (some found) after log)
include effect

theorem WorkloadEffect.shrinks_iff :
    (∃ event ∈ log, event.shrinks desired.component) <->
      rewrites needsUpdate answers found desired ∧
        desired.currentReplicas < found.currentReplicas := by
  cases effect with
  | untouched kept => simp [kept]
  | updated written | deleted written | recreated written => simp [written]

theorem WorkloadEffect.shrinks_after_iff (quiet : ∀ event ∈ first, event.shrink = none)
    (smaller : desired.currentReplicas < found.currentReplicas) :
    (∃ event ∈ first ++ log, event.shrinks desired.component) <->
      rewrites needsUpdate answers found desired = true := by
  constructor
  · rintro ⟨event, member, shrinking⟩
    rcases List.mem_append.mp member with earlier | written
    · simp [Event.shrinks, quiet event earlier] at shrinking
    · exact (effect.shrinks_iff.mp ⟨event, written, shrinking⟩).1
  · intro written
    obtain ⟨event, member, shrinking⟩ := effect.shrinks_iff.mpr ⟨written, smaller⟩
    exact ⟨event, List.mem_append_right first member, shrinking⟩

theorem WorkloadEffect.change :
    ∀ event ∈ log, ∀ change ∈ event.shrink,
      change = (desired.component, found.currentReplicas, desired.currentReplicas) := by
  cases effect <;> simp [Event.shrink] <;> intros <;> simp_all

omit effect

theorem WorkloadEffect.quiet (effect : WorkloadEffect needsUpdate answers desired before after log)
    (component : Component) :
    ∀ event ∈ log, event.completes component = false ∧ event.evaluation component = none ∧
      forall pod, event.verifies component pod = false := by
  cases effect <;> simp [Event.completes, Event.evaluation, Event.verifies]

/-- Replicas are taken only from a StatefulSet that is written with fewer of them. -/
theorem WorkloadEffect.rewrites_of_shrinks (effect : WorkloadEffect needsUpdate answers desired before after log)
    (shrunk : ∃ event ∈ log, event.shrinks desired.component) :
    before.any (fun found => rewrites needsUpdate answers found desired &&
      decide (desired.currentReplicas < found.currentReplicas)) = true := by
  cases effect with
  | absent | created | untouched kept => simp at shrunk
  | updated written | deleted written | recreated written => simpa [written] using shrunk

end Effect

end WazuhOperator
