import WazuhOperator.Cluster.Events
import WazuhOperator.Library.Drafts
import WazuhOperator.Library.Runs
import WazuhOperator.Security.Reconcilers

namespace WazuhOperator
namespace Finalizers

open Drafts Procedure Proc

/-!
# The finalizers of the OpenSearch resources

The reconcilers of roles, users, indices, policies and repositories begin
alike: a missing finalizer is added, and only then a pass asks whether the
object is being deleted.  Here a pass works on a cache which may lag behind.
-/

/-- What the frame of a pass reads and writes of an object; `held` says that there are
finalizers of others, too. -/
structure Object where
  (finalizer held deletionTimestamp : Bool := false)
  deriving DecidableEq

abbrev Desk : Type := Draft Object

/-- The answers a pass gets; `rest` is what becomes of it once the object is to live. -/
structure Answers where
  get : Except String Unit := .ok ()
  (addFinalizer removeFinalizer : WriteAnswer := .accepted)
  rest : Except String Unit := .ok ()

def Object.settle (object : Object) : Option Object :=
  if object.deletionTimestamp && !object.finalizer && !object.held then none else some object

/-- `AddFinalizer` or `RemoveFinalizer`, and `Update`; what is recorded is the object of the request. -/
def update (answer : WriteAnswer) (finalizer : Bool) : Proc Desk Object Unit := do
  modify fun desk => { desk with copy := { desk.copy with finalizer } }
  let desk ← read
  emit desk.copy
  if desk.fresh then
    if answer.applied then
      modify fun desk => { desk with object := desk.object.write desk.copy.settle }
    ofExcept answer.toExcept
  else
    fail conflict

def addFinalizer (answers : Answers) : Proc Desk Object Unit := do
  let desk ← read
  if desk.copy.finalizer then pure ()
  else mapError ("failed to add finalizer: " ++ ·) (update answers.addFinalizer true)

/-- `Reconcile`.  The clean-up in OpenSearch does not keep `handleDeletion` from removing the finalizer, and
the rest of a pass writes only the status. -/
def reconcile (answers : Answers) : Proc Desk Object Unit := do
  addFinalizer answers
  let desk ← read
  if desk.copy.deletionTimestamp then update answers.removeFinalizer false
  else ofExcept answers.rest

def pass (answers : Answers) (object : Feed (Option Object)) : Feed (Option Object) × List Object :=
  match answers.get, object.shown with
  | .ok _, some copy =>
    let outcome := reconcile answers ⟨object, copy, object.upToDate⟩
    (outcome.state.object, outcome.log)
  | _, _ => (object, [])

/-- The moves of a run; `write` is one of somebody else. -/
inductive Move where
  | pass (answers : Answers)
  | write (object : Option Object)
  | deliver
  | restart

def step (object : Feed (Option Object)) : Move -> Feed (Option Object)
  | .pass answers => (pass answers object).1
  | .write next => object.write next
  | .deliver => object.deliver
  | .restart => object.settle

/-- No request of a pass puts the finalizer on an object which is being deleted, and none such
has it back after the pass. -/
def SparesDying (object : Feed (Option Object)) : Move -> Prop
  | .pass answers =>
    (∀ request ∈ (pass answers object).2, request.deletionTimestamp = true -> request.finalizer = false) ∧
      ∀ dying ∈ object.stored, dying.deletionTimestamp = true -> dying.finalizer = false ->
        ∀ later ∈ (pass answers object).1.stored, later.finalizer = false
  | _ => True

def FindsFinalizer (object : Feed (Option Object)) : Move -> Prop
  | .pass answers => answers.get.isOk = true -> ∀ copy ∈ object.shown,
      copy.deletionTimestamp = true -> copy.finalizer = true
  | _ => True

theorem update_apply (answer : WriteAnswer) (finalizer : Bool) (desk : Desk) :
    update answer finalizer desk =
      ⟨if desk.fresh then answer.toExcept else .error conflict,
        { desk with
          copy := { desk.copy with finalizer }
          object := if desk.fresh && answer.applied then
            desk.object.write { desk.copy with finalizer }.settle else desk.object },
        [{ desk.copy with finalizer }]⟩ := by
  rcases desk with ⟨object, copy, fresh⟩
  cases fresh <;> cases answer <;> simp [update]

section Frame

variable {α : Type} {kind : Security.Kind} {input : Security.ReconcileInput}
  {delete sync : Proc (Security.Resource α) Security.SecurityEvent Unit}

def Object.ofResource (held : Bool) (resource : Security.Resource α) : Object :=
  ⟨resource.finalized, held, resource.deleting⟩

/-- The frame which the reconcilers of users, roles and role mappings share is this one, for a copy
which is up to date. -/
theorem reconcileResource_framed (told : answer.toExcept = input.update)
    (deletes : forall resource, (delete resource).state = resource)
    (syncs : forall resource, (sync resource).state.finalized = resource.finalized ∧
      (sync resource).state.deleting = resource.deleting)
    (resource : Security.Resource α) (object : Feed (Option Object)) :
    let outcome := Security.reconcileResource kind input delete sync resource
    let framed := reconcile ⟨.ok (), answer, answer, (sync { resource with finalized := true }).result⟩
      ⟨object, .ofResource held resource, true⟩
    framed.result = outcome.result ∧ framed.state.copy = .ofResource held outcome.state := by
  rcases resource with ⟨name, nspace, clusterRef, spec, finalized, deleting, status⟩
  cases finalized <;> cases deleting <;> cases updated : input.update <;>
    simp [reconcile, addFinalizer, update_apply, Object.ofResource, told, updated, Security.reconcileResource,
      Security.addFinalizer, Security.updateResource, Security.handleDeletion, deletes, syncs]

end Frame

theorem sparesDying_iff (object : Feed (Option Object)) (move : Move) :
    SparesDying object move <-> FindsFinalizer object move := by
  cases move with
  | write | deliver | restart => exact Iff.rfl
  | pass answers =>
    simp only [SparesDying, FindsFinalizer, pass]
    cases answers.get with
    | error => simp +contextual
    | ok =>
      cases shown : object.shown with
      | none => simp +contextual
      | some copy =>
        rcases copy with ⟨finalizer, held, dying⟩
        cases fresh : object.upToDate with
        | false =>
          cases finalizer <;> cases dying <;>
            simp +contextual [reconcile, addFinalizer, update_apply]
        | true =>
          have stored := (Feed.stored_eq_shown fresh).trans shown
          cases added : answers.addFinalizer.toExcept <;> cases finalizer <;> cases dying <;>
            simp [reconcile, addFinalizer, update_apply, stored, added]

/-- Along every run the passes spare the objects which are being deleted exactly if they find their
finalizer on them. -/
theorem finalizers_not_put_back_iff (object : Feed (Option Object)) (moves : List Move) :
    Runs.Along step SparesDying object moves <-> Runs.Along step FindsFinalizer object moves :=
  Runs.along_congr sparesDying_iff moves object

/-- An index that somebody else's finalizer holds back gets ours again. -/
theorem held_index_finalized_again : ¬ Runs.Along step SparesDying
    { shown := some { finalizer := true, held := true, deletionTimestamp := true } }
    [.pass {}, .deliver, .pass {}] := by
  rintro ⟨_, _, spares, _⟩
  cases spares.1 ⟨true, true, true⟩ (by decide +kernel) rfl

end Finalizers
end WazuhOperator
