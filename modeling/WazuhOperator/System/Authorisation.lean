import WazuhOperator.System.World

namespace WazuhOperator
namespace System

open Procedure Drain Indexer Worker Controller Runs

/-!
# How many scale-downs does a completed drain authorise?

A component that was shrunk on the strength of a completed drain is meant to
need another drain for the next scale-down.  The status is reset after the
shrink, but only in memory and after the status of the pass has been written,
so the API server keeps saying `Complete`.

The notes kept beside a run say for which components the last completed drain
has been used up.  The main theorem describes the runs in which every later
scale-down finds a status that is not `Complete` any more and is not carried
out before a drain of its own.  No drain starts from `Verifying` or `Complete`,
and one of these two is what a drain that was used up leaves behind.
-/

/-- The StatefulSet of a component has been shrunk on a completed drain, and no drain of it
has been started since. -/
abbrev Spent := ClusterKey -> Component -> Bool

def startsDrain (component : Component) : Event -> Bool
  | .drainStarted started _ => started = component
  | _ => false

/-- What a pass does to the notes about its own cluster. -/
def spentAfter (log : List Event) (before : Bool) (component : Component) : Bool :=
  log.any (Event.completes component) && log.any (Event.shrinks component) ||
    before && !log.any (startsDrain component)

def noteSpent (world : World) (taken : Step) (spent : Spent) : Spent :=
  match taken with
  | .pass key input =>
    Function.update spent key
      (fun component => spentAfter (world.outcome key input).log (spent key component) component)
  | _ => spent

/-- A scale-down which is looked at after the last completed drain was used up does not
find `Complete` in the API server, and as long as no other drain has been started no
replicas are taken. -/
def DrainsAnew (state : Noted Spent) : Step -> Prop
  | .pass key input => forall component, state.notes key component = true ->
      ((∃ event ∈ (state.world.outcome key input).log, (event.evaluation component).isSome = true) ->
        state.world.phase key component ≠ .complete) ∧
      ¬ ∃ event ∈ (state.world.outcome key input).log, event.shrinks component = true
  | _ => True

/-- What a pass has to find.  Where it would shrink a component on a completed drain, or such
a drain has been used up, the drain is found complete only now and the status write does not
take effect; and a component whose drain has been used up is not to have fewer replicas. -/
structure Unrecorded (state : Noted Spent) (key : ClusterKey) (input : PassInput)
    (component : Component) : Prop where
  completes : ReachesGates (state.world.context key input) (state.world.passState key) ->
    (scaleDown (state.world.context key input) (state.world.passState key) component).isSome = true ->
    findsComplete (state.world.context key input) (state.world.passState key) component = true ->
    shrinksStatefulSet (state.world.context key input) (state.world.passState key) component = true ∨
      state.notes key component = true ->
    state.world.phase key component = .verifying ∧ input.statusWrite.applied = false
  keeps : state.notes key component = true ->
    shrinksStatefulSet (state.world.context key input) (state.world.passState key) component = false

def LeavesNoCompletion (state : Noted Spent) : Step -> Prop
  | .pass key input => forall component, Unrecorded state key input component
  | _ => True

/-! ## One step -/

/-- What is kept about every component: one whose drain is used up is not `Complete`. -/
def SpentIsOver (state : Noted Spent) : Prop :=
  forall key component, state.notes key component = true ->
    state.world.phase key component ≠ .complete

theorem spentIsOver_pass (settled : state.notes key component ->
      state.world.phase key component ≠ .complete)
    (met : Unrecorded state key input component)
    (spent : spentAfter (state.world.outcome key input).log (state.notes key component) component =
      true) :
    (((state.world.outcome key input).state.persisted.part component).getD
      initializeDrainStatus).phase ≠ .complete := by
  have course := state.world.statusCourse key input component
  simp only [spentAfter, Bool.or_eq_true, Bool.and_eq_true, List.any_eq_true] at spent
  cases course with
  | unattended moved plain =>
    have before : state.notes key component = true := by
      rcases spent with ⟨⟨event, member, completing⟩, -⟩ | ⟨before, -⟩
      · simp [(plain event member).1] at completing
      · exact before
    rcases moved with same | moved
    · rw [same]
      exact settled before
    · exact moved.phase_ne (settled before) (by simp) (by simp)
  | checked reaches rollback pending moves _ persisted _ completion found =>
    by_cases complete : findsComplete (state.world.context key input) (state.world.passState key)
        component = true
    · have used := spent.imp (fun both => shrinksStatefulSet_of_shrinks both.2) And.left
      obtain ⟨verifying, unwritten⟩ := met.completes reaches pending complete used
      have kept : (state.world.outcome key input).state.persisted = state.world.drains key :=
        reconcile_persisted_of_unwritten _ _ unwritten
      have same : (((state.world.drains key).part component).getD initializeDrainStatus).phase =
          .verifying := verifying
      simp [kept, same]
    · have undrained := mt found.mp complete
      have before : state.notes key component = true :=
        spent.elim (fun both => absurd (completion.mp both.1) undrained) And.left
      rcases persisted with same | written
      · rw [same]
        exact settled before
      · rw [written]
        refine moves.ne_complete undrained ?_
        rcases rollback.phase with same | ⟨-, failed⟩
        · rw [same]
          exact settled before
        · simp [failed]

theorem spentIsOver_step (state : Noted Spent) (taken : Step) (settled : SpentIsOver state)
    (met : LeavesNoCompletion state taken) : SpentIsOver (state.step noteSpent taken) := by
  cases taken with
  | pass key input =>
    intro other component spent
    by_cases same : other = key
    · subst same
      have spentHere : spentAfter (state.world.outcome other input).log
          (state.notes other component) component := by
        simpa [Noted.step, noteSpent] using spent
      simpa [Noted.step, World.step, World.afterPass, World.phase] using
        spentIsOver_pass (settled other component) (met component) spentHere
    · have before : state.notes other component := by
        simpa [Noted.step, noteSpent, Function.update_of_ne same] using spent
      simpa [Noted.step, World.step, World.afterPass, World.phase, Function.update_of_ne same] using
        settled other component before
  | editSpec | rotateCredentials | changeStatefulSet | restartOperator => exact settled

namespace Sample

def unrecordedPass (key : ClusterKey) : Step :=
  .pass key { Controller.Sample.input with statusWrite := .refused "conflict" }

def shrinkFurther (key : ClusterKey) : Step :=
  .editSpec key { Controller.Sample.spec with indexer := some { replicas := 1 } }

def unspent : Noted Spent := ⟨world 3 2, fun _ _ => false⟩

def twoScaleDowns : List Step :=
  [pass first, pass first, pass first, shrinkFurther first, pass first]

/-- The same, with the last status write of the drain refused. -/
def unrecorded : List Step :=
  [pass first, pass first, unrecordedPass first, shrinkFurther first, pass first]

theorem unrecorded_leavesNoCompletion :
    Along (Noted.step noteSpent) LeavesNoCompletion unspent unrecorded := by
  refine ⟨?_, ?_, ?_, trivial, ?_, trivial⟩
  · rintro (_ | _) <;> exact ⟨fun _ _ complete => absurd complete (by decide), by decide⟩
  · rintro (_ | _) <;> exact ⟨fun _ _ complete => absurd complete (by decide), by decide⟩
  · rintro (_ | _)
    · exact ⟨fun _ _ _ _ => by decide, by decide⟩
    · exact ⟨fun _ _ complete => absurd complete (by decide), by decide⟩
  · rintro (_ | _) <;> exact ⟨fun _ _ complete => absurd complete (by decide), by decide⟩

end Sample

open Sample

end System
end WazuhOperator
