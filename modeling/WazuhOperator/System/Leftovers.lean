import WazuhOperator.System.World

namespace WazuhOperator
namespace System

open Procedure Drain Indexer Worker Controller Runs

/-!
# What is left of a drain that is over?

A scale-down may be withdrawn while its drain is under way, or carried out.
In both cases a later pass with nothing to scale down should find, or leave,
no node excluded from allocation and a drain status that is `Idle` again.

A pass without a scale-down, however, neither clears the exclusion nor touches
the status, and no other pass ever writes `Idle`.  So such a pass leaves
nothing behind exactly when nothing had been excluded and no drain of the
cluster had ever been recorded.
-/

/-- The allocation exclusion behind each address. -/
abbrev Exclusions := String -> Option String

def noteExclusions (world : World) (taken : Step) (excluded : Exclusions) : Exclusions :=
  match taken with
  | .pass key input => fun url => exclusionAfter url (excluded url) (world.outcome key input).log
  | _ => excluded

def Unexcluded (state : Noted Exclusions) (key : ClusterKey) : Prop :=
  state.notes (openSearchURL state.world.domain key) = none

def DrainIdle (state : Noted Exclusions) (key : ClusterKey) : Prop :=
  state.world.phase key .indexer = .idle

def LeftClean (state : Noted Exclusions) (key : ClusterKey) : Prop :=
  Unexcluded state key ∧ DrainIdle state key

deriving instance Decidable for Unexcluded, DrainIdle, LeftClean

def OpenSearchAnswers.allSucceed (answers : OpenSearchAnswers) : Bool :=
  answers.shardCount.isOk && answers.relocatingShards.isOk && answers.setExclusion.toExcept.isOk &&
    answers.clearExclusion.toExcept.isOk

structure Settled (world : World) (key : ClusterKey) (input : PassInput) : Prop where
  succeeds : (world.outcome key input).result = .ok ()
  wanted : replicaCount (world.statefulSets key.nspace (indexerName key.name)) ≤
    (builtIndexer (world.context key input)).currentReplicas
  answered : OpenSearchAnswers.allSucceed input.openSearch = true

/-! ## The phase of a recorded drain -/

/-- A recorded drain stays recorded, whatever happens. -/
theorem phase_ne_idle_step (world : World) (taken : Step) (key : ClusterKey) (component : Component)
    (begun : world.phase key component ≠ .idle) : (world.step taken).phase key component ≠ .idle := by
  cases taken with
  | pass other input =>
    by_cases same : key = other
    · subst same
      have course := world.statusCourse key input component
      have written : (((world.outcome key input).state.persisted.part component).getD
          initializeDrainStatus).phase ≠ .idle := by
        cases course with
        | unattended moved =>
          rcases moved with same | moved
          · rw [same]
            exact begun
          · exact moved.phase_ne begun (by simp) (by simp)
        | checked _ rollback _ moves _ persisted =>
          rcases persisted with same | written
          · rw [same]
            exact begun
          · rw [written]
            apply moves.ne_idle
            rcases rollback.phase with kept | ⟨rollingBack, failed⟩
            · rw [kept]
              exact begun
            · simp [failed]
      simpa [World.phase, World.step, World.afterPass] using written
    · simpa [World.phase, World.step, World.afterPass, Function.update_of_ne same] using begun
  | editSpec | rotateCredentials | changeStatefulSet | restartOperator => exact begun

theorem drainIdle_of_step (state : Noted Exclusions) (taken : Step) (key : ClusterKey)
    (idle : DrainIdle (state.step noteExclusions taken) key) : DrainIdle state key := by
  by_contra begun
  exact phase_ne_idle_step state.world taken key .indexer begun idle

/-! ## A pass with nothing to scale down -/

section Pass

theorem exclusionAfter_concerning (url : String) (excluded : Option String) (log : List Event) :
    exclusionAfter url excluded (concerning .indexer log) = exclusionAfter url excluded log := by
  have dropped : forall (before : Option String) (event : Event),
      decide (event.about = some .indexer) = false ->
        event.applyExclusion url before = before ∧ True := by
    intro before event other
    cases event with
    | setExclusion | clearExclusion => cases other
    | _ => exact ⟨rfl, trivial⟩
  exact (run_along_filter dropped log excluded).1

theorem exclusionAfter_workload (url : String)
    (excluded : Option String) (workload : IndexerWorkload ctx found left log) :
    exclusionAfter url excluded log = excluded := by
  cases workload <;> rfl

theorem indexerScaleDown_eq_none
    (wanted : replicaCount (state.statefulSets ctx.indexerSts) ≤ (builtIndexer ctx).currentReplicas) :
    indexerScaleDown ctx state = none := by
  rcases pending : indexerScaleDown ctx state with none | info
  · rfl
  · rcases pendingScaleDown_eq_some pending with ⟨sts, count, present, desired, -, -, smaller, -⟩
    rw [present, builtIndexer_currentReplicas desired, replicaCount] at wanted
    omega

theorem pass_untouched (fresh : state.persisted.indexer = state.working.indexer)
    (absent : indexerScaleDown ctx state = none) (url : String) (excluded : Option String) :
    exclusionAfter url excluded (reconcile ctx state).log = excluded ∧
      ((state.working.indexer.getD initializeDrainStatus).phase = .idle ->
        ((reconcile ctx state).state.persisted.indexer.getD initializeDrainStatus).phase = .idle) := by
  have course := reconcile_indexerCourse ctx state
  rw [← exclusionAfter_concerning]
  generalize concerning .indexer (reconcile ctx state).log = log at course
  cases course with
  | unreached _ _ _ persisted =>
    refine ⟨rfl, fun idle => ?_⟩
    rcases persisted with same | moved
    · rw [same, fresh]
      exact idle
    · rw [moved.eq_of_ne (by simp [idle]) (by simp [idle])]
      exact idle
  | unchecked _ _ workload _ persisted =>
    refine ⟨exclusionAfter_workload url excluded workload, fun idle => ?_⟩
    rcases persisted with same | step
    · rw [same, fresh]
      exact idle
    · rw [step.eq_of_ne (by simp [idle])]
      exact idle
  | waited reaches pending | undrained reaches pending | drained reaches pending =>
    rw [absent] at pending
    cases pending

end Pass

theorem leftClean_pass_iff {state : Noted Exclusions} (settled : Settled state.world key input) :
    LeftClean (state.step noteExclusions (.pass key input)) key <-> LeftClean state key := by
  have absent : indexerScaleDown (state.world.context key input) (state.world.passState key) = none :=
    indexerScaleDown_eq_none settled.wanted
  have untouched := @pass_untouched (state.world.context key input) (state.world.passState key) rfl
    absent
  have setting : (state.step noteExclusions (.pass key input)).notes = state.notes := by
    funext url
    exact (untouched url (state.notes url)).1
  have unexcluded : Unexcluded (state.step noteExclusions (.pass key input)) key <->
      Unexcluded state key := by
    rw [Unexcluded, setting]
    exact Iff.rfl
  refine and_congr unexcluded ⟨?_, ?_⟩
  · exact drainIdle_of_step state (.pass key input) key
  · intro idle
    have kept := (untouched "" none).2 idle
    simpa [DrainIdle, Noted.step, World.phase, World.step, World.afterPass, DrainStatus.part,
      World.outcome] using kept

/-! ## Runs -/

/-- After any run, a pass that succeeds with nothing to scale down leaves the cluster clean
exactly when no node was excluded before it and no drain of the cluster was recorded at any
time of the run. -/
theorem leftClean_iff_never_drained (start : Noted Exclusions) (steps : List Step)
    (key : ClusterKey) (input : PassInput)
    (settled : Settled (run (Noted.step noteExclusions) start steps).world key input) :
    LeftClean (run (Noted.step noteExclusions) start (steps ++ [.pass key input])) key <->
      Unexcluded (run (Noted.step noteExclusions) start steps) key ∧
        Throughout (Noted.step noteExclusions) (DrainIdle · key) start steps := by
  rw [run_append]
  refine (leftClean_pass_iff settled).trans (and_congr_right fun _ => ⟨?_, ?_⟩)
  · intro idle
    apply throughout_of_run
    · exact fun state taken => drainIdle_of_step state taken key
    · exact idle
  · exact run_of_throughout steps start

/-! ## A scale-down withdrawn -/

namespace Sample

def unexcluded (indexers : Nat) : Noted Exclusions := ⟨world indexers 2, fun _ => none⟩

/-- A drain is started, and then three nodes are wanted again. -/
def withdrawn : List Step :=
  [pass first,
    .editSpec first { Controller.Sample.spec with indexer := some { replicas := 3 } }]

theorem withdrawn_settled :
    Settled (run (Noted.step noteExclusions) (unexcluded 3) withdrawn).world first Controller.Sample.input :=
  ⟨by decide, by decide, by decide⟩

end Sample

open Sample

/-- After the drain which was withdrawn. -/
theorem leftClean_iff_never_drained_withdrawn :
    LeftClean (run (Noted.step noteExclusions) (unexcluded 3) (withdrawn ++ [pass first])) first <->
      Unexcluded (run (Noted.step noteExclusions) (unexcluded 3) withdrawn) first ∧
        Throughout (Noted.step noteExclusions) (DrainIdle · first) (unexcluded 3) withdrawn :=
  leftClean_iff_never_drained (unexcluded 3) withdrawn first Controller.Sample.input withdrawn_settled

/-- A withdrawn scale-down leaves its node excluded and its drain in `Draining`. -/
theorem withdrawn_drain_left_behind :
    Settled (run (Noted.step noteExclusions) (unexcluded 3) withdrawn).world
        first Controller.Sample.input ∧
      ¬ LeftClean (run (Noted.step noteExclusions) (unexcluded 3)
        (withdrawn ++ [pass first])) first :=
  ⟨withdrawn_settled, by decide⟩

end System
end WazuhOperator
