import WazuhOperator.NodePools.Gate

namespace WazuhOperator
namespace NodePools

open Procedure Proc Drain Reporting

/-!
# The turn of one pool

What `reconcileAdvancedMode` does for one pool of the specification
(`internal/opensearch/reconciler/indexer_reconciler.go`): the status of the
pool is set to `Creating`, its StatefulSet is created or updated, and the
status is then read off from the StatefulSet.

The drain check is a parameter of the turn.  Questions about updates and
statuses are asked for every answer of it; the gate itself is put in its place
where scale-downs are followed through a run.
-/

/-! ## The StatefulSet -/

structure TurnInput where
  now : Time
  /-- The namespace of the cluster, for the texts of errors. -/
  inNamespace : String := "default"
  /-- The ConfigMap and the Service of the pool. -/
  prepare : Except String Unit := .ok ()
  /-- The service account, and the hash of the ConfigMap as it is stored. -/
  build : Except String BuildInput := .ok {}
  get : Except String Unit := .ok ()
  (create update : WriteAnswer := .accepted)
  /-- The error of the update is about an immutable field. -/
  immutable : Bool := false
  delete : WriteAnswer := .accepted
  /-- The last look at the StatefulSet, for the status. -/
  reread : Except String Unit := .ok ()

section Turn

variable (sha : String -> String) (clusterName : String) (spec : AdvancedSpec) (pool : IndexerNodePoolSpec)
variable (input : TurnInput)

def request (answer : WriteAnswer) (effect : Proc PoolStore PoolEvent Unit) :
    Proc PoolStore PoolEvent (Except String Unit) :=
  if answer.applied then do
    effect
    return answer.toExcept
  else return answer.toExcept

def createStatefulSet (built : PoolStatefulSet) : Proc PoolStore PoolEvent Unit := do
  let told ← request input.create do
    emit (.statefulSetCreated pool.name built.replicas)
    modify fun store => store.setStatefulSet pool.name (some built)
  ofExcept (told.mapError ("failed to create statefulset: " ++ ·))

def applyUpdate (found built : PoolStatefulSet) (reason : Option Reason) : Proc PoolStore PoolEvent Unit := do
  let store ← read
  emit (.statefulSetUpdated pool.name found.replicas built.replicas reason (store.emptiedNodes pool.name))
  modify fun store => store.setStatefulSet pool.name (some (mergeNodePoolUpdate found built))

/-- `RecreateStatefulSetOnError`, and the error the caller returns in any case. -/
def recreateOnError (text : String) : Proc PoolStore PoolEvent Unit :=
  if input.immutable then do
    let told ← request input.delete do
      emit (.statefulSetRecreated pool.name)
      modify fun store => store.setStatefulSet pool.name none
    match told with
    | .error cause => fail ("failed to update statefulset: " ++ cause)
    | .ok () =>
      fail ("statefulset " ++ input.inNamespace ++ "/" ++ indexerNodePoolName clusterName pool.name ++
        " deleted for immutable field recreation")
  else fail ("failed to update statefulset: " ++ text)

def updateStatefulSet (found built : PoolStatefulSet) (reason : Option Reason) :
    Proc PoolStore PoolEvent Unit := do
  match ← request input.update (applyUpdate pool found built reason) with
  | .error text => recreateOnError clusterName pool input text
  | .ok () => return ()

def reconcileFound (check : Nat -> Proc PoolStore PoolEvent (Ending Decision)) (found built : PoolStatefulSet) :
    Proc PoolStore PoolEvent (Ending Unit) :=
  if built.replicas < found.replicas then do
    match ← mapError ("failed to check scale-down drain: " ++ ·) (check found.replicas) with
    | .panicked => return .panicked
    | .returned .wait => return .returned ()
    | .returned (.proceed reason) =>
      updateStatefulSet clusterName pool input found built (some reason)
      return .returned ()
  else if nodePoolNeedsUpdate sha found built then do
    updateStatefulSet clusterName pool input found built none
    return .returned ()
  else return .returned ()

def reconcileNodePoolStatefulSet (check : Nat -> Proc PoolStore PoolEvent (Ending Decision)) :
    Proc PoolStore PoolEvent (Ending Unit) := do
  let given ← ofExcept input.build
  let built := buildNodePoolStatefulSet clusterName spec pool given
  ofExcept (input.get.mapError ("failed to get statefulset: " ++ ·))
  let store ← read
  match store.statefulSets pool.name with
  | none =>
    createStatefulSet pool input built
    return .returned ()
  | some found => reconcileFound sha clusterName pool input check found built

/-! ## The status -/

def setPoolStatus (status : PoolStatus) : Proc PoolStore PoolEvent Unit :=
  modify fun store =>
    { store with poolStatuses := Function.update store.poolStatuses pool.name (some status) }

def updateNodePoolStatus (phase : NodePoolPhase) (message : String) : Proc PoolStore PoolEvent Unit := do
  let store ← read
  setPoolStatus pool
    { (store.poolStatuses pool.name).getD { name := pool.name } with
      name := pool.name
      phase := some phase
      message := message
      statefulSetName := indexerNodePoolName clusterName pool.name
      lastTransitionTime := some input.now }

/-- `updateNodePoolStatusFromSts`, with the phase its caller determines. -/
def updateNodePoolStatusFromSts (sts : PoolStatefulSet) : Proc PoolStore PoolEvent Unit := do
  let store ← read
  let existing := store.poolStatuses pool.name
  let phase := getNodePoolPhase sts.replicas sts.readyReplicas sts.updatedReplicas
  setPoolStatus pool
    { existing.getD { name := pool.name } with
      name := pool.name
      replicas := sts.replicas
      readyReplicas := sts.readyReplicas
      phase := some phase
      statefulSetName := indexerNodePoolName clusterName pool.name
      lastTransitionTime :=
        match existing with
        | none => some input.now
        | some earlier => if earlier.phase = some phase then earlier.lastTransitionTime else some input.now }

def reportPool : Proc PoolStore PoolEvent Unit := do
  let store ← read
  match input.reread, store.statefulSets pool.name with
  | .ok (), some sts => updateNodePoolStatusFromSts clusterName pool input sts
  | _, _ => return ()

def reconcileSingleNodePool (check : Nat -> Proc PoolStore PoolEvent (Ending Decision)) :
    Proc PoolStore PoolEvent (Ending Unit) := do
  ofExcept input.prepare
  mapError ("failed to reconcile statefulset: " ++ ·)
    (reconcileNodePoolStatefulSet sha clusterName spec pool input check)

/-- The body of the loop of `reconcileAdvancedMode`. -/
def reconcilePool (check : Nat -> Proc PoolStore PoolEvent (Ending Decision)) :
    Proc PoolStore PoolEvent (Ending Unit) := do
  updateNodePoolStatus clusterName pool input .creating "Reconciling nodePool"
  match ← attempt (reconcileSingleNodePool sha clusterName spec pool input check) with
  | .error text =>
    updateNodePoolStatus clusterName pool input .failed text
    fail ("failed to reconcile nodePool " ++ pool.name ++ ": " ++ text)
  | .ok .panicked => return .panicked
  | .ok (.returned ()) =>
    reportPool clusterName pool input
    return .returned ()

end Turn

/-! ## What a turn does where every request is accepted -/

/-- Every request is accepted, and the builder is given this. -/
def TurnInput.sound (now : Time) (given : BuildInput) : TurnInput := { now := now, build := .ok given }

/-- The drain check as an answer that is known beforehand. -/
def answering (answer : Except String (Ending Decision)) (_ : Nat) : Proc PoolStore PoolEvent (Ending Decision) :=
  ofExcept answer

/-- A StatefulSet is updated: where it would lose replicas, the drain check lets it, and otherwise
its size, its configuration or an annotation has changed. -/
def Updates (sha : String -> String) (answer : Except String (Ending Decision))
    (found built : PoolStatefulSet) : Prop :=
  (built.replicas < found.replicas -> ∃ reason, answer = .ok (.returned (.proceed reason))) ∧
    (found.replicas ≠ built.replicas ∨ contentChanged sha found built = true)

/-- What the answer of the drain check comes to where nothing is updated. -/
def gateEnd : Except String (Ending Decision) -> Except String (Ending Unit)
  | .error text => .error ("failed to check scale-down drain: " ++ text)
  | .ok .panicked => .ok .panicked
  | .ok (.returned _) => .ok (.returned ())

def idleResult (answer : Except String (Ending Decision)) (found built : PoolStatefulSet) :
    Except String (Ending Unit) :=
  if built.replicas < found.replicas then gateEnd answer else .ok (.returned ())

/-- A turn in which every request is accepted, but for its time. -/
structure SoundTurn where
  sha : String -> String
  clusterName : String
  spec : AdvancedSpec
  pool : IndexerNodePoolSpec
  given : BuildInput
  answer : Except String (Ending Decision)

namespace SoundTurn

variable (turn : SoundTurn)

def built : PoolStatefulSet := buildNodePoolStatefulSet turn.clusterName turn.spec turn.pool turn.given

def reconcile (now : Time) : Proc PoolStore PoolEvent (Ending Unit) :=
  reconcileNodePoolStatefulSet turn.sha turn.clusterName turn.spec turn.pool (.sound now turn.given)
    (answering turn.answer)

def run (now : Time) : Proc PoolStore PoolEvent (Ending Unit) :=
  reconcilePool turn.sha turn.clusterName turn.spec turn.pool (.sound now turn.given) (answering turn.answer)

variable {turn} {found : PoolStatefulSet} {now : Time} {store : PoolStore}

theorem updateStatefulSet_sound (reason : Option Reason) :
    updateStatefulSet turn.clusterName turn.pool (.sound now turn.given) found turn.built reason store =
      ⟨.ok (), store.setStatefulSet turn.pool.name (some (mergeNodePoolUpdate found turn.built)),
        [.statefulSetUpdated turn.pool.name found.replicas turn.pool.replicas reason
          (store.emptiedNodes turn.pool.name)]⟩ := by
  simp [updateStatefulSet, request, TurnInput.sound, applyUpdate, built, buildNodePoolStatefulSet]

theorem reconcile_eq (stored : store.statefulSets turn.pool.name = some found) :
    turn.reconcile now store =
      reconcileFound turn.sha turn.clusterName turn.pool (.sound now turn.given) (answering turn.answer) found
        turn.built store := by
  simp [reconcile, reconcileNodePoolStatefulSet, TurnInput.sound, stored, built]

theorem reconcile_of_updates (stored : store.statefulSets turn.pool.name = some found)
    (updates : Updates turn.sha turn.answer found turn.built) :
    ∃ reason, turn.reconcile now store =
      ⟨.ok (.returned ()), store.setStatefulSet turn.pool.name (some (mergeNodePoolUpdate found turn.built)),
        [.statefulSetUpdated turn.pool.name found.replicas turn.pool.replicas reason
          (store.emptiedNodes turn.pool.name)]⟩ := by
  rcases updates with ⟨lets, changed⟩
  have size : turn.built.replicas = turn.pool.replicas := rfl
  rw [reconcile_eq stored]
  by_cases shrinks : turn.pool.replicas < found.replicas
  · rcases lets shrinks with ⟨reason, lets⟩
    simp [reconcileFound, size, shrinks, answering, lets, updateStatefulSet_sound]
  · have needs := (nodePoolNeedsUpdate_iff turn.sha found turn.built).mpr changed
    simp [reconcileFound, size, shrinks, needs, updateStatefulSet_sound]

/-- Without an update nothing is changed. -/
theorem reconcile_of_not_updates (stored : store.statefulSets turn.pool.name = some found)
    (idle : ¬ Updates turn.sha turn.answer found turn.built) :
    turn.reconcile now store = ⟨idleResult turn.answer found turn.built, store, []⟩ := by
  have size : turn.built.replicas = turn.pool.replicas := rfl
  rw [reconcile_eq stored]
  by_cases shrinks : turn.pool.replicas < found.replicas
  · have differ : found.replicas ≠ turn.pool.replicas := by omega
    rcases told : turn.answer with text | ((_ | reason) | _)
    on_goal 3 => exact absurd ⟨fun _ => ⟨reason, told⟩, .inl differ⟩ idle
    all_goals simp [reconcileFound, idleResult, gateEnd, size, shrinks, answering]
  · have settled : nodePoolNeedsUpdate turn.sha found turn.built = false := by
      refine Bool.eq_false_iff.mpr fun needs => idle ⟨fun wrong => absurd wrong shrinks, ?_⟩
      exact (nodePoolNeedsUpdate_iff turn.sha found turn.built).mp needs
    simp [reconcileFound, idleResult, size, shrinks, settled]

end SoundTurn

/-! ## Changes that are rolled out -/

def PoolStatefulSet.counted (built : PoolStatefulSet) (ready updated : Nat) : PoolStatefulSet :=
  { built with readyReplicas := ready, updatedReplicas := updated }

/-- Reconciling a pool leaves a StatefulSet with this pod template. -/
def RollsOut (template : PoolTemplate) (poolName : String)
    (outcome : Outcome PoolStore PoolEvent (Ending Unit)) : Prop :=
  (outcome.state.statefulSets poolName).map PoolStatefulSet.template = some template

/-- What an update looks at: the size of the pool, the hash of its configuration, its annotations
and its pod annotations. -/
def ChangesVisibly (sha : String -> String) (before after : IndexerNodePoolSpec)
    (givenBefore givenAfter : BuildInput) : Prop :=
  before.replicas ≠ after.replicas ∨
    hashChanged (((podAnnotations before givenBefore).lookup annotationConfigHash).getD "")
      (((podAnnotations after givenAfter).lookup annotationConfigHash).getD "") = true ∨
    hashMap sha after.annotations ≠ hashMap sha before.annotations ∨
    hashMap sha (podAnnotations after givenAfter) ≠ hashMap sha (podAnnotations before givenBefore)

/-- A pod template that has changed is rolled out exactly when a scale-down, if there is one, is
let through, and the size of the pool, the hash of its configuration, its annotations or its pod
annotations have changed with it. -/
theorem pool_change_rolled_out_iff (sha : String -> String) (clusterName : String)
    (first second : AdvancedSpec) (before after : IndexerNodePoolSpec) (givenBefore givenAfter : BuildInput)
    (ready updated : Nat) (now : Time) (answer : Except String (Ending Decision)) (store : PoolStore)
    (stored : store.statefulSets after.name =
      some ((buildNodePoolStatefulSet clusterName first before givenBefore).counted ready updated))
    (differ : (buildNodePoolStatefulSet clusterName first before givenBefore).template ≠
      (buildNodePoolStatefulSet clusterName second after givenAfter).template) :
    RollsOut (buildNodePoolStatefulSet clusterName second after givenAfter).template after.name
        (reconcileNodePoolStatefulSet sha clusterName second after (.sound now givenAfter)
          (answering answer) store) <->
      (after.replicas < before.replicas -> ∃ reason, answer = .ok (.returned (.proceed reason))) ∧
        ChangesVisibly sha before after givenBefore givenAfter := by
  have visible : Updates sha answer
      ((buildNodePoolStatefulSet clusterName first before givenBefore).counted ready updated)
      (buildNodePoolStatefulSet clusterName second after givenAfter) <->
      (after.replicas < before.replicas -> ∃ reason, answer = .ok (.returned (.proceed reason))) ∧
        ChangesVisibly sha before after givenBefore givenAfter := by
    rw [Updates, contentChanged_iff]
    exact Iff.rfl
  refine Iff.trans ?_ visible
  let turn : SoundTurn := ⟨sha, clusterName, second, after, givenAfter, answer⟩
  change RollsOut turn.built.template turn.pool.name (turn.reconcile now store) <-> _
  constructor
  · intro rolled
    by_contra idle
    rw [RollsOut, @SoundTurn.reconcile_of_not_updates turn _ now store stored idle, stored] at rolled
    exact differ (Option.some.inj rolled)
  · intro updates
    rcases @SoundTurn.reconcile_of_updates turn _ now store stored updates with ⟨reason, done⟩
    rw [RollsOut, done, PoolStore.setStatefulSet_self]
    rfl

namespace Sample

def dataNodes (replicas : Nat) (resources : String) : IndexerNodePoolSpec where
  name := "data"
  replicas := replicas
  roles := [.data]
  resources := some resources

def onePool (pool : IndexerNodePoolSpec) : AdvancedSpec where
  nodePools := [pool]
  distinct := List.nodup_singleton _

def builtNodes : PoolStatefulSet :=
  buildNodePoolStatefulSet "wazuh" (onePool (dataNodes 3 "memory: 2Gi")) (dataNodes 3 "memory: 2Gi")
    { configHash := "c0ffee" }

def nodesStore : PoolStore where
  statefulSets := fun _ => some (builtNodes.counted 3 3)

theorem template_differs (replicas : Nat) :
    builtNodes.template ≠
      (buildNodePoolStatefulSet "wazuh" (onePool (dataNodes replicas "memory: 4Gi"))
        (dataNodes replicas "memory: 4Gi") { configHash := "c0ffee" }).template := by
  intro same
  have resources : ("memory: 2Gi" : String) = "memory: 4Gi" := congrArg PoolTemplate.resources same
  exact absurd resources (by decide)

/-- The turn of a pool that is the only one, whose drain is not over. -/
def turnOf (pool : IndexerNodePoolSpec) : SoundTurn :=
  ⟨id, "wazuh", onePool pool, pool, { configHash := "c0ffee" }, .ok (.returned .wait)⟩

end Sample

open Sample

/-- More memory alone does not reach the pods. -/
theorem changed_resources_not_rolled_out : builtNodes.template ≠
        (buildNodePoolStatefulSet "wazuh" (onePool (dataNodes 3 "memory: 4Gi"))
          (dataNodes 3 "memory: 4Gi") { configHash := "c0ffee" }).template ∧
      ¬ RollsOut (buildNodePoolStatefulSet "wazuh" (onePool (dataNodes 3 "memory: 4Gi"))
            (dataNodes 3 "memory: 4Gi") { configHash := "c0ffee" }).template "data"
          (reconcileNodePoolStatefulSet id "wazuh" (onePool (dataNodes 3 "memory: 4Gi"))
            (dataNodes 3 "memory: 4Gi") (.sound 0 { configHash := "c0ffee" })
            (answering (.ok (.returned .wait))) nodesStore) := by
  refine ⟨template_differs 3, fun rolled => ?_⟩
  have idle : ¬ Updates id (.ok (.returned .wait)) (builtNodes.counted 3 3)
      (buildNodePoolStatefulSet "wazuh" (onePool (dataNodes 3 "memory: 4Gi"))
        (dataNodes 3 "memory: 4Gi") { configHash := "c0ffee" }) := by
    rintro ⟨_, resized | changed⟩
    · exact resized rfl
    · rcases (contentChanged_iff _ _ _).mp changed with config | annotations | podAnnotations
      · exact absurd (config.symm.trans (hashChanged_self _)) (by decide)
      · exact annotations rfl
      · exact podAnnotations rfl
  have unchanged := @SoundTurn.reconcile_of_not_updates (turnOf (dataNodes 3 "memory: 4Gi")) _ 0 nodesStore rfl idle
  change RollsOut _ _ ((turnOf (dataNodes 3 "memory: 4Gi")).reconcile 0 nodesStore) at rolled
  rw [RollsOut, unchanged] at rolled
  exact template_differs 3 (Option.some.inj rolled)

/-- With one more replica, more memory reaches the pods. -/
theorem pool_change_rolled_out_iff_grown :
    RollsOut (buildNodePoolStatefulSet "wazuh" (onePool (dataNodes 4 "memory: 4Gi"))
        (dataNodes 4 "memory: 4Gi") { configHash := "c0ffee" }).template "data"
      (reconcileNodePoolStatefulSet id "wazuh" (onePool (dataNodes 4 "memory: 4Gi"))
        (dataNodes 4 "memory: 4Gi") (.sound 0 { configHash := "c0ffee" })
        (answering (.ok (.returned .wait))) nodesStore) := by
  refine (pool_change_rolled_out_iff id "wazuh" (onePool (dataNodes 3 "memory: 2Gi"))
    (onePool (dataNodes 4 "memory: 4Gi")) (dataNodes 3 "memory: 2Gi")
    (dataNodes 4 "memory: 4Gi") { configHash := "c0ffee" } { configHash := "c0ffee" } 3 3 0
    (.ok (.returned .wait)) nodesStore rfl (template_differs 4)).mpr ⟨fun fewer => ?_, .inl ?_⟩
  · exact absurd fewer (by decide)
  · decide

/-! ## Two turns in a row -/

def PoolEvent.IsUpdate : PoolEvent -> Prop
  | .statefulSetUpdated .. => True
  | _ => False

def progressOf (poolName : String) (store : PoolStore) : Option (Option NodePoolPhase × Option Time) :=
  (store.poolStatuses poolName).map fun status => (status.phase, status.lastTransitionTime)

/-- The second turn updates no StatefulSet, and leaves phase and time as the first has left them. -/
def SettledAfter (poolName : String) (first second : Outcome PoolStore PoolEvent (Ending Unit)) : Prop :=
  (∀ event ∈ second.log, ¬ event.IsUpdate) ∧
    progressOf poolName second.state = progressOf poolName first.state

def turnPhase : Except String (Ending Unit) -> Option PoolStatefulSet -> NodePoolPhase
  | .error _, _ => .failed
  | .ok .panicked, _ => .creating
  | .ok (.returned ()), none => .creating
  | .ok (.returned ()), some sts => getNodePoolPhase sts.replicas sts.readyReplicas sts.updatedReplicas

def marked (clusterName : String) (pool : IndexerNodePoolSpec) (now : Time) (store : PoolStore) : PoolStore :=
  (updateNodePoolStatus clusterName pool (.sound now {}) .creating "Reconciling nodePool" store).state

structure Leaves (outcome : Outcome PoolStore PoolEvent (Ending Unit)) (poolName : String)
    (log : List PoolEvent) (sts : PoolStatefulSet) (phase : NodePoolPhase) (now : Time) : Prop where
  log_eq : outcome.log = log
  sts_eq : outcome.state.statefulSets poolName = some sts
  progress_eq : progressOf poolName outcome.state = some (some phase, some now)

def PoolStatefulSet.phase (sts : PoolStatefulSet) : NodePoolPhase :=
  getNodePoolPhase sts.replicas sts.readyReplicas sts.updatedReplicas

namespace SoundTurn

variable {turn : SoundTurn} {found : PoolStatefulSet} {now : Time} {store : PoolStore}

abbrev opened (turn : SoundTurn) (now : Time) (store : PoolStore) : PoolStore :=
  marked turn.clusterName turn.pool now store

theorem leaves_of_reconcile (ran : turn.reconcile now (turn.opened now store) = ⟨result, after, log⟩)
    (kept : after.poolStatuses = (turn.opened now store).poolStatuses)
    (present : after.statefulSets turn.pool.name = some sts) :
    Leaves (turn.run now store) turn.pool.name log sts (turnPhase result (some sts)) now := by
  have marks : updateNodePoolStatus turn.clusterName turn.pool (.sound now turn.given) .creating
      "Reconciling nodePool" store = ⟨.ok (), turn.opened now store, []⟩ := rfl
  have single : reconcileSingleNodePool turn.sha turn.clusterName turn.spec turn.pool (.sound now turn.given)
      (answering turn.answer) (turn.opened now store) =
      ⟨result.mapError ("failed to reconcile statefulset: " ++ ·), after, log⟩ := by
    have prepared : (ofExcept (TurnInput.sound now turn.given).prepare : Proc PoolStore PoolEvent Unit)
        (turn.opened now store) = ⟨.ok (), turn.opened now store, []⟩ := rfl
    rw [reconcile] at ran
    rw [reconcileSingleNodePool, bind_of_silent prepared, mapError_apply, ran]
    cases result <;> rfl
  have status : ∃ status, after.poolStatuses turn.pool.name = some status ∧ status.phase = some .creating ∧
      status.lastTransitionTime = some now := by
    rw [kept]
    exact ⟨_, Function.update_self .., rfl, rfl⟩
  rcases status with ⟨status, stored, creating, stamped⟩
  unfold run
  rw [reconcilePool, bind_of_silent marks, attempt_bind_apply, single]
  cases result with
  | error =>
    refine ⟨?_, ?_, ?_⟩ <;>
      simp [updateNodePoolStatus, setPoolStatus, progressOf, turnPhase, TurnInput.sound, present]
  | ok ended =>
    cases ended with
    | panicked =>
      refine ⟨?_, ?_, ?_⟩ <;>
        simp [progressOf, turnPhase, stored, creating, stamped, present]
    | returned =>
      -- The time is that of this turn whether or not the phase has changed from `Creating`.
      by_cases same : getNodePoolPhase sts.replicas sts.readyReplicas sts.updatedReplicas = .creating <;>
        refine ⟨?_, ?_, ?_⟩ <;>
        simp [reportPool, TurnInput.sound, present, progressOf, turnPhase, stored, creating, stamped,
          updateNodePoolStatusFromSts, setPoolStatus, same]

theorem leaves_of_none (absent : store.statefulSets turn.pool.name = none) :
    Leaves (turn.run now store) turn.pool.name [.statefulSetCreated turn.pool.name turn.pool.replicas]
      turn.built turn.built.phase now := by
  have ran : turn.reconcile now (turn.opened now store) = ⟨.ok (.returned ()),
      (turn.opened now store).setStatefulSet turn.pool.name (some turn.built),
      [.statefulSetCreated turn.pool.name turn.pool.replicas]⟩ := by
    have missing : (turn.opened now store).statefulSets turn.pool.name = none := absent
    simp [reconcile, reconcileNodePoolStatefulSet, TurnInput.sound, missing, createStatefulSet, request,
      built, buildNodePoolStatefulSet]
  exact leaves_of_reconcile ran rfl (PoolStore.setStatefulSet_self ..)

theorem leaves_of_updates (stored : store.statefulSets turn.pool.name = some found)
    (updates : Updates turn.sha turn.answer found turn.built) :
    ∃ reason emptied, Leaves (turn.run now store) turn.pool.name
      [.statefulSetUpdated turn.pool.name found.replicas turn.pool.replicas reason emptied]
      (mergeNodePoolUpdate found turn.built) (mergeNodePoolUpdate found turn.built).phase now := by
  rcases @reconcile_of_updates turn found now (turn.opened now store) stored updates with ⟨reason, ran⟩
  exact ⟨reason, _, leaves_of_reconcile ran rfl (PoolStore.setStatefulSet_self ..)⟩

theorem leaves_of_not_updates (stored : store.statefulSets turn.pool.name = some found)
    (idle : ¬ Updates turn.sha turn.answer found turn.built) :
    Leaves (turn.run now store) turn.pool.name [] found
      (turnPhase (idleResult turn.answer found turn.built) (some found)) now :=
  leaves_of_reconcile (@reconcile_of_not_updates turn found now (turn.opened now store) stored idle) rfl stored

theorem leaves_of_settled (stored : store.statefulSets turn.pool.name = some found)
    (stays : found.replicas = turn.pool.replicas)
    (settled : nodePoolNeedsUpdate turn.sha found turn.built = false) :
    Leaves (turn.run now store) turn.pool.name [] found found.phase now := by
  have same : (turn.opened now store).statefulSets turn.pool.name = some found := stored
  have still : ¬ turn.built.replicas < found.replicas := by
    rw [stays]
    exact lt_irrefl _
  have ran : turn.reconcile now (turn.opened now store) =
      ⟨.ok (.returned ()), turn.opened now store, []⟩ := by
    rw [reconcile_eq same, reconcileFound, if_neg still, settled]
    rfl
  exact leaves_of_reconcile ran rfl same

theorem settledAfter_iff (left : Leaves first name earlierLog sts phase earlier)
    (leftAgain : Leaves second name laterLog other laterPhase later) :
    SettledAfter name first second <->
      (∀ event ∈ laterLog, ¬ event.IsUpdate) ∧ phase = laterPhase ∧ earlier = later := by
  rw [SettledAfter, leftAgain.log_eq, leftAgain.progress_eq, left.progress_eq]
  simp [eq_comm]

theorem not_settledAfter {first : Outcome PoolStore PoolEvent (Ending Unit)}
    (stored : store.statefulSets turn.pool.name = some (mergeNodePoolUpdate found turn.built))
    (leftover : hashMap turn.sha turn.pool.annotations ≠
      hashMap turn.sha (mergeStringMaps found.annotations turn.pool.annotations)) :
    ¬ SettledAfter turn.pool.name first (turn.run now store) := by
  have needs := (nodePoolNeedsUpdate_merge turn.sha found turn.built).mpr leftover
  have updatesAgain : Updates turn.sha turn.answer (mergeNodePoolUpdate found turn.built) turn.built :=
    ⟨fun fewer => absurd fewer (lt_irrefl _), (nodePoolNeedsUpdate_iff _ _ _).mp needs⟩
  rcases @leaves_of_updates turn _ now store stored updatesAgain with ⟨_, _, left⟩
  intro settled
  have quiet := settled.1
  rw [left.log_eq] at quiet
  exact quiet _ (List.mem_singleton_self _) trivial

end SoundTurn

/-- Where a scale-down is wanted and not let through, the second answer of the drain check does not
let it through either, and leaves the pool in the same phase. -/
def WaitsAgain (answer again : Except String (Ending Decision)) (found built : PoolStatefulSet) : Prop :=
  built.replicas < found.replicas -> (forall reason, again ≠ .ok (.returned (.proceed reason))) ∧
    turnPhase (gateEnd answer) (some found) = turnPhase (gateEnd again) (some found)

theorem settledAfter_idle_iff {sha : String -> String} {found built : PoolStatefulSet}
    (idle : ¬ Updates sha answer found built) :
    WaitsAgain answer again found built <-> ¬ Updates sha again found built ∧
      turnPhase (idleResult answer found built) (some found) =
        turnPhase (idleResult again found built) (some found) := by
  unfold WaitsAgain idleResult
  by_cases shrinks : built.replicas < found.replicas
  · have differ : found.replicas ≠ built.replicas := by omega
    simp [Updates, shrinks, differ]
  · simp only [Updates, shrinks, false_imp_iff, true_and, if_false, and_true, true_iff] at idle ⊢
    exact idle

/-- The second of two turns changes nothing exactly when both read the same time, the first does
not update a StatefulSet whose annotations stay different from those of the specification, and a
scale-down which the drain check holds back in the first is held back in the second.  Annotations
which the specification does not have survive each update, and each turn finds them again. -/
theorem pool_turns_settle_iff (sha : String -> String) (clusterName : String) (spec : AdvancedSpec)
    (pool : IndexerNodePoolSpec) (given : BuildInput) (answer again : Except String (Ending Decision))
    (earlier later : Time) (store : PoolStore) :
    SettledAfter pool.name
        (reconcilePool sha clusterName spec pool (.sound earlier given) (answering answer) store)
        (reconcilePool sha clusterName spec pool (.sound later given) (answering again)
          (reconcilePool sha clusterName spec pool (.sound earlier given) (answering answer) store).state) <->
      earlier = later ∧
        ∀ found ∈ store.statefulSets pool.name,
          (Updates sha answer found (buildNodePoolStatefulSet clusterName spec pool given) ->
            hashMap sha pool.annotations = hashMap sha (mergeStringMaps found.annotations pool.annotations)) ∧
          (¬ Updates sha answer found (buildNodePoolStatefulSet clusterName spec pool given) ->
            WaitsAgain answer again found (buildNodePoolStatefulSet clusterName spec pool given)) := by
  let turn : SoundTurn := ⟨sha, clusterName, spec, pool, given, answer⟩
  let next : SoundTurn := ⟨sha, clusterName, spec, pool, given, again⟩
  cases present : store.statefulSets pool.name with
  | none =>
    have left := @SoundTurn.leaves_of_none turn earlier store present
    have leftAgain := @SoundTurn.leaves_of_settled next _ later _ left.sts_eq rfl
      (nodePoolNeedsUpdate_self sha _)
    refine (SoundTurn.settledAfter_iff left leftAgain).trans ?_
    simp
  | some found =>
    by_cases updates : Updates sha answer found (buildNodePoolStatefulSet clusterName spec pool given)
    · rcases @SoundTurn.leaves_of_updates turn found earlier store present updates with ⟨_, _, left⟩
      by_cases leftover : hashMap sha pool.annotations =
          hashMap sha (mergeStringMaps found.annotations pool.annotations)
      · have settled := Bool.eq_false_iff.mpr fun needs =>
          (nodePoolNeedsUpdate_merge sha found turn.built).mp needs leftover
        have leftAgain := @SoundTurn.leaves_of_settled next _ later _ left.sts_eq rfl settled
        refine (SoundTurn.settledAfter_iff left leftAgain).trans ?_
        simp [updates, leftover]
      · exact iff_of_false (@SoundTurn.not_settledAfter next found later _ _ left.sts_eq leftover)
          fun wrong => leftover ((wrong.2 found rfl).1 updates)
    · have left := @SoundTurn.leaves_of_not_updates turn found earlier store present updates
      have waits := @settledAfter_idle_iff answer again sha found _ updates
      by_cases repeats : Updates sha again found (buildNodePoolStatefulSet clusterName spec pool given)
      · rcases @SoundTurn.leaves_of_updates next found later _ left.sts_eq repeats with ⟨_, _, leftAgain⟩
        refine (SoundTurn.settledAfter_iff left leftAgain).trans (iff_of_false (fun wrong => ?_) fun wrong => ?_)
        · exact wrong.1 _ (List.mem_singleton_self _) trivial
        · exact (waits.mp ((wrong.2 found rfl).2 updates)).1 repeats
      · have leftAgain := @SoundTurn.leaves_of_not_updates next found later _ left.sts_eq repeats
        refine (SoundTurn.settledAfter_iff left leftAgain).trans ?_
        simp only [List.not_mem_nil, false_imp_iff, implies_true, true_and, Option.mem_some_iff, forall_eq',
          updates, not_false_eq_true, true_imp_iff, waits, repeats]
        exact and_comm

namespace Sample

def annotated : PoolStatefulSet :=
  { builtNodes with
    annotations := Finmap.singleton "team" "search"
    readyReplicas := 3
    updatedReplicas := 3 }

def annotatedStore : PoolStore where
  statefulSets := fun _ => some annotated

theorem annotated_merge :
    mergeStringMaps annotated.annotations (dataNodes 3 "memory: 2Gi").annotations =
      Finmap.singleton "team" "search" := Finmap.empty_union

theorem hashMap_differs : hashMap id (∅ : StringMap) ≠ hashMap id (Finmap.singleton "team" "search") := by
  simp [hashMap, Finmap.keys_singleton]

end Sample

/-- An annotation that the specification does not have makes every turn update the StatefulSet,
also when no time passes. -/
theorem foreign_annotation_updated_again : ¬ SettledAfter "data"
      (reconcilePool id "wazuh" (onePool (dataNodes 3 "memory: 2Gi"))
        (dataNodes 3 "memory: 2Gi") (.sound 0 { configHash := "c0ffee" })
        (answering (.ok (.returned .wait))) annotatedStore)
      (reconcilePool id "wazuh" (onePool (dataNodes 3 "memory: 2Gi"))
        (dataNodes 3 "memory: 2Gi") (.sound 0 { configHash := "c0ffee" })
        (answering (.ok (.returned .wait)))
        (reconcilePool id "wazuh" (onePool (dataNodes 3 "memory: 2Gi"))
          (dataNodes 3 "memory: 2Gi") (.sound 0 { configHash := "c0ffee" })
          (answering (.ok (.returned .wait))) annotatedStore).state) := by
  have foreign : contentChanged id annotated builtNodes :=
    (contentChanged_iff _ _ _).mpr (.inr (.inl hashMap_differs))
  have updates : Updates id (.ok (.returned .wait)) annotated builtNodes :=
    ⟨fun fewer => absurd fewer (lt_irrefl _), .inr foreign⟩
  have leftover : hashMap id (dataNodes 3 "memory: 2Gi").annotations ≠
      hashMap id (mergeStringMaps annotated.annotations (dataNodes 3 "memory: 2Gi").annotations) := by
    exact hashMap_differs
  rcases @SoundTurn.leaves_of_updates (turnOf (dataNodes 3 "memory: 2Gi")) annotated 0
    annotatedStore rfl updates with ⟨_, _, left⟩
  exact @SoundTurn.not_settledAfter (turnOf (dataNodes 3 "memory: 2Gi")) annotated 0 _ _
    left.sts_eq leftover

end NodePools
end WazuhOperator
