import WazuhOperator.Library.Runs
import WazuhOperator.NodePools.Rollout

namespace WazuhOperator
namespace NodePools

open Procedure Proc Drain List

/-!
# Passes in advanced mode

`reconcileAdvancedMode` and `cleanupOrphanedNodePools` in
`internal/opensearch/reconciler/indexer_reconciler.go`: a turn for each pool
of the specification, in its order, and then the deletion of what dropped
pools have left.

A run consists of passes, of edits of the specification, and of what others do
to StatefulSets, to the allocation exclusion and to the recorded drain status.
The status which a pass has worked on is lost where its write fails or the
pass panics; what the pass has done to StatefulSets and to OpenSearch is not.

Two things about drains are asked.  Where a pool loses replicas, were its nodes
found empty in a drain started for this very scale-down?  And where a dropped
pool is deleted, were they found empty, and do enough cluster managers remain?
-/

/-! ## The pass -/

structure PassInput where
  /-- The requests and the gate of each pool, by its name. -/
  turn : String -> TurnInput
  gate : String -> GateInput
  /-- The pools whose StatefulSets the clean-up finds. -/
  list : Except String (List String)
  delete : String -> WriteAnswer

section Pass

variable (sha : String -> String) (clusterName : String) (spec : AdvancedSpec) (input : PassInput)

def poolTurn (pool : IndexerNodePoolSpec) : Proc PoolStore PoolEvent (Ending Unit) :=
  reconcilePool sha clusterName spec pool (input.turn pool.name)
    (checkNodePoolScaleDownDrain clusterName spec pool (input.gate pool.name))

/-- The loop of `reconcileAdvancedMode`. -/
def reconcilePools : List IndexerNodePoolSpec -> Proc PoolStore PoolEvent (Ending Unit)
  | [] => return .returned ()
  | pool :: rest => do
      match ← poolTurn sha clusterName spec input pool with
      | .panicked => return .panicked
      | .returned () => reconcilePools rest

/-- The deletion of a StatefulSet whose pool was dropped.  The Service and the ConfigMap of the
pool, which go with it, are left out. -/
def deleteOrphan (poolName : String) : Proc PoolStore PoolEvent Unit := do
  let store ← read
  match store.statefulSets poolName with
  | none => return ()
  | some sts => do
      let _ ← request (input.delete poolName) do
        emit (.statefulSetDeleted poolName sts.replicas (store.emptiedNodes poolName))
        modify fun store => store.setStatefulSet poolName none
      return ()

/-- The status of a dropped pool is removed whether its objects are gone or not. -/
def forgetPool (poolName : String) : Proc PoolStore PoolEvent Unit :=
  modify fun store => { store with poolStatuses := Function.update store.poolStatuses poolName none }

/-- The body of the loop of `cleanupOrphanedNodePools`. -/
def cleanupRound (name : String) : Proc PoolStore PoolEvent Unit := do
  deleteOrphan input name
  forgetPool name

/-- The pools among these which the specification does not have. -/
def orphans (names : List String) : List String :=
  names.filter fun name => name ∉ spec.nodePools.map IndexerNodePoolSpec.name

def cleanupOrphanedNodePools : Proc PoolStore PoolEvent Unit := do
  let names ← mapError ("failed to list statefulsets: " ++ ·) (ofExcept input.list)
  forEach (cleanupRound input) (orphans spec names)

def reconcileAdvancedMode : Proc PoolStore PoolEvent (Ending Unit) := do
  match ← reconcilePools sha clusterName spec input spec.nodePools with
  | .panicked => return .panicked
  | .returned () =>
    let _ ← attempt (cleanupOrphanedNodePools spec input)
    return .returned ()

end Pass

/-! ## What turns and the gate keep -/

section Frames

variable {inv : PoolStore -> Prop} {emits : PoolEvent -> Prop}
variable {sha : String -> String} {clusterName : String} {spec : AdvancedSpec} {pool : IndexerNodePoolSpec}

/-- A move neither forgets a node that was found empty nor touches the workloads. -/
theorem Moves.grows {input : GateInput} {store : PoolStore}
    (moves : Moves input scaleDown targetPods store outcome) :
    store.emptied ⊆ outcome.state.emptied ∧ ∀ event ∈ outcome.log, ∃ source target,
      event = .phaseWritten source target := by
  rcases outcome with ⟨result, after, log⟩
  cases moves.2 with
  | started _ _ _ emptied | refused _ _ _ _ emptied | drained _ _ _ emptied
  | finished _ _ _ emptied | retried _ _ _ emptied =>
    refine ⟨emptied ▸ Subset.refl _, fun event member => ?_⟩
    rw [mem_singleton.mp member]
    exact ⟨_, _, rfl⟩
  | waited _ _ _ emptied => exact ⟨emptied ▸ Subset.refl _, nofun⟩
  | passed _ same => exact ⟨same ▸ Subset.refl _, nofun⟩
  | verified _ _ _ _ emptied =>
    refine ⟨fun entry noted => ?_, fun event member => ?_⟩
    · rw [emptied]
      split
      · exact mem_append_right _ noted
      · exact noted
    · rw [mem_singleton.mp member]
      exact ⟨_, _, rfl⟩

theorem keeps_gate {input : GateInput}
    (drained : forall before after, SameWorkloads before after -> before.emptied ⊆ after.emptied ->
      inv before -> inv after)
    (phases : forall source target, emits (.phaseWritten source target)) :
    Keeps inv emits (checkNodePoolScaleDownDrain clusterName spec pool input currentReplicas) := by
  have manages : forall scaleDown targetPods,
      Keeps inv emits (managePoolDrain input scaleDown targetPods) := by
    intro scaleDown targetPods store holds
    have moves := @managePoolDrain_moves input scaleDown targetPods store
    refine ⟨drained _ _ moves.1 moves.grows.1 holds, fun event member => ?_⟩
    rcases moves.grows.2 event member with ⟨source, target, rfl⟩
    exact phases source target
  have follows : forall info ending, Keeps inv emits (followEvaluation input info ending) := by
    intro info ending
    cases ending with
    | panicked => exact keeps_pure _
    | returned =>
      simp only [followEvaluation]
      split
      · split
        · exact keeps_read_bind fun _ _ => keeps_bind (manages _ _) fun _ => keeps_pure _
        · exact keeps_pure _
      · exact keeps_fail _
  unfold checkNodePoolScaleDownDrain
  split
  · refine keeps_bind ?_ fun connected => ?_
    · refine keeps_read_bind fun _ _ => ?_
      split
      · refine keeps_bind (keeps_modify fun before holds => ?_) fun _ => keeps_pure _
        exact drained before _ ⟨rfl, rfl, rfl⟩ (Subset.refl _) holds
      · exact keeps_pure _
    · split
      · exact follows _ _
      · exact keeps_pure _
  · exact keeps_pure _

/-- What no write to the objects of a pool disturbs, and what such writes may record. -/
structure TurnFrame (inv : PoolStore -> Prop) (emits : PoolEvent -> Prop) (poolName : String) : Prop where
  reports : forall store statuses, inv store -> inv { store with poolStatuses := statuses }
  writes : forall store sts, inv store -> inv (store.setStatefulSet poolName sts)
  created : forall replicas, emits (.statefulSetCreated poolName replicas)
  updated : forall current desired reason emptied,
    emits (.statefulSetUpdated poolName current desired reason emptied)
  recreated : emits (.statefulSetRecreated poolName)

variable {input : TurnInput} {check : Nat -> Proc PoolStore PoolEvent (Ending Decision)}

theorem keeps_request
    (kept : Keeps inv emits effect) : Keeps inv emits (request answer effect) := by
  unfold request
  split
  · exact keeps_bind kept fun _ => keeps_pure _
  · exact keeps_pure _

theorem keeps_write
    (writes : forall store sts, inv store -> inv (store.setStatefulSet pool.name sts))
    (allowed : emits event) (sts : Option PoolStatefulSet) :
    Keeps inv emits (emit event >>= fun _ =>
      modify fun store => store.setStatefulSet pool.name sts) :=
  keeps_bind (keeps_emit allowed) fun _ =>
    keeps_modify fun store holds => writes store sts holds

theorem keeps_recreateOnError (writes : forall store sts, inv store -> inv (store.setStatefulSet pool.name sts))
    (recreated : emits (.statefulSetRecreated pool.name)) (text : String) :
    Keeps inv emits (recreateOnError clusterName pool input text) := by
  unfold recreateOnError
  split
  · refine keeps_bind (keeps_request (keeps_write writes recreated _)) fun told => ?_
    cases told <;> exact keeps_fail _
  · exact keeps_fail _

/-- The same, where the update of a pool which loses replicas is left to its drain check. -/
structure PoolFrame (inv : PoolStore -> Prop) (emits : PoolEvent -> Prop) (pool : IndexerNodePoolSpec) : Prop where
  reports : forall store statuses, inv store -> inv { store with poolStatuses := statuses }
  writes : forall store sts, inv store -> inv (store.setStatefulSet pool.name sts)
  created : forall replicas, emits (.statefulSetCreated pool.name replicas)
  recreated : emits (.statefulSetRecreated pool.name)
  steady : forall current reason emptied, ¬ pool.replicas < current ->
    emits (.statefulSetUpdated pool.name current pool.replicas reason emptied)

/-- The drain check keeps what is kept, and where it lets replicas go, their update may be
recorded. -/
def Guards (inv : PoolStore -> Prop) (emits : PoolEvent -> Prop) (pool : IndexerNodePoolSpec) (current : Nat)
    (result : Except String (Ending Decision)) (store : PoolStore) (past : List PoolEvent) : Prop :=
  Within inv emits result store past ∧ forall reason, result = .ok (.returned (.proceed reason)) ->
    emits (.statefulSetUpdated pool.name current pool.replicas (some reason) (store.emptiedNodes pool.name))

section Pool

variable (frame : PoolFrame inv emits pool) {store : PoolStore} {past : List PoolEvent}
variable {found built : PoolStatefulSet}
include frame

theorem PoolFrame.leads_updateStatefulSet (holds : Within inv emits (.ok ()) store past)
    (allowed : emits (.statefulSetUpdated pool.name found.replicas built.replicas reason
      (store.emptiedNodes pool.name))) :
    Leads (Within inv emits) (do
      updateStatefulSet clusterName pool input found built reason
      return Ending.returned ()) past store := by
  have written := frame.writes store (some (mergeNodePoolUpdate found built)) holds.1
  have recreates : forall text, Keeps inv emits (recreateOnError clusterName pool input text) :=
    keeps_recreateOnError frame.writes frame.recreated
  apply leads_bind
  refine @leads_imp _ _ _ (Within inv emits) _ _ _ _ ?_ fun told after past inside => ?_
  · rw [Leads, updateStatefulSet, request]
    cases answer : input.update with
    | accepted => exact ⟨written, forall_mem_append.mpr ⟨holds.2, forall_mem_singleton.mpr allowed⟩⟩
    | refused text =>
      have later := recreates text store holds.1
      exact ⟨later.1, forall_mem_append.mpr ⟨holds.2, later.2⟩⟩
    | unacknowledged text =>
      have later := recreates text _ written
      exact ⟨later.1, forall_mem_append.mpr ⟨holds.2, forall_mem_cons.mpr ⟨allowed, later.2⟩⟩⟩
  · cases told with
    | error => exact inside
    | ok => exact leads_pure inside

theorem PoolFrame.leads_reconcileFound (wanted : built.replicas = pool.replicas) (holds : inv store)
    (guards : pool.replicas < found.replicas ->
      Leads (Guards inv emits pool found.replicas) (check found.replicas) [] store) :
    Leads (Within inv emits) (reconcileFound sha clusterName pool input check found built) [] store := by
  unfold reconcileFound
  split
  · rename_i shrinks
    apply leads_bind
    apply leads_mapError
    refine leads_imp (guards (wanted ▸ shrinks)) fun result after past guarded => ?_
    rcases result with text | ((_ | reason) | _)
    · exact guarded.1
    · exact leads_pure guarded.1
    · exact frame.leads_updateStatefulSet guarded.1 (wanted ▸ guarded.2 reason rfl)
    · exact leads_pure guarded.1
  · rename_i steady
    split
    · exact frame.leads_updateStatefulSet ⟨holds, nofun⟩ (wanted ▸ frame.steady _ _ _ (wanted ▸ steady))
    · exact leads_pure ⟨holds, nofun⟩

theorem PoolFrame.leads_reconcilePool (holds : inv store)
    (guards : forall statuses, pool.replicas < store.size pool.name ->
      Leads (Guards inv emits pool (store.size pool.name)) (check (store.size pool.name)) []
        { store with poolStatuses := statuses }) :
    Leads (Within inv emits) (reconcilePool sha clusterName spec pool input check) [] store := by
  have reports : forall phase message, Keeps inv emits (updateNodePoolStatus clusterName pool input phase message) :=
    fun _ _ => keeps_read_bind fun _ _ => keeps_modify fun store => frame.reports store _
  have looks : Keeps inv emits (reportPool clusterName pool input) := by
    refine keeps_read_bind fun store _ => ?_
    split
    · exact keeps_read_bind fun _ _ => keeps_modify fun store => frame.reports store _
    · exact keeps_pure _
  apply leads_bind
  apply leads_read_bind
  rw [setPoolStatus, Leads, modify_apply]
  apply leads_attempt_bind
  refine @leads_imp _ _ _ (Within inv emits) _ _ _ _ ?_ fun ended after past inside => ?_
  · have holds := fun statuses => frame.reports store statuses holds
    refine leads_ofExcept_bind (fun _ => ⟨holds _, by rintro _ ⟨⟩⟩) fun _ => leads_mapError ?_
    refine leads_ofExcept_bind (fun _ => ⟨holds _, by rintro _ ⟨⟩⟩) fun given => ?_
    refine leads_ofExcept_bind (fun _ => ⟨holds _, by rintro _ ⟨⟩⟩) fun _ => ?_
    apply leads_read_bind
    split
    · refine leads_of_keeps (keeps_bind (keeps_bind ?_ fun _ => keeps_ofExcept _) fun _ => keeps_pure _)
        ⟨holds _, by rintro _ ⟨⟩⟩
      exact keeps_request (keeps_write frame.writes (frame.created _) _)
    · next found stored =>
      have stored : store.statefulSets pool.name = some found := stored
      have size : store.size pool.name = found.replicas := by
        rw [PoolStore.size, stored]
        rfl
      exact frame.leads_reconcileFound rfl (holds _) fun shrinks => size ▸ guards _ (size ▸ shrinks)
  · refine leads_of_keeps ?_ inside
    rcases ended with text | (_ | _)
    · exact keeps_bind (reports _ _) fun _ => keeps_fail _
    · exact keeps_bind looks fun _ => keeps_pure _
    · exact keeps_pure _

end Pool

theorem TurnFrame.keeps_reconcilePool (frame : TurnFrame inv emits pool.name)
    (checks : forall current, Keeps inv emits (check current)) :
    Keeps inv emits (reconcilePool sha clusterName spec pool input check) := by
  intro store holds
  have whole : PoolFrame inv emits pool :=
    ⟨frame.reports, frame.writes, frame.created, frame.recreated, fun _ _ _ _ => frame.updated _ _ _ _⟩
  have inside : Leads (Within inv emits) (reconcilePool sha clusterName spec pool input check) [] store := by
    refine whole.leads_reconcilePool holds fun statuses _ => ?_
    rw [Leads]
    exact ⟨checks _ _ (frame.reports store statuses holds), fun _ _ => frame.updated _ _ _ _⟩
  rw [Leads] at inside
  exact inside

theorem keeps_reconcilePools {input : PassInput}
    (each : ∀ pool ∈ pools, Keeps inv emits (poolTurn sha clusterName spec input pool)) :
    Keeps inv emits (reconcilePools sha clusterName spec input pools) := by
  induction pools with
  | nil => exact keeps_pure _
  | cons _ _ ih =>
    rw [forall_mem_cons] at each
    refine keeps_bind each.1 fun ended => ?_
    cases ended with
    | panicked => exact keeps_pure _
    | returned => exact ih each.2

theorem keeps_cleanup {input : PassInput}
    (reports : forall store statuses, inv store -> inv { store with poolStatuses := statuses })
    (writes : forall store name, inv store -> inv (store.setStatefulSet name none))
    (deleted : forall name replicas emptied, emits (.statefulSetDeleted name replicas emptied)) :
    Keeps inv emits (cleanupOrphanedNodePools spec input) := by
  refine keeps_bind (keeps_mapError (keeps_ofExcept _)) fun names =>
    keeps_forEach fun name _ => ?_
  refine keeps_bind (keeps_read_bind fun current _ => ?_) fun _ => ?_
  · split
    · exact keeps_pure _
    · refine keeps_bind (keeps_request ?_) fun _ => keeps_pure _
      exact keeps_bind (keeps_emit (deleted _ _ _)) fun _ =>
        keeps_modify fun store holds => writes store name holds
  · exact keeps_modify fun store holds => reports store _ holds

theorem reconcileAdvancedMode_of_turns {input : PassInput} {store : PoolStore}
    (turns : inv (reconcilePools sha clusterName spec input spec.nodePools store).state ∧
      ∀ event ∈ (reconcilePools sha clusterName spec input spec.nodePools store).log, emits event)
    (cleans : Keeps inv emits (cleanupOrphanedNodePools spec input)) :
    inv (reconcileAdvancedMode sha clusterName spec input store).state ∧
      ∀ event ∈ (reconcileAdvancedMode sha clusterName spec input store).log, emits event := by
  rw [reconcileAdvancedMode, bind_apply]
  generalize reconcilePools sha clusterName spec input spec.nodePools store = outcome at turns ⊢
  rcases outcome with ⟨result, after, log⟩
  have closes : forall ended, Keeps inv emits
      (match ended with
        | Ending.panicked => pure Ending.panicked
        | Ending.returned () => do
            let _ ← attempt (cleanupOrphanedNodePools spec input)
            return .returned ()) := by
    intro ended
    cases ended with
    | panicked => exact keeps_pure _
    | returned => exact keeps_bind (keeps_attempt cleans) fun _ => keeps_pure _
  cases result with
  | error => exact turns
  | ok ended =>
    have later := closes ended after turns.1
    refine ⟨later.1, fun event recorded => ?_⟩
    rcases mem_append.mp recorded with recorded | recorded
    · exact turns.2 event recorded
    · exact later.2 event recorded

end Frames

/-! ## Dropped pools -/

section Dropped

variable {sha : String -> String} {clusterName : String} {spec : AdvancedSpec} {input : PassInput}

/-- The cluster managers that remain: of the managers which are there, those which the
specification keeps. -/
def keptManagers (spec : AdvancedSpec) (sizes : String -> Nat) : Int :=
  (spec.nodePools.map fun pool =>
    if pool.hasClusterManagerRole then min (sizes pool.name : Int) pool.replicas else 0).sum

/-- A pool may go: the nodes of a data pool were found empty, and without a cluster-manager pool
enough managers remain. -/
def MayGo (clusterName : String) (pool : IndexerNodePoolSpec) (replicas : Nat) (emptied : List String)
    (managers : Int) : Prop :=
  (pool.hasDataRole = true ->
    ∀ ordinal < replicas, podName (indexerNodePoolName clusterName pool.name) ordinal ∈ emptied) ∧
  (pool.hasClusterManagerRole = true -> minClusterManagerNodes ≤ managers)

/-- Each pool of the old specification that a pass under the new one deletes may go. -/
def DropsSafely (sha : String -> String) (clusterName : String) (old new : AdvancedSpec) (input : PassInput)
    (store : PoolStore) : Prop :=
  ∀ pool ∈ old.nodePools, forall replicas emptied,
    PoolEvent.statefulSetDeleted pool.name replicas emptied ∈
        (reconcileAdvancedMode sha clusterName new input store).log ->
      MayGo clusterName pool replicas emptied (keptManagers new store.size)

def PoolEvent.IsDeletion : PoolEvent -> Prop
  | .statefulSetDeleted .. => True
  | _ => False

theorem reconcilePools_no_deletion (store : PoolStore) :
    ∀ event ∈ (reconcilePools sha clusterName spec input spec.nodePools store).log, ¬ event.IsDeletion := by
  have kept : Keeps (fun _ => True) (fun event : PoolEvent => ¬ event.IsDeletion)
      (reconcilePools sha clusterName spec input spec.nodePools) := by
    refine keeps_reconcilePools fun pool _ => TurnFrame.keeps_reconcilePool ?_ fun current => ?_
    · exact ⟨fun _ _ _ => trivial, fun _ _ _ => trivial, fun _ => id, fun _ _ _ _ => id, id⟩
    · exact keeps_gate (fun _ _ _ _ _ => trivial) fun _ _ => id
  exact (kept store trivial).2

/-- The turns leave a pool alone which the specification does not have: its StatefulSet, and what
was found empty of its nodes. -/
theorem reconcilePools_dropped (store : PoolStore) {name : String}
    (dropped : name ∉ spec.nodePools.map IndexerNodePoolSpec.name) :
    let after := (reconcilePools sha clusterName spec input spec.nodePools store).state
    after.statefulSets name = store.statefulSets name ∧ store.emptiedNodes name ⊆ after.emptiedNodes name := by
  let inv (current : PoolStore) : Prop :=
    current.statefulSets name = store.statefulSets name ∧ current.asked name = store.asked name ∧
      store.emptied ⊆ current.emptied
  have kept : Keeps inv (fun _ => True) (reconcilePools sha clusterName spec input spec.nodePools) := by
    refine keeps_reconcilePools fun pool member => TurnFrame.keeps_reconcilePool ?_ fun current => ?_
    · have apart : name ≠ pool.name := fun same => dropped (mem_map.mpr ⟨pool, member, same.symm⟩)
      refine ⟨fun _ _ => id, fun current sts => ?_, fun _ => trivial, fun _ _ _ _ => trivial, trivial⟩
      rintro ⟨sets, asked, emptied⟩
      exact ⟨(PoolStore.setStatefulSet_of_ne apart).trans sets,
        (PoolStore.setStatefulSet_asked_of_ne apart).trans asked, emptied⟩
    · refine keeps_gate (fun before after same grows => ?_) fun _ _ => trivial
      rintro ⟨sets, asked, emptied⟩
      exact ⟨same.statefulSets ▸ sets, same.asked ▸ asked, Subset.trans emptied grows⟩
  rcases (kept store ⟨rfl, rfl, Subset.refl _⟩).1 with ⟨sets, asked, emptied⟩
  refine ⟨sets, ?_⟩
  rw [PoolStore.emptiedNodes, PoolStore.emptiedNodes, PoolStore.scaleDown, PoolStore.scaleDown, asked]
  exact map_subset _ (filter_subset _ emptied)

theorem cleanupRound_apply (name : String) (store : PoolStore) :
    ∃ after, cleanupRound input name store =
        ⟨.ok (), after,
          if (input.delete name).applied then
            ((store.statefulSets name).map fun sts =>
              PoolEvent.statefulSetDeleted name sts.replicas (store.emptiedNodes name)).toList
          else []⟩ ∧
      (forall other, other ≠ name ∨ (input.delete name).applied = false ->
        after.statefulSets other = store.statefulSets other ∧
          after.emptiedNodes other = store.emptiedNodes other) ∧
      ((input.delete name).applied -> after.statefulSets name = none) := by
  cases found : store.statefulSets name with
  | none =>
    refine ⟨{ store with poolStatuses := Function.update store.poolStatuses name none }, ?_,
      fun _ _ => ⟨rfl, rfl⟩, fun _ => found⟩
    simp [cleanupRound, deleteOrphan, forgetPool, found]
  | some sts =>
    cases applied : (input.delete name).applied with
    | false =>
      refine ⟨{ store with poolStatuses := Function.update store.poolStatuses name none }, ?_,
        fun _ _ => ⟨rfl, rfl⟩, nofun⟩
      simp [cleanupRound, deleteOrphan, forgetPool, found, request, applied]
    | true =>
      refine ⟨{ store.setStatefulSet name none with
        poolStatuses := Function.update store.poolStatuses name none }, ?_, fun other apart => ?_,
        fun _ => PoolStore.setStatefulSet_self⟩
      · simp [cleanupRound, deleteOrphan, forgetPool, found, request, applied]
        rfl
      · have differs : other ≠ name := by simpa using apart
        exact ⟨PoolStore.setStatefulSet_of_ne differs, PoolStore.setStatefulSet_emptiedNodes_of_ne differs⟩

theorem cleanup_log (names : List String) (event : PoolEvent) : forall store,
    event ∈ (forEach (cleanupRound input) names store).log <->
      ∃ name ∈ names, ∃ sts, store.statefulSets name = some sts ∧ (input.delete name).applied ∧
        event = .statefulSetDeleted name sts.replicas (store.emptiedNodes name) := by
  induction names with
  | nil => simp [forEach]
  | cons name rest ih =>
    intro store
    rcases @cleanupRound_apply input name store with ⟨after, ran, others, gone⟩
    rw [forEach, bind_apply, ran, Outcome.following_log, mem_append, ih after]
    constructor
    · rintro (here | ⟨later, member, sts, found, applied, rfl⟩)
      · split at here
        · rename_i applied
          rcases Option.mem_toList.mp here with here
          rcases Option.map_eq_some_iff.mp here with ⟨sts, found, rfl⟩
          exact ⟨name, mem_cons_self, sts, found, applied, rfl⟩
        · cases here
      · -- A pool that still exists after this round is not the one it has deleted.
        have apart : later ≠ name := by
          rintro rfl
          rw [gone applied] at found
          cases found
        rcases others later (.inl apart) with ⟨sameSet, sameNodes⟩
        exact ⟨later, mem_cons_of_mem _ member, sts, sameSet ▸ found, applied, by rw [sameNodes]⟩
    · rintro ⟨later, member, sts, found, applied, rfl⟩
      by_cases apart : later = name
      · subst apart
        rw [if_pos applied, found]
        simp
      · rcases mem_cons.mp member with same | among
        · exact absurd same apart
        · rcases others later (.inl apart) with ⟨sameSet, sameNodes⟩
          exact .inr ⟨later, among, sts, sameSet.trans found, applied, by rw [sameNodes]⟩

theorem mem_deletions_iff (store : PoolStore) (name : String) (replicas : Nat) (emptied : List String) :
    PoolEvent.statefulSetDeleted name replicas emptied ∈
        (reconcileAdvancedMode sha clusterName spec input store).log <->
      (reconcilePools sha clusterName spec input spec.nodePools store).result = .ok (.returned ()) ∧
        ∃ names, input.list = .ok names ∧ name ∈ orphans spec names ∧ (input.delete name).applied ∧
          ∃ sts, (reconcilePools sha clusterName spec input spec.nodePools store).state.statefulSets name =
              some sts ∧
            replicas = sts.replicas ∧
            emptied = (reconcilePools sha clusterName spec input spec.nodePools store).state.emptiedNodes name := by
  have quiet : PoolEvent.statefulSetDeleted name replicas emptied ∉
      (reconcilePools sha clusterName spec input spec.nodePools store).log :=
    fun wrong => reconcilePools_no_deletion store _ wrong trivial
  rw [reconcileAdvancedMode, bind_apply]
  generalize reconcilePools sha clusterName spec input spec.nodePools store = turns at quiet ⊢
  rcases turns with ⟨result, after, log⟩
  rcases result with text | (done | _)
  · simp only [reduceCtorEq, false_and, iff_false]
    exact quiet
  · simp only [Outcome.following_log, mem_append, attempt_bind_apply, true_and]
    rw [or_iff_right quiet]
    cases listed : input.list with
    | error => simp [cleanupOrphanedNodePools, listed]
    | ok names =>
      have cleaned : cleanupOrphanedNodePools spec input after =
          forEach (cleanupRound input) (orphans spec names) after := by
        simp [cleanupOrphanedNodePools, listed]
      rw [cleaned]
      simp only [pure_apply, not_mem_nil, or_false, cleanup_log]
      constructor
      · rintro ⟨found, member, sts, present, applied, same⟩
        cases same
        exact ⟨names, rfl, member, applied, sts, present, rfl, rfl⟩
      · rintro ⟨_, same, member, applied, sts, present, rfl, rfl⟩
        cases same
        exact ⟨name, member, sts, present, applied, rfl⟩
  · simp only [Outcome.following_log, mem_append, pure_apply, not_mem_nil, or_false,
      Except.ok.injEq, reduceCtorEq, false_and, iff_false]
    exact quiet

end Dropped

namespace Sample

def allInOne : IndexerNodePoolSpec where
  name := "all"
  replicas := 3
  roles := [.clusterManager, .data]

def mixedSpec : AdvancedSpec where
  nodePools := [allInOne]
  distinct := nodup_singleton _
  drain := some { enabled := some true }

def splitSpec : AdvancedSpec where
  nodePools := [managerPool 3, dataNodes 3 "memory: 2Gi"]
  distinct := by decide
  drain := some { enabled := some true }

def mixedStore : PoolStore where
  statefulSets := fun name =>
    if name = "all" then some (buildNodePoolStatefulSet "wazuh" mixedSpec allInOne {}) else none

/-- The managers, and a pool with data whose nodes were found empty. -/
def drainedStore : PoolStore where
  statefulSets := fun name =>
    if name = "masters" then some (buildNodePoolStatefulSet "wazuh" splitSpec (managerPool 3) {})
    else if name = "data" then some builtNodes
    else none
  emptied := (range 3).map fun ordinal =>
    (⟨"data", 0⟩, podName (indexerNodePoolName "wazuh" "data") ordinal)

def openPass (names : List String) : PassInput where
  turn := fun _ => .sound 0 {}
  gate := fun _ => openGate
  list := .ok names
  delete := fun _ => .accepted

end Sample

open Sample

end NodePools
end WazuhOperator
