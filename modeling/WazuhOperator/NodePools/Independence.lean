import WazuhOperator.NodePools.AdvancedMode

namespace WazuhOperator
namespace NodePools

open Procedure Proc Drain List PoolStore

/-!
# Scale-downs of several pools

Which StatefulSets of data pools lose replicas in a run, and why.  All pools
share one drain status, and nothing in it says whose drain it records.  So a
pool can be let through by the drain of another one, or by a phase which the
gate has no branch for.  The statement here is about runs in which this does
not arise: at each pass at most one data pool is to lose replicas, and the
status found belongs to that scale-down or to none.

In such a run a data pool loses replicas only where drains are not enabled,
where no client can be created, or where all the nodes that go were found empty
in a drain started for this scale-down.  Behind this stand two invariants: a
drain is never noted for a scale-down that is still to come, and where a drain
that was started for the present scale-down is complete, its nodes were found
empty.
-/

/-! ## Runs -/

structure AdvancedWorld where
  spec : AdvancedSpec
  store : PoolStore

inductive AdvancedStep where
  /-- A pass, whose status is written in the end or lost. -/
  | pass (input : PassInput) (persisted : Bool)
  | edit (spec : AdvancedSpec)
  /-- Someone else writes a StatefulSet, the drain status or the exclusion. -/
  | writeStatefulSet (pool : String) (sts : Option PoolStatefulSet)
  | writeStatus (status : Option ComponentDrainStatus)
  | writeExclusion (setting : Option String)
  /-- The operator is restarted. -/
  | restart

def AdvancedSpec.wanted (spec : AdvancedSpec) (name : String) : Option Nat :=
  (spec.nodePools.find? fun pool => pool.name = name).map IndexerNodePoolSpec.replicas

def PoolStore.withStatusOf (store earlier : PoolStore) : PoolStore :=
  { store with
    status := earlier.status
    startedFor := earlier.startedFor
    poolStatuses := earlier.poolStatuses }

/-- The status of a pass is written, unless the pass panics. -/
def keepsStatus (persisted : Bool) : Except String (Ending Unit) -> Bool
  | .ok .panicked => false
  | _ => persisted

def afterPass (persisted : Bool) (store : PoolStore) (outcome : Outcome PoolStore PoolEvent (Ending Unit)) :
    PoolStore :=
  if keepsStatus persisted outcome.result then outcome.state else outcome.state.withStatusOf store

/-- Where another size is wanted, the pool is in another scale-down than before, if in any. -/
def PoolStore.edited (store : PoolStore) (old new : AdvancedSpec) : PoolStore :=
  { store with
    asked := fun name => if new.wanted name = old.wanted name then store.asked name else store.asked name + 1 }

section Runs

variable (sha : String -> String) (clusterName : String)

def advancedStep (world : AdvancedWorld) : AdvancedStep -> AdvancedWorld
  | .pass input persisted =>
    { world with
      store := afterPass persisted world.store
        (reconcileAdvancedMode sha clusterName world.spec input world.store) }
  | .edit spec => { spec := spec, store := world.store.edited world.spec spec }
  | .writeStatefulSet pool sts => { world with store := world.store.setStatefulSet pool sts }
  | .writeStatus status => { world with store := { world.store with status := status, startedFor := none } }
  | .writeExclusion setting => { world with store := { world.store with excluded := setting } }
  | .restart => { world with store := { world.store with hasClient := false, drainer := none } }

end Runs

/-! ## What is asked of a run -/

section Properties

variable (clusterName : String) (spec : AdvancedSpec)

def NodesEmptied (stsName : String) (current desired : Nat) (emptied : List String) : Prop :=
  forall ordinal, desired ≤ ordinal -> ordinal < current -> podName stsName ordinal ∈ emptied

/-- Where a data pool loses replicas, drains are not enabled, or there was no client and none could
be created, or its nodes were found empty. -/
def SafeShrink (input : PassInput) : PoolEvent -> Prop
  | .statefulSetUpdated name current desired reason emptied =>
    ∀ pool ∈ spec.nodePools, pool.name = name -> pool.hasDataRole = true -> desired < current ->
      (reason = some .disabled ∧ spec.drainEnabled = false) ∨
        (reason = some .noClient ∧ (input.gate name).getClient.isOk = false) ∨
        NodesEmptied (indexerNodePoolName clusterName name) current desired emptied
  | _ => True

def PendingScaleDown (store : PoolStore) (pool : IndexerNodePoolSpec) : Prop :=
  pool.hasDataRole = true ∧ pool.replicas < store.size pool.name

/-- The drain status says nothing, or belongs to the present scale-down of a pool. -/
def StatusBelongs (store : PoolStore) (poolName : String) : Prop :=
  match store.phase with
  | .idle | .unset | .failed => True
  | .draining | .verifying | .complete => store.startedFor = some (store.scaleDown poolName)
  | .pending | .rollingBack | .unknown _ => False

deriving instance Decidable for PendingScaleDown

instance (store : PoolStore) (poolName : String) : Decidable (StatusBelongs store poolName) := by
  unfold StatusBelongs
  exact match store.phase with
    | .idle | .unset | .failed => inferInstanceAs (Decidable True)
    | .draining | .verifying | .complete => inferInstanceAs (Decidable (_ = _))
    | .pending | .rollingBack | .unknown _ => inferInstanceAs (Decidable False)

/-- At most one of these pools is a data pool that is to lose replicas, and the drain status is its
own. -/
def OneDrain (pools : List IndexerNodePoolSpec) (store : PoolStore) : Prop :=
  ∀ pool ∈ pools, PendingScaleDown store pool ->
    StatusBelongs store pool.name ∧ ∀ other ∈ pools, PendingScaleDown store other -> other.name = pool.name
  deriving Decidable

end Properties

def ShrinksSafely (sha : String -> String) (clusterName : String) (world : AdvancedWorld) : AdvancedStep -> Prop
  | .pass input _ =>
    ∀ event ∈ (reconcileAdvancedMode sha clusterName world.spec input world.store).log,
      SafeShrink clusterName world.spec input event
  | _ => True

/-- At the beginning of a pass with drains there is at most one scale-down to drain for, and the
status is its own. -/
def DrainsOneAtATime (world : AdvancedWorld) : AdvancedStep -> Prop
  | .pass _ _ => world.spec.drainEnabled = true -> OneDrain world.spec.nodePools world.store
  | _ => True

instance (world : AdvancedWorld) : forall step, Decidable (DrainsOneAtATime world step)
  | .pass _ _ => inferInstanceAs (Decidable (_ -> _))
  | .edit _ | .writeStatefulSet _ _ | .writeStatus _ | .writeExclusion _ | .restart => isTrue trivial

/-! ## Stores that come later -/

/-- Stamps have not gone back, a size is the same where its stamp is, and no node that was found
empty is forgotten. -/
structure Later (before after : PoolStore) : Prop where
  asked_le : forall name, before.asked name ≤ after.asked name
  size_eq : forall name, after.asked name = before.asked name -> after.size name = before.size name
  emptied : before.emptied ⊆ after.emptied

variable (store : PoolStore)

namespace Later

variable {after : PoolStore}

theorem refl : Later store store :=
  ⟨fun _ => le_rfl, fun _ _ => rfl, Subset.refl _⟩

theorem trans (first : Later before middle) (second : Later middle after) : Later before after where
  asked_le name := (first.asked_le name).trans (second.asked_le name)
  size_eq name same := by
    have lower := first.asked_le name
    have upper := second.asked_le name
    rw [second.size_eq name (by omega), first.size_eq name (by omega)]
  emptied := Subset.trans first.emptied second.emptied

theorem of_same (same : SameWorkloads before after) (grows : before.emptied ⊆ after.emptied) :
    Later before after where
  asked_le name := by rw [same.asked]
  size_eq name _ := by rw [PoolStore.size, PoolStore.size, same.statefulSets]
  emptied := grows

theorem setStatefulSet (pool : String) (sts : Option PoolStatefulSet) :
    Later store (store.setStatefulSet pool sts) where
  asked_le name := by
    by_cases same : name = pool
    · subst same
      simp only [PoolStore.setStatefulSet]
      split
      · exact le_rfl
      · rw [Function.update_self]
        exact Nat.le_succ _
    · rw [setStatefulSet_asked_of_ne same]
  size_eq name kept := by
    by_cases same : name = pool
    · subst same
      rw [PoolStore.size, setStatefulSet_self]
      by_contra differ
      simp [PoolStore.setStatefulSet, differ] at kept
    · rw [PoolStore.size, PoolStore.size, PoolStore.setStatefulSet_of_ne same]
  emptied := Subset.refl _

end Later

variable {name : String}

theorem emptiedNodes_subset {before after : PoolStore} (later : before.emptied ⊆ after.emptied)
    (same : after.asked name = before.asked name) :
    before.emptiedNodes name ⊆ after.emptiedNodes name := by
  intro node member
  rcases mem_map.mp member with ⟨entry, kept, rfl⟩
  rcases mem_filter.mp kept with ⟨noted, stamp⟩
  refine mem_map.mpr ⟨entry, mem_filter.mpr ⟨later noted, ?_⟩, rfl⟩
  rw [scaleDown, same]
  exact stamp

/-! ## The invariants -/

/-- What is noted about drains: no drain is for a scale-down still to come, and where a drain for
the present scale-down of a pool is complete, the nodes that go were found empty. -/
structure DrainNotes (clusterName : String) (spec : AdvancedSpec) (store : PoolStore) : Prop where
  stamped : forall scaleDown, store.startedFor = some scaleDown -> scaleDown.asked ≤ store.asked scaleDown.pool
  complete : store.phase = .complete -> ∀ pool ∈ spec.nodePools,
    store.startedFor = some (store.scaleDown pool.name) ->
      NodesEmptied (indexerNodePoolName clusterName pool.name) (store.size pool.name) pool.replicas
        (store.emptiedNodes pool.name)

namespace DrainNotes

variable {clusterName : String} {spec : AdvancedSpec} {after : PoolStore}

theorem later (notes : DrainNotes clusterName spec before) (later : Later before after)
    (status : after.status = before.status) (note : after.startedFor = before.startedFor) :
    DrainNotes clusterName spec after where
  stamped scaleDown started := (notes.stamped scaleDown (note ▸ started)).trans (later.asked_le _)
  complete done pool member started := by
    rw [note] at started
    have asked : after.asked pool.name = before.asked pool.name :=
      Nat.le_antisymm (notes.stamped _ started) (later.asked_le _)
    have same : after.scaleDown pool.name = before.scaleDown pool.name := by
      rw [scaleDown, asked, scaleDown]
    rw [phase, status] at done
    have emptied := notes.complete done pool member (same ▸ started)
    rw [later.size_eq _ asked]
    exact fun ordinal above below => emptiedNodes_subset later.emptied asked (emptied ordinal above below)

theorem of_phase (stamped : forall scaleDown, after.startedFor = some scaleDown ->
    scaleDown.asked ≤ after.asked scaleDown.pool) (going : after.phase ≠ .complete) :
    DrainNotes clusterName spec after :=
  ⟨stamped, fun done => absurd done going⟩

end DrainNotes

/-! ## The gate of a data pool -/

section DataPool

variable {clusterName : String} {spec : AdvancedSpec} {pool : IndexerNodePoolSpec} {input : GateInput}

theorem evaluate_needsDrain (shrinks : info.isScaleDown) (data : info.hasDataRole)
    (ended : evaluateNodePoolScaleDown info total true answer = .returned result) : result.needsDrain = true := by
  rw [evaluate_of_data shrinks data, if_pos rfl] at ended
  cases answer with
  | error => cases ended
  | ok health =>
    cases ended
    by_cases green : health.status = "green" <;> by_cases few : health.numberOfDataNodes < 2 <;>
      simp [green, few, NodePoolDrainResult.block, drainResult]

variable {store : PoolStore}

theorem nodesEmptied_of_noted (noted : store.emptied =
      (getNodePoolScaleDownTargets stsName current desired).map (store.scaleDown name, ·) ++ earlier) :
    NodesEmptied stsName current desired (store.emptiedNodes name) := by
  intro ordinal above below
  have target : podName stsName ordinal ∈ getNodePoolScaleDownTargets stsName current desired :=
    mem_map.mpr ⟨ordinal, mem_range'_1.mpr ⟨above, by omega⟩, rfl⟩
  refine mem_map.mpr ⟨(store.scaleDown name, podName stsName ordinal), mem_filter.mpr ⟨?_, ?_⟩, rfl⟩
  · rw [noted]
    exact mem_append_left _ (mem_map_of_mem target)
  · simp

def GoodReason (clusterName : String) (spec : AdvancedSpec) (getClient : Except String Unit)
    (pool : IndexerNodePoolSpec) (current : Nat) (emptied : List String) (reason : Reason) : Prop :=
  (reason = .disabled ∧ spec.drainEnabled = false) ∨ (reason = .noClient ∧ getClient.isOk = false) ∨
    NodesEmptied (indexerNodePoolName clusterName pool.name) current pool.replicas emptied

theorem move_safe {before after : PoolStore}
    (member : pool ∈ spec.nodePools) (same : SameWorkloads before after)
    (move : PoolDrainMove input (before.scaleDown pool.name)
      (getNodePoolScaleDownTargets (indexerNodePoolName clusterName pool.name) (before.size pool.name)
        pool.replicas) before after result log)
    (notes : DrainNotes clusterName spec before) (belongs : StatusBelongs before pool.name) :
    DrainNotes clusterName spec after ∧ forall reason, result = .ok (.proceed reason) ->
      NodesEmptied (indexerNodePoolName clusterName pool.name) (before.size pool.name) pool.replicas
        (after.emptiedNodes pool.name) := by
  have stamps : after.startedFor = before.startedFor -> forall scaleDown,
      after.startedFor = some scaleDown -> scaleDown.asked ≤ after.asked scaleDown.pool := by
    intro note scaleDown started
    rw [same.asked]
    exact notes.stamped scaleDown (note ▸ started)
  have stamp : after.scaleDown pool.name = before.scaleDown pool.name := by
    rw [scaleDown, same.asked, scaleDown]
  have size : after.size pool.name = before.size pool.name := by
    rw [PoolStore.size, same.statefulSets, PoolStore.size]
  cases move with
  | started _ phase note _ =>
    refine ⟨.of_phase ?_ (by simp [phase]), by rintro _ ⟨⟩⟩
    intro scaleDown started
    rw [note] at started
    cases started
    rw [same.asked]
    exact le_rfl
  | refused _ _ phase note _ | drained _ phase note _ | retried _ phase note _ =>
    exact ⟨.of_phase (stamps note) (by simp [phase]), by rintro _ ⟨⟩⟩
  | waited busy phase note _ =>
    refine ⟨.of_phase (stamps note) ?_, by rintro _ ⟨⟩⟩
    rcases busy with busy | busy <;> simp [phase, busy]
  | verified busy _ _ note emptied =>
    have own : before.startedFor = some (before.scaleDown pool.name) := by
      simpa [StatusBelongs, busy] using belongs
    rw [if_pos own, ← stamp] at emptied
    have empty := nodesEmptied_of_noted emptied
    refine ⟨⟨stamps note, fun _ other among started => ?_⟩, fun _ _ => empty⟩
    -- The drain belongs to one pool only.
    rw [note, own, ← stamp] at started
    have name : pool.name = other.name := congrArg ScaleDown.pool (Option.some.inj started)
    have equal : pool = other := inj_on_of_nodup_map spec.distinct member among name
    rw [← equal, size]
    exact empty
  | finished done phase note emptied =>
    have own : before.startedFor = some (before.scaleDown pool.name) := by
      simpa [StatusBelongs, done] using belongs
    refine ⟨.of_phase (stamps note) (by simp [phase]), fun _ _ ordinal above below => ?_⟩
    exact emptiedNodes_subset (emptied ▸ Subset.refl _) (by rw [same.asked])
      (notes.complete done pool member own ordinal above below)
  | passed other =>
    rcases other with other | other | ⟨name, other⟩ <;> simp [StatusBelongs, other] at belongs

theorem gate_safe (member : pool ∈ spec.nodePools) (pending : PendingScaleDown store pool)
    (notes : DrainNotes clusterName spec store)
    (belongs : spec.drainEnabled -> StatusBelongs store pool.name) :
    let gated := checkNodePoolScaleDownDrain clusterName spec pool input (store.size pool.name) store
    DrainNotes clusterName spec gated.state ∧
      forall reason, gated.result = .ok (.returned (.proceed reason)) ->
        GoodReason clusterName spec input.getClient pool (store.size pool.name) (gated.state.emptiedNodes pool.name)
          reason := by
  cases enabled : spec.drainEnabled with
  | false =>
    rw [gate_of_disabled enabled]
    refine ⟨notes, fun reason ended => ?_⟩
    cases ended
    exact .inl ⟨rfl, enabled⟩
  | true =>
    by_cases connects : CanConnect input store
    · rw [gate_of_client enabled connects]
      have ready : DrainNotes clusterName spec store.connected :=
        notes.later (.of_same ⟨rfl, rfl, rfl⟩ (Subset.refl _)) rfl rfl
      have down : (scaleDownInfo clusterName pool (store.size pool.name)).isScaleDown :=
        decide_eq_true pending.2
      cases ended : evaluateNodePoolScaleDown (scaleDownInfo clusterName pool (store.size pool.name))
          (getTotalClusterManagers spec) true input.answers.health with
      | panicked => exact ⟨ready, by rintro _ ⟨⟩⟩
      | returned result =>
        cases feasible : result.feasible with
        | false =>
          simp only [followEvaluation, feasible, Bool.false_eq_true, if_false, fail_apply]
          exact ⟨ready, by rintro _ ⟨⟩⟩
        | true =>
          have moves := @managePoolDrain_moves input (store.connected.scaleDown pool.name)
            (scaleDownInfo clusterName pool (store.size pool.name)).targetPodNames store.connected
          simp only [followEvaluation, feasible, evaluate_needsDrain down pending.1 ended, if_true,
            bind_apply, read_apply, Outcome.following_nil]
          have named : (scaleDownInfo clusterName pool (store.size pool.name)).poolName = pool.name := rfl
          rw [named]
          generalize managePoolDrain input (store.connected.scaleDown pool.name)
            (scaleDownInfo clusterName pool (store.size pool.name)).targetPodNames store.connected =
              outcome at moves
          rcases outcome with ⟨managed, after, log⟩
          have safe := move_safe member moves.1 moves.2 ready (belongs enabled)
          cases managed with
          | error text => exact ⟨safe.1, by rintro _ ⟨⟩⟩
          | ok =>
            refine ⟨safe.1, fun reason proceeds => .inr (.inr (safe.2 reason ?_))⟩
            cases proceeds
            rfl
    · rw [gate_of_no_client enabled connects]
      refine ⟨notes, fun reason ended => ?_⟩
      cases ended
      exact .inr (.inl ⟨rfl, Bool.eq_false_iff.mpr fun created => connects (.inr created)⟩)

def LeavesDrain (before after : PoolStore) : Prop :=
  after.status = before.status ∧ after.startedFor = before.startedFor

theorem gate_idle {currentReplicas : Nat}
    (idle : spec.drainEnabled = false ∨ pool.hasDataRole = false) :
    LeavesDrain store (checkNodePoolScaleDownDrain clusterName spec pool input currentReplicas store).state := by
  cases enabled : spec.drainEnabled with
  | false =>
    rw [gate_of_disabled enabled]
    exact ⟨rfl, rfl⟩
  | true =>
    have nodata : pool.hasDataRole = false := idle.resolve_left (by simp [enabled])
    by_cases connects : CanConnect input store
    · rw [gate_of_client enabled connects]
      rcases @evaluate_of_not_data (scaleDownInfo clusterName pool currentReplicas)
        (getTotalClusterManagers spec) true input.answers.health nodata with ⟨result, ended, skips⟩
      rw [ended]
      cases feasible : result.feasible <;> simp [followEvaluation, feasible, skips, connected, LeavesDrain]
    · rw [gate_of_no_client enabled connects]
      exact ⟨rfl, rfl⟩

end DataPool

/-! ## The turn of a pool -/

/-- The drain status and its note are the same, in a store that comes later. -/
structure SameDrain (before after : PoolStore) : Prop where
  status : after.status = before.status
  note : after.startedFor = before.startedFor
  later : Later before after

namespace SameDrain

variable {after : PoolStore}

theorem setStatefulSet (pool : String) (sts : Option PoolStatefulSet) :
    SameDrain store (store.setStatefulSet pool sts) := ⟨rfl, rfl, .setStatefulSet store pool sts⟩

theorem poolStatuses (statuses : String -> Option PoolStatus) :
    SameDrain store { store with poolStatuses := statuses } :=
  ⟨rfl, rfl, ⟨fun _ => le_rfl, fun _ _ => rfl, Subset.refl _⟩⟩

theorem notes {clusterName : String} {spec : AdvancedSpec} (same : SameDrain before after)
    (notes : DrainNotes clusterName spec before) : DrainNotes clusterName spec after :=
  notes.later same.later same.status same.note

end SameDrain

/-- The notes are kept, and every pool that has lost replicas has done so safely. -/
def EndsSafely (clusterName : String) (spec : AdvancedSpec) (input : PassInput) (after : PoolStore)
    (log : List PoolEvent) : Prop :=
  DrainNotes clusterName spec after ∧ ∀ event ∈ log, SafeShrink clusterName spec input event

section Pass

variable {sha : String -> String} {clusterName : String} {spec : AdvancedSpec} {pool : IndexerNodePoolSpec}
variable {input : PassInput} {store : PoolStore}

theorem gate_frame (gate : GateInput) (current : Nat) (store : PoolStore) :
    Later store (checkNodePoolScaleDownDrain clusterName spec pool gate current store).state ∧
      ∀ event ∈ (checkNodePoolScaleDownDrain clusterName spec pool gate current store).log,
        ∃ source target, event = .phaseWritten source target := by
  have kept : Keeps (Later store) (fun event => ∃ source target, event = PoolEvent.phaseWritten source target)
      (checkNodePoolScaleDownDrain clusterName spec pool gate current) :=
    keeps_gate (fun _ _ same grows holds => Later.trans holds (.of_same same grows))
      fun source target => ⟨source, target, rfl⟩
  exact kept store (.refl store)

theorem poolTurn_safe (member : pool ∈ spec.nodePools) (notes : DrainNotes clusterName spec store)
    (belongs : spec.drainEnabled -> PendingScaleDown store pool -> StatusBelongs store pool.name) :
    let turn := poolTurn sha clusterName spec input pool store
    EndsSafely clusterName spec input turn.state turn.log ∧
      (¬ (spec.drainEnabled ∧ PendingScaleDown store pool) -> LeavesDrain store turn.state) := by
  have frame : PoolFrame (fun after => DrainNotes clusterName spec after ∧
      (¬ (spec.drainEnabled ∧ PendingScaleDown store pool) -> LeavesDrain store after))
      (SafeShrink clusterName spec input) pool := by
    refine ⟨fun before statuses kept => ?_, fun before sts kept => ?_, fun _ => trivial, trivial, ?_⟩
    · exact ⟨(SameDrain.poolStatuses before statuses).notes kept.1, kept.2⟩
    · exact ⟨(SameDrain.setStatefulSet before pool.name sts).notes kept.1, kept.2⟩
    · exact fun _ _ _ stays _ _ _ _ shrinks => absurd shrinks stays
  have safe := @PoolFrame.leads_reconcilePool _ _ sha clusterName spec pool (input.turn pool.name)
    (checkNodePoolScaleDownDrain clusterName spec pool (input.gate pool.name)) frame store
    ⟨notes, fun _ => ⟨rfl, rfl⟩⟩ fun statuses shrinks => ?_
  · rw [Leads] at safe
    exact ⟨⟨safe.1.1, safe.2⟩, safe.1.2⟩
  · have opened := (SameDrain.poolStatuses store statuses).notes notes
    have whole := @gate_frame clusterName spec pool (input.gate pool.name) (store.size pool.name)
      { store with poolStatuses := statuses }
    have events : ∀ event ∈ (checkNodePoolScaleDownDrain clusterName spec pool (input.gate pool.name)
        (store.size pool.name) { store with poolStatuses := statuses }).log,
        SafeShrink clusterName spec input event := by
      intro event recorded
      rcases whole.2 event recorded with ⟨_, _, rfl⟩
      trivial
    rw [Leads]
    cases data : pool.hasDataRole with
    | true =>
      have pending : PendingScaleDown store pool := ⟨data, shrinks⟩
      have safe := @gate_safe clusterName spec pool (input.gate pool.name) { store with poolStatuses := statuses }
        member pending opened fun enabled => belongs enabled pending
      refine ⟨⟨⟨safe.1, fun idle => ?_⟩, events⟩, fun reason proceeds other _ _ _ _ => ?_⟩
      · refine gate_idle (.inl (Bool.eq_false_iff.mpr fun enabled => idle ⟨enabled, pending⟩))
      · rcases safe.2 reason proceeds with ⟨rfl, disabled⟩ | ⟨rfl, refused⟩ | emptied
        · exact .inl ⟨rfl, disabled⟩
        · exact .inr (.inl ⟨rfl, refused⟩)
        · exact .inr (.inr emptied)
    | false =>
      have kept := @gate_idle clusterName spec pool (input.gate pool.name) { store with poolStatuses := statuses }
        (store.size pool.name) (.inr data)
      refine ⟨⟨⟨SameDrain.notes ⟨kept.1, kept.2, whole.1⟩ opened, fun _ => kept⟩, events⟩, ?_⟩
      intro reason _ other among name role _
      have equal : other = pool := inj_on_of_nodup_map spec.distinct among member name
      rw [equal, data] at role
      cases role

theorem poolTurn_others {other : String} (apart : other ≠ pool.name) :
    (poolTurn sha clusterName spec input pool store).state.size other = store.size other ∧
      (poolTurn sha clusterName spec input pool store).state.asked other = store.asked other := by
  have kept : Keeps (fun after : PoolStore => after.size other = store.size other ∧
      after.asked other = store.asked other) (fun _ => True)
      (poolTurn sha clusterName spec input pool) := by
    refine TurnFrame.keeps_reconcilePool ⟨fun _ _ holds => holds, fun before sts holds => ?_, fun _ => trivial,
      fun _ _ _ _ => trivial, trivial⟩ fun current => keeps_gate (fun before after same _ holds => ?_)
        fun _ _ => trivial
    · rw [PoolStore.size, PoolStore.setStatefulSet_of_ne apart, setStatefulSet_asked_of_ne apart]
      exact holds
    · rw [PoolStore.size, same.statefulSets, same.asked]
      exact holds
  exact (kept store ⟨rfl, rfl⟩).1

theorem oneDrain_rest (member : pool ∈ spec.nodePools)
    (fresh : pool.name ∉ rest.map IndexerNodePoolSpec.name) (notes : DrainNotes clusterName spec store)
    (one : OneDrain (pool :: rest) store) :
    OneDrain rest (poolTurn sha clusterName spec input pool store).state := by
  have apart : ∀ other ∈ rest, other.name ≠ pool.name := fun other among same =>
    fresh (same ▸ mem_map_of_mem among)
  have before : ∀ other ∈ rest, PendingScaleDown (poolTurn sha clusterName spec input pool store).state other ->
      PendingScaleDown store other := by
    intro other among pending
    have kept := @poolTurn_others sha clusterName spec pool input store other.name (apart other among)
    exact ⟨pending.1, kept.1 ▸ pending.2⟩
  intro other among pending
  have waiting := one other (mem_cons_of_mem _ among) (before other among pending)
  refine ⟨?_, fun third memberThird pendingThird =>
    waiting.2 third (mem_cons_of_mem _ memberThird) (before third memberThird pendingThird)⟩
  -- This pool is not the one to be drained, so that its turn has left the status alone.
  have idle : ¬ (spec.drainEnabled ∧ PendingScaleDown store pool) := fun both =>
    apart other among (waiting.2 pool mem_cons_self both.2).symm
  have kept := (@poolTurn_safe sha clusterName spec pool input store member notes
    fun _ pendingHere => (one pool mem_cons_self pendingHere).1).2 idle
  have asked := (@poolTurn_others sha clusterName spec pool input store other.name (apart other among)).2
  have belongs := waiting.1
  rw [StatusBelongs, phase, scaleDown] at belongs ⊢
  rw [kept.1, kept.2, asked]
  exact belongs

/-- The turns of a pass, for pools of the specification that are yet to come. -/
theorem reconcilePools_safe (pools : List IndexerNodePoolSpec) (among : ∀ pool ∈ pools, pool ∈ spec.nodePools)
    (distinct : (pools.map IndexerNodePoolSpec.name).Nodup) : forall store,
    DrainNotes clusterName spec store -> (spec.drainEnabled -> OneDrain pools store) ->
      EndsSafely clusterName spec input (reconcilePools sha clusterName spec input pools store).state
        (reconcilePools sha clusterName spec input pools store).log := by
  induction pools with
  | nil => exact fun store notes _ => ⟨notes, nofun⟩
  | cons pool _ ih =>
    intro store notes one
    rw [forall_mem_cons] at among
    rw [map_cons, nodup_cons] at distinct
    have safe := @poolTurn_safe sha clusterName spec pool input store among.1 notes
      fun enabled pending => (one enabled pool mem_cons_self pending).1
    have onward := ih among.2 distinct.2 (poolTurn sha clusterName spec input pool store).state safe.1.1
      fun enabled => oneDrain_rest among.1 distinct.1 notes (one enabled)
    rw [reconcilePools, bind_apply]
    rcases ran : poolTurn sha clusterName spec input pool store with ⟨result, after, log⟩
    rw [ran] at safe onward
    rcases result with text | (done | _)
    · exact safe.1
    · refine ⟨onward.1, fun event recorded => ?_⟩
      rcases mem_append.mp recorded with recorded | recorded
      · exact safe.1.2 event recorded
      · exact onward.2 event recorded
    · exact ⟨safe.1.1, by simpa using safe.1.2⟩

theorem reconcileAdvancedMode_safe (notes : DrainNotes clusterName spec store)
    (one : spec.drainEnabled -> OneDrain spec.nodePools store) :
    EndsSafely clusterName spec input (reconcileAdvancedMode sha clusterName spec input store).state
      (reconcileAdvancedMode sha clusterName spec input store).log := by
  refine reconcileAdvancedMode_of_turns ?_ (keeps_cleanup (fun before statuses kept => ?_)
    (fun before name kept => ?_) fun _ _ _ => trivial)
  · exact reconcilePools_safe spec.nodePools (fun _ member => member) spec.distinct store notes one
  · exact (SameDrain.poolStatuses before statuses).notes kept
  · exact (SameDrain.setStatefulSet before name none).notes kept

theorem reconcileAdvancedMode_later (store : PoolStore) :
    Later store (reconcileAdvancedMode sha clusterName spec input store).state := by
  have reports : forall before statuses, Later store before ->
      Later store { before with poolStatuses := statuses } :=
    fun before statuses holds => Later.trans holds (SameDrain.poolStatuses before statuses).later
  have writes : forall before name sts, Later store before -> Later store (before.setStatefulSet name sts) :=
    fun before name sts holds => Later.trans holds (.setStatefulSet before name sts)
  have turns : Keeps (Later store) (fun _ => True)
      (reconcilePools sha clusterName spec input spec.nodePools) :=
    keeps_reconcilePools fun pool _ => TurnFrame.keeps_reconcilePool
      ⟨reports, fun before sts => writes before pool.name sts, fun _ => trivial, fun _ _ _ _ => trivial, trivial⟩
      fun current => keeps_gate (fun _ _ same grows holds => Later.trans holds (.of_same same grows))
        fun _ _ => trivial
  exact (reconcileAdvancedMode_of_turns (turns store (.refl store))
    (keeps_cleanup reports (fun before name => writes before name none) fun _ _ _ => trivial)).1

end Pass

/-! ## Whole runs -/

section Wanted

variable {spec : AdvancedSpec} {pool : IndexerNodePoolSpec}

theorem wanted_of_mem (member : pool ∈ spec.nodePools) : spec.wanted pool.name = some pool.replicas := by
  rw [AdvancedSpec.wanted]
  cases found : spec.nodePools.find? fun other => other.name = pool.name with
  | none =>
    have missed := find?_eq_none.mp found pool member
    exact absurd (decide_eq_true rfl) missed
  | some other =>
    have name : other.name = pool.name := by simpa using find?_some found
    have equal : other = pool :=
      inj_on_of_nodup_map spec.distinct (mem_of_find?_eq_some found) member name
    rw [equal, Option.map_some]

theorem mem_of_wanted (wanted : spec.wanted name = some replicas) :
    ∃ pool ∈ spec.nodePools, pool.name = name ∧ pool.replicas = replicas := by
  rcases Option.map_eq_some_iff.mp wanted with ⟨pool, found, same⟩
  exact ⟨pool, mem_of_find?_eq_some found, by simpa using find?_some found, same⟩

end Wanted

section Steps

variable {sha : String -> String} {clusterName : String} {world : AdvancedWorld}

theorem notes_edited {store : PoolStore} (notes : DrainNotes clusterName old store) :
    DrainNotes clusterName new (store.edited old new) := by
  have grows : forall name, store.asked name ≤ (store.edited old new).asked name := by
    intro name
    simp only [edited]
    split
    · exact le_rfl
    · exact Nat.le_succ _
  refine ⟨fun scaleDown started => (notes.stamped scaleDown started).trans (grows _), ?_⟩
  intro done pool member started
  have stamp : (store.edited old new).asked pool.name ≤ store.asked pool.name := notes.stamped _ started
  have kept : new.wanted pool.name = old.wanted pool.name := by
    by_contra differ
    simp [edited, differ] at stamp
  have asked : (store.edited old new).asked pool.name = store.asked pool.name := if_pos kept
  rcases mem_of_wanted (kept.symm.trans (wanted_of_mem member)) with ⟨earlier, among, name, replicas⟩
  have own : store.startedFor = some (store.scaleDown earlier.name) := by
    rw [name, scaleDown, ← asked]
    exact started
  have emptied := notes.complete done earlier among own
  rw [name, replicas] at emptied
  intro ordinal above below
  have grown : store.emptied ⊆ (store.edited old new).emptied := Subset.refl _
  exact emptiedNodes_subset grown asked (emptied ordinal above below)

theorem notes_step (notes : DrainNotes clusterName world.spec world.store)
    (one : DrainsOneAtATime world step) :
    DrainNotes clusterName (advancedStep sha clusterName world step).spec
      (advancedStep sha clusterName world step).store := by
  cases step with
  | pass input =>
    simp only [advancedStep, afterPass]
    split
    · exact (reconcileAdvancedMode_safe notes one).1
    · -- The status is the one from before the pass, and everything else comes later.
      have later := @reconcileAdvancedMode_later sha clusterName world.spec input world.store
      exact notes.later ⟨later.asked_le, later.size_eq, later.emptied⟩ rfl rfl
  | edit => exact notes_edited notes
  | writeStatefulSet pool sts => exact (SameDrain.setStatefulSet world.store pool sts).notes notes
  | writeStatus status => exact ⟨nofun, nofun⟩
  | writeExclusion | restart => exact ⟨notes.stamped, notes.complete⟩

end Steps

/-- In every run in which there is one scale-down to drain for at a time, and the drain status is
its own, a data pool loses replicas only where drains are not enabled, where no client can be
created, or after all the nodes that go were found empty in a drain started for this
scale-down. -/
theorem pools_shrink_safely (sha : String -> String) (clusterName : String) (world : AdvancedWorld)
    (fresh : world.store.startedFor = none) (steps : List AdvancedStep)
    (one : Runs.Along (advancedStep sha clusterName) DrainsOneAtATime world steps) :
    Runs.Along (advancedStep sha clusterName) (ShrinksSafely sha clusterName) world steps := by
  have initially : DrainNotes clusterName world.spec world.store := by
    refine ⟨fun scaleDown started => ?_, fun _ pool _ started => ?_⟩ <;>
    · rw [fresh] at started
      cases started
  refine @Runs.along_of_invariant AdvancedWorld AdvancedStep (advancedStep sha clusterName) DrainsOneAtATime
    (ShrinksSafely sha clusterName) (fun world => DrainNotes clusterName world.spec world.store)
    (fun _ _ notes one => notes_step notes one) (fun world step notes one => ?_) steps world initially one
  cases step with
  | pass => exact (reconcileAdvancedMode_safe notes one).2
  | edit | writeStatefulSet | writeStatus | writeExclusion | restart => trivial

namespace Sample

def shrinkingWorld : AdvancedWorld where
  spec := { onePool (dataNodes 2 "memory: 2Gi") with drain := some { enabled := some true } }
  store := nodesStore

def dataPass (getClient : Except String Unit) : PassInput :=
  { openPass ["data"] with gate := fun _ => { openGate with getClient := getClient } }

end Sample

open Sample

/-- A drain in three passes: it is started, found at its end and verified, and the last pass shrinks
the pool. -/
theorem pools_shrink_safely_drained :
    Runs.Along (advancedStep id "wazuh") (ShrinksSafely id "wazuh") shrinkingWorld
        (replicate 3 (.pass (dataPass (.ok ())) true)) ∧
      (Runs.run (advancedStep id "wazuh") shrinkingWorld
        (replicate 3 (.pass (dataPass (.ok ())) true))).store.size "data" = 2 :=
  ⟨pools_shrink_safely id "wazuh" shrinkingWorld rfl _ (by decide +kernel), by decide +kernel⟩

/-- Without a client the pool is shrunk at once, and its pods have not been looked at. -/
theorem pool_shrunk_without_client : shrinkingWorld.spec.drainEnabled = true ∧
      PoolEvent.statefulSetUpdated "data" 3 2 (some .noClient) [] ∈
        (reconcileAdvancedMode id "wazuh" shrinkingWorld.spec
          (dataPass (.error "connection refused")) shrinkingWorld.store).log ∧
      ¬ NodesEmptied (indexerNodePoolName "wazuh" "data") 3 2 [] := by
  refine ⟨rfl, mem_cons_self, fun emptied => ?_⟩
  exact not_mem_nil (emptied 2 (le_refl 2) (by decide))

end NodePools
end WazuhOperator
