import WazuhOperator.Library.Runs
import WazuhOperator.Reporting.Writers

namespace WazuhOperator
namespace Reporting

open Runs

/-!
# Whether a cluster which is reported ready is ready

The phase is decided afresh at each `updateStatus`, the condition `Ready` is
not: it is carried over with the other conditions, and the branch which
reports Creating does not touch it.  A stored `Ready` therefore outlives the
readiness it reported.

The branch itself compares the ready replicas with the replicas the workload
has, not with those the spec asks for, and a component which cannot be read
does not count against the cluster.  What the reports are worth is stated per
call and carried along the runs of the stored status.
-/

/-! ## Writes of the stored status -/

def persistCondition (conditionType reason message : String) (write : WriteAnswer)
    (stored : ClusterStatus) : ClusterStatus :=
  if write.applied then
    { stored with
      conditions :=
        updateCondition conditionType .conditionFalse reason message stored.conditions }
  else stored

/-- The beginning of `Reconcile`, which takes a new cluster into the phase Creating. -/
def leavePending (write : WriteAnswer) (stored : ClusterStatus) : ClusterStatus :=
  if (stored.phase = none ∨ stored.phase = some .pending) ∧ write.applied = true then
    { stored with phase := some .creating }
  else stored

/-- `updateDrainStatus`, which copies the drain status and nothing else. -/
def updateDrainStatus (drain : Option DrainStatus) (write : WriteAnswer)
    (stored : ClusterStatus) : ClusterStatus :=
  if write.applied then { stored with drain := drain } else stored

/-- The beginning of `handleDeletion`. -/
def enterDeletion (write : WriteAnswer) (stored : ClusterStatus) : ClusterStatus :=
  if write.applied then { stored with phase := some .deleting } else stored

inductive StatusWrite where
  | started (write : WriteAnswer)
  | failed (conditionType reason message : String) (write : WriteAnswer)
  | draining (drain : Option DrainStatus) (write : WriteAnswer)
  | deleting (write : WriteAnswer)
  | completed (steps : List StatusStep) (answers : StatusAnswers)

def record (stored : ClusterStatus) : StatusWrite -> ClusterStatus
  | .started write => leavePending write stored
  | .failed conditionType reason message write =>
    persistCondition conditionType reason message write stored
  | .draining drain write => updateDrainStatus drain write stored
  | .deleting write => enterDeletion write stored
  | .completed steps answers => (updateStatus answers (workingCopy stored steps) stored).state

/-! ## What a truthful report is -/

def EachDesired (answers : StatusAnswers) : Prop :=
  ∀ read ∈ answers.components, ∃ status,
    read = .ok (some status) ∧ status.desiredReplicas ≤ status.readyReplicas

/-- A component which was read misses a replica, of those it has or of those the spec
asks for. -/
def ReplicaLost (answers : StatusAnswers) : Prop :=
  ∃ status, .ok (some status) ∈ answers.components ∧
    (status.readyReplicas < status.replicas ∨ status.readyReplicas < status.desiredReplicas)

/-- The phase and the condition say the same, they say it only of a cluster which is
ready, and the condition does not outlive the loss of a replica. -/
structure Truthful (answers : StatusAnswers) (persisted : ClusterStatus) : Prop where
  consistent : persisted.phase = some .running <-> persisted.IsReady
  justified : persisted.phase = some .running ∨ persisted.IsReady -> EachDesired answers
  current : ReplicaLost answers -> ¬ persisted.IsReady

/-- Every status which the write persists by `updateStatus` is truthful. -/
def TruthfulAt (stored : ClusterStatus) : StatusWrite -> Prop
  | .completed steps answers =>
    ∀ persisted ∈ (updateStatus answers (workingCopy stored steps) stored).log,
      Truthful answers persisted
  | _ => True

/-! ## What the code looks at -/

/-- A component counts as up: a status was read and no replica it has is missing, or
the read failed and a status had been stored before. -/
def Up (read : Except String (Option ComponentStatus)) (kept : Option ComponentStatus) : Prop :=
  match read with
  | .error _ => kept.isSome = true
  | .ok none => False
  | .ok (some status) => status.replicas ≤ status.readyReplicas

instance (read : Except String (Option ComponentStatus)) (kept : Option ComponentStatus) :
    Decidable (Up read kept) :=
  match read with
  | .error _ => inferInstanceAs (Decidable (kept.isSome = true))
  | .ok none => isFalse id
  | .ok (some status) => inferInstanceAs (Decidable (status.replicas ≤ status.readyReplicas))

def AllUp (answers : StatusAnswers) (stored : ClusterStatus) : Prop :=
  Up answers.indexer stored.indexer ∧ Up answers.manager stored.manager ∧
    Up answers.dashboard stored.dashboard
  deriving Decidable

theorem up_iff (read : Except String (Option ComponentStatus)) (kept : Option ComponentStatus) :
    Up read kept <-> fallsShort read = false ∧ (shown read kept).isSome = true := by
  cases read with
  | error => simp [Up, fallsShort, shown]
  | ok status =>
    cases status with
    | none => simp [Up, shown]
    | some => simp [Up, fallsShort, shown]

theorem nextStatus_eq (answers : StatusAnswers) (working stored : ClusterStatus) :
    nextStatus answers working stored =
      if AllUp answers stored then reportRunning (takeOver answers working stored)
      else reportCreating (takeOver answers working stored) := by
  have decided : AllUp answers stored <->
      ((!fallsShort answers.indexer && !fallsShort answers.manager &&
          !fallsShort answers.dashboard) &&
        (shown answers.indexer stored.indexer).isSome &&
        (shown answers.manager stored.manager).isSome &&
        (shown answers.dashboard stored.dashboard).isSome) := by
    simp only [AllUp, up_iff, Bool.and_eq_true, Bool.not_eq_true']
    constructor
    · rintro ⟨⟨a, b⟩, ⟨c, d⟩, ⟨e, f⟩⟩
      exact ⟨⟨⟨⟨⟨a, c⟩, e⟩, b⟩, d⟩, f⟩
    · rintro ⟨⟨⟨⟨⟨a, c⟩, e⟩, b⟩, d⟩, f⟩
      exact ⟨⟨a, b⟩, ⟨c, d⟩, ⟨e, f⟩⟩
  by_cases up : AllUp answers stored
  · rw [if_pos up]
    exact if_pos (decided.mp up)
  · rw [if_neg up]
    exact if_neg (fun holds => up (decided.mpr holds))

theorem isReady_reportRunning (status : ClusterStatus) : (reportRunning status).IsReady := by
  unfold ClusterStatus.IsReady reportRunning
  rw [conditionOf_updateCondition_other (by decide)]
  simp

theorem isReady_reportCreating (status : ClusterStatus) :
    (reportCreating status).IsReady <-> status.IsReady := by
  unfold ClusterStatus.IsReady reportCreating
  rw [conditionOf_updateCondition_other (by decide)]

/-! ## One call -/

section Call

theorem not_replicaLost (up : AllUp answers stored) (desired : EachDesired answers) :
    ¬ ReplicaLost answers := by
  rintro ⟨status, member, lost⟩
  have complete : status.replicas ≤ status.readyReplicas := by
    rcases up with ⟨indexer, manager, dashboard⟩
    simp only [StatusAnswers.components, List.mem_cons, List.not_mem_nil, or_false] at member
    rcases member with read | read | read
    · rw [← read] at indexer
      exact indexer
    · rw [← read] at manager
      exact manager
    · rw [← read] at dashboard
      exact dashboard
  rcases desired _ member with ⟨other, same, enough⟩
  cases same
  omega

theorem truthful_nextStatus_iff : Truthful answers (nextStatus answers working stored) <->
      (AllUp answers stored -> EachDesired answers) ∧
        (¬ AllUp answers stored -> ¬ working.IsReady) := by
  rw [nextStatus_eq]
  by_cases up : AllUp answers stored
  · rw [if_pos up]
    have ready := isReady_reportRunning (takeOver answers working stored)
    constructor
    · intro truthful
      exact ⟨fun _ => truthful.justified (.inr ready), fun down => absurd up down⟩
    · rintro ⟨desired, -⟩
      exact { consistent := ⟨fun _ => ready, fun _ => rfl⟩
              justified := fun _ => desired up
              current := fun lost => absurd lost (not_replicaLost up (desired up)) }
  · rw [if_neg up]
    have carried : (reportCreating (takeOver answers working stored)).IsReady <-> working.IsReady :=
      isReady_reportCreating _
    have creating : (reportCreating (takeOver answers working stored)).phase ≠ some .running := by
      simp [reportCreating]
    constructor
    · intro truthful
      exact ⟨fun holds => absurd holds up,
        fun _ ready => creating (truthful.consistent.mpr (carried.mpr ready))⟩
    · rintro ⟨-, unready⟩
      have lifted := fun ready => unready up (carried.mp ready)
      exact { consistent := ⟨fun running => absurd running creating,
                fun ready => absurd ready lifted⟩
              justified := fun either => either.elim (fun running => absurd running creating)
                (fun ready => absurd ready lifted)
              current := fun _ => lifted }

end Call

/-! ## Runs -/

/-- The write meets the components in a state in which its report is truthful: if all
count as up they have the replicas of the spec, and if not, the stored condition `Ready`
is not true. -/
def Reportable (stored : ClusterStatus) : StatusWrite -> Prop
  | .completed _ answers =>
    answers.Persists ->
      (AllUp answers stored -> EachDesired answers) ∧
        (¬ AllUp answers stored -> ¬ stored.IsReady)
  | _ => True

/-- Along every run of the stored status, the statuses which `updateStatus` persists are
truthful exactly if each of its calls is made in a reportable state. -/
theorem truthful_readiness_iff (start : ClusterStatus) (writes : List StatusWrite) :
    Along record TruthfulAt start writes <-> Along record Reportable start writes := by
  refine along_congr (fun stored write => ?_) writes start
  cases write with
  | completed steps answers =>
    have call := @truthful_nextStatus_iff answers (workingCopy stored steps) stored
    rw [isReady_workingCopy] at call
    dsimp only [TruthfulAt, Reportable]
    by_cases persists : answers.Persists
    · rw [updateStatus_of_persists persists, List.forall_mem_singleton, call]
      exact ⟨fun reported _ => reported, fun reported => reported persists⟩
    · rcases updateStatus_of_not_persists persists (workingCopy stored steps) stored with
        ⟨text, outcome⟩
      rw [outcome]
      exact ⟨fun _ persisting => absurd persisting persists,
        fun _ _ member => absurd member List.not_mem_nil⟩
  | _ => exact Iff.rfl

/-! ## A replica is lost -/

namespace Sample

def oneIndexerDown : StatusAnswers :=
  { StatusAnswers.allReady with
    reads :=
      { StatusAnswers.allReady.reads with
        indexer := .ok (some { replicas := 3, readyReplicas := 2, updatedReplicas := 3 }) } }

def pass (answers : StatusAnswers) : StatusWrite :=
  .completed (passSteps .uneventful) answers

def reported : ClusterStatus := record (record {} (.started .accepted)) (pass .allReady)

def reportedLater : ClusterStatus := record reported (pass oneIndexerDown)

end Sample

open Sample in
/-- The pass after the loss of an indexer persists the phase Creating beside a condition
`Ready` which is still true. -/
theorem ready_outlives_replica : reported.phase = some .running ∧ reported.IsReady ∧
      reportedLater.phase = some .creating ∧ reportedLater.IsReady ∧ ReplicaLost oneIndexerDown ∧
      ¬ Along record TruthfulAt {}
        [.started .accepted, pass .allReady, pass oneIndexerDown] := by
  have lost : ReplicaLost oneIndexerDown :=
    ⟨{ replicas := 3, readyReplicas := 2, desiredReplicas := 3, phase := some .degraded },
      List.mem_cons_self, .inl (by decide)⟩
  have ready : reportedLater.IsReady := by decide
  refine ⟨by decide, by decide, by decide, ready, lost, ?_⟩
  rintro ⟨-, -, second, -⟩
  have persists : oneIndexerDown.Persists := ⟨rfl, rfl⟩
  have persisted : Truthful oneIndexerDown reportedLater :=
    second reportedLater (by
      exact List.mem_singleton.mpr rfl)
  exact persisted.current lost ready

end Reporting
end WazuhOperator
