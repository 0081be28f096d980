import WazuhOperator.Drain.Machine
import WazuhOperator.Indexer.Gate

namespace WazuhOperator
namespace Indexer

open Procedure Drain IndexerDrainer

/-!
# What the indexer's drain check can do

`CheckEffect` lists every course of a drain check after a scale-down has been
detected, with the circumstances that lead to it, what the controller makes
of it, the store it leaves and the requests on the way.  The lists of events
are the exact ones wherever an effect on OpenSearch is among them.

`gateHolds` collects the circumstances in which the check does not let the
controller go on undrained.
-/

/-! ## The client and the drainer of a starting drain -/

def startClient (made : Except String Client) (reconciler : IndexerReconciler) :
    Except String Client :=
  match reconciler.osClient with
  | some client => .ok client
  | none => made

def startDrainer (config : Option IndexerDrainConfig) (client : Client)
    (reconciler : IndexerReconciler) : IndexerDrainer :=
  reconciler.drainer.getD (newIndexerDrainer client config)

/-- The client through which a drain check sends its requests: the cached drainer's, or
that of the drainer with which a drain would start. -/
def checkClient (config : Option IndexerDrainConfig) (made : Except String Client)
    (reconciler : IndexerReconciler) : DrainPhase -> Option Client
  | .idle =>
    match startClient made reconciler with
    | .ok client => some (startDrainer config client reconciler).client
    | .error _ => none
  | _ => reconciler.drainer.map client

def IndexerDrainer.noting (key : ClusterKey) (count : Nat) (drainer : IndexerDrainer) :
    IndexerDrainer :=
  { drainer with initialShardCount := Int32.ofNat count, recordedFor := some key }

def IndexerDrainer.asks (node : String) (drainer : IndexerDrainer) : Event -> Bool
  | .shardCount client asked _ => client = drainer.client && asked = node
  | .relocatingShards client _ => client = drainer.client
  | .initialCountUsed recordedFor => recordedFor = drainer.recordedFor
  | _ => false

attribute [local simp] asks

theorem IndexerDrainer.ofGate_of_looked {held : Option IndexerDrainer}
    (looked : ∃ drainer ∈ held, drainer.asks node event) : event.ofGate .indexer = true := by
  rcases looked with ⟨drainer, _, asked⟩
  cases event with
  | shardCount | relocatingShards | initialCountUsed => rfl
  | _ => cases asked

theorem ensureOpenSearchClient_apply (made : Except String Client)
    (reconciler : IndexerReconciler) :
    ensureOpenSearchClient made reconciler =
      match startClient made reconciler with
      | .error text => ⟨.error text, reconciler, []⟩
      | .ok client => ⟨.ok (), { reconciler with osClient := some client }, []⟩ := by
  rcases reconciler with ⟨cached, drainer⟩
  cases cached with
  | some => simp [ensureOpenSearchClient, startClient]
  | none => cases made <;> simp [ensureOpenSearchClient, startClient]

theorem keeps_ensureOpenSearchClient {made : Except String Client}
    (cached : forall reconciler client, inv reconciler -> reconciler.osClient = none ->
      made = .ok client -> inv { reconciler with osClient := some client }) :
    Proc.Keeps inv emits (ensureOpenSearchClient made) := by
  intro reconciler holds
  rcases reconciler with ⟨client, drainer⟩
  cases client with
  | some => exact ⟨holds, by simp [ensureOpenSearchClient]⟩
  | none =>
    cases made with
    | error => exact ⟨holds, by simp [ensureOpenSearchClient]⟩
    | ok client => exact ⟨cached _ client holds rfl rfl, by simp [ensureOpenSearchClient]⟩

theorem ensureDrainer_withClient (config : Option IndexerDrainConfig) (client : Client)
    (reconciler : IndexerReconciler) :
    ensureDrainer config { reconciler with osClient := some client } =
      { osClient := some client, drainer := some (startDrainer config client reconciler) } := by
  rcases reconciler with ⟨cached, drainer⟩
  cases drainer <;> simp [ensureDrainer, startDrainer]

theorem onDrainer_same {α : Type} {inner : Proc IndexerDrainer Event α}
    {reconciler : IndexerReconciler} {drainer : IndexerDrainer} {result : Except String α}
    {log : List Event} (held : reconciler.drainer = some drainer)
    (ran : inner drainer = ⟨result, drainer, log⟩) :
    onDrainer inner reconciler = ⟨result, reconciler, log⟩ := by
  rcases reconciler with ⟨cached, other⟩
  subst held
  simp [onDrainer, ran]

/-! ## The courses of a drain check -/

section Effect

variable (key : ClusterKey) (config : Option IndexerDrainConfig) (made : Except String Client)
variable (answers : OpenSearchAnswers) (now : Time) (info : ScaleDownInfo)

/-- Verification gets an answer to each of its questions. -/
def verifiable : Bool :=
  match answers.shardCount with
  | .error _ => false
  | .ok (_ + 1) => true
  | .ok 0 => answers.relocatingShards.isOk

/-- The node is empty, and nothing is on the move in the cluster. -/
def emptied : Bool :=
  match answers.shardCount, answers.relocatingShards with
  | .ok 0, .ok 0 => true
  | _, _ => false

theorem not_emptied_of_unverifiable {answers : OpenSearchAnswers}
    (unanswered : verifiable answers = false) : emptied answers = false := by
  rcases counted : answers.shardCount with text | count
  · simp [emptied, counted]
  · cases count with
    | succ => simp [emptied, counted]
    | zero =>
      rcases moving : answers.relocatingShards with text | relocating
      · simp [emptied, counted, moving]
      · simp [verifiable, counted, moving] at unanswered

def startEvents (drainer : IndexerDrainer) (count : Nat) : List Event :=
  [.scaleDownEvaluated .indexer .idle,
    .drainStarted .indexer info.targetPodName,
    .shardCount drainer.client info.targetPodName (.ok count),
    .setExclusion drainer.client info.targetPodName answers.setExclusion]

def verifiedEvents (drainer : IndexerDrainer) : List Event :=
  [.scaleDownEvaluated .indexer .verifying,
    .shardCount drainer.client info.targetPodName (.ok 0),
    .relocatingShards drainer.client (.ok 0),
    .drainVerified .indexer info.targetPodName,
    .clearExclusion drainer.client answers.clearExclusion]

/-- The courses of a drain check: the verdict, the store after it and its events. -/
inductive CheckEffect (state : DrainState IndexerReconciler) :
    Verdict -> DrainState IndexerReconciler -> List Event -> Prop where
  | unavailable (start : state.status.phase = .idle ∨ state.status.phase = .unset)
      (client : startClient made state.memory = .error text) :
      CheckEffect state .proceed state [.scaleDownEvaluated .indexer state.status.phase]
  | unsetPhase {client : Client} (unset : state.status.phase = .unset)
      (available : startClient made state.memory = .ok client) :
      CheckEffect state .proceed
        ⟨⟨some client, some (startDrainer config client state.memory)⟩, state.status⟩
        [.scaleDownEvaluated .indexer .unset]
  | countFailed {client : Client} (idle : state.status.phase = .idle)
      (available : startClient made state.memory = .ok client)
      (count : answers.shardCount = .error text) :
      CheckEffect state .proceed
        ⟨⟨some client, some (startDrainer config client state.memory)⟩,
          announced now info state.status⟩
        [.scaleDownEvaluated .indexer .idle, .drainStarted .indexer info.targetPodName,
          .shardCount (startDrainer config client state.memory).client info.targetPodName
            (.error text)]
  | exclusionFailed {client : Client}
      (idle : state.status.phase = .idle)
      (available : startClient made state.memory = .ok client)
      (counted : answers.shardCount = .ok count)
      (failed : answers.setExclusion.toExcept = .error text) :
      CheckEffect state .proceed
        ⟨⟨some client, some ((startDrainer config client state.memory).noting key count)⟩,
          announced now info state.status⟩
        (startEvents answers info (startDrainer config client state.memory) count)
  | started {client : Client} (idle : state.status.phase = .idle)
      (available : startClient made state.memory = .ok client)
      (counted : answers.shardCount = .ok count)
      (excluded : answers.setExclusion.toExcept = .ok ()) :
      CheckEffect state .wait
        ⟨⟨some client, some ((startDrainer config client state.memory).noting key count)⟩,
          entered now .draining "Relocating shards from node" (announced now info state.status)⟩
        (startEvents answers info (startDrainer config client state.memory) count)
  | watched (under : state.status.phase = .pending ∨ state.status.phase = .draining)
      (moved : status.phase =
        watchedPhase (state.memory.drainer.isSome && emptied answers) state.status.phase)
      (target : status.targetPod = state.status.targetPod)
      (retry : status.nextRetryTime = state.status.nextRetryTime)
      (observed : ∀ event ∈ log, ∃ drainer ∈ state.memory.drainer,
        drainer.asks info.targetPodName event = true) :
      CheckEffect state .wait ⟨state.memory, status⟩
        (.scaleDownEvaluated .indexer state.status.phase :: log)
  | unverifiable (verifying : state.status.phase = .verifying)
      (unknown : state.memory.drainer = none ∨ verifiable answers = false)
      (observed : ∀ event ∈ log, ∃ drainer ∈ state.memory.drainer,
        drainer.asks info.targetPodName event = true) :
      CheckEffect state .proceed state (.scaleDownEvaluated .indexer .verifying :: log)
  | notEmpty (verifying : state.status.phase = .verifying)
      (present : state.memory.drainer = some drainer) (known : verifiable answers = true)
      (busy : emptied answers = false)
      (observed : ∀ event ∈ log, drainer.asks info.targetPodName event = true) :
      CheckEffect state .wait state (.scaleDownEvaluated .indexer .verifying :: log)
  | verified (verifying : state.status.phase = .verifying)
      (present : state.memory.drainer = some drainer)
      (empty : answers.shardCount = .ok 0) (settled : answers.relocatingShards = .ok 0) :
      CheckEffect state .proceedDrained
        ⟨state.memory, orKeep state.status (markComplete now state.status)⟩
        (verifiedEvents answers info drainer)
  | alreadyComplete (complete : state.status.phase = .complete) :
      CheckEffect state .proceedDrained state [.scaleDownEvaluated .indexer .complete]
  | passedOver (other : state.status.phase = .failed ∨ state.status.phase = .rollingBack ∨
        ∃ text, state.status.phase = .unknown text) :
      CheckEffect state .proceed state [.scaleDownEvaluated .indexer state.status.phase]

/-! ## Every drain check takes one of these courses -/

variable (state : DrainState IndexerReconciler)

attribute [local simp] drainOperations

abbrev TakesCourse : Prop :=
  let outcome := checkPhase (drainOperations key config made answers) now info state
  CheckEffect key config made answers now info state (verdict outcome.result) outcome.state outcome.log

theorem checkPhase_start_effect (start : state.status.phase = .idle ∨ state.status.phase = .unset) :
    TakesCourse key config made answers now info state := by
  unfold TakesCourse
  rw [checkPhase_start start]
  cases chosen : startClient made state.memory with
  | error text =>
    have ensured : (drainOperations key config made answers).ensureClient state.memory =
        ⟨.error text, state.memory, []⟩ := by
      simp [ensureOpenSearchClient_apply, chosen]
    rw [startDrainOperation_clientError ensured]
    exact .unavailable start chosen
  | ok client =>
    have ensured : (drainOperations key config made answers).ensureClient state.memory =
        ⟨.ok (), { state.memory with osClient := some client }, []⟩ := by
      simp [ensureOpenSearchClient_apply, chosen]
    have ready := ensureDrainer_withClient config client state.memory
    rcases start with idle | unset
    · have ran := startDrain_apply answers info.targetPodName
        (startDrainer config client state.memory) key
      have begun : forall {result : Except String Unit} {drainer : IndexerDrainer} {log : List Event},
          startDrain answers key info.targetPodName
            (startDrainer config client state.memory) = ⟨result, drainer, log⟩ ->
          (drainOperations key config made answers).startDrain info.targetPodName
            ((drainOperations key config made answers).ensureDrainer
              { state.memory with osClient := some client }) = ⟨result, ⟨some client, some drainer⟩, log⟩ := by
        intro result drainer log ran
        simp [ready, onDrainer, ran]
      cases counted : answers.shardCount with
      | error text =>
        simp only [counted] at ran
        rw [startDrainOperation_startError ensured idle (begun ran), idle]
        exact .countFailed idle chosen counted
      | ok count =>
        cases told : answers.setExclusion.toExcept with
        | error =>
          simp only [counted, told] at ran
          rw [startDrainOperation_startError ensured idle (begun ran), idle]
          exact .exclusionFailed idle chosen counted told
        | ok =>
          simp only [counted, told] at ran
          rw [startDrainOperation_started ensured idle (begun ran), idle]
          exact .started idle chosen counted told
    · have different : state.status.phase ≠ .idle := by simp [unset]
      rw [startDrainOperation_notIdle ensured different]
      simp only [verdict, unset]
      have rebuilt : (drainOperations key config made answers).ensureDrainer
          { state.memory with osClient := some client } =
          ⟨some client, some (startDrainer config client state.memory)⟩ := ready
      rw [rebuilt]
      exact .unsetPhase unset chosen

theorem checkPhase_monitor_effect
    (under : state.status.phase = .pending ∨ state.status.phase = .draining) :
    TakesCourse key config made answers now info state := by
  unfold TakesCourse
  rw [checkPhase_monitor under]
  -- Without a report the status stays as it is.
  have unreported : forall log : List Event, (state.memory.drainer.isSome && emptied answers) = false ->
      (∀ event ∈ log, ∃ drainer ∈ state.memory.drainer,
        drainer.asks info.targetPodName event) ->
      CheckEffect key config made answers now info state .wait state
        (.scaleDownEvaluated .indexer state.status.phase :: log) := by
    intro log unemptied observed
    have unmoved : state.status.phase = watchedPhase false state.status.phase := by
      rcases under with phase | phase <;> simp [phase, watchedPhase]
    exact .watched under (by rw [unemptied]; exact unmoved) rfl rfl observed
  cases held : state.memory.drainer with
  | none =>
    have absent : (drainOperations key config made answers).hasDrainer state.memory = false := by
      simp [held]
    rw [monitorDrainProgress_missing absent]
    exact unreported [] (by simp [held]) (by simp)
  | some drainer =>
    have present : (drainOperations key config made answers).hasDrainer state.memory := by
      simp [held]
    have ran := monitorProgress_apply answers info.targetPodName drainer
    have unchanged : forall {result : Except String DrainProgress} {log : List Event},
        monitorProgress answers info.targetPodName drainer =
          ⟨result, drainer, log⟩ ->
        (drainOperations key config made answers).monitor info.targetPodName state.memory =
          ⟨result, state.memory, log⟩ := onDrainer_same held
    cases counted : answers.shardCount with
    | error =>
      simp only [counted] at ran
      rw [monitorDrainProgress_error present (unchanged ran)]
      exact unreported _ (by simp [emptied, counted])
        (by simp [held])
    | ok count =>
      cases moving : answers.relocatingShards with
      | error =>
        simp only [counted, moving] at ran
        rw [monitorDrainProgress_error present (unchanged ran)]
        exact unreported _ (by simp [emptied, counted, moving])
          (by simp [held])
      | ok relocating =>
        simp only [counted, moving] at ran
        rw [monitorDrainProgress_ok present (unchanged ran)]
        have kept := reportedStatus_kept (drainOperations key config made answers) now
          (progressReport drainer.initialShardCount count relocating) state.status
        refine .watched under ?_ kept.1 kept.2 (by simp [held])
        rw [reportedStatus_phase _ now _ under, held, Option.isSome_some, Bool.true_and]
        congr 1
        unfold emptied progressReport
        rw [counted, moving]
        cases count with
        | succ => simp
        | zero => cases relocating <;> simp

theorem checkPhase_verify_effect (verifying : state.status.phase = .verifying) :
    TakesCourse key config made answers now info state := by
  unfold TakesCourse
  rw [checkPhase_verify verifying]
  cases held : state.memory.drainer with
  | none =>
    have absent : (drainOperations key config made answers).hasDrainer state.memory = false := by
      simp [held]
    rw [verifyDrainComplete_missing absent, verifying]
    exact .unverifiable verifying (.inl held) (by simp)
  | some drainer =>
    have present : (drainOperations key config made answers).hasDrainer state.memory := by
      simp [held]
    have ran := verifyComplete_apply answers info.targetPodName drainer
    -- The answers decide: the second question is asked only about an empty node.
    cases counted : answers.shardCount with
    | error =>
      simp only [counted] at ran
      have checked := onDrainer_same held ran
      rw [verifyDrainComplete_error present checked, verifying]
      exact .unverifiable verifying (.inr (by simp [verifiable, counted]))
        (by simp [held])
    | ok count =>
      cases count with
      | succ =>
        simp only [counted] at ran
        have checked := onDrainer_same held ran
        rw [verifyDrainComplete_notEmpty present checked, verifying]
        exact .notEmpty verifying held (by simp [verifiable, counted])
          (by simp [emptied, counted]) (by simp)
      | zero =>
        cases moving : answers.relocatingShards with
        | error =>
          simp only [counted, moving] at ran
          have checked := onDrainer_same held ran
          rw [verifyDrainComplete_error present checked, verifying]
          exact .unverifiable verifying
            (.inr (by simp [verifiable, counted, moving]))
            (by simp [held])
        | ok relocating =>
          simp only [counted, moving] at ran
          have checked := onDrainer_same held ran
          have cancelled := onDrainer_same held
            (cancelDrain_apply answers drainer)
          cases relocating with
          | zero =>
            rw [verifyDrainComplete_verified present checked cancelled, verifying]
            exact .verified verifying held counted moving
          | succ =>
            rw [verifyDrainComplete_notEmpty present checked, verifying]
            exact .notEmpty verifying held
              (by simp [verifiable, counted, moving])
              (by simp [emptied, counted, moving]) (by simp)

theorem checkPhase_effect : TakesCourse key config made answers now info state := by
  unfold TakesCourse
  cases phase : state.status.phase with
  | idle | unset =>
    exact checkPhase_start_effect key config made answers now info state (by simp [phase])
  | pending | draining =>
    exact checkPhase_monitor_effect key config made answers now info state (by simp [phase])
  | verifying => exact checkPhase_verify_effect key config made answers now info state phase
  | complete =>
    rw [checkPhase_complete phase]
    exact .alreadyComplete phase
  | failed | rollingBack | unknown =>
    rcases @checkPhase_passedOver _ _ (drainOperations key config made answers) now info state (by simp [phase])
      with ⟨result, ran, proceeds⟩
    simp only [ran, proceeds]
    exact .passedOver (by simp [phase])

/-! ## When the gate holds -/

/-- The check does not let the controller go on undrained.  Everything here is known
before the check: the phase, what the reconciler has cached, and the answers. -/
def gateHolds (memory : IndexerReconciler) : DrainPhase -> Bool
  | .idle =>
    (startClient made memory).isOk && answers.shardCount.isOk && answers.setExclusion.toExcept.isOk
  | .pending | .draining | .complete => true
  | .verifying => memory.drainer.isSome && verifiable answers
  | .unset | .failed | .rollingBack | .unknown _ => false

def gateCompletes (memory : IndexerReconciler) : DrainPhase -> Bool
  | .verifying => memory.drainer.isSome && emptied answers
  | .complete => true
  | _ => false

def gateWaits (memory : IndexerReconciler) (phase : DrainPhase) : Bool :=
  gateHolds made answers memory phase && !gateCompletes answers memory phase

/-! ## What every course has in common -/

namespace CheckEffect

attribute [local simp] gateHolds gateCompletes Event.ofGate startEvents verifiedEvents

variable {key config made answers now info} {state}
variable (effect : CheckEffect key config made answers now info state decision after log)

include effect

theorem proceed_iff :
    decision = .proceed <-> gateHolds made answers state.memory state.status.phase = false := by
  cases effect with
  | unavailable start client =>
    rcases start with idle | unset
    · simp [idle, client]
    · simp [unset]
  | unsetPhase phase | alreadyComplete phase => simp [phase]
  | countFailed idle _ count =>
    simp [idle, count]
  | exclusionFailed idle _ _ failed =>
    simp [idle, failed]
  | started idle available counted excluded =>
    simp [idle, available, counted, excluded]
  | watched under => rcases under with under | under <;> simp [under]
  | unverifiable verifying unknown =>
    rcases unknown with absent | unanswered
    · simp [verifying, absent]
    · simp [verifying, unanswered]
  | notEmpty verifying present known => simp [verifying, present, known]
  | verified verifying present empty settled =>
    simp [verifying, present, verifiable, empty, settled]
  | passedOver other => rcases other with phase | phase | ⟨text, phase⟩ <;> simp [phase]

theorem frame : CheckFrame .indexer state.status decision after.status log := by
  cases effect with
  | unavailable start => exact ⟨.refused start, rfl, by simp, by simp⟩
  | unsetPhase unset => exact ⟨.refused (.inr unset), rfl, by simp [unset], by simp⟩
  | countFailed idle | exclusionFailed idle => exact ⟨idle ▸ .startFailed, rfl, by simp [idle], by simp⟩
  | started idle => exact ⟨idle ▸ .started, rfl, by simp [idle], by simp⟩
  | watched under moved _ retry observed =>
    refine ⟨by rw [moved]; exact .watched under _, retry, by simp, ?_⟩
    simpa using fun event member => ofGate_of_looked (observed event member)
  | unverifiable verifying _ observed =>
    refine ⟨verifying ▸ .unverifiable, rfl, by simp [verifying], ?_⟩
    simpa using fun event member => ofGate_of_looked (observed event member)
  | notEmpty verifying present _ _ observed =>
    refine ⟨verifying ▸ .notEmpty, rfl, by simp [verifying], ?_⟩
    simpa using fun event member =>
      ofGate_of_looked ⟨_, present, observed event member⟩
  | verified verifying =>
    have complete := orKeep_markComplete_of_verifying now verifying
    rw [complete]
    exact ⟨verifying ▸ .verified, rfl, by simp [verifying], by simp⟩
  | alreadyComplete complete => exact ⟨complete ▸ .alreadyComplete, rfl, by simp [complete], by simp⟩
  | passedOver other => exact ⟨.passedOver other, rfl, by simp, by simp⟩

theorem proceedDrained_iff :
    decision = .proceedDrained <-> gateCompletes answers state.memory state.status.phase = true := by
  cases effect with
  | unavailable start | watched start => rcases start with phase | phase <;> simp [phase]
  | unsetPhase phase | countFailed phase | exclusionFailed phase | started phase | alreadyComplete phase =>
    simp [phase]
  | unverifiable verifying unknown =>
    rcases unknown with absent | unanswered
    · simp [verifying, absent]
    · simp [verifying, not_emptied_of_unverifiable unanswered]
  | notEmpty verifying _ _ busy => simp [verifying, busy]
  | verified verifying present empty settled =>
    simp [verifying, present, emptied, empty, settled]
  | passedOver other => rcases other with phase | phase | ⟨text, phase⟩ <;> simp [phase]

theorem wait_iff :
    decision = .wait <-> gateWaits made answers state.memory state.status.phase = true := by
  have proceeds := effect.proceed_iff
  have drained := effect.proceedDrained_iff
  rw [gateWaits, Bool.and_eq_true, Bool.not_eq_true', ← Bool.not_eq_false, ← proceeds,
    ← Bool.not_eq_true, ← drained]
  cases decision <;> simp

end CheckEffect

end Effect

end Indexer
end WazuhOperator
