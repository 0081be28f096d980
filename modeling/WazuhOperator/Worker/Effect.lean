import WazuhOperator.Drain.Machine
import WazuhOperator.Worker.Gate

namespace WazuhOperator
namespace Worker

open Procedure Drain ManagerDrainer

/-!
# What the workers' drain check can do

The counterpart of the indexer's list of courses.  No request of this
component changes anything at the Wazuh API, so that the only exact list of
events is that of a successful verification.
-/

/-! ## The client and the drainer of a starting drain -/

/-- The reconciler once `ensureWazuhClient` has succeeded. -/
def withWazuhClient (baseURL : String) (own : Credentials) (reconciler : WorkerReconciler) :
    WorkerReconciler :=
  if reconciler.wazuhClient.isSome ∧
      reconciler.wazuhClientCredentialsHash = credentialsHash own then
    reconciler
  else
    { reconciler with
      wazuhClient := some { baseURL := baseURL, username := own.username, password := own.password },
      wazuhClientCredentialsHash := credentialsHash own }

variable (baseURL : String)

theorem ensureWazuhClient_apply (credentials : Except String Credentials)
    (reconciler : WorkerReconciler) :
    ensureWazuhClient baseURL credentials reconciler =
      match credentials with
      | .error text => ⟨.error ("failed to get Wazuh API credentials: " ++ text), reconciler, []⟩
      | .ok own => ⟨.ok (), withWazuhClient baseURL own reconciler, []⟩ := by
  cases credentials with
  | error => simp [ensureWazuhClient]
  | ok own =>
    by_cases fresh : reconciler.wazuhClient.isSome ∧
        reconciler.wazuhClientCredentialsHash = credentialsHash own
    · simp [ensureWazuhClient, withWazuhClient, fresh]
    · simp [ensureWazuhClient, withWazuhClient, fresh]

theorem withWazuhClient_isSome (own : Credentials) (reconciler : WorkerReconciler) :
    ∃ client, (withWazuhClient baseURL own reconciler).wazuhClient = some client := by
  by_cases fresh : reconciler.wazuhClient.isSome ∧
      reconciler.wazuhClientCredentialsHash = credentialsHash own
  · rw [withWazuhClient, if_pos fresh]
    exact Option.isSome_iff_exists.mp fresh.1
  · rw [withWazuhClient, if_neg fresh]
    exact ⟨_, rfl⟩

theorem withWazuhClient_drainer (own : Credentials) (reconciler : WorkerReconciler) :
    (withWazuhClient baseURL own reconciler).drainer = reconciler.drainer := by
  unfold withWazuhClient
  split <;> rfl

def startDrainer (config : Option ManagerDrainConfig) (client : Client)
    (reconciler : WorkerReconciler) : ManagerDrainer :=
  reconciler.drainer.getD (newManagerDrainer client config)

theorem ensureDrainer_withClient (config : Option ManagerDrainConfig) {client : Client}
    (present : reconciler.wazuhClient = some client) :
    ensureDrainer config reconciler =
      { reconciler with drainer := some (startDrainer config client reconciler) } := by
  rcases reconciler with ⟨cached, hash, drainer⟩
  subst present
  cases drainer <;> simp [ensureDrainer, startDrainer]

theorem onDrainer_held {α : Type} {inner : Proc ManagerDrainer Event α}
    {drainer after : ManagerDrainer} {result : Except String α} {log : List Event}
    (held : reconciler.drainer = some drainer) (ran : inner drainer = ⟨result, after, log⟩) :
    onDrainer inner reconciler = ⟨result, { reconciler with drainer := some after }, log⟩ := by
  simp [onDrainer, held, ran]

/-! ## The methods of the drainer as equations -/

section Equations

attribute [local simp] getQueueStatus

variable (queue : Except String Int64) (node : String) (drainer : ManagerDrainer)

theorem ManagerDrainer.startDrain_apply : ManagerDrainer.startDrain queue node drainer =
      match queue with
      | .error text =>
        ⟨.error ("failed to get initial queue status: " ++ text), drainer,
          [.queueStatus drainer.client node (.error text)]⟩
      | .ok events =>
        ⟨.ok (), { drainer with initialQueueDepth := events, emptyQueueSeenTime := none },
          [.queueStatus drainer.client node (.ok events)]⟩ := by
  cases queue <;> simp [ManagerDrainer.startDrain]

variable (now : Time)

theorem ManagerDrainer.verifyQueueEmpty_apply (key : ClusterKey) :
    verifyQueueEmpty queue now key node drainer =
      match queue with
      | .error text =>
        ⟨.error ("failed to verify queue empty: " ++ text), drainer,
          [.queueStatus drainer.client node (.error text)]⟩
      | .ok events =>
        if 0 < events then
          ⟨.ok false, drainer, [.queueStatus drainer.client node (.ok events)]⟩
        else
          match drainer.emptyQueueSeenTime with
          | none =>
            ⟨.ok false, { drainer with emptyQueueSeenTime := some (now, key) },
              [.queueStatus drainer.client node (.ok events)]⟩
          | some (seen, recordedFor) =>
            ⟨.ok (decide (drainer.gracePeriod ≤ now - seen)), drainer,
              [.queueStatus drainer.client node (.ok events), .emptySinceUsed recordedFor]⟩ := by
  cases queue with
  | error => simp [verifyQueueEmpty]
  | ok events =>
    by_cases waiting : 0 < events
    · simp [verifyQueueEmpty, waiting]
    · cases seen : drainer.emptyQueueSeenTime with
      | none | some => simp [verifyQueueEmpty, waiting, seen]

def ManagerDrainer.checking (events : Int64) (now : Time) (key : ClusterKey)
    (drainer : ManagerDrainer) : ManagerDrainer :=
  if 0 < events then drainer
  else { drainer with emptyQueueSeenTime := some (drainer.emptyQueueSeenTime.getD (now, key)) }

theorem ManagerDrainer.cancelDrain_apply : cancelDrain drainer =
      ⟨.ok (), { drainer with initialQueueDepth := 0, emptyQueueSeenTime := none }, []⟩ := rfl

/-- The moment since which the queue counts as empty, with the cluster it was noted
for: an earlier note, or else this moment. -/
def ManagerDrainer.noted (now : Time) (key : ClusterKey) (drainer : ManagerDrainer) :
    Time × ClusterKey :=
  drainer.emptyQueueSeenTime.getD (now, key)

def ManagerDrainer.reading (depth : Int64) (now : Time) (key : ClusterKey)
    (drainer : ManagerDrainer) : ManagerDrainer :=
  { drainer with
    initialQueueDepth := (queuePercent drainer.initialQueueDepth depth).2,
    emptyQueueSeenTime := if depth = 0 then some (drainer.noted now key) else none }

/-- The reading ends the drain: the queue is empty, and has been for the grace period. -/
def ManagerDrainer.settles (depth : Int64) (now : Time) (key : ClusterKey)
    (drainer : ManagerDrainer) : Bool :=
  decide (depth = 0) && decide (drainer.gracePeriod ≤ now - (drainer.noted now key).1)

def ManagerDrainer.readingEvents (depth : Int64) (now : Time) (key : ClusterKey)
    (drainer : ManagerDrainer) : List Event :=
  .queueStatus drainer.client node (.ok depth) ::
    if depth = 0 then [.emptySinceUsed (drainer.noted now key).2] else []

theorem ManagerDrainer.monitorQueueDepth_error (key : ClusterKey) (text : String) :
    monitorQueueDepth (.error text) now key node drainer =
      ⟨.error ("failed to get queue status: " ++ text), drainer,
        [.queueStatus drainer.client node (.error text)]⟩ := by
  simp [monitorQueueDepth]

theorem ManagerDrainer.monitorQueueDepth_ok (key : ClusterKey) (depth : Int64) :
    ∃ progress, monitorQueueDepth (.ok depth) now key node drainer =
        ⟨.ok progress, drainer.reading depth now key, drainer.readingEvents node depth now key⟩ ∧
      progress.isComplete = drainer.settles depth now key := by
  by_cases empty : depth = 0
  · by_cases elapsed : drainer.gracePeriod ≤ now - (drainer.noted now key).1
    · refine ⟨{ percent := 100, queueDepth := depth, initialQueueDepth := drainer.initialQueueDepth,
                message := "Queue drained successfully (grace period elapsed)",
                isComplete := true }, ?_, ?_⟩
      · rw [noted] at elapsed
        simp [monitorQueueDepth, empty, elapsed, reading, readingEvents, noted]
      · simp [settles, empty, elapsed]
    · refine ⟨{ percent := (queuePercent drainer.initialQueueDepth depth).1, queueDepth := depth,
                initialQueueDepth := drainer.initialQueueDepth,
                message := "Queue empty, waiting for grace period (" ++
                  durationText (drainer.gracePeriod - (now - (drainer.noted now key).1)) ++
                  " remaining)",
                isComplete := false }, ?_, ?_⟩
      · rw [noted] at elapsed
        simp [monitorQueueDepth, empty, elapsed, reading, readingEvents, noted]
      · simp [settles, elapsed]
  · refine ⟨{ percent := (queuePercent drainer.initialQueueDepth depth).1, queueDepth := depth,
              initialQueueDepth := drainer.initialQueueDepth,
              message := "Processing queue: " ++ toString depth ++ " events remaining",
              isComplete := false }, ?_, ?_⟩
    · simp [monitorQueueDepth, empty, reading, readingEvents]
    · simp [settles, empty]

end Equations

/-! ## The courses of a drain check -/

section Effect

variable (key : ClusterKey) (config : Option ManagerDrainConfig) (baseURL : String)
variable (credentials : Except String Credentials) (queue : Except String Int64)
variable (now : Time) (info : ScaleDownInfo)

/-- The last check of a drain succeeds with this drainer: the queue is empty now and has
been seen empty long enough ago. -/
def queueSettled (drainer : ManagerDrainer) : Bool :=
  match queue, drainer.emptyQueueSeenTime with
  | .ok events, some (seen, _) => !decide (0 < events) && decide (drainer.gracePeriod ≤ now - seen)
  | _, _ => false

def startMemory (own : Credentials) (client : Client) (memory : WorkerReconciler) :
    WorkerReconciler :=
  { withWazuhClient baseURL own memory with drainer := some (startDrainer config client memory) }

/-- The memory after a drain under way has been looked at. -/
def watchedMemory (memory : WorkerReconciler) : WorkerReconciler :=
  match queue with
  | .error _ => memory
  | .ok depth => { memory with drainer := memory.drainer.map (reading depth now key) }

/-- Looking at a drain under way finds it at its end. -/
def watchedSettles (memory : WorkerReconciler) : Bool :=
  match queue with
  | .error _ => false
  | .ok depth => memory.drainer.any (settles depth now key)

/-- The request with which a drainer looks at a node, and the use of its timestamp. -/
def ManagerDrainer.asks (node : String) (drainer : ManagerDrainer) : Event -> Bool
  | .queueStatus client asked _ => client = drainer.client && asked = node
  | .emptySinceUsed recordedFor => recordedFor = (drainer.noted now key).2
  | _ => false

attribute [local simp] ManagerDrainer.asks

theorem ManagerDrainer.ofGate_of_looked {key : ClusterKey} {now : Time} {held : Option ManagerDrainer}
    {node : String} {event : Event} (looked : ∃ drainer ∈ held, drainer.asks key now node event) :
    event.ofGate .manager = true := by
  rcases looked with ⟨drainer, _, asked⟩
  cases event with
  | queueStatus | emptySinceUsed => rfl
  | _ => cases asked

/-- The courses of a drain check: the verdict, the store after it and its events. -/
inductive CheckEffect (state : DrainState WorkerReconciler) :
    Verdict -> DrainState WorkerReconciler -> List Event -> Prop where
  | unavailable (start : state.status.phase = .idle ∨ state.status.phase = .unset)
      (unread : credentials = .error text) :
      CheckEffect state .proceed state [.scaleDownEvaluated .manager state.status.phase]
  | unsetPhase {client : Client} (unset : state.status.phase = .unset)
      (readable : credentials = .ok own)
      (connected : (withWazuhClient baseURL own state.memory).wazuhClient = some client) :
      CheckEffect state .proceed ⟨startMemory config baseURL own client state.memory, state.status⟩
        [.scaleDownEvaluated .manager .unset]
  | queueFailed {client : Client}
      (idle : state.status.phase = .idle) (readable : credentials = .ok own)
      (connected : (withWazuhClient baseURL own state.memory).wazuhClient = some client)
      (unread : queue = .error text) :
      CheckEffect state .proceed
        ⟨startMemory config baseURL own client state.memory, announced now info state.status⟩
        [.scaleDownEvaluated .manager .idle, .drainStarted .manager info.targetPodName,
          .queueStatus (startDrainer config client state.memory).client info.targetPodName
            (.error text)]
  | started {client : Client}
      (idle : state.status.phase = .idle) (readable : credentials = .ok own)
      (connected : (withWazuhClient baseURL own state.memory).wazuhClient = some client)
      (read : queue = .ok events) :
      CheckEffect state .wait
        ⟨{ withWazuhClient baseURL own state.memory with
            drainer := some { startDrainer config client state.memory with
              initialQueueDepth := events, emptyQueueSeenTime := none } },
          entered now .draining "Draining event queue on worker" (announced now info state.status)⟩
        [.scaleDownEvaluated .manager .idle, .drainStarted .manager info.targetPodName,
          .queueStatus (startDrainer config client state.memory).client info.targetPodName
            (.ok events)]
  | watched (under : state.status.phase = .pending ∨ state.status.phase = .draining)
      (moved : status.phase =
        watchedPhase (watchedSettles key queue now state.memory) state.status.phase)
      (target : status.targetPod = state.status.targetPod)
      (retry : status.nextRetryTime = state.status.nextRetryTime)
      (observed : ∀ event ∈ log, ∃ drainer ∈ state.memory.drainer,
        drainer.asks key now info.targetPodName event = true) :
      CheckEffect state .wait ⟨watchedMemory key queue now state.memory, status⟩
        (.scaleDownEvaluated .manager state.status.phase :: log)
  | unverifiable (verifying : state.status.phase = .verifying)
      (unknown : state.memory.drainer = none ∨ ∃ text, queue = .error text)
      (observed : ∀ event ∈ log, ∃ drainer ∈ state.memory.drainer,
        drainer.asks key now info.targetPodName event = true) :
      CheckEffect state .proceed state (.scaleDownEvaluated .manager .verifying :: log)
  | notEmpty (verifying : state.status.phase = .verifying)
      (present : state.memory.drainer = some drainer) (read : queue = .ok events)
      (unsettled : queueSettled queue now drainer = false)
      (observed : ∀ event ∈ log, drainer.asks key now info.targetPodName event = true) :
      CheckEffect state .wait
        ⟨{ state.memory with drainer := some (drainer.checking events now key) }, state.status⟩
        (.scaleDownEvaluated .manager .verifying :: log)
  | verified (verifying : state.status.phase = .verifying)
      (present : state.memory.drainer = some drainer) (read : queue = .ok events)
      (seen : drainer.emptyQueueSeenTime = some (since, recordedFor))
      (settled : queueSettled queue now drainer = true) :
      CheckEffect state .proceedDrained
        ⟨{ state.memory with
            drainer := some { drainer with initialQueueDepth := 0, emptyQueueSeenTime := none } },
          orKeep state.status (markComplete now state.status)⟩
        [.scaleDownEvaluated .manager .verifying,
          .queueStatus drainer.client info.targetPodName (.ok events), .emptySinceUsed recordedFor,
          .drainVerified .manager info.targetPodName]
  | alreadyComplete (complete : state.status.phase = .complete) :
      CheckEffect state .proceedDrained state [.scaleDownEvaluated .manager .complete]
  | passedOver (other : state.status.phase = .failed ∨ state.status.phase = .rollingBack ∨
        ∃ text, state.status.phase = .unknown text) :
      CheckEffect state .proceed state [.scaleDownEvaluated .manager state.status.phase]

/-! ## Every drain check takes one of these courses -/

variable (state : DrainState WorkerReconciler)

attribute [local simp] drainOperations

abbrev TakesCourse : Prop :=
  let outcome := checkPhase (drainOperations now key config baseURL credentials queue) now info state
  CheckEffect key config baseURL credentials queue now info state (verdict outcome.result) outcome.state outcome.log

theorem checkPhase_start_effect (start : state.status.phase = .idle ∨ state.status.phase = .unset) :
    TakesCourse key config baseURL credentials queue now info state := by
  unfold TakesCourse
  rw [checkPhase_start start]
  cases credentials with
  | error text =>
    have ensured : (drainOperations now key config baseURL (.error text) queue).ensureClient
        state.memory = ⟨.error ("failed to get Wazuh API credentials: " ++ text), state.memory, []⟩ := by
      simp [ensureWazuhClient_apply]
    exact .unavailable start rfl
  | ok own =>
    have ensured : (drainOperations now key config baseURL (.ok own) queue).ensureClient
        state.memory = ⟨.ok (), withWazuhClient baseURL own state.memory, []⟩ := by
      simp [ensureWazuhClient_apply]
    obtain ⟨client, connected⟩ := withWazuhClient_isSome baseURL own state.memory
    have sameDrainer : startDrainer config client (withWazuhClient baseURL own state.memory) =
        startDrainer config client state.memory := by
      rw [startDrainer, withWazuhClient_drainer, startDrainer]
    have ready : ensureDrainer config (withWazuhClient baseURL own state.memory) =
        startMemory config baseURL own client state.memory := by
      rw [ensureDrainer_withClient config connected, sameDrainer, startMemory]
    have holding : (startMemory config baseURL own client state.memory).drainer =
        some (startDrainer config client state.memory) := rfl
    rcases start with idle | unset
    · have begun : (drainOperations now key config baseURL (.ok own) queue).startDrain info.targetPodName
          (ensureDrainer config (withWazuhClient baseURL own state.memory)) = _ :=
        onDrainer_held (by rw [ready]; exact holding) (startDrain_apply queue info.targetPodName _)
      cases queue with
      | error text =>
        rw [startDrainOperation_startError ensured idle begun, idle, ready]
        exact .queueFailed idle rfl connected rfl
      | ok events =>
        rw [startDrainOperation_started ensured idle begun, idle, ready]
        exact .started idle rfl connected rfl
    · have different : state.status.phase ≠ .idle := by simp [unset]
      rw [startDrainOperation_notIdle ensured different]
      simp only [verdict, unset]
      have rebuilt : (drainOperations now key config baseURL (.ok own) queue).ensureDrainer
          (withWazuhClient baseURL own state.memory) =
          startMemory config baseURL own client state.memory := ready
      rw [rebuilt]
      exact .unsetPhase unset rfl connected

theorem checkPhase_monitor_effect
    (under : state.status.phase = .pending ∨ state.status.phase = .draining) :
    TakesCourse key config baseURL credentials queue now info state := by
  unfold TakesCourse
  rw [checkPhase_monitor under]
  -- Without a report the status stays as it is.
  have unreported : forall log : List Event, watchedSettles key queue now state.memory = false ->
      watchedMemory key queue now state.memory = state.memory ->
      (∀ event ∈ log, ∃ drainer ∈ state.memory.drainer,
        drainer.asks key now info.targetPodName event) ->
      CheckEffect key config baseURL credentials queue now info state .wait state
        (.scaleDownEvaluated .manager state.status.phase :: log) := by
    intro log unsettled sameMemory observed
    have unmoved : state.status.phase = watchedPhase false state.status.phase := by
      rcases under with phase | phase <;> simp [phase, watchedPhase]
    have course : CheckEffect key config baseURL credentials queue now info state .wait
        ⟨watchedMemory key queue now state.memory, state.status⟩
        (.scaleDownEvaluated .manager state.status.phase :: log) :=
      .watched under (by rw [unsettled]; exact unmoved) rfl rfl observed
    rwa [sameMemory] at course
  cases held : state.memory.drainer with
  | none =>
    have absent : (drainOperations now key config baseURL credentials queue).hasDrainer
        state.memory = false := by simp [held]
    have sameMemory : watchedMemory key queue now state.memory = state.memory := by
      cases queue with
      | error => rfl
      | ok =>
        simp only [watchedMemory, held, Option.map_none]
        rw [← held]
    rw [monitorDrainProgress_missing absent]
    exact unreported [] (by cases queue <;> simp [watchedSettles, held]) sameMemory (by simp)
  | some drainer =>
    have present : (drainOperations now key config baseURL credentials queue).hasDrainer
        state.memory := by simp [held]
    cases queue with
    | error text =>
      have watched := onDrainer_held held
        (monitorQueueDepth_error info.targetPodName drainer now key text)
      have sameMemory : { state.memory with drainer := some drainer } = state.memory := by
        rw [← held]
      rw [monitorDrainProgress_error present watched, sameMemory]
      exact unreported _ rfl rfl (by simp [held])
    | ok depth =>
      obtain ⟨progress, ran, complete⟩ :=
        monitorQueueDepth_ok info.targetPodName drainer now key depth
      have watched := onDrainer_held held ran
      have kept := reportedStatus_kept
        (drainOperations now key config baseURL credentials (.ok depth)) now progress state.status
      have memory : { state.memory with drainer := some (drainer.reading depth now key) } =
          watchedMemory key (.ok depth) now state.memory := by
        rw [watchedMemory, held, Option.map_some]
      rw [monitorDrainProgress_ok present watched, memory]
      refine .watched under ?_ kept.1 kept.2 ?_
      · rw [reportedStatus_phase _ now _ under]
        congr 1
        simp only [watchedSettles, held, Option.any_some]
        exact complete
      · intro event member
        refine ⟨drainer, held, ?_⟩
        by_cases empty : depth = 0
        · simp only [readingEvents, empty, if_true] at member
          rcases List.mem_cons.mp member with rfl | last
          · simp
          · rw [List.mem_singleton.mp last]
            simp
        · simp only [readingEvents, empty, if_false] at member
          rw [List.mem_singleton.mp member]
          simp

theorem ManagerDrainer.verifyQueueEmpty_ok (node : String) (drainer : ManagerDrainer)
    (events : Int64) :
    ∃ log, verifyQueueEmpty (.ok events) now key node drainer =
        ⟨.ok (queueSettled (.ok events) now drainer), drainer.checking events now key, log⟩ ∧
      (∀ event ∈ log, drainer.asks key now node event) ∧
      (queueSettled (.ok events) now drainer -> drainer.checking events now key = drainer ∧
        ∃ since, drainer.emptyQueueSeenTime = some since ∧
          log = [.queueStatus drainer.client node (.ok events), .emptySinceUsed since.2]) := by
  rw [verifyQueueEmpty_apply]
  by_cases waiting : 0 < events
  · refine ⟨[.queueStatus drainer.client node (.ok events)], ?_, ?_, ?_⟩
    · cases seen : drainer.emptyQueueSeenTime <;> simp [waiting, queueSettled, seen, checking]
    · simp
    · cases seen : drainer.emptyQueueSeenTime <;> simp [queueSettled, seen, waiting]
  · cases seen : drainer.emptyQueueSeenTime with
    | none =>
      refine ⟨[.queueStatus drainer.client node (.ok events)], ?_, ?_, ?_⟩
      · simp [waiting, queueSettled, seen, checking]
      · simp
      · simp [queueSettled, seen]
    | some since =>
      have same : drainer.checking events now key = drainer := by
        rw [checking, if_neg waiting, seen, Option.getD_some, ← seen]
      refine ⟨_, ?_, ?_, fun _ => ⟨same, since, rfl, rfl⟩⟩
      · simp [waiting, queueSettled, seen, same]
      · simp [noted, seen]

theorem checkPhase_verify_effect (verifying : state.status.phase = .verifying) :
    TakesCourse key config baseURL credentials queue now info state := by
  unfold TakesCourse
  rw [checkPhase_verify verifying]
  cases held : state.memory.drainer with
  | none =>
    have absent : (drainOperations now key config baseURL credentials queue).hasDrainer
        state.memory = false := by simp [held]
    rw [verifyDrainComplete_missing absent, verifying]
    exact .unverifiable verifying (.inl held) (by simp)
  | some drainer =>
    have present : (drainOperations now key config baseURL credentials queue).hasDrainer
        state.memory := by simp [held]
    have sameMemory : { state.memory with drainer := some drainer } = state.memory := by
      rw [← held]
    cases queue with
    | error text =>
      have ran := verifyQueueEmpty_apply (.error text) info.targetPodName drainer now key
      have checked := onDrainer_held held ran
      rw [verifyDrainComplete_error present checked, verifying, sameMemory]
      exact .unverifiable verifying (.inr ⟨text, rfl⟩) (by simp [held])
    | ok events =>
      rcases verifyQueueEmpty_ok key now info.targetPodName drainer events with ⟨log, ran, asked, exactly⟩
      have checked := onDrainer_held held ran
      cases settled : queueSettled (.ok events) now drainer with
      | false =>
        rw [settled] at checked
        rw [verifyDrainComplete_notEmpty present checked, verifying]
        exact .notEmpty verifying held rfl settled asked
      | true =>
        rcases exactly settled with ⟨same, since, seen, rfl⟩
        rw [settled, same] at checked
        have holding : ({ state.memory with drainer := some drainer } : WorkerReconciler).drainer =
            some drainer := rfl
        have cancelled := onDrainer_held holding (cancelDrain_apply drainer)
        rw [verifyDrainComplete_verified present checked cancelled, verifying]
        exact .verified verifying held rfl seen settled

theorem checkPhase_effect : TakesCourse key config baseURL credentials queue now info state := by
  unfold TakesCourse
  cases phase : state.status.phase with
  | idle | unset =>
    exact checkPhase_start_effect key config baseURL credentials queue now info state
      (by simp [phase])
  | pending | draining =>
    exact checkPhase_monitor_effect key config baseURL credentials queue now info state
      (by simp [phase])
  | verifying =>
    exact checkPhase_verify_effect key config baseURL credentials queue now info state phase
  | complete =>
    rw [checkPhase_complete phase]
    exact .alreadyComplete phase
  | failed | rollingBack | unknown =>
    rcases @checkPhase_passedOver _ _ (drainOperations now key config baseURL credentials queue) now info state (by simp [phase])
      with ⟨result, ran, proceeds⟩
    simp only [ran, proceeds]
    exact .passedOver (by simp [phase])

def gateCompletes (memory : WorkerReconciler) : DrainPhase -> Bool
  | .verifying => memory.drainer.any (queueSettled queue now)
  | .complete => true
  | _ => false

/-! ## What every course has in common -/

namespace CheckEffect

attribute [local simp] gateCompletes Event.ofGate

variable {key config baseURL credentials queue now info} {state} {after : DrainState WorkerReconciler}
variable (effect : CheckEffect key config baseURL credentials queue now info state decision after log)

include effect

theorem frame : CheckFrame .manager state.status decision after.status log := by
  cases effect with
  | unavailable start => exact ⟨.refused start, rfl, by simp, by simp⟩
  | unsetPhase unset => exact ⟨.refused (.inr unset), rfl, by simp [unset], by simp⟩
  | queueFailed idle => exact ⟨idle ▸ .startFailed, rfl, by simp [idle], by simp⟩
  | started idle => exact ⟨idle ▸ .started, rfl, by simp [idle], by simp⟩
  | watched under moved _ retry observed =>
    refine ⟨by rw [moved]; exact .watched under _, retry, by simp, ?_⟩
    simpa using fun event member => ofGate_of_looked (observed event member)
  | unverifiable verifying _ observed =>
    refine ⟨verifying ▸ .unverifiable, rfl, by simp [verifying], ?_⟩
    simpa using fun event member => ofGate_of_looked (observed event member)
  | notEmpty verifying present _ _ observed =>
    refine ⟨verifying ▸ .notEmpty, rfl, by simp [verifying], ?_⟩
    simpa using fun event member => ofGate_of_looked ⟨_, present, observed event member⟩
  | verified verifying =>
    have complete := orKeep_markComplete_of_verifying now verifying
    rw [complete]
    exact ⟨verifying ▸ .verified, rfl, by simp [verifying], by simp⟩
  | alreadyComplete complete => exact ⟨complete ▸ .alreadyComplete, rfl, by simp [complete], by simp⟩
  | passedOver other => exact ⟨.passedOver other, rfl, by simp, by simp⟩

theorem proceedDrained_iff :
    decision = .proceedDrained <-> gateCompletes queue now state.memory state.status.phase = true := by
  cases effect with
  | unavailable start | watched start => rcases start with phase | phase <;> simp [phase]
  | unsetPhase phase | queueFailed phase | started phase | alreadyComplete phase => simp [phase]
  | unverifiable verifying unknown =>
    rcases unknown with absent | ⟨text, unread⟩
    · simp [verifying, absent]
    · cases held : state.memory.drainer with
      | none => simp [verifying, held]
      | some => simp [verifying, held, queueSettled, unread]
  | notEmpty verifying present _ unsettled =>
    simp [verifying, present, unsettled]
  | verified verifying present _ _ settled => simp [verifying, present, settled]
  | passedOver other => rcases other with phase | phase | ⟨text, phase⟩ <;> simp [phase]

end CheckEffect

end Effect

end Worker
end WazuhOperator
