import WazuhOperator.Cluster.Objects

namespace WazuhOperator

open Drain

/-!
# What a reconcile pass can be seen to do

A pass talks to three outside parties: the Kubernetes API, the OpenSearch
cluster and the Wazuh API.  `Event` lists what they see, in the order in
which it happens, each request with the client it was sent through and the
answer it got.  Properties about the order of effects, about who was asked,
and about what had been established at some moment are properties of the
list of events.
-/

/-- The connection parameters fixed when an API client is made.  The Wazuh API
client carries no certificate. -/
structure Client where
  (baseURL username password : String)
  caCert : String := ""
  deriving DecidableEq

/-- The content of the secret which holds the credentials of an API. -/
structure Credentials where
  (username password : String)
  caCert : String := ""
  deriving DecidableEq

def Credentials.client (credentials : Credentials) (baseURL : String) : Client :=
  { baseURL := baseURL, username := credentials.username, password := credentials.password,
    caCert := credentials.caCert }

/-- The fate of a write request.  A request whose answer got lost took effect,
but its sender sees an error. -/
inductive WriteAnswer where
  | accepted
  | refused (text : String)
  | unacknowledged (text : String)
  deriving DecidableEq

namespace WriteAnswer

def applied : WriteAnswer -> Bool
  | accepted => true
  | refused _ => false
  | unacknowledged _ => true

def toExcept : WriteAnswer -> Except String Unit
  | accepted => .ok ()
  | refused text => .error text
  | unacknowledged text => .error text

@[simp] theorem applied_accepted : accepted.applied = true := rfl

@[simp] theorem applied_refused (text : String) : (refused text).applied = false := rfl

@[simp] theorem applied_unacknowledged (text : String) :
    (unacknowledged text).applied = true := rfl

@[simp] theorem toExcept_accepted : accepted.toExcept = .ok () := rfl

@[simp] theorem toExcept_refused (text : String) : (refused text).toExcept = .error text := rfl

@[simp] theorem toExcept_unacknowledged (text : String) :
    (unacknowledged text).toExcept = .error text := rfl

theorem applied_of_toExcept {answer : WriteAnswer} (told : answer.toExcept = .ok ()) :
    answer.applied = true := by
  cases answer with
  | accepted => rfl
  | refused => cases told
  | unacknowledged => rfl

end WriteAnswer

/-- `ClusterHealth`, as far as the health check of a restart reads it. -/
structure ClusterHealth where
  status : String
  (numberOfNodes relocatingShards initializingShards unassignedShards : Nat)

inductive Event where
  /-- `GetShardCount`. -/
  | shardCount (client : Client) (node : String) (answer : Except String Nat)
  /-- `HasRelocatingShards`, answered by the number of relocating shards. -/
  | relocatingShards (client : Client) (answer : Except String Nat)
  /-- `SetAllocationExclusion`. -/
  | setExclusion (client : Client) (node : String) (answer : WriteAnswer)
  /-- `ClearAllocationExclusion`. -/
  | clearExclusion (client : Client) (answer : WriteAnswer)
  /-- `GetClusterHealth` before the next pod of a rolling restart is deleted. -/
  | clusterHealth (client : Client) (answer : Except String ClusterHealth)
  /-- `GetQueueStatus`, answered by the total number of queued events. -/
  | queueStatus (client : Client) (node : String) (answer : Except String Int64)
  /-- The read requests of a dry run about one component. -/
  | dryRun (component : Component) (client : Client) (node : String)
  /-- The percentage was computed with an initial shard count, recorded for a cluster or never. -/
  | initialCountUsed (recordedFor : Option ClusterKey)
  /-- The grace period was measured from a timestamp recorded for a cluster. -/
  | emptySinceUsed (recordedFor : ClusterKey)
  /-- A scale-down with the drain switched on was looked at, with a status in this phase. -/
  | scaleDownEvaluated (component : Component) (phase : DrainPhase)
  | drainStarted (component : Component) (node : String)
  /-- The last check of a drain found nothing left on the node. -/
  | drainVerified (component : Component) (node : String)
  /-- The drain check returned `DrainComplete`, and the controller goes on because of it. -/
  | drainComplete (component : Component)
  | statefulSetCreated (component : Component) (replicas : Nat)
  | statefulSetUpdated (component : Component) (current desired : Nat)
  /-- Deleted in order to be created again with the desired count. -/
  | statefulSetDeleted (component : Component) (current desired : Nat)
  | podDeleted (name : String)
  | drainStatusWritten (status : DrainStatus)

namespace Event

def openSearchClient : Event -> Option Client
  | shardCount client _ _ => some client
  | relocatingShards client _ => some client
  | setExclusion client _ _ => some client
  | clearExclusion client _ => some client
  | clusterHealth client _ => some client
  | dryRun .indexer client _ => some client
  | _ => none

def wazuhClient : Event -> Option Client
  | queueStatus client _ _ => some client
  | dryRun .manager client _ => some client
  | _ => none

/-- The component whose drain or whose StatefulSet an event belongs to.  Dry runs,
rolling restarts and status writes belong to neither. -/
def about : Event -> Option Component
  | shardCount _ _ _ => some .indexer
  | relocatingShards _ _ => some .indexer
  | setExclusion _ _ _ => some .indexer
  | clearExclusion _ _ => some .indexer
  | initialCountUsed _ => some .indexer
  | queueStatus _ _ _ => some .manager
  | emptySinceUsed _ => some .manager
  | scaleDownEvaluated component _ => some component
  | drainStarted component _ => some component
  | drainVerified component _ => some component
  | drainComplete component => some component
  | statefulSetCreated component _ => some component
  | statefulSetUpdated component _ _ => some component
  | statefulSetDeleted component _ _ => some component
  | clusterHealth _ _ => none
  | dryRun _ _ _ => none
  | podDeleted _ => none
  | drainStatusWritten _ => none

/-- Neither a request to OpenSearch or to the Wazuh API, nor the use of something a drainer
recorded. -/
def plain : Event -> Bool
  | shardCount _ _ _ | relocatingShards _ _ | setExclusion _ _ _ | clearExclusion _ _ => false
  | clusterHealth _ _ | queueStatus _ _ _ | dryRun _ _ _ => false
  | initialCountUsed _ | emptySinceUsed _ => false
  | _ => true

/-- The events of a drain check of a component, before the controller acts on it. -/
def ofGate (component : Component) : Event -> Bool
  | shardCount _ _ _ => component = .indexer
  | relocatingShards _ _ => component = .indexer
  | setExclusion _ _ _ => component = .indexer
  | clearExclusion _ _ => component = .indexer
  | initialCountUsed _ => component = .indexer
  | queueStatus _ _ _ => component = .manager
  | emptySinceUsed _ => component = .manager
  | scaleDownEvaluated evaluated _ => component = evaluated
  | drainStarted started _ => component = started
  | drainVerified verified _ => component = verified
  | _ => false

variable {event : Event}

theorem about_of_ofGate (checked : event.ofGate component) : event.about = some component := by
  cases event <;> simp_all [ofGate, about]

/-- The component which an accepted write takes from a replica count to a
smaller one, with both counts. -/
def shrink : Event -> Option (Component × Nat × Nat)
  | statefulSetUpdated component current desired =>
    if desired < current then some (component, current, desired) else none
  | statefulSetDeleted component current desired =>
    if desired < current then some (component, current, desired) else none
  | _ => none

def deletedPod : Event -> Option String
  | podDeleted name => some name
  | _ => none

def shrinks (component : Component) (event : Event) : Bool :=
  event.shrink.any (fun change => change.1 = component)

def completes (component : Component) : Event -> Bool
  | drainComplete completed => completed = component
  | _ => false

def verifies (component : Component) (pod : String) : Event -> Bool
  | drainVerified verified node => verified = component && node = pod
  | _ => false

def evaluation (component : Component) : Event -> Option DrainPhase
  | scaleDownEvaluated evaluated phase => if evaluated = component then some phase else none
  | _ => none

theorem quiet_of_ofGate (checked : event.ofGate component) :
    event.shrink = none ∧ event.completes other = false := by
  cases event with
  | statefulSetUpdated | statefulSetDeleted | drainComplete => cases checked
  | _ => exact ⟨rfl, rfl⟩

@[simp] theorem shrinks_statefulSetUpdated (component other : Component) (current desired : Nat) :
    (statefulSetUpdated other current desired).shrinks component =
      (decide (desired < current) && decide (other = component)) := by
  by_cases smaller : desired < current <;> simp [shrinks, shrink, smaller]

@[simp] theorem shrinks_statefulSetCreated (component other : Component) (replicas : Nat) :
    (statefulSetCreated other replicas).shrinks component = false := rfl

@[simp] theorem shrinks_statefulSetDeleted (component other : Component) (current desired : Nat) :
    (statefulSetDeleted other current desired).shrinks component =
      (decide (desired < current) && decide (other = component)) := by
  by_cases smaller : desired < current <;> simp [shrinks, shrink, smaller]

theorem about_of_shrinks (shrinking : event.shrinks component) : event.about = some component := by
  cases event with
  | statefulSetUpdated other current desired | statefulSetDeleted other current desired =>
    have both : desired < current ∧ other = component := by simpa using shrinking
    simp [about, both.2]
  | _ => cases shrinking

theorem shrinks_of_mem (member : change ∈ event.shrink) (own : change.1 = component) :
    event.shrinks component = true := by
  rw [Option.mem_def] at member
  simp [shrinks, member, own]

theorem exists_mem_shrink (shrinking : event.shrinks component) :
    ∃ change ∈ event.shrink, change.1 = component := by
  rw [shrinks] at shrinking
  cases found : event.shrink with
  | none => simp [found] at shrinking
  | some change => exact ⟨change, rfl, by simpa [found] using shrinking⟩

theorem lt_of_mem_shrink (member : change ∈ event.shrink) : change.2.2 < change.2.1 := by
  cases event with
  | statefulSetUpdated other current desired | statefulSetDeleted other current desired =>
    simp only [shrink, Option.mem_def, Option.ite_none_right_eq_some, Option.some.injEq] at member
    rw [← member.2]
    exact member.1
  | _ => cases member

theorem about_of_verifies
    (verifying : event.verifies component pod) : event.about = some component := by
  cases event with
  | drainVerified other node =>
    have both : other = component ∧ node = pod := by simpa [verifies] using verifying
    simp [about, both.1]
  | _ => cases verifying

theorem about_of_completes (completing : event.completes component) : event.about = some component := by
  cases event with
  | drainComplete => simpa [completes, about] using completing
  | _ => cases completing

theorem about_of_evaluation
    (evaluated : event.evaluation component = some phase) : event.about = some component := by
  cases event with
  | scaleDownEvaluated other =>
    by_cases same : other = component
    · simp [about, same]
    · simp [evaluation, same] at evaluated
  | _ => cases evaluated

/-- The effect of a request on the transient setting
`cluster.routing.allocation.exclude._name` behind an address.  Each write
replaces the previous value. -/
def applyExclusion (baseURL : String) (excluded : Option String) : Event -> Option String
  | setExclusion client node answer =>
    if client.baseURL = baseURL ∧ answer.applied then some node else excluded
  | clearExclusion client answer =>
    if client.baseURL = baseURL ∧ answer.applied then none else excluded
  | _ => excluded

end Event

def concerning (component : Component) (log : List Event) : List Event :=
  log.filter (fun event => event.about = some component)

@[simp] theorem concerning_append (component : Component) (first second : List Event) :
    concerning component (first ++ second) =
      concerning component first ++ concerning component second :=
  List.filter_append first second

theorem concerning_of_about
    (own : ∀ event ∈ log, event.about = some component) : concerning component log = log :=
  List.filter_eq_self.mpr (by simpa using own)

theorem concerning_of_not_about
    (other : ∀ event ∈ log, event.about ≠ some component) : concerning component log = [] :=
  List.filter_eq_nil_iff.mpr (by simpa using other)

theorem exists_mem_concerning {test : Event -> Bool}
    (own : forall event, test event -> event.about = some component) (log : List Event) :
    (∃ event ∈ concerning component log, test event) <->
      ∃ event ∈ log, test event = true := by
  constructor
  · rintro ⟨event, member, positive⟩
    exact ⟨event, (List.mem_filter.mp member).1, positive⟩
  · rintro ⟨event, member, positive⟩
    exact ⟨event, List.mem_filter.mpr ⟨member, by simpa using own event positive⟩, positive⟩

section Quiet

variable {first : List Event}

variable (quiet : ∀ event ∈ first, event.shrink = none ∧ event.completes component = false)
include quiet

theorem not_shrinks_of_quiet :
    ¬ ∃ event ∈ first, event.shrinks component = true := by
  rintro ⟨event, member, shrinking⟩
  simp [Event.shrinks, (quiet event member).1] at shrinking

/-- Replicas taken by a pass with a drain check are taken after the check. -/
theorem shrinks_after (shrunk : ∃ event ∈ first ++ later, event.shrinks component) :
    ∃ event ∈ later, event.shrinks component = true := by
  obtain ⟨event, member, shrinking⟩ := shrunk
  rcases List.mem_append.mp member with earlier | last
  · exact absurd ⟨event, earlier, shrinking⟩ (not_shrinks_of_quiet quiet)
  · exact ⟨event, last, shrinking⟩

theorem shrinks_after_completion (shrunk : ∃ event ∈ first ++ .drainComplete component :: later,
      event.shrinks component) :
    ∃ event ∈ later, event.shrinks component = true := by
  obtain ⟨event, member, shrinking⟩ := shrinks_after quiet shrunk
  rcases List.mem_cons.mp member with rfl | last
  · cases shrinking
  · exact ⟨event, last, shrinking⟩

end Quiet

def exclusionAfter (baseURL : String) (excluded : Option String) (log : List Event) :
    Option String :=
  log.foldl (Event.applyExclusion baseURL) excluded

end WazuhOperator
