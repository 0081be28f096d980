import WazuhOperator.Library.Runs
import WazuhOperator.Worker.Effect

namespace WazuhOperator
namespace Worker

open Drain ManagerDrainer

/-!
# Has the queue been empty all the time?

A drain of a worker ends when its queue has been empty for the grace period.
Two methods read the queue and share the timestamp of the first empty reading.
`MonitorQueueDepth` drops it when it reads events; `VerifyQueueEmpty` does not.
-/

structure Watch where
  drainer : ManagerDrainer
  readings : List (Time × Int64)

/-- A call of one of the two methods, with the moment and the answer about the queue. -/
structure QueueCall where
  verifies : Bool
  queue : Except String Int64
  now : Time

section Calls

variable (key : ClusterKey) (node : String) (watch : Watch) (call : QueueCall)

def Watch.after : Watch where
  drainer :=
    if call.verifies then
      (verifyQueueEmpty call.queue call.now key node watch.drainer).state
    else (monitorQueueDepth call.queue call.now key node watch.drainer).state
  readings := (call.queue.toOption.map fun events => (call.now, events)).toList ++ watch.readings

/-- `VerifyQueueEmpty` returns true, or `MonitorQueueDepth` reports complete. -/
def Watch.reportsDrained : Bool :=
  if call.verifies then
    (verifyQueueEmpty call.queue call.now key node watch.drainer).result.toOption.getD
      false
  else
    (monitorQueueDepth call.queue call.now key node watch.drainer).result.toOption.any
      ManagerDrainProgress.isComplete

/-- The queue was read empty at that moment, and in every reading since. -/
def EmptySince (readings : List (Time × Int64)) (moment : Time) : Prop :=
  ∃ later earlier, readings = later ++ (moment, 0) :: earlier ∧ ∀ reading ∈ later, reading.2 = 0

/-- The drain is reported as done only if all readings since one which is at least a grace period
old, this one included, were zero. -/
def Watch.WaitsGracePeriod : Prop :=
  watch.reportsDrained key node call = true ->
    ∃ moment, EmptySince (watch.after key node call).readings moment ∧
      watch.drainer.gracePeriod ≤ call.now - moment

/-- A verification reads an empty queue, or it reads events where no empty reading is noted. -/
def Watch.Unbroken : Prop :=
  call.verifies = true -> ∀ events, call.queue = .ok events ->
    events = 0 ∨ (0 < events ∧ watch.drainer.emptyQueueSeenTime = none)

/-- The noted moment is that of an empty reading, and no other reading came after it. -/
def Watch.Faithful : Prop :=
  ∀ noted ∈ watch.drainer.emptyQueueSeenTime, EmptySince watch.readings noted.1

end Calls

section Steps

variable {key : ClusterKey} {node : String} {watch : Watch} {call : QueueCall}

theorem Watch.Faithful.read_empty (faithful : watch.Faithful) (now : Time) :
    EmptySince ((now, 0) :: watch.readings) (watch.drainer.noted now key).1 := by
  rw [ManagerDrainer.noted]
  cases noted : watch.drainer.emptyQueueSeenTime with
  | none => exact ⟨[], watch.readings, rfl, by simp⟩
  | some seen =>
    rcases faithful seen noted with ⟨later, earlier, split, empty⟩
    exact ⟨(now, 0) :: later, earlier, by rw [split]; rfl, List.forall_mem_cons.mpr ⟨rfl, empty⟩⟩

theorem Watch.after_faithful (faithful : watch.Faithful) (unbroken : watch.Unbroken call) :
    (watch.after key node call).Faithful ∧ watch.WaitsGracePeriod key node call := by
  rcases call with ⟨verifies, queue, now⟩
  have since := @Watch.Faithful.read_empty key watch faithful now
  simp only [Watch.Faithful, Watch.WaitsGracePeriod, Watch.reportsDrained, Watch.after]
  cases verifies with
  | true =>
    rw [if_pos rfl, if_pos rfl]
    cases queue with
    | error text =>
      rw [verifyQueueEmpty_apply]
      exact ⟨faithful, by rintro ⟨⟩⟩
    | ok events =>
      rcases verifyQueueEmpty_ok key now node watch.drainer events with ⟨_, ran, _, settled⟩
      rw [ran]
      rcases unbroken rfl events rfl with rfl | ⟨waiting, unnoted⟩
      · constructor
        · intro other same
          cases same
          exact since
        · intro reported
          rcases settled reported with ⟨_, seen, noted, _⟩
          simp only [Except.toOption, Option.getD_some, queueSettled, noted, Bool.and_eq_true,
            decide_eq_true_eq] at reported
          rw [ManagerDrainer.noted, noted] at since
          exact ⟨_, since, reported.2⟩
      · rw [ManagerDrainer.checking, if_pos waiting, unnoted]
        exact ⟨by rintro _ ⟨⟩, fun reported => by simp [queueSettled, unnoted, Except.toOption] at reported⟩
  | false =>
    rw [if_neg Bool.false_ne_true, if_neg Bool.false_ne_true]
    cases queue with
    | error text =>
      rw [monitorQueueDepth_error]
      exact ⟨faithful, by rintro ⟨⟩⟩
    | ok depth =>
      rcases monitorQueueDepth_ok node watch.drainer now key depth with
        ⟨progress, ran, complete⟩
      rw [ran]
      constructor
      · intro noted same
        by_cases empty : depth = 0
        · subst empty
          cases same
          exact since
        · simp [reading, empty] at same
      · intro reported
        have settled : depth = 0 ∧ watch.drainer.gracePeriod ≤
            now - (watch.drainer.noted now key).1 := by
          simpa [settles] using complete.symm.trans reported
        rcases settled with ⟨rfl, elapsed⟩
        exact ⟨_, since, elapsed⟩

end Steps

/-- In every sequence of calls in which no verification reads events while an empty reading is
noted (nor a negative number of them), the drain is reported as done only after the whole grace
period, whatever the clock does. -/
theorem grace_period_observed (key : ClusterKey) (node : String) (drainer : ManagerDrainer)
    (fresh : drainer.emptyQueueSeenTime = none) (calls : List QueueCall)
    (unbroken : Runs.Along (Watch.after key node) Watch.Unbroken ⟨drainer, []⟩ calls) :
    Runs.Along (Watch.after key node) (Watch.WaitsGracePeriod key node) ⟨drainer, []⟩ calls := by
  refine Runs.along_of_invariant (fun _ _ faithful met => (Watch.after_faithful faithful met).1)
    (fun _ _ faithful met => (Watch.after_faithful faithful met).2) calls _ ?_ unbroken
  rw [Watch.Faithful, fresh]
  exact nofun

namespace Sample

def key : ClusterKey := ⟨"wazuh", "prod"⟩

/-- A drainer with the default grace period of ten seconds. -/
def watched : Watch :=
  ⟨newManagerDrainer { baseURL := "https://wazuh", username := "wazuh", password := "" } none, []⟩

/-- The queue is empty, read again after five seconds, and empty after eleven. -/
def calls (meanwhile : Int64) : List QueueCall :=
  [⟨false, .ok 0, 0⟩, ⟨true, .ok meanwhile, 5000000000⟩, ⟨true, .ok 0, 11000000000⟩]

end Sample

open Sample

theorem grace_period_observed_quiet :
    Runs.Along (Watch.after key "w") (Watch.WaitsGracePeriod key "w") watched
      (calls 0) :=
  grace_period_observed key "w" watched.drainer rfl (calls 0)
    ⟨nofun, fun _ _ read => .inl (Except.ok.inj read).symm,
      fun _ _ read => .inl (Except.ok.inj read).symm, trivial⟩

/-- Seven events after five seconds are forgotten. -/
theorem refilled_queue_verified :
    ¬ Runs.Along (Watch.after key "w") (Watch.WaitsGracePeriod key "w") watched
      (calls 7) := by
  rintro ⟨_, _, last, _⟩
  rcases last (by decide +kernel) with ⟨moment, ⟨later, earlier, split, empty⟩, elapsed⟩
  have readings := split
  rcases later with _ | ⟨first, _ | ⟨second, later⟩⟩
  · cases readings
    exact absurd elapsed (by decide +kernel)
  · cases readings
  · injection readings with _ rest
    injection rest with same
    exact absurd (empty second (by simp)) (by rw [← same]; decide)

end Worker
end WazuhOperator
