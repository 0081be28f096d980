import WazuhOperator.Library.Procedure
import WazuhOperator.Cluster.Events

namespace WazuhOperator
namespace Worker

open Procedure Proc Drain

/-!
# Draining a manager worker

`internal/wazuh/drain/manager_drain.go`.  Wazuh has no way to take a worker
out of service, so the drain only watches the event queue of the worker until
it has been empty for a grace period.  The drainer remembers the first moment
at which it saw the queue empty.
-/

def defaultManagerDrainTimeout : Time := 15 * 60 * 1000000000

/-- The grace period of a drainer whose configuration sets none: ten seconds. -/
def defaultGracePeriod : Time := 10 * 1000000000

/-- `ManagerDrainerImpl`.  The cluster next to the timestamp of the empty queue is a
note of the model: the one whose drain recorded it. -/
structure ManagerDrainer where
  client : Client
  (timeout gracePeriod : Time)
  initialQueueDepth : Int64 := 0
  emptyQueueSeenTime : Option (Time × ClusterKey) := none

def drainTimeout (config : Option ManagerDrainConfig) : Time :=
  (config.bind ManagerDrainConfig.timeout).getD defaultManagerDrainTimeout

def newManagerDrainer (client : Client) (config : Option ManagerDrainConfig) : ManagerDrainer :=
  { client := client, timeout := drainTimeout config,
    gracePeriod := (config.bind ManagerDrainConfig.gracePeriod).getD defaultGracePeriod }

structure ManagerDrainProgress where
  percent : Int32
  (queueDepth initialQueueDepth : Int64)
  message : String
  isComplete : Bool

def durationText (duration : Time) : String :=
  let seconds := ((duration + 500000000) / 1000000000).toNat
  if 3600 ≤ seconds then
    toString (seconds / 3600) ++ "h" ++ toString (seconds / 60 % 60) ++ "m" ++
      toString (seconds % 60) ++ "s"
  else if 60 ≤ seconds then toString (seconds / 60) ++ "m" ++ toString (seconds % 60) ++ "s"
  else toString seconds ++ "s"

section Requests

variable (queue : Except String Int64)

/-- `WazuhAPIAdapter.GetQueueStatus`, answered by the total number of events. -/
def getQueueStatus (client : Client) (nodeName : String) : Proc ManagerDrainer Event Int64 := do
  emit (.queueStatus client nodeName queue)
  ofExcept queue

def ManagerDrainer.startDrain (nodeName : String) : Proc ManagerDrainer Event Unit := do
  let drainer ← read
  let events ← mapError ("failed to get initial queue status: " ++ ·)
    (getQueueStatus queue drainer.client nodeName)
  modify (fun d => { d with initialQueueDepth := events, emptyQueueSeenTime := none })

/-- The percentage of `MonitorQueueDepth`, and the initial depth it continues
with: a queue that grew beyond the initial depth starts again from there. -/
def queuePercent (initial depth : Int64) : Int32 × Int64 :=
  if 0 < initial then
    if initial - depth < 0 then ((0 * 100 / depth).toInt32, depth)
    else (((initial - depth) * 100 / initial).toInt32, initial)
  else (100, initial)

def ManagerDrainer.monitorQueueDepth (now : Time) (key : ClusterKey) (nodeName : String) :
    Proc ManagerDrainer Event ManagerDrainProgress := do
  let drainer ← read
  let depth ← mapError ("failed to get queue status: " ++ ·)
    (getQueueStatus queue drainer.client nodeName)
  let (percent, initial) := queuePercent drainer.initialQueueDepth depth
  modify (fun d => { d with initialQueueDepth := initial })
  if depth = 0 then
    let (seen, recordedFor) := drainer.emptyQueueSeenTime.getD (now, key)
    modify (fun d => { d with emptyQueueSeenTime := some (seen, recordedFor) })
    emit (.emptySinceUsed recordedFor)
    if drainer.gracePeriod ≤ now - seen then
      return { percent := 100, queueDepth := depth, initialQueueDepth := drainer.initialQueueDepth,
               message := "Queue drained successfully (grace period elapsed)", isComplete := true }
    else
      return { percent := percent, queueDepth := depth,
               initialQueueDepth := drainer.initialQueueDepth,
               message := "Queue empty, waiting for grace period (" ++
                 durationText (drainer.gracePeriod - (now - seen)) ++ " remaining)",
               isComplete := false }
  else
    modify (fun d => { d with emptyQueueSeenTime := none })
    return { percent := percent, queueDepth := depth,
             initialQueueDepth := drainer.initialQueueDepth,
             message := "Processing queue: " ++ toString depth ++ " events remaining",
             isComplete := false }

/-- `ManagerDrainerImpl.VerifyQueueEmpty`, on behalf of a cluster.  A reading above
zero leaves the timestamp of the empty queue as it is. -/
def ManagerDrainer.verifyQueueEmpty (now : Time) (key : ClusterKey) (nodeName : String) :
    Proc ManagerDrainer Event Bool := do
  let drainer ← read
  let events ← mapError ("failed to verify queue empty: " ++ ·)
    (getQueueStatus queue drainer.client nodeName)
  if 0 < events then
    return false
  else
    match drainer.emptyQueueSeenTime with
    | none =>
      modify (fun d => { d with emptyQueueSeenTime := some (now, key) })
      return false
    | some (seen, recordedFor) =>
      emit (.emptySinceUsed recordedFor)
      return drainer.gracePeriod ≤ now - seen

def ManagerDrainer.cancelDrain : Proc ManagerDrainer Event Unit :=
  modify (fun d => { d with initialQueueDepth := 0, emptyQueueSeenTime := none })

end Requests

end Worker
end WazuhOperator
