import WazuhOperator.Cluster.Objects

namespace WazuhOperator
namespace Drain

/-!
# Detecting a scale-down

`internal/shared/drain/detection.go`.  A StatefulSet removes its pods from
the highest ordinal down.  The detection names the first of them only; a
scale-down by several replicas is reported with its size but with a single
target.
-/

structure ScaleDownInfo where
  detected : Bool := false
  currentReplicas : Nat := 0
  targetReplicas : Nat
  scaleAmount : Nat := 0
  targetPodName : String := ""
  targetPodIndex : Nat := 0

def detectStatefulSetScaleDown (stsName : String) (sts : StatefulSet) (desiredReplicas : Nat) :
    ScaleDownInfo :=
  let current := sts.currentReplicas
  if desiredReplicas < current then
    { detected := true, currentReplicas := current, targetReplicas := desiredReplicas,
      scaleAmount := current - desiredReplicas,
      targetPodName := podName stsName (current - 1), targetPodIndex := current - 1 }
  else
    { currentReplicas := current, targetReplicas := desiredReplicas }

theorem detect_detected_iff (stsName : String) (sts : StatefulSet) (desired : Nat) :
    (detectStatefulSetScaleDown stsName sts desired).detected <->
      desired < sts.currentReplicas := by
  unfold detectStatefulSetScaleDown
  by_cases smaller : desired < sts.currentReplicas
  · simp [smaller]
  · simp [smaller]

theorem detect_targetPodName (stsName : String) (sts : StatefulSet) (desired : Nat)
    (smaller : desired < sts.currentReplicas) :
    (detectStatefulSetScaleDown stsName sts desired).targetPodName =
      podName stsName (sts.currentReplicas - 1) := by
  simp [detectStatefulSetScaleDown, smaller]

end Drain
end WazuhOperator
