import WazuhOperator.Certificates.Coverage

namespace WazuhOperator
namespace Certificates

open List

/-!
# The hot reload of the indexer's certificates

When the indexer's certificates were renewed, each pod of the indexer is asked
to load them, or is left to notice the new files.  The pods are counted on
their own account: as many as `spec.indexer.replicas`, or one, of the
StatefulSet without nodePools.  That the new files are there is made sure of
for the first pod.
-/

namespace HotReload

/-! ## The calls -/

inductive HotReloadSupport where
  | notSupported | withAPICall | automatic

structure HotReloadSpec where
  (enabled forceAPIReload : Bool := false)

structure TLSSpec where
  enabled : Option Bool := none
  hotReload : Option HotReloadSpec := none

/-- `support` is what `GetHotReloadSupportForWazuh` says of the version. -/
structure Cluster where
  name : String
  spec : ClusterSpec := {}
  tls : Option TLSSpec := none
  support : Except String HotReloadSupport

structure Answers where
  (caCertificate adminCertificate propagation delay : Except String Unit)
  (newClient securityReady reload : String -> Except String Unit)
  /-- The pod has the new certificate on its disk when it is asked. -/
  onDisk : String -> Bool

/-- `error` is none if the call was successful. -/
structure PodReloadResult where
  podName : String
  error : Option String
  deriving DecidableEq

structure HotReloadResult where
  (supported requiresAPICall apiCallMade : Bool := false)
  error : Option String := none
  podResults : List PodReloadResult := []
  (totalPods successfulPods : Nat := 0)

variable (cluster : Cluster) (answers : Answers)

def shouldTriggerHotReload : Bool :=
  match cluster.tls with
  | none => false
  | some tls => tls.enabled.getD true && (tls.hotReload.map (·.enabled)).getD true

def shouldForceAPIReload : Bool :=
  ((cluster.tls.bind (·.hotReload)).map (·.forceAPIReload)).getD false

def askedPods : List String :=
  let given := (cluster.spec.indexer.map (·.replicas)).getD 0
  (range (if 0 < given then given else 1)).map (podName (indexerName cluster.name))

def podError (pod : String) : Option (String × String) :=
  match answers.newClient pod, answers.securityReady pod, answers.reload pod with
  | .error text, _, _ => some ("failed to create client: " ++ text, text)
  | _, .error text, _ => some ("security not ready: " ++ text, "security not ready")
  | _, _, .error text => some (text, text)
  | _, _, _ => none

def readSecrets : Except String Unit := do
  answers.caCertificate.mapError ("failed to get CA certificate: " ++ ·)
  answers.adminCertificate.mapError ("failed to get admin certificate: " ++ ·)

/-- The first pod has the new certificate, and then some seconds pass. -/
def waitForFirstPod : Except String Unit := do
  answers.propagation.mapError ("certificate propagation failed: " ++ ·)
  answers.delay

def callReloadCertificatesAPIPerPod : HotReloadResult :=
  let result : HotReloadResult := { supported := true, requiresAPICall := true }
  let pods := askedPods cluster
  match readSecrets answers, waitForFirstPod answers with
  | .error text, _ => { result with error := some text }
  | .ok _, .error text => { result with error := some text, totalPods := pods.length }
  | .ok _, .ok _ =>
    let errors := pods.filterMap fun pod => (podError answers pod).map fun error => pod ++ ": " ++ error.2
    { result with
      podResults := pods.map fun pod => ⟨pod, (podError answers pod).map Prod.fst⟩
      totalPods := pods.length
      successfulPods := pods.countP fun pod => (podError answers pod).isNone
      error := if errors = [] then none else
        some ("certificate reload failed on " ++ toString errors.length ++ "/" ++
          toString pods.length ++ " pods: " ++ "; ".intercalate errors) }

/-- The calls are made: the version asks for them, or they are forced. -/
def callsAPI : Bool :=
  match cluster.support with
  | .ok .withAPICall => true
  | .ok .automatic => shouldForceAPIReload cluster
  | _ => false

def triggerHotReload : HotReloadResult :=
  if !shouldTriggerHotReload cluster then {}
  else
    match cluster.support with
    | .error text => { error := some text }
    | .ok .notSupported => {}
    | .ok _ =>
      if callsAPI cluster then
        { callReloadCertificatesAPIPerPod cluster answers with apiCallMade := true }
      else { supported := true }

/-- `HotReloadTriggered`, with which the indexer is not restarted. -/
def hotReloadTriggered (result : HotReloadResult) : Bool :=
  result.error.isNone && (result.apiCallMade || (result.supported && !result.requiresAPICall))

/-! ## The pods -/

def indexerPods : List String :=
  ((workloads cluster.spec).filter (·.leaf = .indexer)).flatMap fun workload =>
    (range (workload.replicas cluster.spec)).map (podName (workload.name cluster.name))

/-- Every pod had the certificate and accepted the call, and the counts add up. -/
def Covers (result : HotReloadResult) : Prop :=
  (∀ pod ∈ indexerPods cluster, answers.onDisk pod = true ∧ ⟨pod, none⟩ ∈ result.podResults) ∧
    result.successfulPods + result.podResults.countP (·.error.isSome) = result.totalPods

/-- Nothing fails: the certificates are read and arrive, and the pods which are asked accept. -/
structure Smooth : Prop where
  secrets : readSecrets answers = .ok ()
  firstPod : waitForFirstPod answers = .ok ()
  pods : ∀ pod ∈ askedPods cluster, podError answers pod = none

variable {cluster answers}

theorem call_smooth (smooth : Smooth cluster answers) : callReloadCertificatesAPIPerPod cluster answers =
    { supported := true, requiresAPICall := true
      podResults := (askedPods cluster).map (⟨·, none⟩)
      totalPods := (askedPods cluster).length, successfulPods := (askedPods cluster).length } := by
  have accepted : ((askedPods cluster).map fun pod =>
      PodReloadResult.mk pod ((podError answers pod).map Prod.fst)) = (askedPods cluster).map (⟨·, none⟩) :=
    map_congr_left fun pod asked => by rw [smooth.pods pod asked]; rfl
  have all : (askedPods cluster).countP (fun pod => (podError answers pod).isNone) =
      (askedPods cluster).length :=
    countP_eq_length.mpr fun pod asked => by rw [smooth.pods pod asked]; rfl
  rw [callReloadCertificatesAPIPerPod, smooth.secrets, smooth.firstPod]
  simp +contextual [accepted, all, smooth.pods]

theorem call_error_iff : (callReloadCertificatesAPIPerPod cluster answers).error = none <->
    Smooth cluster answers := by
  refine ⟨fun silent => ?_, fun smooth => by rw [call_smooth smooth]⟩
  unfold callReloadCertificatesAPIPerPod at silent
  split at silent
  · cases silent
  · cases silent
  · next secrets firstPod => exact ⟨secrets, firstPod, by simpa using silent⟩

/-- The report of a hot reload is true if and only if, where it is enabled, the calls are made, or
there is no pod, and, where nothing fails, every pod of the indexer is among those which are asked
and has the new certificate. -/
theorem reload_covers_iff (cluster : Cluster) (answers : Answers) :
    (hotReloadTriggered (triggerHotReload cluster answers) = true ->
        Covers cluster answers (triggerHotReload cluster answers)) <->
      (shouldTriggerHotReload cluster = true ->
        (cluster.support = .ok .automatic -> callsAPI cluster = false -> indexerPods cluster = []) ∧
        (callsAPI cluster = true -> Smooth cluster answers -> ∀ pod ∈ indexerPods cluster,
          pod ∈ askedPods cluster ∧ answers.onDisk pod = true)) := by
  rw [triggerHotReload]
  cases enabled : shouldTriggerHotReload cluster with
  | false => simp [hotReloadTriggered]
  | true =>
    rw [Bool.not_true, if_neg Bool.false_ne_true, forall_prop_of_true rfl]
    have called : (hotReloadTriggered { callReloadCertificatesAPIPerPod cluster answers with
          apiCallMade := true } -> Covers cluster answers
            { callReloadCertificatesAPIPerPod cluster answers with apiCallMade := true }) <->
        (Smooth cluster answers -> ∀ pod ∈ indexerPods cluster,
          pod ∈ askedPods cluster ∧ answers.onDisk pod) := by
      simp only [hotReloadTriggered, Bool.true_or, Bool.and_true, Option.isNone_iff_eq_none, call_error_iff]
      refine imp_congr_right fun smooth => ?_
      simp [call_smooth smooth, Covers, and_comm]
    cases support : cluster.support with
    | error => simp [hotReloadTriggered, callsAPI, support]
    | ok level =>
      cases level with
      | notSupported => simp [hotReloadTriggered, callsAPI, support]
      | withAPICall => simpa [callsAPI, support] using called
      | automatic =>
        cases forced : shouldForceAPIReload cluster with
        | true => simpa [callsAPI, support, forced] using called
        | false => simp [callsAPI, support, forced, hotReloadTriggered, Covers, eq_nil_iff_forall_not_mem]

/-- Three pods are made by default, and one is asked. -/
theorem two_pods_not_asked :
    let cluster : Cluster := { name := "wazuh", tls := some {}, support := .ok .withAPICall }
    let answers : Answers :=
      ⟨.ok (), .ok (), .ok (), .ok (), fun _ => .ok (), fun _ => .ok (), fun _ => .ok (), fun _ => true⟩
    hotReloadTriggered (triggerHotReload cluster answers) ∧
      ¬ Covers cluster answers (triggerHotReload cluster answers) := by
  refine ⟨by decide +kernel, fun covers => ?_⟩
  have second := (covers.1 "wazuh-indexer-1" (by decide +kernel)).2
  exact absurd second (by decide +kernel)

end HotReload

end Certificates
end WazuhOperator
