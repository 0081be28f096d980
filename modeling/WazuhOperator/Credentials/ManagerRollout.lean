import Mathlib.Data.Fintype.Basic
import WazuhOperator.Credentials.IndexerSync

namespace WazuhOperator
namespace ManagerCredentials

open Procedure Proc
open Jobs (Fetched)
open Credentials (SecretData valueOf)
open Reporting (ClusterStatus StatusAnswers StatusStep)

/-!
# Rolling out the credentials of the managers

The managers read two credentials at their start: those of the API, which the
dashboard reads too, and the password of authd.  Each pass compares the hash
of each with the one which the status of the cluster records.  Where it has
changed, the pod templates of the workloads get the new hash as an annotation,
by which Kubernetes restarts their pods; then the hash is recorded.

A hash which is recorded for the first time restarts nothing.  This is the
case whenever there is none on record, and the two procedures differ in when
that is: an empty password of authd removes the recorded hash, empty
credentials of the API leave it.
-/

/-! ## The spec and the Secrets -/

inductive Kind where
  | api
  | authd
  deriving DecidableEq

instance : Fintype Kind where
  elems := {.api, .authd}
  complete kind := by cases kind <;> decide

inductive Consumer where
  | master
  | workers
  | dashboard
  deriving DecidableEq

instance : Fintype Consumer where
  elems := {.master, .workers, .dashboard}
  complete consumer := by cases consumer <;> decide

structure CredentialsRef where
  externalSecretRef : Option String := none
  (secretName usernameKey passwordKey : String := "")

def CredentialsRef.getSecretName (ref : CredentialsRef) : String :=
  ref.externalSecretRef.getD ref.secretName

structure KeySelector where
  name : String
  key : String := ""

structure AuthConfig where
  (disabled usePassword enabledOnMasterOnly : Option Bool := none)
  passwordSecretRef : Option KeySelector := none

structure ManagerSpec where
  apiCredentials : Option CredentialsRef := none
  auth : Option AuthConfig := none
  authdPasswordSecretRef : Option KeySelector := none

/-- Where credentials are, and how they are read there: no values where they are empty. -/
structure Source where
  secretName : String
  values : SecretData -> List String

/-- `resolveAPICredentialsRef`: the Secret, and the keys of the user name and the password. -/
def resolveAPICredentialsRef (clusterName : String) (manager : ManagerSpec) :
    String × String × String :=
  match manager.apiCredentials with
  | none => (clusterName ++ "-api-credentials", "api-username", "api-password")
  | some ref =>
    let custom := ref.getSecretName ≠ ""
    (if custom then ref.getSecretName else clusterName ++ "-api-credentials",
      if ref.usernameKey ≠ "" then ref.usernameKey else if custom then "username" else "api-username",
      if ref.passwordKey ≠ "" then ref.passwordKey else if custom then "password" else "api-password")

/-- The values which `computeAPICredentialsHash` hashes. -/
def apiSource (clusterName : String) (manager : ManagerSpec) : Source :=
  let (secretName, usernameKey, passwordKey) := resolveAPICredentialsRef clusterName manager
  { secretName := secretName
    values := fun data =>
      let username := valueOf data usernameKey
      let password := valueOf data passwordKey
      if username = "" ∧ password = "" then [] else [username, password] }

def defaultAuthdSecretKey (secretName : String) : String :=
  if "-authd-pass".toList.isSuffixOf secretName.toList then "authd.pass" else "password"

def enabledOnMasterOnly (manager : ManagerSpec) : Bool :=
  (manager.auth.bind AuthConfig.enabledOnMasterOnly).getD true

/-- `resolveAuthdCredentialsRef`: the Secret and the key, where a password is configured. -/
def resolveAuthdCredentialsRef (manager : ManagerSpec) : Option KeySelector :=
  let auth := manager.auth.getD {}
  let given := auth.passwordSecretRef.getD { name := "" }
  let (selector, usePassword) :=
    match given.name, manager.authdPasswordSecretRef with
    | "", some legacy => (legacy, true)
    | _, _ => (given, auth.usePassword.getD false)
  if auth.disabled.getD false || !usePassword || selector.name = "" then none
  else
    some
      { name := selector.name
        key := if selector.key = "" then defaultAuthdSecretKey selector.name else selector.key }

/-- The value which `computeAuthdCredentialsHash` hashes, with the other common key as fallback. -/
def authdSource (selector : KeySelector) : Source where
  secretName := selector.name
  values data :=
    let alternative := if selector.key = "password" then "authd.pass" else "password"
    let password :=
      if valueOf data selector.key = "" then valueOf data alternative else valueOf data selector.key
    if password = "" then [] else [password]

def source (clusterName : String) (manager : ManagerSpec) : Kind -> Option Source
  | .api => some (apiSource clusterName manager)
  | .authd => (resolveAuthdCredentialsRef manager).map authdSource

def dependents (manager : ManagerSpec) : Kind -> List Consumer
  | .api => [.master, .workers, .dashboard]
  | .authd => .master :: if enabledOnMasterOnly manager then [] else [.workers]

/-! ## Hashes -/

/-- `HashString`, whose results are not empty. -/
structure Digest where
  hashString : String -> String
  nonempty : forall text, hashString text ≠ ""

def Digest.hashStrings (digest : Digest) (values : List String) : String :=
  digest.hashString (values.foldl (fun combined value => combined ++ value ++ "\n") "")

theorem Digest.hashStrings_ne (digest : Digest) (values : List String) : digest.hashStrings values ≠ "" :=
  digest.nonempty _

def recorded (kind : Kind) (status : ClusterStatus) : String :=
  match kind with
  | .api => (status.security.getD {}).apiCredentialsHash
  | .authd => (status.security.getD {}).authdCredentialsHash

def record (kind : Kind) (hash : String) (status : ClusterStatus) : ClusterStatus :=
  match kind with
  | .api => Reporting.reconcileAPICredentials (some hash) status
  | .authd => Reporting.reconcileAuthdCredentials (some hash) status

theorem recorded_record_self {hash : String} (given : hash ≠ "") (kind : Kind) (status : ClusterStatus) :
    recorded kind (record kind hash status) = hash := by
  cases kind with
  | api => simp [recorded, record, Reporting.reconcileAPICredentials, Reporting.onSecurity, given]
  | authd => rfl

theorem recorded_record_of_ne (different : other ≠ kind) (hash : String)
    (status : ClusterStatus) : recorded other (record kind hash status) = recorded other status := by
  cases kind with
  | api =>
    cases other with
    | api => exact absurd rfl different
    | authd =>
      simp only [record, Reporting.reconcileAPICredentials]
      split <;> rfl
  | authd =>
    cases other with
    | api => rfl
    | authd => exact absurd rfl different

/-! ## The rollouts -/

/-- A StatefulSet or Deployment.  The values under which its running pods were started are part of
the model only; without replicas there are none. -/
structure Deployed where
  replicas : Option Nat
  /-- The hash annotations of the pod template, empty where there are none. -/
  annotated : Kind -> String
  /-- The last values which were not empty. -/
  started : Kind -> Option (List String)
  idle : replicas = some 0 -> forall kind, started kind = none

def Deployed.annotate (deployed : Deployed) (kind : Kind) (hash : String) : Deployed :=
  { deployed with annotated := Function.update deployed.annotated kind hash }

theorem Deployed.annotate_self (deployed : Deployed) (kind : Kind) (hash : String) :
    (deployed.annotate kind hash).annotated kind = hash :=
  Function.update_self ..

theorem Deployed.annotate_of_ne (deployed : Deployed) (different : other ≠ kind)
    (hash : String) : (deployed.annotate kind hash).annotated other = deployed.annotated other :=
  Function.update_of_ne different ..

/-- The status of the cluster as the pass works on it, and the workloads.  How often the pod template
of a workload was changed for the present values is counted in the model only. -/
structure Desk where
  working : ClusterStatus
  workloads : Consumer -> Option Deployed
  told : Kind -> Consumer -> Nat

def Desk.mark (desk : Desk) (kind : Kind) (hash : String) (consumer : Consumer) : Desk :=
  { desk with
    workloads := fun other =>
      if other = consumer then (desk.workloads consumer).map (Deployed.annotate · kind hash)
      else desk.workloads other
    told := fun otherKind other =>
      if otherKind = kind ∧ other = consumer then desk.told kind consumer + 1
      else desk.told otherKind other }

def Desk.record (desk : Desk) (kind : Kind) (hash : String) : Desk :=
  { desk with working := ManagerCredentials.record kind hash desk.working }

structure RolloutAnswers where
  secret : Kind -> Except String Unit
  get : Kind -> Consumer -> Except String Unit
  update : Kind -> Consumer -> WriteAnswer

namespace Kind

def restartError (kind : Kind) (consumer : Consumer) (text : String) : String :=
  let workload :=
    match consumer with
    | .master => "manager master"
    | .workers => "manager workers"
    | .dashboard => "dashboard"
  let change :=
    match kind with
    | .api => "API credentials change"
    | .authd => "authd password change"
  "failed to restart " ++ workload ++ " after " ++ change ++ ": " ++ text

def hashError (kind : Kind) (text : String) : String :=
  match kind with
  | .api => "failed to compute Wazuh API credentials hash: " ++ text
  | .authd => "failed to compute authd credentials hash: " ++ text

end Kind

section Rollouts

variable (digest : Digest) (answers : RolloutAnswers)

/-- `triggerStatefulSetRestartWithHash` and `triggerDeploymentRestartWithHash`.  A workload which is
not found counts as restarted. -/
def triggerRestartWithHash (kind : Kind) (hash : String) (consumer : Consumer) :
    Proc Desk Empty Unit := do
  ofExcept (answers.get kind consumer)
  match (← read).workloads consumer with
  | none => return ()
  | some deployed =>
    if deployed.replicas = some 0 then return ()
    else if deployed.annotated kind = hash then return ()
    else if (answers.update kind consumer).applied then
      modify fun desk => desk.mark kind hash consumer
      ofExcept (answers.update kind consumer).toExcept
    else ofExcept (answers.update kind consumer).toExcept

def restartAll (kind : Kind) (hash : String) (consumers : List Consumer) : Proc Desk Empty Unit :=
  forEach
    (fun consumer =>
      mapError (kind.restartError consumer) (triggerRestartWithHash answers kind hash consumer))
    consumers

def rollOut (kind : Kind) (hash : String) (consumers : List Consumer) : Proc Desk Empty Unit := do
  let oldHash := recorded kind (← read).working
  if oldHash = hash then return ()
  else if oldHash = "" then modify fun desk => desk.record kind hash
  else
    restartAll answers kind hash consumers
    modify fun desk => desk.record kind hash

def readValues (clusterName : String) (manager : ManagerSpec) (secrets : String -> Option SecretData)
    (kind : Kind) : Proc Desk Empty (Fetched (List String)) :=
  match source clusterName manager kind with
  | none => return .found []
  | some source => do
      mapError kind.hashError (ofExcept (answers.secret kind))
      match secrets source.secretName with
      | none => return .notFound
      | some data => return .found (source.values data)

/-- `reconcileAPICredentialsStatusAndRollout`, where the cluster has a manager. -/
def reconcileAPICredentials (clusterName : String) (manager : ManagerSpec)
    (secrets : String -> Option SecretData) : Proc Desk Empty Unit := do
  match ← readValues answers clusterName manager secrets .api with
  | .found (value :: rest) =>
    rollOut answers .api (digest.hashStrings (value :: rest)) (dependents manager .api)
  | _ => return ()

/-- `reconcileAuthdCredentialsStatusAndRollout`, where the cluster has a manager. -/
def reconcileAuthdCredentials (clusterName : String) (manager : ManagerSpec)
    (secrets : String -> Option SecretData) : Proc Desk Empty Unit := do
  match ← readValues answers clusterName manager secrets .authd with
  | .found (value :: rest) =>
    rollOut answers .authd (digest.hashStrings (value :: rest)) (dependents manager .authd)
  | .found [] =>
    -- Not configured for authd password or empty password.
    modify fun desk => desk.record .authd ""
  | _ => return ()

def reconcileCredentials (clusterName : String) (manager : Option ManagerSpec)
    (secrets : String -> Option SecretData) : Proc Desk Empty Unit :=
  match manager with
  | none => return ()
  | some manager => do
      reconcileAPICredentials digest answers clusterName manager secrets
      reconcileAuthdCredentials digest answers clusterName manager secrets

end Rollouts

/-! ## Passes and runs -/

def isRollout : StatusStep -> Bool
  | .apiCredentials _ | .authdCredentials _ => true
  | _ => false

def otherSteps (steps : List StatusStep) (status : ClusterStatus) : ClusterStatus :=
  (steps.filter fun step => !isRollout step).foldl StatusStep.apply status

structure PassAnswers where
  before : Except String Unit
  earlier : List StatusStep
  rollouts : RolloutAnswers
  later : List StatusStep
  after : Except String Unit
  status : StatusAnswers

/-- The cluster, its Secrets and workloads, and the stored status.  For the statements the model
keeps the last values of each kind which were not empty, and how often each pod template was changed
for them. -/
structure World where
  clusterName : String
  manager : Option ManagerSpec
  secrets : String -> Option SecretData
  workloads : Consumer -> Option Deployed
  stored : ClusterStatus
  latest : Kind -> List String
  told : Kind -> Consumer -> Nat

structure Template where
  replicas : Option Nat := some 1
  annotated : Kind -> String := fun _ => ""

inductive Move where
  | pass (answers : PassAnswers)
  | secret (name : String) (data : Option SecretData)
  | respec (manager : Option ManagerSpec)
  /-- Someone else creates, changes or deletes a workload, as the reconcilers do which build it. -/
  | rewrite (consumer : Consumer) (template : Option Template)
  /-- The pods of a workload are started, for whatever reason. -/
  | start (consumer : Consumer)

namespace World

def fresh (clusterName : String) : World where
  clusterName := clusterName
  manager := none
  secrets := fun _ => none
  workloads := fun _ => none
  stored := {}
  latest := fun _ => []
  told := fun _ _ => 0

def values (world : World) (kind : Kind) : List String :=
  match world.manager.bind fun manager => source world.clusterName manager kind with
  | none => []
  | some source => ((world.secrets source.secretName).map source.values).getD []

/-- After the Secrets or the spec have changed: new values begin, if there are any. -/
def settle (world : World) : World :=
  { world with
    latest := fun kind => if world.values kind = [] then world.latest kind else world.values kind
    told := fun kind consumer =>
      if world.values kind = [] ∨ world.values kind = world.latest kind then world.told kind consumer
      else 0 }

theorem settle_latest (world : World) (kind : Kind) :
    world.settle.latest kind = if world.values kind = [] then world.latest kind else world.values kind :=
  rfl

def desk (world : World) (answers : PassAnswers) : Desk where
  working := otherSteps answers.earlier world.stored
  workloads := world.workloads
  told := world.told

variable (digest : Digest)

/-- A pass of the controller.  Where it ends with an error, no hash is persisted. -/
def pass (world : World) (answers : PassAnswers) : World :=
  match answers.before with
  | .error _ => world
  | .ok () =>
    let outcome := reconcileCredentials digest answers.rollouts world.clusterName world.manager
      world.secrets (world.desk answers)
    let done := { world with workloads := outcome.state.workloads, told := outcome.state.told }
    match outcome.result, answers.after with
    | .ok (), .ok () =>
      { done with
        stored :=
          (Reporting.updateStatus answers.status
            (otherSteps answers.later outcome.state.working) world.stored).state }
    | _, _ => done

/-- A workload which others have written.  Its pods keep running until they are started again. -/
def rewritten (found : Option Deployed) (template : Template) : Deployed where
  replicas := template.replicas
  annotated := template.annotated
  started kind := if template.replicas = some 0 then none else found.bind (Deployed.started · kind)
  idle := fun zero _ => if_pos zero

/-- A workload whose pods have been started under the present values. -/
def restarted (world : World) (deployed : Deployed) : Deployed :=
  { deployed with
    started := fun kind =>
      if deployed.replicas = some 0 ∨ world.values kind = [] then deployed.started kind
      else some (world.values kind)
    idle := fun zero kind => by rw [if_pos (Or.inl zero), deployed.idle zero] }

def step (world : World) : Move -> World
  | .pass answers => world.pass digest answers
  | .secret name data => settle { world with secrets := Function.update world.secrets name data }
  | .respec manager => settle { world with manager := manager }
  | .rewrite consumer template =>
    { world with
      workloads := Function.update world.workloads consumer
        (template.map (rewritten (world.workloads consumer))) }
  | .start consumer =>
    { world with
      workloads := Function.update world.workloads consumer
        ((world.workloads consumer).map world.restarted) }

end World

end ManagerCredentials
end WazuhOperator
