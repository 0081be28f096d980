import WazuhOperator.Security.Synchronizer

namespace WazuhOperator
namespace Security

open Procedure Proc

/-!
# The reconcilers of users, roles and role mappings

Each reconciler looks after one resource: it adds its finalizer, deletes the
entry in OpenSearch when the resource is being deleted, and otherwise puts the
entry built from the specification.  The target is the cluster the reference
stands for.

A pass works on its copy of the resource, which is the store here.
-/

/-- The answers a pass gets; by default everybody does what is asked for. -/
structure ReconcileInput where
  update : Except String Unit := .ok ()
  connect : ClusterKey -> Except String Unit := fun _ => .ok ()
  answer : Request -> Answer := fun _ => .response 200 ""
  deleteAnswer : Answer := .response 200 ""
  getRoleMapping : Except String Bool := .ok false
  computeSpecHash : Except String String := .ok "hash"
  statusUpdate : Except String Unit := .ok ()

section Steps

variable {α : Type} (kind : Kind) (input : ReconcileInput)

def updateResource (finalized : Bool) : Proc (Resource α) SecurityEvent Unit := do
  modify ({ · with finalized })
  let resource ← read
  ofExcept input.update
  emit (.finalizerUpdated kind resource.key finalized)

def updateStatus (phase : ResourcePhase) (message : String) :
    Proc (Resource α) SecurityEvent Unit := do
  modify fun resource =>
    { resource with status := { resource.status with phase := some phase, message } }
  let resource ← read
  ofExcept input.statusUpdate
  emit (.statusUpdated kind resource.key resource.status)

/-- The hash of the specification is compared with that of the last pass, and kept. -/
def recordDrift : Proc (Resource α) SecurityEvent Unit :=
  modify fun resource =>
    match input.computeSpecHash with
    | .error _ => { resource with status := { resource.status with driftDetected := false } }
    | .ok specHash =>
      { resource with
        status := { resource.status with
          driftDetected := resource.status.lastAppliedHash ≠ "" ∧
            resource.status.lastAppliedHash ≠ specHash
          lastAppliedHash := specHash } }

def finishSync (message : String) : Proc (Resource α) SecurityEvent Unit := do
  recordDrift input
  mapError ("failed to update status: " ++ ·) (updateStatus kind input .ready message)

def createEntry (transport refusal : String -> String) (target : ClusterKey) (name : String)
    (body : Body) : Proc (Resource α) SecurityEvent Unit := do
  let resource ← read
  let request : Request := { target, name, body }
  emit (.put resource.key request (input.answer request).applied)
  match input.answer request with
  | .failed text _ => fail (transport text)
  | .response status text =>
    if status ≠ 200 ∧ status ≠ 201 then fail (refusal text) else pure ()

def deleteEntry (transport refusal : String -> String) (target : ClusterKey) (name : String) :
    Proc (Resource α) SecurityEvent Unit := do
  emit (.deleted target kind name (match input.deleteAnswer with
    | .failed _ delivered => delivered
    | .response status _ => status = 200))
  match input.deleteAnswer with
  | .failed text _ => fail (transport text)
  | .response status text =>
    if status ≠ 200 ∧ status ≠ 404 then fail (refusal text) else pure ()

/-- `handleDeletion`: whatever became of the entry, the finalizer is removed. -/
def handleDeletion (delete : Proc (Resource α) SecurityEvent Unit) :
    Proc (Resource α) SecurityEvent Unit := do
  let _ ← attempt delete
  updateResource kind input false

def addFinalizer : Proc (Resource α) SecurityEvent Unit := do
  let resource ← read
  if resource.finalized then pure ()
  else mapError ("failed to add finalizer: " ++ ·) (updateResource kind input true)

def reconcileResource (delete sync : Proc (Resource α) SecurityEvent Unit) :
    Proc (Resource α) SecurityEvent Unit := do
  addFinalizer kind input
  let resource ← read
  if resource.deleting then handleDeletion kind input delete else sync

end Steps

/-! ## Users -/

namespace UserReconciler

/-- `getPassword`: a hash is returned as the password. -/
def getPassword (api : Api) (user : Resource UserSpec) : Except String String :=
  if user.spec.hash ≠ "" then .ok user.spec.hash
  else
    match user.spec.passwordSecret with
    | none => .error "password secret reference not specified and no hash provided"
    | some ref =>
      passwordFromSecret api user.nspace ref ("failed to get password secret: " ++ ·)
        ("key " ++ ref.key ++ " not found in secret")

def osUser (user : UserSpec) (password : String) : SecurityUser where
  password := password
  backendRoles := user.backendRoles
  attributes := user.attributes
  description := user.description
  opendistroSecurityRoles := user.openSearchRoles

variable (api : Api) (input : ReconcileInput)

def getOpenSearchClient (target : ClusterKey) : Except String Unit :=
  (input.connect target).mapError ("failed to get connection info: " ++ ·)

def delete : Proc (Resource UserSpec) SecurityEvent Unit := do
  let user ← read
  ofExcept
    ((getOpenSearchClient input user.cluster).mapError ("failed to get OpenSearch client: " ++ ·))
  mapError ("failed to delete user: " ++ ·)
    (deleteEntry .user input id ("failed to delete user: " ++ ·) user.cluster user.name)

/-- The part of `Reconcile` after the deletion check. -/
def sync : Proc (Resource UserSpec) SecurityEvent Unit := do
  let user ← read
  let password ← ofExcept ((getPassword api user).mapError ("failed to get password: " ++ ·))
  ofExcept
    ((getOpenSearchClient input user.cluster).mapError ("failed to get OpenSearch client: " ++ ·))
  mapError ("failed to create/update user: " ++ ·)
    (createEntry input id ("failed to create user: " ++ ·) user.cluster user.name
      (.user (osUser user.spec password)))
  finishSync .user input "User reconciled successfully"

def reconcile : Proc (Resource UserSpec) SecurityEvent Unit :=
  reconcileResource .user input (delete input) (sync api input)

end UserReconciler

/-! ## Roles -/

namespace RoleReconciler

def buildRole (role : RoleSpec) : SecurityRole where
  description := role.description
  clusterPermissions := role.clusterPermissions
  indexPermissions := role.indexPermissions.map fun permission =>
    { indexPatterns := permission.indexPatterns, allowedActions := permission.allowedActions }
  tenantPermissions := role.tenantPermissions

variable (input : ReconcileInput)

def getOpenSearchClient (target : ClusterKey) : Except String Unit :=
  (input.connect target).mapError ("failed to get connection info: " ++ ·)

/-- `Delete`, which a missing connection does not fail. -/
def delete : Proc (Resource RoleSpec) SecurityEvent Unit := do
  let role ← read
  match getOpenSearchClient input role.cluster with
  | .error _ => pure ()
  | .ok _ =>
    mapError ("failed to delete role: " ++ ·)
      (deleteEntry .role input id ("failed to delete role: " ++ ·) role.cluster role.name)

/-- The part of `Reconcile` after the deletion check. -/
def sync : Proc (Resource RoleSpec) SecurityEvent Unit := do
  let role ← read
  ofExcept
    ((getOpenSearchClient input role.cluster).mapError ("failed to get OpenSearch client: " ++ ·))
  mapError ("failed to create/update role: " ++ ·)
    (createEntry input id ("failed to create role: " ++ ·) role.cluster role.name
      (.role (buildRole role.spec)))
  finishSync .role input "Role reconciled successfully"

def reconcile : Proc (Resource RoleSpec) SecurityEvent Unit :=
  reconcileResource .role input (delete input) (sync input)

end RoleReconciler

/-! ## Role mappings -/

namespace RoleMappingReconciler

def buildRoleMapping (mapping : RoleMappingSpec) : RoleMapping where
  description := mapping.description
  backendRoles := mapping.backendRoles
  hosts := mapping.hosts
  users := mapping.users
  andBackendRoles := mapping.andBackendRoles

variable (input : ReconcileInput)

/-- `Delete`, which a missing connection does not fail. -/
def delete : Proc (Resource RoleMappingSpec) SecurityEvent Unit := do
  let mapping ← read
  match input.connect mapping.cluster with
  | .error _ => pure ()
  | .ok _ =>
    mapError ("failed to delete role mapping: " ++ ·)
      (deleteEntry .roleMapping input ("failed to delete role mapping: " ++ ·)
        ("failed to delete role mapping: " ++ ·) mapping.cluster mapping.name)

/-- A failure is also written to the status, whose own failure is only logged. -/
def failWith {α : Type} (message reason text : String) :
    Proc (Resource RoleMappingSpec) SecurityEvent α := do
  let _ ← attempt (updateStatus .roleMapping input .failed (message ++ text))
  fail (reason ++ text)

/-- The part of `Reconcile` after the deletion check. -/
def sync : Proc (Resource RoleMappingSpec) SecurityEvent Unit := do
  let mapping ← read
  ofExcept
    ((input.connect mapping.cluster).mapError ("failed to get OpenSearch client: " ++ ·))
  match input.getRoleMapping with
  | .error text =>
    failWith input "Failed to check role mapping existence: "
      "failed to check role mapping existence: " text
  | .ok found => do
      let action := if found then "update" else "create"
      match ← attempt (createEntry input ("failed to create role mapping: " ++ ·)
          ("failed to create role mapping: " ++ ·) mapping.cluster mapping.name
          (.roleMapping (buildRoleMapping mapping.spec))) with
      | .error text =>
        failWith input ("Failed to " ++ action ++ " role mapping: ")
          ("failed to " ++ action ++ " role mapping: ") text
      | .ok _ => finishSync .roleMapping input "Role mapping reconciled successfully"

def reconcile : Proc (Resource RoleMappingSpec) SecurityEvent Unit :=
  reconcileResource .roleMapping input (delete input) (sync input)

end RoleMappingReconciler

end Security
end WazuhOperator
