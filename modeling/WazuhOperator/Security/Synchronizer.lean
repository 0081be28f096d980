import WazuhOperator.Library.Procedure
import WazuhOperator.Security.Resources

namespace WazuhOperator
namespace Security

open Procedure Proc

/-!
# The security synchronizer

`SyncAllForCluster` pushes the resources of a cluster to OpenSearch, one kind
after the other.  Each kind is listed in the cluster's own namespace and
filtered by the name in the reference; a resource that cannot be pushed is
counted and left for the next pass.

What the synchronizer does to OpenSearch depends on what it reads and on the
answers, and not on its counters: `synced` lists it for one kind.
-/

/-! ## Counting -/

structure Tally where
  (created updated failed : Nat := 0)

structure SyncResult where
  tally : Kind -> Tally := fun _ => {}
  errors : List String := []

namespace SyncResult

variable (result : SyncResult)

def countUpdated (kind : Kind) : SyncResult :=
  { result with
    tally := fun other =>
      if other = kind then { result.tally kind with updated := (result.tally kind).updated + 1 }
      else result.tally other }

def countFailed (kind : Kind) : SyncResult :=
  { result with
    tally := fun other =>
      if other = kind then { result.tally kind with failed := (result.tally kind).failed + 1 }
      else result.tally other }

def addError (text : String) : SyncResult := { result with errors := result.errors ++ [text] }

end SyncResult

structure SyncInput where
  getClientForCluster : Except String Unit
  checkInitialized : Except String Bool
  list : Kind -> Except String Unit
  answer : Request -> Answer

/-! ## One resource -/

section Pushing

variable {α : Type} (input : SyncInput) (cluster : ClusterKey)

/-- `updateUserStatus` and its siblings; a failure is only logged. -/
def updateSyncStatus (kind : Kind) (resource : Resource α) (phase : ResourcePhase) (message : String) :
    Proc SyncResult SecurityEvent Unit :=
  emit (.statusUpdated kind resource.key { resource.status with phase := some phase, message })

def putRequest (resource : Resource α) (request : Request) : Proc SyncResult SecurityEvent Unit :=
  emit (.put resource.key request (input.answer request).applied)

def recordFailure (kind : Kind) (noun : String) (resource : Resource α) (text : String) :
    Proc SyncResult SecurityEvent Unit := do
  modify fun result =>
    (result.countFailed kind).addError (noun ++ " " ++ resource.name ++ ": " ++ text)
  updateSyncStatus kind resource .failed text

/-- The push of a role, role mapping, tenant or action group.  A response other than 200
and 201 is counted, but is not among the errors. -/
def pushResource (noun synced : String) (resource : Resource α) (body : Body) :
    Proc SyncResult SecurityEvent Unit := do
  let request : Request := { target := cluster, name := resource.name, body }
  putRequest input resource request
  match input.answer request with
  | .failed text _ => recordFailure body.kind noun resource text
  | .response status text =>
    if status ≠ 200 ∧ status ≠ 201 then do
      modify (·.countFailed body.kind)
      updateSyncStatus body.kind resource .failed ("HTTP " ++ toString status ++ ": " ++ text)
    else do
      updateSyncStatus body.kind resource .ready synced
      modify (·.countUpdated body.kind)

def createOrUpdateUser : Answer -> Except String Unit
  | .failed text _ => .error text
  | .response status text =>
    if status ≠ 200 ∧ status ≠ 201 then
      .error ("failed to create/update user: HTTP " ++ toString status ++ ": " ++ text)
    else .ok ()

end Pushing

/-! ## Users -/

def CredentialsSecretRef.key (ref : CredentialsSecretRef) : String :=
  if ref.passwordKey = "" then "password" else ref.passwordKey

/-- The password in a Secret, with the texts for a Secret that cannot be read and for one
without the key. -/
def passwordFromSecret (api : Api) (nspace : String) (ref : CredentialsSecretRef)
    (unreadable : String -> String) (missing : String) : Except String String :=
  match api.secret nspace ref.secretName with
  | .error text => .error (unreadable text)
  | .ok data =>
    match data ref.key with
    | none => .error missing
    | some password => .ok password

def getPasswordFromCRD (api : Api) (user : Resource UserSpec) : Except String String :=
  if user.spec.hash ≠ "" ∧ user.spec.passwordSecret.isNone then
    .error ("user " ++ user.name ++ " only has a hash, no password available for authentication")
  else
    match user.spec.passwordSecret with
    | none => .error ("user " ++ user.name ++ " has no passwordSecret configured")
    | some ref =>
      passwordFromSecret api user.nspace ref
        (("failed to get password secret " ++ ref.secretName ++ ": ") ++ ·)
        ("key " ++ ref.key ++ " not found in secret " ++ ref.secretName)

/-- `buildSecurityUser`: a hash goes before a password. -/
def buildSecurityUser (api : Api) (user : Resource UserSpec) : Except String SecurityUser :=
  let secUser : SecurityUser :=
    { backendRoles := user.spec.backendRoles
      attributes := user.spec.attributes
      description := user.spec.description
      opendistroSecurityRoles := user.spec.openSearchRoles }
  if user.spec.hash ≠ "" then .ok { secUser with hash := user.spec.hash }
  else if user.spec.passwordSecret.isSome then
    match getPasswordFromCRD api user with
    | .error text => .error ("failed to get password: " ++ text)
    | .ok password => .ok { secUser with password }
  else .error ("user " ++ user.name ++ " has no password or hash configured")

/-- One round of the loop in `SyncUsers`. -/
def syncUser (api : Api) (input : SyncInput) (cluster : ClusterKey) (user : Resource UserSpec) :
    Proc SyncResult SecurityEvent Unit :=
  match buildSecurityUser api user with
  | .error text => recordFailure .user "user" user text
  | .ok secUser => do
      let request : Request := { target := cluster, name := user.name, body := .user secUser }
      putRequest input user request
      match createOrUpdateUser (input.answer request) with
      | .error text => recordFailure .user "user" user text
      | .ok _ => do
          updateSyncStatus .user user .ready "User synced successfully"
          modify (·.countUpdated .user)

/-! ## The other kinds -/

def buildSecurityRole (role : RoleSpec) : SecurityRole where
  description := role.description
  clusterPermissions := role.clusterPermissions
  indexPermissions := role.indexPermissions.map fun permission =>
    { indexPatterns := permission.indexPatterns, allowedActions := permission.allowedActions }
  tenantPermissions := role.tenantPermissions

def syncRole (input : SyncInput) (cluster : ClusterKey) (role : Resource RoleSpec) :
    Proc SyncResult SecurityEvent Unit :=
  pushResource input cluster "role" "Role synced successfully" role
    (.role (buildSecurityRole role.spec))

def syncedRoleMapping (mapping : RoleMappingSpec) : RoleMapping where
  backendRoles := mapping.backendRoles
  hosts := mapping.hosts
  users := mapping.users

def syncRoleMapping (input : SyncInput) (cluster : ClusterKey)
    (mapping : Resource RoleMappingSpec) : Proc SyncResult SecurityEvent Unit :=
  pushResource input cluster "mapping" "Role mapping synced successfully" mapping
    (.roleMapping (syncedRoleMapping mapping.spec))

def syncTenant (input : SyncInput) (cluster : ClusterKey) (tenant : Resource TenantSpec) :
    Proc SyncResult SecurityEvent Unit :=
  pushResource input cluster "tenant" "Tenant synced successfully" tenant
    (.tenant tenant.spec.description)

def syncActionGroup (input : SyncInput) (cluster : ClusterKey)
    (actionGroup : Resource ActionGroupSpec) : Proc SyncResult SecurityEvent Unit :=
  pushResource input cluster "actiongroup" "Action group synced successfully" actionGroup
    (.actionGroup actionGroup.spec.allowedActions)

/-! ## One kind, and all of them -/

section Kinds

variable (api : Api) (input : SyncInput) (cluster : ClusterKey)

/-- The resources in the cluster's namespace, of which those with another name in their
reference are passed over. -/
def syncKind {α : Type} (kind : Kind) (crd : String) (inventory : Inventory α)
    (push : Resource α -> Proc SyncResult SecurityEvent Unit) :
    Proc SyncResult SecurityEvent Unit := do
  ofExcept ((input.list kind).mapError (("failed to list " ++ crd ++ " CRDs: ") ++ ·))
  forEach (fun resource => if resource.clusterRef.name ≠ cluster.name then pure () else push resource)
    (inventory.items.filter (·.nspace = cluster.nspace))

def syncUsers : Proc SyncResult SecurityEvent Unit :=
  syncKind input cluster .user "OpenSearchUser" api.users (syncUser api input cluster)

def syncRoles : Proc SyncResult SecurityEvent Unit :=
  syncKind input cluster .role "OpenSearchRole" api.roles (syncRole input cluster)

def syncRoleMappings : Proc SyncResult SecurityEvent Unit :=
  syncKind input cluster .roleMapping "OpenSearchRoleMapping" api.roleMappings
    (syncRoleMapping input cluster)

def syncTenants : Proc SyncResult SecurityEvent Unit :=
  syncKind input cluster .tenant "OpenSearchTenant" api.tenants (syncTenant input cluster)

def syncActionGroups : Proc SyncResult SecurityEvent Unit :=
  syncKind input cluster .actionGroup "OpenSearchActionGroup" api.actionGroups
    (syncActionGroup input cluster)

/-- The failure of one kind is noted and does not keep the others from being pushed. -/
def noteSyncError (noun : String) (sync : Proc SyncResult SecurityEvent Unit) :
    Proc SyncResult SecurityEvent Unit := do
  match ← attempt sync with
  | .error text => modify (·.addError (noun ++ " sync error: " ++ text))
  | .ok _ => pure ()

def syncAllForCluster : Proc SyncResult SecurityEvent Unit := do
  ofExcept (input.getClientForCluster.mapError ("failed to create OpenSearch client: " ++ ·))
  let initialized ← ofExcept
    (input.checkInitialized.mapError ("failed to check security initialization: " ++ ·))
  if !initialized then fail "security not initialized, cannot sync"
  else do
    noteSyncError "users" (syncUsers api input cluster)
    noteSyncError "roles" (syncRoles api input cluster)
    noteSyncError "role mappings" (syncRoleMappings api input cluster)
    noteSyncError "tenants" (syncTenants api input cluster)
    noteSyncError "action groups" (syncActionGroups api input cluster)

end Kinds

end Security
end WazuhOperator
