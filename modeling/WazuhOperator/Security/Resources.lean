import WazuhOperator.Cluster.Objects

namespace WazuhOperator
namespace Security

/-!
# Security resources and what is sent for them

Users, roles, role mappings, tenants and action groups are custom resources of
their own.  Each refers to the cluster it is meant for, and each ends up as one
entry of that cluster's security index in OpenSearch, under its own name.  Two
parts of the operator write these entries: a reconciler for each resource, and
the synchronizer for all resources of a cluster.

This module has the resources, the bodies of the requests, and the entries
OpenSearch makes of them.
-/

/-! ## Custom resources -/

/-- `v1.WazuhClusterReference`. -/
structure ClusterReference where
  name : String
  nspace : String := ""
  deriving DecidableEq

/-- The cluster a reference stands for: an empty namespace is that of the referring
resource (`GetConnectionInfo`, `GetClientForRef`). -/
def ClusterReference.resolve (ref : ClusterReference) (resourceNamespace : String) : ClusterKey where
  nspace := if ref.nspace = "" then resourceNamespace else ref.nspace
  name := ref.name

inductive ResourcePhase where
  | pending
  | ready
  | failed
  | conflict
  deriving DecidableEq

structure ResourceStatus where
  phase : Option ResourcePhase := none
  (message lastAppliedHash : String := "")
  driftDetected : Bool := false
  deriving DecidableEq

/-- A security resource with the given specification.  All kinds have the reference to a
cluster in it. -/
structure Resource (α : Type) where
  (name nspace : String)
  clusterRef : ClusterReference
  spec : α
  finalized : Bool := true
  deleting : Bool := false
  status : ResourceStatus := {}

namespace Resource

variable {α : Type} (resource : Resource α)

def key : String × String := (resource.nspace, resource.name)

def cluster : ClusterKey := resource.clusterRef.resolve resource.nspace

/-- The one cluster for which the synchronizer takes up the resource: it has the name in the
reference and lies in the resource's own namespace. -/
def syncedTo : ClusterKey := { nspace := resource.nspace, name := resource.clusterRef.name }

end Resource

/-- `v1.CredentialsSecretRef`, as far as passwords need it. -/
structure CredentialsSecretRef where
  secretName : String
  passwordKey : String := ""

structure UserSpec where
  passwordSecret : Option CredentialsSecretRef := none
  hash : String := ""
  (backendRoles openSearchRoles : List String := [])
  attributes : List (String × String) := []
  description : String := ""

structure IndexPermission where
  (indexPatterns allowedActions : List String)
  dls : String := ""
  (fls maskedFields : List String := [])
  deriving DecidableEq

/-- `v1.TenantPermission`, and `adapters.TenantPermission`, which has the same fields. -/
structure TenantPermission where
  (tenantPatterns allowedActions : List String)
  deriving DecidableEq

structure RoleSpec where
  clusterPermissions : List String := []
  indexPermissions : List IndexPermission := []
  tenantPermissions : List TenantPermission := []
  description : String := ""

structure RoleMappingSpec where
  (users backendRoles hosts andBackendRoles : List String := [])
  description : String := ""

structure TenantSpec where
  description : String := ""

structure ActionGroupSpec where
  allowedActions : List String := []

inductive Kind where
  | user
  | role
  | roleMapping
  | tenant
  | actionGroup
  deriving DecidableEq

def Kind.all : List Kind := [.user, .role, .roleMapping, .tenant, .actionGroup]

abbrev Spec : Kind -> Type
  | .user => UserSpec
  | .role => RoleSpec
  | .roleMapping => RoleMappingSpec
  | .tenant => TenantSpec
  | .actionGroup => ActionGroupSpec

/-- All resources of one kind.  Kubernetes has no two with the same namespaced name. -/
structure Inventory (α : Type) where
  items : List (Resource α)
  distinct : (items.map Resource.key).Nodup

def Inventory.empty {α : Type} : Inventory α := ⟨[], List.Pairwise.nil⟩

structure Api where
  users : Inventory UserSpec
  roles : Inventory RoleSpec
  roleMappings : Inventory RoleMappingSpec
  tenants : Inventory TenantSpec
  actionGroups : Inventory ActionGroupSpec
  secret : String -> String -> Except String (String -> Option String)

def Api.inventory (api : Api) : (kind : Kind) -> Inventory (Spec kind)
  | .user => api.users
  | .role => api.roles
  | .roleMapping => api.roleMappings
  | .tenant => api.tenants
  | .actionGroup => api.actionGroups

/-! ## Requests to the security API -/

structure SecurityUser where
  (hash password : String := "")
  backendRoles : List String := []
  attributes : List (String × String) := []
  description : String := ""
  opendistroSecurityRoles : List String := []

/-- `adapters.IndexPermission`. -/
structure SecurityIndexPermission where
  indexPatterns : List String
  documentLevelSecurity : String := ""
  (fieldLevelSecurity maskedFields : List String := [])
  allowedActions : List String
  deriving DecidableEq

structure SecurityRole where
  description : String := ""
  clusterPermissions : List String := []
  indexPermissions : List SecurityIndexPermission := []
  tenantPermissions : List TenantPermission := []

structure RoleMapping where
  description : String := ""
  (backendRoles hosts users andBackendRoles : List String := [])

inductive Body where
  | user (payload : SecurityUser)
  | role (payload : SecurityRole)
  | roleMapping (payload : RoleMapping)
  | tenant (description : String)
  | actionGroup (allowedActions : List String)

def Body.kind : Body -> Kind
  | .user _ => .user
  | .role _ => .role
  | .roleMapping _ => .roleMapping
  | .tenant _ => .tenant
  | .actionGroup _ => .actionGroup

structure Request where
  target : ClusterKey
  name : String
  body : Body

/-- What comes back for a request.  One that fails on the way back was carried out. -/
inductive Answer where
  | response (status : Nat) (body : String)
  | failed (text : String) (delivered : Bool)

namespace Answer

/-- The response is one of the two which the operator takes for success. -/
def accepted : Answer -> Bool
  | response status _ => status = 200 ∨ status = 201
  | failed _ _ => false

def applied : Answer -> Bool
  | response status body => (response status body).accepted
  | failed _ delivered => delivered

end Answer

/-- What the operator does to OpenSearch and to the resources.  A request is noted with the
namespaced name of the resource it was made for. -/
inductive SecurityEvent where
  | put (source : String × String) (request : Request) (applied : Bool)
  | deleted (target : ClusterKey) (kind : Kind) (name : String) (applied : Bool)
  | statusUpdated (kind : Kind) (key : String × String) (status : ResourceStatus)
  | finalizerUpdated (kind : Kind) (key : String × String) (finalized : Bool)

/-! ## The security index -/

/-- What a stored credential is checked against: a given hash, or a password which
OpenSearch has hashed itself. -/
inductive Credential where
  | hash (text : String)
  | password (text : String)
  deriving DecidableEq

def Credential.accepts (verify : String -> String -> Bool) : Credential -> String -> Bool
  | .hash text, given => verify text given
  | .password text, given => text = given

/-- The credential of a request; empty fields are not sent.  OpenSearch prefers a password. -/
def SecurityUser.credential (user : SecurityUser) : Option Credential :=
  if user.password ≠ "" then some (.password user.password)
  else if user.hash ≠ "" then some (.hash user.hash)
  else none

structure StoredUser where
  credential : Credential
  account : SecurityUser

structure SecurityIndex where
  users : String -> Option StoredUser
  roles : String -> Option SecurityRole
  roleMappings : String -> Option RoleMapping
  tenants : String -> Option String
  actionGroups : String -> Option (List String)

namespace SecurityIndex

def replace {α : Type} (entries : String -> Option α) (name : String) (entry : Option α) :
    String -> Option α :=
  fun other => if other = name then entry else entries other

/-- The user a request leaves: without a new credential the old one is kept, and a new user
needs one. -/
def storedUser (payload : SecurityUser) (existing : Option StoredUser) : Option StoredUser :=
  match payload.credential with
  | some credential => some ⟨credential, payload⟩
  | none => existing.map fun stored => ⟨stored.credential, payload⟩

def put (index : SecurityIndex) (name : String) : Body -> SecurityIndex
  | .user payload =>
    { index with users := replace index.users name (storedUser payload (index.users name)) }
  | .role payload => { index with roles := replace index.roles name (some payload) }
  | .roleMapping payload =>
    { index with roleMappings := replace index.roleMappings name (some payload) }
  | .tenant description =>
    { index with tenants := replace index.tenants name (some description) }
  | .actionGroup allowedActions =>
    { index with actionGroups := replace index.actionGroups name (some allowedActions) }

def delete (index : SecurityIndex) (name : String) : Kind -> SecurityIndex
  | .user => { index with users := replace index.users name none }
  | .role => { index with roles := replace index.roles name none }
  | .roleMapping => { index with roleMappings := replace index.roleMappings name none }
  | .tenant => { index with tenants := replace index.tenants name none }
  | .actionGroup => { index with actionGroups := replace index.actionGroups name none }

end SecurityIndex

abbrev Indices := ClusterKey -> SecurityIndex

namespace Indices

def update (indices : Indices) (target : ClusterKey) (change : SecurityIndex -> SecurityIndex) :
    Indices :=
  fun other => if other = target then change (indices other) else indices other

def after (indices : Indices) : SecurityEvent -> Indices
  | .put _ request true => indices.update request.target (·.put request.name request.body)
  | .deleted target kind name true => indices.update target (·.delete name kind)
  | _ => indices

end Indices

end Security
end WazuhOperator
