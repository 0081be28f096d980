import Mathlib.Data.List.Nodup
import WazuhOperator.Security.Reconcilers

namespace WazuhOperator
namespace Security

open Procedure Proc List SecurityEvent

/-!
# What a pass leaves in the security indices

An entry of a security index is changed only by the requests for its cluster,
kind and name.  A synchronization makes at most one such request, since the
names of the resources it lists are distinct; so the entry it leaves behind is
the one which this request makes of the entry before.
-/

/-! ## Entries -/

/-- What an entry of each kind consists of. -/
abbrev Entry : Kind -> Type
  | .user => StoredUser
  | .role => SecurityRole
  | .roleMapping => RoleMapping
  | .tenant => String
  | .actionGroup => List String

def SecurityIndex.entry (index : SecurityIndex) : (kind : Kind) -> String -> Option (Entry kind)
  | .user => index.users
  | .role => index.roles
  | .roleMapping => index.roleMappings
  | .tenant => index.tenants
  | .actionGroup => index.actionGroups

/-- The event is a request about this entry. -/
def SecurityEvent.Concerns (target : ClusterKey) (kind : Kind) (name : String) : SecurityEvent -> Prop
  | .put _ request _ => request.target = target ∧ request.body.kind = kind ∧ request.name = name
  | .deleted place deletedKind entry _ => place = target ∧ deletedKind = kind ∧ entry = name
  | .statusUpdated .. | .finalizerUpdated .. => False

namespace SecurityIndex

variable {index other : SecurityIndex} {name : String}

theorem entry_put_congr (same : index.entry kind name = other.entry kind name) :
    (index.put entryName body).entry kind name = (other.put entryName body).entry kind name := by
  by_cases here : name = entryName
  · subst here
    cases body <;> cases kind <;> simp only [entry] at same <;> simp [put, entry, replace, same]
  · cases body <;> cases kind <;> simp only [entry] at same <;> simp [put, entry, replace, here, same]

theorem entry_delete_congr {deleted : Kind} (same : index.entry kind name = other.entry kind name) :
    (index.delete entryName deleted).entry kind name = (other.delete entryName deleted).entry kind name := by
  cases deleted <;> cases kind <;> simp only [entry] at same <;> simp [delete, entry, replace, same]

theorem entry_put_of_ne (apart : ¬ (body.kind = kind ∧ entryName = name)) :
    (index.put entryName body).entry kind name = index.entry kind name := by
  cases body <;> cases kind <;> simp_all [put, entry, replace, Body.kind, eq_comm]

theorem entry_delete_of_ne {deleted : Kind} (apart : ¬ (deleted = kind ∧ entryName = name)) :
    (index.delete entryName deleted).entry kind name = index.entry kind name := by
  cases deleted <;> cases kind <;> simp_all [delete, entry, replace, eq_comm]

end SecurityIndex

namespace Indices

variable {target : ClusterKey} {name : String}

def afterAll (indices : Indices) (log : List SecurityEvent) : Indices := log.foldl after indices

theorem afterAll_append_cons (indices : Indices) (earlier later : List SecurityEvent)
    (event : SecurityEvent) :
    indices.afterAll (earlier ++ event :: later) =
      ((indices.afterAll earlier).after event).afterAll later := by
  simp [afterAll, foldl_append]

variable {event : SecurityEvent}

/-- Requests about other entries leave an entry as it is. -/
theorem entry_after_of_not_concerns (indices : Indices) (apart : ¬ event.Concerns target kind name) :
    (indices.after event target).entry kind name = (indices target).entry kind name := by
  cases event with
  | put _ _ applied =>
    cases applied with
    | false => rfl
    | true =>
      simp only [after, update]
      split
      next here =>
        subst here
        exact SecurityIndex.entry_put_of_ne fun both => apart ⟨rfl, both⟩
      next => rfl
  | deleted _ _ _ applied =>
    cases applied with
    | false => rfl
    | true =>
      simp only [after, update]
      split
      next here =>
        subst here
        exact SecurityIndex.entry_delete_of_ne fun both => apart ⟨rfl, both⟩
      next => rfl
  | statusUpdated | finalizerUpdated => rfl

theorem entry_after_congr {indices others : Indices} (event : SecurityEvent)
    (same : (indices target).entry kind name = (others target).entry kind name) :
    (indices.after event target).entry kind name = (others.after event target).entry kind name := by
  cases event with
  | put _ _ applied =>
    cases applied with
    | false => exact same
    | true =>
      simp only [after, update]
      split
      · exact SecurityIndex.entry_put_congr same
      · exact same
  | deleted _ _ _ applied =>
    cases applied with
    | false => exact same
    | true =>
      simp only [after, update]
      split
      · exact SecurityIndex.entry_delete_congr same
      · exact same
  | statusUpdated | finalizerUpdated => exact same

theorem entry_afterAll_of_not_concerns (apart : ∀ event ∈ log, ¬ event.Concerns target kind name) :
    forall indices : Indices,
      (indices.afterAll log target).entry kind name = (indices target).entry kind name := by
  induction log with
  | nil => exact fun _ => rfl
  | cons event _ ih =>
    intro indices
    have later := ih (fun other member => apart other (mem_cons_of_mem event member))
      (indices.after event)
    exact later.trans (entry_after_of_not_concerns indices (apart event (mem_cons_self ..)))

end Indices

/-! ## What the synchronizer records -/

section Synchronizer

variable {α : Type} (api : Api) (input : SyncInput) (cluster : ClusterKey)

/-- The status of a resource after the answer to its request. -/
def pushStatus (synced : String) (resource : Resource α) : Answer -> ResourceStatus
  | .failed text _ => { resource.status with phase := some .failed, message := text }
  | .response status text =>
    if status ≠ 200 ∧ status ≠ 201 then
      { resource.status with
        phase := some .failed, message := "HTTP " ++ toString status ++ ": " ++ text }
    else { resource.status with phase := some .ready, message := synced }

/-- The request for a resource, and the status which reports the answer. -/
def pushEvents (synced : String) (resource : Resource α) (body : Body) : List SecurityEvent :=
  [.put resource.key ⟨cluster, resource.name, body⟩ (input.answer ⟨cluster, resource.name, body⟩).applied,
    .statusUpdated body.kind resource.key
      (pushStatus synced resource (input.answer ⟨cluster, resource.name, body⟩))]

theorem records_recordFailure (kind : Kind) (noun : String) (resource : Resource α) (text : String) :
    Records [.statusUpdated kind resource.key
        { resource.status with phase := some .failed, message := text }]
      (recordFailure kind noun resource text) :=
  records_bind (records_modify _) fun _ => records_emit _

theorem records_pushResource (noun synced : String) (resource : Resource α) (body : Body) :
    Records (pushEvents input cluster synced resource body)
      (pushResource input cluster noun synced resource body) := by
  apply records_bind (records_emit _)
  intro _
  cases input.answer ⟨cluster, resource.name, body⟩ with
  | failed text => exact records_recordFailure body.kind noun resource text
  | response =>
    simp only [pushStatus]
    split
    · exact records_bind (records_modify _) fun _ => records_emit _
    · exact records_bind (records_emit _) fun _ => records_modify _

/-- The same for a user, for whom a password has to be found first. -/
def userEvents (user : Resource UserSpec) : List SecurityEvent :=
  match buildSecurityUser api user with
  | .error text =>
    [.statusUpdated .user user.key { user.status with phase := some .failed, message := text }]
  | .ok secUser =>
    [.put user.key ⟨cluster, user.name, .user secUser⟩
        (input.answer ⟨cluster, user.name, .user secUser⟩).applied,
      .statusUpdated .user user.key
        (match createOrUpdateUser (input.answer ⟨cluster, user.name, .user secUser⟩) with
        | .error text => { user.status with phase := some .failed, message := text }
        | .ok _ => { user.status with phase := some .ready, message := "User synced successfully" })]

theorem records_syncUser (user : Resource UserSpec) :
    Records (userEvents api input cluster user) (syncUser api input cluster user) := by
  rw [userEvents, syncUser]
  cases buildSecurityUser api user with
  | error text => exact records_recordFailure .user "user" user text
  | ok secUser =>
    apply records_bind (records_emit _)
    intro _
    cases createOrUpdateUser (input.answer ⟨cluster, user.name, .user secUser⟩) with
    | error text => exact records_recordFailure .user "user" user text
    | ok _ => exact records_bind (records_emit _) fun _ => records_modify _

/-- The events of the resources of one kind that are in the cluster's namespace and refer to it. -/
def kindEvents (kind : Kind) (inventory : Inventory α) (events : Resource α -> List SecurityEvent) :
    List SecurityEvent :=
  match input.list kind with
  | .error _ => []
  | .ok _ =>
    (inventory.items.filter (·.nspace = cluster.nspace)).flatMap fun resource =>
      if resource.clusterRef.name ≠ cluster.name then [] else events resource

theorem records_noteSyncError (noun : String) (kind : Kind) (crd : String) (inventory : Inventory α)
    {events : Resource α -> List SecurityEvent}
    (each : forall resource, Records (events resource) (push resource)) :
    Records (kindEvents input cluster kind inventory events)
      (noteSyncError noun (syncKind input cluster kind crd inventory push)) := by
  intro state
  rw [kindEvents]
  cases listed : input.list kind with
  | error => simp [noteSyncError, syncKind, listed]
  | ok =>
    have rounds := records_forEach (inventory.items.filter (·.nspace = cluster.nspace))
      (fun resource _ => show Records
          (if resource.clusterRef.name ≠ cluster.name then [] else events resource)
          (if resource.clusterRef.name ≠ cluster.name then pure () else push resource) by
        split
        · exact records_pure ()
        · exact each resource)
    rcases rounds state with ⟨⟨last, returned⟩, recorded⟩
    simp only [noteSyncError, syncKind, listed, Except.mapError, bind_apply, attempt_apply,
      ofExcept_apply, Outcome.following_nil, returned, recorded]
    exact ⟨⟨(), rfl⟩, append_nil _⟩

def roleEvents (role : Resource RoleSpec) : List SecurityEvent :=
  pushEvents input cluster "Role synced successfully" role (.role (buildSecurityRole role.spec))

def roleMappingEvents (mapping : Resource RoleMappingSpec) : List SecurityEvent :=
  pushEvents input cluster "Role mapping synced successfully" mapping
    (.roleMapping (syncedRoleMapping mapping.spec))

def tenantEvents (tenant : Resource TenantSpec) : List SecurityEvent :=
  pushEvents input cluster "Tenant synced successfully" tenant (.tenant tenant.spec.description)

def actionGroupEvents (actionGroup : Resource ActionGroupSpec) : List SecurityEvent :=
  pushEvents input cluster "Action group synced successfully" actionGroup
    (.actionGroup actionGroup.spec.allowedActions)

def resourceEvents : (kind : Kind) -> Resource (Spec kind) -> List SecurityEvent
  | .user => userEvents api input cluster
  | .role => roleEvents input cluster
  | .roleMapping => roleMappingEvents input cluster
  | .tenant => tenantEvents input cluster
  | .actionGroup => actionGroupEvents input cluster

/-- All events of a synchronization, kind after kind. -/
def syncEvents : List SecurityEvent :=
  Kind.all.flatMap fun kind =>
    kindEvents input cluster kind (api.inventory kind) (resourceEvents api input cluster kind)

/-- The synchronizer gets as far as the resources. -/
def SyncInput.connected (input : SyncInput) : Bool :=
  match input.getClientForCluster, input.checkInitialized with
  | .ok _, .ok initialized => initialized
  | _, _ => false

theorem records_syncKinds : Records (syncEvents api input cluster) (do
      noteSyncError "users" (syncUsers api input cluster)
      noteSyncError "roles" (syncRoles api input cluster)
      noteSyncError "role mappings" (syncRoleMappings api input cluster)
      noteSyncError "tenants" (syncTenants api input cluster)
      noteSyncError "action groups" (syncActionGroups api input cluster)) := by
  simp only [syncEvents, Kind.all, flatMap_cons, flatMap_nil, append_nil]
  apply records_bind
  · exact records_noteSyncError _ _ _ _ _ _ (records_syncUser api input cluster)
  intro _
  apply records_bind
  · exact records_noteSyncError _ _ _ _ _ _ fun role => records_pushResource input cluster _ _ role _
  intro _
  apply records_bind
  · exact records_noteSyncError _ _ _ _ _ _ fun mapping => records_pushResource input cluster _ _ mapping _
  intro _
  apply records_bind
  · exact records_noteSyncError _ _ _ _ _ _ fun tenant => records_pushResource input cluster _ _ tenant _
  intro _
  exact records_noteSyncError _ _ _ _ _ _ fun group => records_pushResource input cluster _ _ group _

theorem syncAllForCluster_log (state : SyncResult) :
    (syncAllForCluster api input cluster state).log =
      if input.connected then syncEvents api input cluster else [] := by
  cases client : input.getClientForCluster with
  | error => simp [syncAllForCluster, SyncInput.connected, client]
  | ok =>
    cases checked : input.checkInitialized with
    | error => simp [syncAllForCluster, SyncInput.connected, client, checked]
    | ok initialized =>
      cases initialized with
      | false => simp [syncAllForCluster, SyncInput.connected, client, checked]
      | true =>
        have recorded := (records_syncKinds api input cluster state).2
        simpa [syncAllForCluster, SyncInput.connected, client, checked]
          using recorded

end Synchronizer

/-! ## One request for each entry -/

/-- Among the events, the requests are all about one entry. -/
def OnlyFor (cluster : ClusterKey) (kind : Kind) (name : String) (events : List SecurityEvent) : Prop :=
  ∀ event ∈ events, forall target otherKind other,
    event.Concerns target otherKind other -> target = cluster ∧ otherKind = kind ∧ other = name

section Splitting

variable {α : Type} {api : Api} {input : SyncInput} {cluster : ClusterKey} {inventory : Inventory α}

variable {name : String}

theorem onlyFor_push {applied : Bool} (right : body.kind = kind)
    (quiet : OnlyFor cluster kind name [status]) :
    OnlyFor cluster kind name [.put source ⟨cluster, name, body⟩ applied, status] := by
  intro event member target otherKind other concerned
  rcases mem_cons.mp member with rfl | member
  · exact ⟨concerned.1.symm, concerned.2.1.symm.trans right, concerned.2.2.symm⟩
  · exact quiet event member target otherKind other concerned

theorem onlyFor_status :
    OnlyFor cluster kind name [.statusUpdated kind source status] := by
  intro event member target otherKind other concerned
  rw [mem_singleton.mp member] at concerned
  cases concerned

theorem onlyFor_resourceEvents (kind : Kind) (resource : Resource (Spec kind)) :
    OnlyFor cluster kind resource.name (resourceEvents api input cluster kind resource) := by
  cases kind with
  | user =>
    rw [resourceEvents, userEvents]
    split
    · exact onlyFor_status
    · exact onlyFor_push rfl onlyFor_status
  | role | roleMapping | tenant | actionGroup => exact onlyFor_push rfl onlyFor_status

variable {event : SecurityEvent}

theorem mem_kindEvents : event ∈ kindEvents input cluster kind inventory events <->
      input.list kind = .ok () ∧ ∃ resource ∈ inventory.items, resource.nspace = cluster.nspace ∧
        resource.clusterRef.name = cluster.name ∧ event ∈ events resource := by
  rw [kindEvents]
  cases listed : input.list kind with
  | error => simp
  | ok =>
    simp only [mem_flatMap, mem_filter, decide_eq_true_eq, true_and]
    constructor
    · rintro ⟨resource, ⟨member, place⟩, recorded⟩
      split at recorded
      · cases recorded
      · next named => exact ⟨resource, member, place, not_not.mp named, recorded⟩
    · rintro ⟨resource, member, place, named, recorded⟩
      exact ⟨resource, ⟨member, place⟩, by rw [if_neg (not_not.mpr named)]; exact recorded⟩

theorem kindEvents_own (own : forall resource, OnlyFor cluster kind resource.name (events resource))
    (member : event ∈ kindEvents input cluster kind inventory events) {target : ClusterKey}
    (concerned : event.Concerns target otherKind name) :
    target = cluster ∧ otherKind = kind := by
  rcases (mem_kindEvents.mp member).2 with ⟨resource, _, _, _, recorded⟩
  have only := own resource event recorded target otherKind name concerned
  exact ⟨only.1, only.2.1⟩

/-- The events of a resource stand together, and no others of its kind concern its entry. -/
theorem kindEvents_split (own : forall resource, OnlyFor cluster kind resource.name (events resource))
    {resource : Resource α} (listed : input.list kind = .ok ()) (member : resource ∈ inventory.items)
    (place : resource.nspace = cluster.nspace) (named : resource.clusterRef.name = cluster.name) :
    ∃ earlier later,
      kindEvents input cluster kind inventory events = earlier ++ (events resource ++ later) ∧
        ∀ event, event ∈ earlier ∨ event ∈ later ->
          ¬ event.Concerns cluster kind resource.name := by
  have filtered : resource ∈ inventory.items.filter (·.nspace = cluster.nspace) := by
    simp [member, place]
  rcases eq_append_cons_of_mem filtered with ⟨before, behind, split, first⟩
  have distinct := (Nodup.of_map Resource.key inventory.distinct).filter (·.nspace = cluster.nspace)
  rw [split] at distinct
  refine ⟨_, _, by rw [kindEvents, listed, split, flatMap_append, flatMap_cons, if_neg
    (not_not.mpr named)], ?_⟩
  intro event elsewhere concerned
  rw [← mem_append, ← flatMap_append, mem_flatMap] at elsewhere
  rcases elsewhere with ⟨other, inside, recorded⟩
  rw [mem_append] at inside
  have listedToo : other ∈ inventory.items.filter (·.nspace = cluster.nspace) := by
    rw [split]
    rcases inside with inside | inside <;> simp [inside]
  split at recorded
  · cases recorded
  simp only [mem_filter, decide_eq_true_eq] at listedToo
  have same : other = resource := by
    apply inj_on_of_nodup_map inventory.distinct listedToo.1 member
    rw [Resource.key, Resource.key, listedToo.2, place, (own other event recorded _ _ _ concerned).2.2]
  subst same
  exact inside.elim first (nodup_cons.mp distinct.of_append_right).1

end Splitting

/-! ## The entries a synchronization leaves -/

section Synced

variable {api : Api} {input : SyncInput} {cluster : ClusterKey}

theorem Kind.all_split (kind : Kind) :
    ∃ before behind, Kind.all = before ++ kind :: behind ∧ kind ∉ before ∧ kind ∉ behind := by
  rcases eq_append_cons_of_mem (show kind ∈ all by cases kind <;> decide) with ⟨before, behind, order, first⟩
  have distinct : all.Nodup := by decide
  rw [order] at distinct
  exact ⟨before, behind, order, first, (nodup_cons.mp distinct.of_append_right).1⟩

theorem put_mem_syncEvents (right : request.body.kind = kind) :
    .put source request applied ∈ syncEvents api input cluster <->
      input.list kind = .ok () ∧ ∃ resource ∈ (api.inventory kind).items,
        resource.nspace = cluster.nspace ∧ resource.clusterRef.name = cluster.name ∧
          .put source request applied ∈ resourceEvents api input cluster kind resource := by
  rw [← mem_kindEvents, syncEvents, mem_flatMap]
  constructor
  · rintro ⟨other, _, recorded⟩
    have same : kind = other :=
      (kindEvents_own (onlyFor_resourceEvents other) recorded ⟨rfl, right, rfl⟩).2
    subst same
    exact recorded
  · intro recorded
    rcases Kind.all_split kind with ⟨before, behind, order, _⟩
    exact ⟨kind, by simp [order], recorded⟩

theorem key_of_mem_resourceEvents
    (recorded : .put source request applied ∈ resourceEvents api input cluster kind resource) :
    source = resource.key := by
  cases kind with
  | user =>
    simp only [resourceEvents, userEvents] at recorded
    cases built : buildSecurityUser api resource with
    | error => simp [built] at recorded
    | ok =>
      simp only [built, mem_cons, put.injEq, reduceCtorEq,
        not_mem_nil, or_false] at recorded
      exact recorded.1
  | role | roleMapping | tenant | actionGroup =>
    simp only [resourceEvents, roleEvents, roleMappingEvents, tenantEvents, actionGroupEvents,
      pushEvents, mem_cons, put.injEq, reduceCtorEq, not_mem_nil,
      or_false] at recorded
    exact recorded.1

/-- A request in the name of a resource is one which was built from it. -/
theorem put_synced_own (right : request.body.kind = kind)
    (member : resource ∈ (api.inventory kind).items)
    (recorded :
      .put resource.key request applied ∈ (syncAllForCluster api input cluster state).log) :
    input.connected ∧ input.list kind = .ok () ∧ resource.syncedTo = cluster ∧
      .put resource.key request applied ∈ resourceEvents api input cluster kind resource := by
  rw [syncAllForCluster_log] at recorded
  split at recorded
  next connected =>
    rcases (put_mem_syncEvents right).mp recorded with
      ⟨listed, other, otherMember, place, named, inside⟩
    -- Keys are distinct, so the request cannot come from another resource.
    have same : resource = other :=
      inj_on_of_nodup_map (api.inventory kind).distinct member otherMember
        (key_of_mem_resourceEvents inside)
    subst same
    refine ⟨connected, listed, ?_, inside⟩
    rw [Resource.syncedTo, place, named]
  next => cases recorded

/-- A synchronization makes of an entry what the one request for it makes of it. -/
theorem entry_synced {status : ResourceStatus} (listed : input.list kind = .ok ())
    (member : resource ∈ (api.inventory kind).items) (place : resource.nspace = cluster.nspace)
    (named : resource.clusterRef.name = cluster.name)
    (recorded : resourceEvents api input cluster kind resource =
      [.put resource.key request applied, .statusUpdated kind resource.key status])
    (indices : Indices) :
    (indices.afterAll (syncEvents api input cluster) cluster).entry kind resource.name =
      (indices.after (.put resource.key request applied) cluster).entry kind resource.name := by
  rcases kindEvents_split (@onlyFor_resourceEvents api input cluster kind) listed member place named with
    ⟨earlier, later, split, apart⟩
  rcases Kind.all_split kind with ⟨before, behind, order, notBefore, notBehind⟩
  have others : forall kinds : List Kind, kind ∉ kinds -> ∀ event ∈ kinds.flatMap (fun other =>
      kindEvents input cluster other (api.inventory other) (resourceEvents api input cluster other)),
      ¬ event.Concerns cluster kind resource.name := by
    intro kinds absent event inside
    rcases mem_flatMap.mp inside with ⟨other, otherMember, recordedThere⟩
    intro concerned
    have same := (kindEvents_own (onlyFor_resourceEvents other) recordedThere concerned).2
    subst same
    exact absent otherMember
  rw [syncEvents, order, flatMap_append, flatMap_cons, split, recorded]
  simp only [cons_append, nil_append, append_assoc]
  rw [← append_assoc]
  rw [Indices.afterAll_append_cons, Indices.entry_afterAll_of_not_concerns]
  · refine Indices.entry_after_congr _ (Indices.entry_afterAll_of_not_concerns ?_ indices)
    intro event inside
    rcases mem_append.mp inside with inside | inside
    · exact others before notBefore event inside
    · exact apart event (.inl inside)
  · intro event inside
    simp only [mem_cons, mem_append] at inside
    rcases inside with rfl | inside | inside
    · nofun
    · exact apart event (.inr inside)
    · exact others behind notBehind event inside

/-- Entries of another cluster, and those of a kind which could not be listed, stay as they are. -/
theorem entry_unsynced {target : ClusterKey} {kind : Kind}
    (apart : target = cluster -> input.list kind ≠ .ok ()) (name : String) (indices : Indices) :
    (indices.afterAll (syncEvents api input cluster) target).entry kind name =
      (indices target).entry kind name := by
  apply Indices.entry_afterAll_of_not_concerns
  intro event member concerned
  rcases mem_flatMap.mp member with ⟨other, _, recorded⟩
  rcases kindEvents_own (onlyFor_resourceEvents other) recorded concerned with ⟨here, rfl⟩
  exact apart here (mem_kindEvents.mp recorded).1

end Synced

/-! ## What the reconcilers record -/

/-- The event is no request to OpenSearch. -/
def SecurityEvent.Quiet : SecurityEvent -> Prop
  | .put .. | .deleted .. => False
  | .statusUpdated .. | .finalizerUpdated .. => True

theorem Indices.afterAll_of_quiet (quiet : ∀ event ∈ log, event.Quiet) :
    forall indices : Indices, indices.afterAll log = indices := by
  induction log with
  | nil => exact fun _ => rfl
  | cons event _ ih =>
    intro indices
    have same : indices.after event = indices := by
      have still := quiet event (mem_cons_self ..)
      cases event with
      | put | deleted => cases still
      | statusUpdated | finalizerUpdated => rfl
    have later := ih (fun other member => quiet other (mem_cons_of_mem event member)) indices
    rw [afterAll, foldl_cons, same]
    exact later

/-- The log has this request and no other. -/
def PutAlone (log : List SecurityEvent) (source : String × String) (request : Request)
    (applied : Bool) : Prop :=
  ∃ earlier later, log = earlier ++ .put source request applied :: later ∧
    ∀ event ∈ earlier ++ later, event.Quiet

/-- What is put is this entry, for the cluster the resource refers to. -/
abbrev PutsEntry {α : Type} (input : ReconcileInput) (resource : Resource α) (body : Body)
    (log : List SecurityEvent) : Prop :=
  PutAlone log resource.key ⟨resource.cluster, resource.name, body⟩
    (input.answer ⟨resource.cluster, resource.name, body⟩).applied

namespace PutAlone

theorem afterAll (alone : PutAlone log source request applied) (indices : Indices) :
    indices.afterAll log = indices.after (.put source request applied) := by
  rcases alone with ⟨earlier, later, rfl, quiet⟩
  rw [forall_mem_append] at quiet
  rw [Indices.afterAll_append_cons, Indices.afterAll_of_quiet quiet.1]
  exact Indices.afterAll_of_quiet quiet.2 _

theorem unique (alone : PutAlone log source request applied)
    (member : .put otherSource otherRequest otherApplied ∈ log) :
    otherRequest = request ∧ otherApplied = applied := by
  rcases alone with ⟨earlier, later, rfl, quiet⟩
  rw [forall_mem_append] at quiet
  simp only [mem_append, mem_cons] at member
  rcases member with member | same | member
  · cases quiet.1 _ member
  · cases same
    exact ⟨rfl, rfl⟩
  · cases quiet.2 _ member

theorem after_quiet {head : List SecurityEvent} (quiet : ∀ event ∈ head, event.Quiet)
    (alone : PutAlone log source request applied) :
    PutAlone (head ++ log) source request applied := by
  rcases alone with ⟨earlier, later, rfl, others⟩
  refine ⟨head ++ earlier, later, (append_assoc ..).symm, ?_⟩
  rw [append_assoc]
  exact forall_mem_append.mpr ⟨quiet, others⟩

end PutAlone

section Reconcilers

variable {α : Type} {input : ReconcileInput}

/-- What holds of the log of `sync` still holds when the finalizer has been added before. -/
theorem reconcileResource_live {resource : Resource α} (live : resource.deleting = false)
    (delete sync : Proc (Resource α) SecurityEvent Unit) (puts : List SecurityEvent -> Prop)
    (grows : forall head log, (∀ event ∈ head, event.Quiet) -> puts log -> puts (head ++ log))
    (synced : (∀ event ∈ (sync { resource with finalized := true }).log, event.Quiet) ∨
      puts (sync { resource with finalized := true }).log) :
    (∀ event ∈ (reconcileResource kind input delete sync resource).log, event.Quiet) ∨
      puts (reconcileResource kind input delete sync resource).log := by
  cases finalized : resource.finalized with
  | true =>
    have same : { resource with finalized := true } = resource := by
      rw [← finalized]
    rw [same] at synced
    simpa [reconcileResource, addFinalizer, finalized, live] using synced
  | false =>
    cases updated : input.update with
    | error =>
      left
      simp [reconcileResource, addFinalizer, updateResource, finalized, updated]
    | ok _ =>
      have quiet : ∀ event ∈ [finalizerUpdated kind resource.key true], event.Quiet := by
        simp [SecurityEvent.Quiet]
      have split : (reconcileResource kind input delete sync resource).log =
          [finalizerUpdated kind resource.key true] ++ (sync { resource with finalized := true }).log := by
        simp [reconcileResource, addFinalizer, updateResource, finalized, updated, live, Resource.key]
      rw [split]
      exact synced.imp (fun silent => forall_mem_append.mpr ⟨quiet, silent⟩) (grows _ _ quiet)

def SecurityEvent.NoPut : SecurityEvent -> Prop
  | .put .. => False
  | .deleted .. | .statusUpdated .. | .finalizerUpdated .. => True

variable {inv : Resource α -> Prop}

theorem keeps_updateResource (finalized : Bool)
    (kept : forall resource, inv resource -> inv { resource with finalized }) :
    Keeps inv NoPut (updateResource kind input finalized) := by
  apply keeps_bind (keeps_modify kept)
  intro _
  apply keeps_read_bind
  intro resource _
  apply keeps_bind (keeps_ofExcept _)
  intro _
  exact keeps_emit trivial

theorem keeps_reconcileResource_deleting {delete sync : Proc (Resource α) SecurityEvent Unit}
    (removal : Keeps (·.deleting) NoPut delete) :
    Keeps (·.deleting) NoPut (reconcileResource kind input delete sync) := by
  apply keeps_bind
  · apply keeps_read_bind
    intro resource _
    split
    · exact keeps_pure ()
    · exact keeps_mapError (keeps_updateResource true fun _ still => still)
  · intro _
    apply keeps_read_bind
    intro resource deleting
    rw [if_pos deleting]
    apply keeps_bind (keeps_attempt removal)
    intro _
    exact keeps_updateResource false fun _ still => still

theorem UserReconciler.keeps_delete {inv : Resource UserSpec -> Prop} :
    Keeps inv NoPut (UserReconciler.delete input) := by
  apply keeps_read_bind
  intro user _
  apply keeps_bind (keeps_ofExcept _)
  intro _
  refine keeps_mapError (keeps_bind (keeps_emit trivial) fun _ => ?_)
  cases input.deleteAnswer with
  | failed => exact keeps_fail _
  | response =>
    dsimp only
    split
    · exact keeps_fail _
    · exact keeps_pure ()

/-- No pass over a user who is being deleted puts an entry. -/
theorem UserReconciler.no_put_of_deleting {api : Api} (deleting : user.deleting) :
    .put source request applied ∉ (UserReconciler.reconcile api input user).log := by
  intro member
  have kept : Keeps (·.deleting) NoPut (UserReconciler.reconcile api input) :=
    keeps_reconcileResource_deleting UserReconciler.keeps_delete
  cases (kept user deleting).2 _ member

theorem updateStatus_quiet (phase : ResourcePhase) (message : String) (resource : Resource α) :
    ∀ event ∈ (updateStatus kind input phase message resource).log, event.Quiet := by
  cases updated : input.statusUpdate with
  | error | ok => simp [updateStatus, updated, SecurityEvent.Quiet]

theorem finishSync_quiet (message : String) (resource : Resource α) :
    ∀ event ∈ (finishSync kind input message resource).log, event.Quiet := by
  have same : (finishSync kind input message resource).log =
      (updateStatus kind input .ready message (recordDrift input resource).state).log :=
    log_mapError _ _ _
  rw [same]
  exact updateStatus_quiet .ready message _

theorem createEntry_run (transport refusal : String -> String) (target : ClusterKey) (name : String)
    (body : Body) (resource : Resource α) :
    ∃ result, createEntry input transport refusal target name body resource =
      ⟨result, resource,
        [.put resource.key ⟨target, name, body⟩ (input.answer ⟨target, name, body⟩).applied]⟩ := by
  cases answered : input.answer ⟨target, name, body⟩ with
  | failed => exact ⟨_, by simp [createEntry, answered]; rfl⟩
  | response status =>
    by_cases bad : status ≠ 200 ∧ status ≠ 201 <;>
      exact ⟨_, by simp [createEntry, answered, bad]; rfl⟩

theorem putAlone_cons (quiet : ∀ event ∈ later, event.Quiet) :
    PutAlone (.put source request applied :: later) source request applied :=
  ⟨[], later, rfl, quiet⟩

namespace UserReconciler

theorem sync_log (api : Api) (user : Resource UserSpec) :
    (∀ event ∈ (sync api input user).log, event.Quiet) ∨
      ∃ password, getPassword api user = .ok password ∧
        PutsEntry input user (.user (osUser user.spec password)) (sync api input user).log := by
  cases password : getPassword api user with
  | error => left; simp [sync, password]
  | ok value =>
    cases connected : input.connect user.cluster with
    | error => left; simp [sync, password, getOpenSearchClient, connected]
    | ok _ =>
      right
      refine ⟨value, rfl, ?_⟩
      rcases @createEntry_run _ input id ("failed to create user: " ++ ·) user.cluster user.name
        (.user (osUser user.spec value)) user with ⟨result, ran⟩
      simp only [sync, password, getOpenSearchClient, connected, Except.mapError, ran, bind_apply,
        read_apply, ofExcept_apply, mapError_apply, Outcome.following_nil]
      cases result with
      | error text => exact putAlone_cons nofun
      | ok _ => exact putAlone_cons (finishSync_quiet _ _)

theorem reconcile_live (api : Api) (live : user.deleting = false) :
    (∀ event ∈ (reconcile api input user).log, event.Quiet) ∨
      ∃ password, getPassword api user = .ok password ∧
        PutsEntry input user (.user (osUser user.spec password)) (reconcile api input user).log := by
  refine reconcileResource_live live (delete input) (sync api input) (fun log => ∃ password,
    getPassword api user = .ok password ∧
      PutsEntry input user (.user (osUser user.spec password)) log) ?_ (sync_log api _)
  rintro head log quiet ⟨password, found, alone⟩
  exact ⟨password, found, alone.after_quiet quiet⟩

end UserReconciler

namespace RoleMappingReconciler

theorem failWith_quiet (message reason text : String) (mapping : Resource RoleMappingSpec) :
    ∀ event ∈ (failWith input message reason text mapping : Outcome _ _ Unit).log, event.Quiet := by
  have same : (failWith input message reason text mapping : Outcome _ _ Unit).log =
      (updateStatus .roleMapping input .failed (message ++ text) mapping).log := by
    simp [failWith]
  rw [same]
  exact updateStatus_quiet .failed _ mapping

theorem sync_log (mapping : Resource RoleMappingSpec) :
    (∀ event ∈ (sync input mapping).log, event.Quiet) ∨
      PutsEntry input mapping (.roleMapping (buildRoleMapping mapping.spec)) (sync input mapping).log := by
  cases connected : input.connect mapping.cluster with
  | error => left; simp [sync, connected]
  | ok _ =>
    cases looked : input.getRoleMapping with
    | error text =>
      left
      simp only [sync, connected, looked, Except.mapError, bind_apply, read_apply,
        ofExcept_apply, Outcome.following_nil]
      exact failWith_quiet _ _ text mapping
    | ok =>
      right
      rcases @createEntry_run _ input ("failed to create role mapping: " ++ ·)
        ("failed to create role mapping: " ++ ·) mapping.cluster mapping.name
        (.roleMapping (buildRoleMapping mapping.spec)) mapping with ⟨result, ran⟩
      simp only [sync, connected, looked, Except.mapError, bind_apply, read_apply,
        ofExcept_apply, attempt_apply, Outcome.following_nil, Outcome.following_log, ran]
      cases result with
      | error text => exact putAlone_cons (failWith_quiet _ _ text mapping)
      | ok _ => exact putAlone_cons (finishSync_quiet _ mapping)

theorem reconcile_live {mapping : Resource RoleMappingSpec} (live : mapping.deleting = false) :
    (∀ event ∈ (reconcile input mapping).log, event.Quiet) ∨
      PutsEntry input mapping (.roleMapping (buildRoleMapping mapping.spec)) (reconcile input mapping).log :=
  reconcileResource_live live (delete input) (sync input)
    (PutsEntry input mapping (.roleMapping (buildRoleMapping mapping.spec)))
    (fun _ _ quiet alone => alone.after_quiet quiet) (sync_log _)

end RoleMappingReconciler

end Reconcilers

/-! ## Passes in which everything succeeds -/

namespace Sample

def emptyIndices : Indices := fun _ =>
  { users := fun _ => none, roles := fun _ => none, roleMappings := fun _ => none
    tenants := fun _ => none, actionGroups := fun _ => none }

def reconciles : ReconcileInput := {}

def synchronizes : SyncInput where
  getClientForCluster := .ok ()
  checkInitialized := .ok true
  list := fun _ => .ok ()
  answer := fun _ => .response 200 ""

end Sample

end Security
end WazuhOperator
