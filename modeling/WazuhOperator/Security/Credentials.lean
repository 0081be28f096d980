import WazuhOperator.Library.Runs
import WazuhOperator.Security.Pushes

namespace WazuhOperator
namespace Security

open Procedure Runs SecurityIndex UserReconciler

/-!
# The credential a user resource leads to

A user has its password in a Secret, or gives a hash of it.  The reconciler
and the synchronizer both push the user, in any order, and after each push
OpenSearch should accept the password that is meant and nothing else.

The synchronizer sends a given hash as a hash.  The reconciler sends it as the
password, so that afterwards the text of the hash is what logs the user in.
-/

/-! ## What is meant, and what is stored -/

def secretPassword (api : Api) (user : Resource UserSpec) : Option String :=
  user.spec.passwordSecret.bind fun ref =>
    match api.secret user.nspace ref.secretName with
    | .error _ => none
    | .ok data => data ref.key

/-- The password is one that the resource means: the hash verifies it, or the Secret has it. -/
def Intended (verify : String -> String -> Bool) (api : Api) (user : Resource UserSpec)
    (password : String) : Prop :=
  if user.spec.hash ≠ "" then verify user.spec.hash password = true
  else secretPassword api user = some password
  deriving Decidable

/-- The stored user is let in with these passwords and no others. -/
def LetsIn (verify : String -> String -> Bool) (stored : Option StoredUser)
    (passwords : String -> Prop) : Prop :=
  ∃ user, stored = some user ∧
    forall password, user.credential.accepts verify password = true <-> passwords password

inductive UserPass (user : Resource UserSpec) where
  | reconcile (api : Api) (input : ReconcileInput)
  | synchronize (api : Api) (member : user ∈ api.users.items) (input : SyncInput)

namespace UserPass

variable {user : Resource UserSpec}

def api : UserPass user -> Api
  | reconcile api _ => api
  | synchronize api _ _ => api

def target : UserPass user -> ClusterKey
  | reconcile _ _ => user.cluster
  | synchronize _ _ _ => user.syncedTo

def log : UserPass user -> List SecurityEvent
  | reconcile api input => (UserReconciler.reconcile api input user).log
  | synchronize api _ input =>
    (syncAllForCluster api input user.syncedTo {}).log

def step (indices : Indices) (pass : UserPass user) : Indices := indices.afterAll pass.log

def Pushes (pass : UserPass user) : Prop :=
  ∃ request, .put user.key request true ∈ pass.log ∧ request.body.kind = .user

/-- After the pass OpenSearch lets the user in with what is meant, and with nothing else. -/
def StoresIntended (verify : String -> String -> Bool) (indices : Indices) (pass : UserPass user) :
    Prop :=
  LetsIn verify ((step indices pass pass.target).users user.name) (Intended verify pass.api user)

def Synchronizes : UserPass user -> Prop
  | reconcile _ _ => False
  | synchronize _ _ _ => True

/-- A hash is left to the synchronizer, unless it verifies just its own text; a password is
not empty, unless the stored user is let in with the empty one already. -/
def Faithful (verify : String -> String -> Bool) (indices : Indices) (pass : UserPass user) : Prop :=
  if user.spec.hash ≠ "" then
    pass.Synchronizes ∨
      forall password, verify user.spec.hash password = true <-> password = user.spec.hash
  else secretPassword pass.api user ≠ some "" ∨
    LetsIn verify ((indices pass.target).users user.name) (· = "")

end UserPass

open UserPass

/-! ## What the two writers send -/

section Sending

variable {api : Api} {user : Resource UserSpec} {password : String}

theorem secretPassword_of_passwordFromSecret {ref : CredentialsSecretRef}
    {unreadable : String -> String} {missing : String} (given : user.spec.passwordSecret = some ref)
    (got : passwordFromSecret api user.nspace ref unreadable missing = .ok password) :
    secretPassword api user = some password := by
  rw [secretPassword, given, Option.bind_some]
  rw [passwordFromSecret] at got
  cases read : api.secret user.nspace ref.secretName with
  | error => simp [read] at got
  | ok data =>
    simp only [read] at got
    cases value : data ref.key with
    | none => simp [value] at got
    | some =>
      simp only [value, Except.ok.injEq] at got
      simp only [got, value]

theorem UserReconciler.getPassword_eq_ok (got : getPassword api user = .ok password) :
    if user.spec.hash ≠ "" then password = user.spec.hash
    else secretPassword api user = some password := by
  rw [getPassword] at got
  split at got
  next given =>
    rw [if_pos given]
    cases got
    rfl
  next unset =>
    rw [if_neg unset]
    cases ref : user.spec.passwordSecret with
    | none => simp [ref] at got
    | some =>
      rw [ref] at got
      exact secretPassword_of_passwordFromSecret ref got

theorem getPasswordFromCRD_eq_ok (got : getPasswordFromCRD api user = .ok password) :
    secretPassword api user = some password := by
  rw [getPasswordFromCRD] at got
  split at got
  next => cases got
  next =>
    cases ref : user.spec.passwordSecret with
    | none => simp [ref] at got
    | some =>
      rw [ref] at got
      exact secretPassword_of_passwordFromSecret ref got

theorem buildSecurityUser_eq_ok {secUser : SecurityUser} (built : buildSecurityUser api user = .ok secUser) :
    if user.spec.hash ≠ "" then secUser.hash = user.spec.hash ∧ secUser.password = ""
    else secUser.hash = "" ∧ secretPassword api user = some secUser.password := by
  rw [buildSecurityUser] at built
  split at built
  next given =>
    rw [if_pos given]
    cases built
    exact ⟨rfl, rfl⟩
  next unset =>
    rw [if_neg unset]
    split at built
    next =>
      cases got : getPasswordFromCRD api user with
      | error => simp [got] at built
      | ok =>
        simp only [got, Except.ok.injEq] at built
        subst built
        exact ⟨rfl, getPasswordFromCRD_eq_ok got⟩
    next => cases built

end Sending

/-! ## What a pass leaves -/

namespace UserPass

variable {user : Resource UserSpec} {indices : Indices}

theorem users_after_put (target : ClusterKey) (source : String × String) (name : String)
    (payload : SecurityUser) :
    (indices.after (.put source ⟨target, name, .user payload⟩ true) target).users name =
      storedUser payload ((indices target).users name) := by
  simp [Indices.after, Indices.update, put, replace]

theorem users_step_reconcile {api : Api} {input : ReconcileInput}
    (pushes : (reconcile api input : UserPass user).Pushes) :
    ∃ password, getPassword api user = .ok password ∧
      (step indices (reconcile api input : UserPass user) user.cluster).users user.name =
        storedUser (osUser user.spec password)
          ((indices user.cluster).users user.name) := by
  rcases pushes with ⟨request, member, _⟩
  cases deleting : user.deleting with
  | true => exact absurd member (UserReconciler.no_put_of_deleting deleting)
  | false =>
    rcases @UserReconciler.reconcile_live input user api deleting with quiet | ⟨password, got, alone⟩
    · cases quiet _ member
    · refine ⟨password, got, ?_⟩
      have applied := (alone.unique member).2
      rw [PutsEntry, ← applied] at alone
      rw [step, log, alone.afterAll]
      exact users_after_put _ _ _ _

theorem users_step_synchronize {api : Api} {member : user ∈ api.users.items} {input : SyncInput}
    (pushes : (synchronize api member input : UserPass user).Pushes) :
    ∃ secUser, buildSecurityUser api user = .ok secUser ∧
      (step indices (synchronize api member input : UserPass user)
        user.syncedTo).users user.name =
        storedUser secUser
          ((indices user.syncedTo).users user.name) := by
  rcases pushes with ⟨request, recorded, right⟩
  rcases put_synced_own right member recorded with ⟨connected, listed, _, inside⟩
  rw [step, log, syncAllForCluster_log, if_pos connected]
  simp only [resourceEvents, userEvents] at inside
  cases built : buildSecurityUser api user with
  | error => simp [built] at inside
  | ok secUser =>
    simp only [built, List.mem_cons, SecurityEvent.put.injEq, reduceCtorEq, List.not_mem_nil,
      or_false] at inside
    refine ⟨secUser, rfl, ?_⟩
    have alone := @entry_synced api input user.syncedTo
      .user user _ _ _ listed member rfl rfl (by rw [resourceEvents, userEvents, built]) indices
    rw [← inside.2.2] at alone
    exact alone.trans (users_after_put _ _ _ _)

end UserPass

/-! ## When the two agree -/

section LettingIn

variable {verify : String -> String -> Bool} {payload : SecurityUser}

theorem letsIn_of_credential {credential : Credential} (sent : payload.credential = some credential) :
    LetsIn verify (storedUser payload existing) passwords <->
      forall password, credential.accepts verify password <-> passwords password := by
  simp only [LetsIn, storedUser, sent, Option.some.injEq]
  constructor
  · rintro ⟨user, rfl, exactly⟩
    exact exactly
  · exact fun exactly => ⟨_, rfl, exactly⟩

theorem letsIn_of_no_credential (sent : payload.credential = none) :
    LetsIn verify (storedUser payload existing) passwords <->
      LetsIn verify existing passwords := by
  simp only [LetsIn, storedUser, sent]
  cases existing with
  | none | some => simp

theorem credential_of_password (given : payload.password ≠ "") :
    payload.credential = some (.password payload.password) :=
  if_pos given

theorem letsIn_password_iff {api : Api} {user : Resource UserSpec} (unset : user.spec.hash = "")
    (hash : payload.hash = "") (secret : secretPassword api user = some payload.password) :
    LetsIn verify (storedUser payload existing) (Intended verify api user) <->
      secretPassword api user ≠ some "" ∨ LetsIn verify existing (· = "") := by
  have meant : forall password, Intended verify api user password <-> password = payload.password := by
    simp [Intended, unset, secret, eq_comm]
  by_cases empty : payload.password = ""
  · rw [letsIn_of_no_credential (by simp [SecurityUser.credential, empty, hash])]
    simp only [LetsIn, meant, empty, secret, ne_eq, not_true_eq_false, false_or]
  · have other : some payload.password ≠ some "" := fun same => empty (Option.some.inj same)
    rw [letsIn_of_credential (credential_of_password empty), secret]
    refine iff_of_true (fun password => ?_) (.inl other)
    rw [meant, Credential.accepts, decide_eq_true_eq, eq_comm]

end LettingIn

namespace UserPass

variable {user : Resource UserSpec} {verify : String -> String -> Bool} {indices : Indices}

theorem storesIntended_reconcile_iff {api : Api} {input : ReconcileInput}
    (pushes : (reconcile api input : UserPass user).Pushes) :
    StoresIntended verify indices (reconcile api input : UserPass user) <->
      Faithful verify indices (reconcile api input : UserPass user) := by
  rcases @users_step_reconcile user indices api input pushes with ⟨password, got, stored⟩
  have sent := getPassword_eq_ok got
  simp only [StoresIntended, Faithful, target, UserPass.api, Synchronizes, false_or]
  rw [stored]
  by_cases given : user.spec.hash ≠ ""
  · rw [if_pos given] at sent ⊢
    subst sent
    rw [letsIn_of_credential (@credential_of_password (osUser user.spec user.spec.hash) given)]
    apply forall_congr'
    intro password
    rw [Intended, if_pos given, Credential.accepts, decide_eq_true_eq]
    exact ⟨fun same => same.symm.trans eq_comm, fun same => eq_comm.trans same.symm⟩
  · rw [if_neg given] at sent ⊢
    exact letsIn_password_iff (not_not.mp given) rfl sent

theorem storesIntended_synchronize_iff {api : Api} {member : user ∈ api.users.items} {input : SyncInput}
    (pushes : (synchronize api member input : UserPass user).Pushes) :
    StoresIntended verify indices (synchronize api member input : UserPass user) <->
      Faithful verify indices (synchronize api member input : UserPass user) := by
  rcases @users_step_synchronize user indices api member input pushes with ⟨secUser, built, stored⟩
  have sent := buildSecurityUser_eq_ok built
  simp only [StoresIntended, Faithful, target, UserPass.api, Synchronizes, true_or]
  rw [stored]
  by_cases given : user.spec.hash ≠ ""
  · rw [if_pos given] at sent ⊢
    have credential : secUser.credential = some (.hash user.spec.hash) := by
      simp [SecurityUser.credential, sent.1, sent.2, given]
    rw [letsIn_of_credential credential]
    simp [Credential.accepts, Intended, given]
  · rw [if_neg given] at sent ⊢
    exact letsIn_password_iff (not_not.mp given) sent.1 sent.2

end UserPass

/-- In every run of passes over a user, each pass that pushes the user leaves the credential
that is meant exactly when each such pass is faithful to it. -/
theorem passes_storeIntended_iff (verify : String -> String -> Bool) (user : Resource UserSpec)
    (passes : List (UserPass user)) (start : Indices) :
    Along step (fun indices pass => pass.Pushes -> pass.StoresIntended verify indices)
        start passes <->
      Along step (fun indices pass => pass.Pushes -> pass.Faithful verify indices)
        start passes := by
  apply along_congr
  intro indices pass
  apply imp_congr_right
  intro pushes
  cases pass with
  | reconcile => exact storesIntended_reconcile_iff pushes
  | synchronize => exact storesIntended_synchronize_iff pushes

/-! ## A hash that becomes the password -/

namespace Sample

def hashed : Resource UserSpec where
  name := "analyst"
  nspace := "wazuh"
  clusterRef := { name := "wazuh" }
  spec := { hash := "$2y$12$hash" }

def verifies (hash password : String) : Bool := hash = "$2y$12$hash" ∧ password = "secret"

def api : Api where
  users := ⟨[hashed], by decide⟩
  roles := .empty
  roleMappings := .empty
  tenants := .empty
  actionGroups := .empty
  secret := fun _ _ => .error "not found"

/-- The synchronizer and then the reconciler get to the user. -/
def bothWriters : List (UserPass hashed) :=
  [.synchronize api (List.mem_singleton.mpr rfl) synchronizes, .reconcile api reconciles]

end Sample

open Sample

/-- After the reconciler the user is let in with the text of the hash, and not with the
password. -/
theorem hash_becomes_password : Intended verifies api hashed "secret" ∧
      ¬ Intended verifies api hashed "$2y$12$hash" ∧
      ((run step emptyIndices bothWriters hashed.cluster).users
        "analyst").map (fun stored => (stored.credential.accepts verifies "secret",
          stored.credential.accepts verifies "$2y$12$hash")) = some (false, true) ∧
      ¬ Along step
        (fun indices pass => pass.Pushes -> pass.StoresIntended verifies indices)
        emptyIndices bothWriters := by
  have seen : ((run step emptyIndices bothWriters
      hashed.cluster).users "analyst").map (fun stored =>
        (stored.credential.accepts verifies "secret",
          stored.credential.accepts verifies "$2y$12$hash")) = some (false, true) := by decide
  refine ⟨by decide, by decide, seen, fun along => ?_⟩
  rcases along.2.1 ⟨_, List.Mem.head _, rfl⟩ with ⟨stored, found, letsIn⟩
  have refused := (congrArg (Option.map _) found).symm.trans seen
  simp only [Option.map_some, Option.some.injEq, Prod.mk.injEq] at refused
  have accepted := (letsIn "secret").mpr (by decide)
  rw [refused.1] at accepted
  cases accepted

end Security
end WazuhOperator
