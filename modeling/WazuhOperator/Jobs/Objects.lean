import WazuhOperator.Cluster.Events
import WazuhOperator.Library.Feed
import WazuhOperator.Library.Procedure

namespace WazuhOperator
namespace Jobs

/-!
# Resources which own a Job

The backup and the restore reconciler work alike: a custom resource stands
for a piece of work, a Job under a name derived from it does the work, and
the reconciler keeps the phase of the resource in line with the Job.  This
module has what they share: the resource and the Job as the API server holds
them and as the operator's caches show them, the life of a Job under the Job
controller, and the requests of a pass.

A pass reads its caches, which follow the API server with a delay (`Feed`).
A write of the resource from an outdated copy is refused as a conflict; the
creation of a Job is refused only if a Job of that name exists.
-/

open Procedure Proc

inductive Fetched (α : Type) where
  | found (object : α)
  | notFound
  | failed (text : String)
  deriving DecidableEq

/-! ## Jobs -/

inductive RestartPolicy where
  | never
  | onFailure
  deriving DecidableEq

/-- Where the Job controller is with a Job: it has no pod and will make one, it has a pod, or the
Job has come to one of its two ends. -/
inductive JobStage where
  | waiting
  | running
  | complete
  | failed
  deriving DecidableEq

/-- A Job with the part of its status the reconcilers read.  `madeFor` is the generation of the
resource it was built from; a Job does not show it. -/
structure Job where
  name : String
  restartPolicy : RestartPolicy
  (backoffLimit ttlSecondsAfterFinished madeFor : Nat)
  stage : JobStage := .waiting
  failed : Nat := 0
  deriving DecidableEq

inductive PodEvent where
  | starts
  | succeeds
  | fails
  deriving DecidableEq

namespace Job

def succeeded (job : Job) : Nat := if job.stage = .complete then 1 else 0

def finished (job : Job) : Bool := job.stage = .complete ∨ job.stage = .failed

/-- Whether the Job controller makes another pod after one more failure.  Under `OnFailure` the
containers are restarted inside their pod, and the pod fails only when the limit is used up. -/
def retries (job : Job) : Bool :=
  match job.restartPolicy with
  | .never => job.failed + 1 ≤ job.backoffLimit
  | .onFailure => false

def react (job : Job) : PodEvent -> Option Job
  | .starts => if job.stage = .waiting then some { job with stage := .running } else none
  | .succeeds => if job.stage = .running then some { job with stage := .complete } else none
  | .fails =>
    if job.stage = .running then
      some { job with
        failed := job.failed + 1
        stage := if job.retries then .waiting else .failed }
    else none

theorem react_of_finished {job : Job} (done : job.finished) (event : PodEvent) :
    job.react event = none := by
  have ended := of_decide_eq_true done
  rcases ended with ended | ended <;> cases event <;> simp [react, ended]

theorem madeFor_react {job next : Job} (reacted : job.react event = some next) :
    next.madeFor = job.madeFor := by
  cases event <;> simp only [react] at reacted <;> split at reacted <;> cases reacted <;> rfl

end Job

/-! ## Resources -/

/-- A custom resource with a spec, a status, and the metadata the reconcilers read. -/
structure Resource (S T : Type) where
  name : String
  generation : Nat := 1
  (deletionTimestamp finalizer : Bool := false)
  spec : S
  status : T
  deriving DecidableEq

structure Site (S T X : Type) where
  resource : Feed (Option (Resource S T))
  job : Feed (Option Job)
  others : X

/-- A pass at work: the site, the copy of the resource it was called with and edits in memory, and
whether this copy has the current resource version. -/
structure Desk (S T X : Type) where
  site : Site S T X
  copy : Resource S T
  fresh : Bool

section Requests

variable {S T X : Type}

def conflictText : String :=
  "the object has been modified; please apply your changes to the latest version and try again"

def editCopy (change : Resource S T -> Resource S T) : Proc (Desk S T X) (Resource S T) Unit :=
  modify fun desk => { desk with copy := change desk.copy }

def put (answer : WriteAnswer) (next : Option (Resource S T)) :
    Proc (Desk S T X) (Resource S T) Unit := do
  let desk ← read
  if desk.fresh then
    if answer.applied then
      modify fun desk =>
        { desk with site := { desk.site with resource := desk.site.resource.write next } }
    ofExcept answer.toExcept
  else
    fail conflictText

/-- The first step of both reconcilers. -/
def addFinalizer (answer : WriteAnswer) : Proc (Desk S T X) (Resource S T) Unit := do
  let desk ← read
  if desk.copy.finalizer then pure ()
  else
    editCopy fun copy => { copy with finalizer := true }
    mapError ("failed to add finalizer: " ++ ·)
      (put answer (some { desk.copy with finalizer := true }))

/-- `handleDeletion`: without its finalizer the resource goes, and with it, later, what it owns. -/
def handleDeletion (answer : WriteAnswer) : Proc (Desk S T X) (Resource S T) Unit := do
  editCopy fun copy => { copy with finalizer := false }
  mapError ("failed to remove finalizer: " ++ ·) (put answer none)

/-- The status part of `updateStatus`. -/
def writeStatus (answer : WriteAnswer) (status : T) : Proc (Desk S T X) (Resource S T) Unit := do
  editCopy fun copy => { copy with status := status }
  let desk ← read
  put answer (some desk.copy)

def cachedJob (failure : Option String) (job : Feed (Option Job)) : Fetched Job :=
  match failure, job.shown with
  | some text, _ => .failed text
  | none, none => .notFound
  | none, some found => .found found

def getJob (failure : Option String) : Proc (Desk S T X) (Resource S T) (Fetched Job) := do
  let desk ← read
  pure (cachedJob failure desk.site.job)

/-- `Create` of the Job.  What is recorded is the copy it was built from. -/
def createJob (answer : WriteAnswer) (job : Job) : Proc (Desk S T X) (Resource S T) Unit := do
  let desk ← read
  match desk.site.job.stored with
  | some _ => fail ("jobs.batch " ++ job.name ++ " already exists")
  | none =>
    if answer.applied then
      emit desk.copy
      modify fun desk =>
        { desk with site := { desk.site with job := desk.site.job.write (some job) } }
    ofExcept answer.toExcept

/-! ## A pass -/

def Site.desk (site : Site S T X) (copy : Resource S T) : Desk S T X :=
  { site := site, copy := copy, fresh := site.resource.upToDate }

/-- What a pass leaves behind, the copies for which it created a Job, and what it returns. -/
structure PassResult (S T X : Type) where
  site : Site S T X
  created : List (Resource S T)
  result : Except String Unit
  requeueAfter : Option Nat

/-- The frame of both controllers: find the resource in the cache, hand a copy of it to the
reconciler, and decide when to look again. -/
def runPass (failure : Option String) (reconcile : Proc (Desk S T X) (Resource S T) Unit)
    (retryAfter : Nat) (requeueAfter : Resource S T -> Option Nat) (site : Site S T X) :
    PassResult S T X :=
  match failure, site.resource.shown with
  | some text, _ => ⟨site, [], .error text, none⟩
  | none, none => ⟨site, [], .ok (), none⟩
  | none, some copy =>
    match reconcile (site.desk copy) with
    | ⟨.error text, desk, created⟩ => ⟨desk.site, created, .error text, some retryAfter⟩
    | ⟨.ok _, desk, created⟩ => ⟨desk.site, created, .ok (), requeueAfter desk.copy⟩

/-! ## What a pass does to the Job -/

section Opening

variable {α β : Type}

def LeavesJob (procedure : Proc (Desk S T X) (Resource S T) α) : Prop :=
  forall job, Keeps (fun desk => desk.site.job = job) (fun _ => False) procedure

variable {desk : Desk S T X} {next : Option (Resource S T)}
variable {failure : Option String}
variable {job : Feed (Option Job)}

variable {inner : Proc (Desk S T X) (Resource S T) α}

theorem leavesJob_editCopy (change : Resource S T -> Resource S T) :
    LeavesJob (editCopy change : Proc (Desk S T X) (Resource S T) Unit) :=
  fun _ => keeps_modify fun _ same => same

theorem leavesJob_put (answer : WriteAnswer) (next : Option (Resource S T)) :
    LeavesJob (put answer next : Proc (Desk S T X) (Resource S T) Unit) := by
  refine fun job => keeps_read_bind fun desk _ => ?_
  split
  · split
    · exact keeps_bind (keeps_modify fun _ same => same) fun _ => keeps_ofExcept _
    · exact keeps_ofExcept _
  · exact keeps_fail _

theorem leavesJob_addFinalizer (answer : WriteAnswer) :
    LeavesJob (addFinalizer answer : Proc (Desk S T X) (Resource S T) Unit) := by
  refine fun job => keeps_read_bind fun desk _ => ?_
  split
  · exact keeps_pure ()
  · exact keeps_bind (leavesJob_editCopy _ job) fun _ => keeps_mapError (leavesJob_put _ _ job)

theorem leavesJob_handleDeletion (answer : WriteAnswer) :
    LeavesJob (handleDeletion answer : Proc (Desk S T X) (Resource S T) Unit) :=
  fun job => keeps_bind (leavesJob_editCopy _ job) fun _ => keeps_mapError (leavesJob_put _ _ job)

theorem leavesJob_writeStatus (answer : WriteAnswer) (status : T) :
    LeavesJob (writeStatus answer status : Proc (Desk S T X) (Resource S T) Unit) :=
  fun job => keeps_bind (leavesJob_editCopy _ job) fun _ => keeps_read_bind fun _ _ => leavesJob_put _ _ job

variable (build : Resource S T -> Job)

/-- The Job after one has been created for `next`, if that is given. -/
def jobAfter (job : Feed (Option Job)) : Option (Resource S T) -> Feed (Option Job)
  | none => job
  | some copy => job.write (some (build copy))

/-- Called on this desk, the procedure creates a Job for `next`, if that is given, and does nothing
else to the Job. -/
def Opens (procedure : Proc (Desk S T X) (Resource S T) α) (desk : Desk S T X)
    (next : Option (Resource S T)) : Prop :=
  (procedure desk).log = next.toList ∧
    (procedure desk).state.site.job = jobAfter build desk.site.job next

variable {build}

theorem opens_none (leaves : LeavesJob procedure)
    (desk : Desk S T X) : Opens build procedure desk none := by
  rcases leaves desk.site.job desk rfl with ⟨same, silent⟩
  exact ⟨List.eq_nil_iff_forall_not_mem.mpr silent, same⟩

theorem opens_mapError (opens : Opens build inner desk next) :
    Opens build (mapError wrap inner) desk next := by
  rw [Opens, mapError_eq]
  exact opens

theorem opens_bind (opens : Opens build first desk next)
    (leaves : forall value, LeavesJob (later value)) : Opens build (first >>= later) desk next := by
  rcases opens with ⟨recorded, left⟩
  rw [Opens, bind_apply]
  rcases ran : first desk with ⟨result, after, log⟩
  rw [ran] at recorded left
  cases result with
  | error => exact ⟨recorded, left⟩
  | ok value =>
    have quiet : Opens build (later value) after none := opens_none (leaves value) after
    rcases quiet with ⟨silent, same⟩
    refine ⟨?_, Eq.trans same left⟩
    change log ++ (later value after).log = next.toList
    rw [silent, Option.toList_none, List.append_nil]
    exact recorded

theorem opens_read_bind (opens : Opens build (later desk) desk next) :
    Opens build (read >>= later) desk next := opens

theorem ends_getJob_bind (ends : Ends post (later (cachedJob failure desk.site.job)) desk) :
    Ends post (getJob failure >>= later) desk := ends

theorem opens_after (leaves : LeavesJob first) (went : (first desk).result = .ok value)
    (opens : Opens build (later value) (first desk).state next) :
    Opens build (first >>= later) desk next := by
  have quiet : Opens build first desk none := opens_none leaves desk
  rw [Opens, bind_apply]
  rcases ran : first desk with ⟨result, after, log⟩
  rw [Opens, ran] at quiet opens
  rw [ran] at went
  cases went
  rcases quiet with ⟨silent, same⟩
  rcases opens with ⟨recorded, left⟩
  cases silent
  exact ⟨recorded, left.trans (congrArg (jobAfter build · next) same)⟩

theorem opens_stopped (leaves : LeavesJob first) (stopped : (first desk).result = .error text) :
    Opens build (first >>= later) desk none := by
  have quiet : Opens build first desk none := opens_none leaves desk
  rw [Opens, bind_apply]
  rcases ran : first desk with ⟨result, after, log⟩
  rw [Opens, ran] at quiet
  rw [ran] at stopped
  cases stopped
  exact quiet

theorem opens_answer_bind {answer : Except String α} [Decidable reached]
    (opens : forall value, answer = .ok value ->
      Opens build (later value) desk (if reached then some copy else none)) :
    Opens build (ofExcept (answer.mapError wrap) >>= later) desk
      (if answer.isOk ∧ reached then some copy else none) := by
  cases answer with
  | error => exact ⟨rfl, rfl⟩
  | ok value => simpa [Opens] using opens value rfl

def HasFinalizer (answer : WriteAnswer) (desk : Desk S T X) : Prop :=
  desk.copy.finalizer = true ∨ (desk.fresh = true ∧ answer = .accepted)
  deriving Decidable

theorem addFinalizer_goes (has : HasFinalizer answer desk) :
    (addFinalizer answer desk).result = .ok () ∧
      (addFinalizer answer desk).state.copy = { desk.copy with finalizer := true } := by
  rcases desk with ⟨site, copy, fresh⟩
  rcases copy with ⟨name, generation, deletionTimestamp, finalizer, spec, status⟩
  cases finalizer with
  | true => simp [addFinalizer]
  | false =>
    rcases has with there | ⟨current, taken⟩
    · cases there
    · cases current
      cases taken
      simp [addFinalizer, editCopy, put]

theorem addFinalizer_stops
    (lacks : ¬ HasFinalizer answer desk) : ∃ text, (addFinalizer answer desk).result = .error text := by
  rcases desk with ⟨site, copy, fresh⟩
  have absent : copy.finalizer = false := by
    cases there : copy.finalizer with
    | false => rfl
    | true => exact absurd (.inl there) lacks
  cases fresh with
  | false => simp [addFinalizer, absent, editCopy, put]
  | true =>
    cases answer with
    | accepted => exact absurd (.inr ⟨rfl, rfl⟩) lacks
    | refused | unacknowledged => simp [addFinalizer, absent, editCopy, put]

/-- After the finalizer the copy has it and is as it was otherwise, and so is the Job. -/
theorem opens_addFinalizer_bind
    (goes : HasFinalizer answer desk -> forall after, after.copy = { desk.copy with finalizer := true } ->
      after.site.job = desk.site.job -> Opens build (later ()) after next)
    (stops : ¬ HasFinalizer answer desk -> next = none) :
    Opens build (addFinalizer answer >>= later) desk next := by
  by_cases has : HasFinalizer answer desk
  · rcases addFinalizer_goes has with ⟨went, copied⟩
    have sameJob := (leavesJob_addFinalizer answer desk.site.job desk rfl).1
    exact opens_after (leavesJob_addFinalizer _) went (goes has _ copied sameJob)
  · rcases addFinalizer_stops has with ⟨text, stopped⟩
    rw [stops has]
    exact opens_stopped (leavesJob_addFinalizer _) stopped

/-- The Job is looked for and not found, it is not there, and the request to create it is taken. -/
def MissesJob (failure : Option String) (answer : WriteAnswer) (job : Feed (Option Job)) : Prop :=
  failure = none ∧ job.shown = none ∧ job.stored = none ∧ answer.applied = true
  deriving Decidable

theorem cachedJob_eq_notFound_iff :
    cachedJob failure job = .notFound <-> failure = none ∧ job.shown = none := by
  cases failure with
  | some => simp [cachedJob]
  | none => cases seen : job.shown <;> simp [cachedJob, seen]

theorem cachedJob_eq_found_iff :
    cachedJob failure job = .found found <-> failure = none ∧ job.shown = some found := by
  cases failure with
  | some => simp [cachedJob]
  | none => cases seen : job.shown <;> simp [cachedJob, seen]

/-- A pass that creates a Job for a missing one, and only then. -/
theorem opens_getJob_bind (failed : forall text, LeavesJob (later (.failed text)))
    (found : forall job, LeavesJob (later (.found job)))
    (creates : Opens build (later .notFound) desk
      (if desk.site.job.stored = none ∧ answer.applied = true then some copy else none)) :
    Opens build (getJob failure >>= later) desk
      (if MissesJob failure answer desk.site.job then some copy else none) := by
  change Opens build (later (cachedJob failure desk.site.job)) desk _
  have misses := @cachedJob_eq_notFound_iff failure desk.site.job
  cases looked : cachedJob failure desk.site.job with
  | notFound => simpa [MissesJob, misses.mp looked] using creates
  | failed text =>
    rw [if_neg fun missing => by simpa [looked] using misses.mpr ⟨missing.1, missing.2.1⟩]
    exact opens_none (failed text) desk
  | found job =>
    rw [if_neg fun missing => by simpa [looked] using misses.mpr ⟨missing.1, missing.2.1⟩]
    exact opens_none (found job) desk

theorem opens_createJob (answer : WriteAnswer) (desk : Desk S T X) :
    Opens build (createJob answer (build desk.copy)) desk
      (if desk.site.job.stored = none ∧ answer.applied = true then some desk.copy else none) := by
  cases found : desk.site.job.stored with
  | some => simp [Opens, createJob, jobAfter, found]
  | none => cases answer <;> simp [Opens, createJob, jobAfter, found]

def foundCopy (failure : Option String) (site : Site S T X) : Option (Resource S T) :=
  match failure with
  | some _ => none
  | none => site.resource.shown

theorem shown_of_foundCopy
    (found : foundCopy failure site = some copy) : site.resource.shown = some copy := by
  cases failure with
  | some => cases found
  | none => exact found

variable {reconcile : Proc (Desk S T X) (Resource S T) Unit}

theorem runPass_opens (failure : Option String) (retryAfter : Nat)
    (requeueAfter : Resource S T -> Option Nat) {next : Resource S T -> Option (Resource S T)}
    (opens : forall copy, Opens build reconcile (site.desk copy) (next copy)) :
    (runPass failure reconcile retryAfter requeueAfter site).created =
        ((foundCopy failure site).bind next).toList ∧
      (runPass failure reconcile retryAfter requeueAfter site).site.job =
        jobAfter build site.job ((foundCopy failure site).bind next) := by
  cases failure with
  | some => exact ⟨rfl, rfl⟩
  | none =>
    cases shown : site.resource.shown with
    | none => simp [runPass, foundCopy, shown, jobAfter]
    | some copy =>
      rcases opens copy with ⟨recorded, left⟩
      simp only [runPass, foundCopy, shown, Option.bind_some]
      rcases ran : reconcile (site.desk copy) with ⟨result, desk, created⟩
      rw [ran] at recorded left
      cases result with
      | error | ok => exact ⟨recorded, left⟩

theorem runPass_ends (post : Site S T X -> Prop) (before : post site)
    (ends : forall copy, foundCopy failure site = some copy ->
      Ends (fun desk => post desk.site) reconcile (site.desk copy)) :
    post (runPass failure reconcile retryAfter requeueAfter site).site := by
  cases failure with
  | some => exact before
  | none =>
    cases shown : site.resource.shown with
    | none => simpa only [runPass, shown] using before
    | some copy =>
      have after := ends copy shown
      simp only [runPass, shown]
      rw [Ends] at after
      rcases ran : reconcile (site.desk copy) with ⟨result, desk, created⟩
      rw [ran] at after
      cases result with
      | error | ok => exact after

end Opening

end Requests

/-! ## The service account and its rights -/

structure ServiceAccountConfig where
  create : Bool := false
  deriving DecidableEq

def shouldCreateServiceAccount : Option ServiceAccountConfig -> Bool
  | none => true
  | some cfg => cfg.create

structure UpsertAnswers where
  get : Fetched Unit := .found ()
  (create update : WriteAnswer := .accepted)

def createOrUpdate (answers : UpsertAnswers) : Except String Unit :=
  match answers.get with
  | .notFound => answers.create.toExcept
  | .failed text => .error text
  | .found _ => answers.update.toExcept

structure RBACAnswers where
  (serviceAccount role roleBinding : UpsertAnswers := {})

def reconcileRBAC (serviceAccount : Option ServiceAccountConfig) (answers : RBACAnswers) :
    Except String Unit := do
  if shouldCreateServiceAccount serviceAccount then
    (createOrUpdate answers.serviceAccount).mapError ("failed to reconcile ServiceAccount: " ++ ·)
  (createOrUpdate answers.role).mapError ("failed to reconcile Role: " ++ ·)
  (createOrUpdate answers.roleBinding).mapError ("failed to reconcile RoleBinding: " ++ ·)

end Jobs
end WazuhOperator
