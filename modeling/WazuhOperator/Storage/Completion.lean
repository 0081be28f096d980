import WazuhOperator.Library.Runs
import WazuhOperator.Reporting.Writers
import WazuhOperator.Storage.Expansion

namespace WazuhOperator
namespace Storage

open Procedure Proc Reporting Networking

/-!
# Completed expansions

The status of an expansion is made of the requests of the claims, which the
operator raises itself.  What the volumes really hold is reported by
Kubernetes as their capacity, which no step of the operator reads.
-/

/-- A size which has been written is read as the same one, if it can be read. -/
def Quantities.Exact (quantities : Quantities) : Prop :=
  forall size read, quantities.parse (quantities.format size) = .ok read -> read = size

structure ExactQuantities extends Quantities where
  exact : toQuantities.Exact

/-! ## The loop over the claims -/

def ExpansionProgress.Done (progress : ExpansionProgress) : Prop :=
  progress.expansionError = none ∧ progress.pvcsPending = []

def ExpansionProgress.findings (progress : ExpansionProgress) (requestedSize : String)
    (firstSize : Option String) : ExpansionFindings :=
  ⟨requestedSize, firstSize, progress.pvcsExpanded, progress.pvcsPending, progress.expansionError⟩

section Loop

variable {quantities : Quantities} {answers : StorageAnswers} {nspace requested name : String}

theorem validateExpansion_below {size : Int} (parsed : quantities.parse requested = .ok size)
    (below : claim.request < size) :
    let result := validateExpansion quantities answers claim requested
    result.needsExpansion ∧
      (result.valid = false -> result.storageClassSupportsExpansion = false ∧ result.errorMessage ≠ "") := by
  simp only [validateExpansion, parsed, if_neg (Int.ne_of_lt below), if_neg (Int.not_lt.mpr (Int.le_of_lt below))]
  split
  · simp
  · split <;> simp

theorem processClaim_short (exact : quantities.Exact) (short : Short quantities requested claim)
    (progress : ExpansionProgress) (claims : Claims) :
    exists next, (processClaim quantities answers nspace requested progress name claim claims).result =
        .ok next ∧ ¬ next.Done ∧ next.pvcsExpanded = progress.pvcsExpanded := by
  rcases short with ⟨size, parsed, below⟩
  rcases @validateExpansion_below quantities answers requested claim size parsed below with ⟨needed, refused⟩
  have grown : isShrinkRequest quantities (quantities.format claim.request) requested = false := by
    cases written : quantities.parse (quantities.format claim.request) with
    | error => simp [isShrinkRequest, written]
    | ok read =>
      cases exact _ _ written
      simpa [isShrinkRequest, written, parsed] using Int.le_of_lt below
  unfold processClaim
  cases valid : (validateExpansion quantities answers claim requested).valid with
  | false => simp [refused valid, grown, needed, ExpansionProgress.Done]
  | true =>
    cases expansionComplete claim with
    | false => simp [needed, ExpansionProgress.Done]
    | true =>
      cases ran : expandPVC quantities answers nspace name requested claims with
      | mk result after log => cases result <;> simp [needed, ran, ExpansionProgress.Done]

theorem processClaim_result (exact : quantities.Exact) (progress : ExpansionProgress) (claims : Claims) :
    exists next, (processClaim quantities answers nspace requested progress name claim claims).result =
        .ok next ∧
      (next.Done <-> progress.Done ∧ ¬ Short quantities requested claim) ∧
      (next.pvcsExpanded ≠ [] <-> progress.pvcsExpanded ≠ [] ∨ quantities.parse requested = .ok claim.request) := by
  by_cases short : Short quantities requested claim
  · rcases processClaim_short exact short progress claims with ⟨next, returned, left, kept⟩
    refine ⟨next, returned, iff_of_false left fun both => both.2 short, ?_⟩
    rcases short with ⟨size, parsed, below⟩
    simp [kept, parsed, Int.ne_of_gt below]
  · rw [and_iff_left short]
    cases parsed : quantities.parse requested with
    | error text => exact ⟨progress, by simp [processClaim, validateExpansion, parsed], .rfl, by simp⟩
    | ok size =>
      by_cases same : claim.request = size
      · exact ⟨{ progress with pvcsExpanded := progress.pvcsExpanded ++ [name] },
          by simp [processClaim, validateExpansion, parsed, same], .rfl, by simp [same]⟩
      · have above : size < claim.request := by
          have := Int.not_lt.mp fun below => short ⟨size, parsed, below⟩
          omega
        exact ⟨progress, by simp [processClaim, validateExpansion, parsed, same, above], .rfl,
          by simp [Ne.symm same]⟩

theorem processVolumeExpansion_result (exact : quantities.Exact)
    (entries : List (String × PersistentVolumeClaim)) (progress : ExpansionProgress) (claims : Claims) :
    exists final, (processVolumeExpansion quantities answers nspace requested entries progress
        claims).result = .ok final ∧
      (final.Done <-> progress.Done ∧ ∀ entry ∈ entries, ¬ Short quantities requested entry.2) ∧
      (final.pvcsExpanded ≠ [] <-> progress.pvcsExpanded ≠ [] ∨
        ∃ entry ∈ entries, quantities.parse requested = .ok entry.2.request) := by
  induction entries generalizing progress claims with
  | nil => exact ⟨progress, rfl, by simp, by simp⟩
  | cons entry rest ih =>
    obtain ⟨next, returned, done, expanded⟩ :=
      @processClaim_result quantities answers nspace requested entry.1 entry.2 exact progress claims
    cases ran : processClaim quantities answers nspace requested progress entry.1 entry.2 claims with
    | mk result after log =>
    rw [ran] at returned
    cases returned
    obtain ⟨final, ended, laterDone, laterExpanded⟩ := ih next after
    refine ⟨final, by simp [processVolumeExpansion, ran, ended], ?_, ?_⟩
    · rw [laterDone, done, List.forall_mem_cons, and_assoc]
    · rw [laterExpanded, expanded, List.exists_mem_cons_iff, or_assoc]

/-- The status is `Completed` just if nothing is left and some claim has the size. -/
theorem completed_iff (progress : ExpansionProgress) (requestedSize : String) (firstSize : Option String) :
    (∃ status ∈ expansionStatus (progress.findings requestedSize firstSize), status.phase = .completed) <->
      progress.Done ∧ progress.pvcsExpanded ≠ [] := by
  rcases progress with ⟨expanded, pending, _, error⟩
  cases error <;> cases pending <;> cases expanded <;>
    simp [expansionStatus, ExpansionProgress.findings, ExpansionProgress.Done]

end Loop

/-! ## Calls -/

structure ExpansionCall where
  component : StorageComponent
  sizes : StorageSizes
  answers : StorageAnswers
  /-- The size of the first claim, where the claims can be listed once more. -/
  firstSize : Option String
  /-- What else happens to the claims before the next call. -/
  meanwhile : Claims -> Claims
  /-- `status.capacity.storage` of the claims. -/
  capacity : String -> Int

namespace ExpansionCall

variable (quantities : ExactQuantities) (key : ClusterKey) (call : ExpansionCall) (claims : Claims)

def size : Except String Int := quantities.parse (call.component.requestedSize call.sizes)

def found : List String :=
  claims.names.filter fun name => (call.component.lookup key.name).selects (claims.get name).labels

def outcome : Outcome Claims String ExpansionProgress :=
  reconcileVolumeExpansion quantities.toQuantities call.answers key call.sizes call.component claims

def status : Option ComponentExpansionStatus :=
  match (call.outcome quantities key claims).result with
  | .error _ => none
  | .ok progress =>
    expansionStatus (progress.findings (call.component.requestedSize call.sizes) call.firstSize)

/-- No request becomes smaller, and a completed expansion is one of the volumes. -/
structure Honest : Prop where
  grows : forall name, (claims.get name).request ≤ ((call.outcome quantities key claims).state.get name).request
  real : ∀ status ∈ call.status quantities key claims, status.phase = .completed ->
    ∀ name ∈ call.found key claims, forall size, call.size quantities = .ok size -> size ≤ call.capacity name

/-- All claims that are found ask for the size at least, and one for exactly that. -/
def Requested (size : Int) : Prop :=
  (∀ name ∈ call.found key claims, size ≤ (claims.get name).request) ∧
    ∃ name ∈ call.found key claims, (claims.get name).request = size

/-- A size which the claims ask for is one which they have. -/
def Filled : Prop :=
  call.answers.list call.component.label = .ok () -> forall size, call.size quantities = .ok size ->
    call.Requested key claims size -> ∀ name ∈ call.found key claims, size ≤ call.capacity name

theorem grows_outcome (name : String) :
    (claims.get name).request ≤ ((call.outcome quantities key claims).state.get name).request := by
  have kept : Keeps (fun after => forall other, (claims.get other).request ≤ (after.get other).request)
      (fun _ => True) (reconcileVolumeExpansion quantities.toQuantities call.answers key call.sizes call.component) := by
    refine keeps_reconcileVolumeExpansion fun found raised holds _ request below after kept other => ?_
    by_cases same : other = raised
    · rw [same, Claims.setRequest_self]
      exact Int.le_trans (holds raised) (Int.le_of_lt below)
    · rw [Claims.setRequest_other same]
      exact kept other
  exact (kept claims fun _ => Int.le_refl _).1 name

theorem completed_status_iff :
    (∃ status ∈ call.status quantities key claims, status.phase = .completed) <->
      call.answers.list call.component.label = .ok () ∧
      exists size, call.size quantities = .ok size ∧ call.Requested key claims size := by
  cases listed : call.answers.list call.component.label with
  | error text => simp [status, outcome, reconcileVolumeExpansion, listed]
  | ok =>
    obtain ⟨final, returned, done, expanded⟩ := @processVolumeExpansion_result quantities.toQuantities
      call.answers key.nspace (call.component.requestedSize call.sizes) quantities.exact
      ((call.found key claims).map fun name => (name, claims.get name)) {} claims
    have result : (call.outcome quantities key claims).result = .ok final := by
      simpa [outcome, reconcileVolumeExpansion, listed, found] using returned
    rw [status, result, completed_iff, done, expanded, List.forall_mem_map]
    simp only [List.mem_map, exists_exists_and_eq_and]
    constructor
    · rintro ⟨⟨-, enough⟩, impossible | ⟨name, member, parsed⟩⟩
      · exact absurd rfl impossible
      · exact ⟨trivial, _, parsed, fun other found => Int.not_lt.mp fun below => enough other found ⟨_, parsed, below⟩,
          name, member, rfl⟩
    · rintro ⟨-, size, parsed, enough, name, member, rfl⟩
      refine ⟨⟨⟨rfl, rfl⟩, ?_⟩, .inr ⟨name, member, parsed⟩⟩
      rintro other found ⟨_, read, below⟩
      cases parsed.symm.trans read
      exact absurd (enough other found) (Int.not_le.mpr below)

theorem honest_iff :
    call.Honest quantities key claims <-> call.Filled quantities key claims := by
  constructor
  · intro honest listed size parsed requested name found
    obtain ⟨status, set, phase⟩ :=
      (call.completed_status_iff quantities key claims).mpr ⟨listed, size, parsed, requested⟩
    exact honest.real status set phase name found size parsed
  · intro filled
    refine ⟨call.grows_outcome quantities key claims, fun status set phase name found size parsed => ?_⟩
    obtain ⟨listed, other, read, requested⟩ :=
      (call.completed_status_iff quantities key claims).mp ⟨status, set, phase⟩
    cases parsed.symm.trans read
    exact filled listed size parsed requested name found

def step (claims : Claims) (call : ExpansionCall) : Claims :=
  call.meanwhile (call.outcome quantities key claims).state

theorem sampleQuantities_exact : sampleQuantities.Exact := by
  intro size read told
  simp only [sampleQuantities] at told
  split at told <;> split at told <;> simp_all

end ExpansionCall

end Storage
end WazuhOperator
