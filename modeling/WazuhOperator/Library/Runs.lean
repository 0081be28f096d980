import Mathlib.Logic.Basic

namespace Runs

/-!
# Runs of a deterministic system

A system is a step function; its inputs are the only source of choice, so a
run is a list of inputs.  `Along` says that a relation between states and
inputs holds at every step of a run, `Throughout` that a property holds in
every state of it.  A property of runs is proved from one invariant: the
steps which satisfy a condition preserve it, and it yields the property.
-/

variable {σ α : Type} (step : σ -> α -> σ)

def run (state : σ) (inputs : List α) : σ := inputs.foldl step state

/-- The relation holds between each state of the run and the input taken in it. -/
def Along (holds : σ -> α -> Prop) : σ -> List α -> Prop
  | _, [] => True
  | state, input :: rest => holds state input ∧ Along holds (step state input) rest

/-- The property holds in each state of the run, the first and the last included. -/
def Throughout (holds : σ -> Prop) : σ -> List α -> Prop
  | state, [] => holds state
  | state, input :: rest => holds state ∧ Throughout holds (step state input) rest

instance decidableAlong (holds : σ -> α -> Prop) [forall state input, Decidable (holds state input)] :
    forall state inputs, Decidable (Along step holds state inputs)
  | _, [] => isTrue trivial
  | state, input :: rest =>
    have := decidableAlong holds (step state input) rest
    inferInstanceAs (Decidable (_ ∧ _))

instance decidableThroughout (holds : σ -> Prop) [DecidablePred holds] :
    forall state (inputs : List α), Decidable (Throughout step holds state inputs)
  | state, [] => inferInstanceAs (Decidable (holds state))
  | state, input :: rest =>
    have := decidableThroughout holds (step state input) rest
    inferInstanceAs (Decidable (_ ∧ _))

variable {property : σ -> Prop}

section Lists

variable {step} {holds : σ -> α -> Prop}

theorem run_append (state : σ) (first later : List α) :
    run step state (first ++ later) = run step (run step state first) later :=
  List.foldl_append

theorem along_append (first later : List α) : forall state,
    Along step holds state (first ++ later) <->
      Along step holds state first ∧ Along step holds (run step state first) later := by
  induction first with
  | nil => exact fun state => ⟨fun along => ⟨trivial, along⟩, fun both => both.2⟩
  | cons input _ ih =>
    intro state
    exact (and_congr_right fun _ => ih (step state input)).trans and_assoc.symm

theorem along_of_forall {inputs : List α} (all : ∀ input ∈ inputs, forall state, holds state input) :
    forall state, Along step holds state inputs := by
  induction inputs with
  | nil => exact fun _ => trivial
  | cons input _ ih =>
    intro state
    exact ⟨all input (by simp) state, ih (fun other member => all other (by simp [member])) _⟩

theorem along_congr {other : σ -> α -> Prop} (same : forall state input, holds state input <-> other state input)
    (inputs : List α) :
    forall state, Along step holds state inputs <-> Along step other state inputs := by
  induction inputs with
  | nil => exact fun _ => Iff.rfl
  | cons input _ ih => exact fun state => and_congr (same state input) (ih (step state input))

theorem run_along_filter {keep : α -> Bool}
    (dropped : forall state input, keep input = false ->
      step state input = state ∧ holds state input) (inputs : List α) :
    forall state, run step state (inputs.filter keep) = run step state inputs ∧
      (Along step holds state (inputs.filter keep) <-> Along step holds state inputs) := by
  induction inputs with
  | nil => exact fun _ => ⟨rfl, Iff.rfl⟩
  | cons input _ ih =>
    intro state
    cases kept : keep input with
    | true =>
      rw [List.filter_cons_of_pos kept]
      exact ⟨(ih _).1, and_congr_right fun _ => (ih _).2⟩
    | false =>
      rw [List.filter_cons_of_neg (by simp [kept])]
      have idle := dropped state input kept
      refine ⟨?_, ?_⟩
      · rw [(ih state).1, run, run, List.foldl_cons, idle.1]
      · rw [(ih state).2, Along, idle.1]
        exact (and_iff_right idle.2).symm

theorem run_of_step {related : σ -> σ -> Prop} {inputs : List α}
    (refl : forall state, related state state)
    (extended : forall first state, ∀ input ∈ inputs, related first state ->
      related first (step state input)) (state : σ) : related state (run step state inputs) := by
  suffices later : forall current, related state current -> related state (run step current inputs) from
    later state (refl state)
  induction inputs with
  | nil => exact fun _ reached => reached
  | cons input _ ih =>
    intro current reached
    exact ih (fun first middle other member => extended first middle other (by simp [member])) _
      (extended state current input (by simp) reached)

theorem throughout_imp {weaker : σ -> Prop} (implied : forall state, property state -> weaker state)
    (inputs : List α) :
    forall state, Throughout step property state inputs -> Throughout step weaker state inputs := by
  induction inputs with
  | nil => exact fun state holds => implied state holds
  | cons input _ ih =>
    exact fun state throughout => ⟨implied state throughout.1, ih (step state input) throughout.2⟩

theorem run_of_throughout (inputs : List α) :
    forall state, Throughout step property state inputs -> property (run step state inputs) := by
  induction inputs with
  | nil => exact fun _ last => last
  | cons input _ ih => exact fun state throughout => ih (step state input) throughout.2

theorem throughout_of_run
    (earlier : forall state input, property (step state input) -> property state)
    (inputs : List α) :
    forall state, property (run step state inputs) -> Throughout step property state inputs := by
  induction inputs with
  | nil => exact fun _ last => last
  | cons input rest ih =>
    intro state last
    have later := ih (step state input) last
    refine ⟨earlier state input ?_, later⟩
    cases rest with
    | nil => exact later
    | cons => exact later.1

end Lists

section Invariants

variable {step} {condition holds : σ -> α -> Prop} {invariant : σ -> Prop}

theorem along_of_invariant
    (preserved : forall state input, invariant state -> condition state input ->
      invariant (step state input))
    (consequence : forall state input, invariant state -> condition state input ->
      holds state input)
    (inputs : List α) :
    forall state, invariant state -> Along step condition state inputs ->
      Along step holds state inputs := by
  induction inputs with
  | nil => exact fun _ _ _ => trivial
  | cons input _ ih =>
    intro state initially met
    exact ⟨consequence state input initially met.1,
      ih _ (preserved state input initially met.1) met.2⟩

theorem along_iff_of_invariant
    (preserved : forall state input, invariant state -> invariant (step state input))
    (same : forall state input, invariant state -> (condition state input <-> holds state input))
    (inputs : List α) (state : σ) (initially : invariant state) :
    Along step condition state inputs <-> Along step holds state inputs := by
  constructor
  · exact along_of_invariant (fun state input kept _ => preserved state input kept)
      (fun state input kept => (same state input kept).mp) inputs state initially
  · exact along_of_invariant (fun state input kept _ => preserved state input kept)
      (fun state input kept => (same state input kept).mpr) inputs state initially

theorem throughout_of_invariant
    (preserved : forall state input, invariant state -> condition state input -> invariant (step state input))
    (consequence : forall state, invariant state -> property state) (inputs : List α) :
    forall state, invariant state -> Along step condition state inputs ->
      Throughout step property state inputs := by
  induction inputs with
  | nil => exact fun state initially _ => consequence state initially
  | cons input _ ih =>
    intro state initially met
    exact ⟨consequence state initially, ih _ (preserved state input initially met.1) met.2⟩

end Invariants

/-! ## Ledgers

A system which keeps a ledger books at most one entry in a step and removes none. -/

section Ledgers

variable {step} {κ : Type} {apart : κ -> κ -> Prop} {ledger : σ -> List κ}
variable {booked : σ -> α -> Option κ}

theorem throughout_pairwise_iff
    (books : forall state input, ledger (step state input) = ledger state ++ (booked state input).toList)
    (inputs : List α) : forall state, (ledger state).Pairwise apart ->
      (Throughout step (fun state => (ledger state).Pairwise apart) state inputs <->
        Along step (fun state input => ∀ entry ∈ booked state input, ∀ old ∈ ledger state,
          apart old entry) state inputs) := by
  induction inputs with
  | nil => exact fun _ now => ⟨fun _ => trivial, fun _ => now⟩
  | cons input rest ih =>
    intro state now
    -- What was booked decides whether the entries are still apart after the step.
    have next : (ledger (step state input)).Pairwise apart <->
        ∀ entry ∈ booked state input, ∀ old ∈ ledger state, apart old entry := by
      rw [books state input]
      cases booked state input with
      | none => simp [now]
      | some => simp [List.pairwise_append, now]
    constructor
    · rintro ⟨_, later⟩
      have afterStep : (ledger (step state input)).Pairwise apart := by
        cases rest with
        | nil => exact later
        | cons => exact later.1
      exact ⟨next.mp afterStep, (ih _ afterStep).mp later⟩
    · rintro ⟨admitted, later⟩
      exact ⟨now, (ih _ (next.mpr admitted)).mpr later⟩

end Ledgers

/-! ## Endless runs -/

section Endless

def after (state : σ) (inputs : Nat -> α) : Nat -> σ
  | 0 => state
  | count + 1 => step (after state inputs count) (inputs count)

theorem eventually_of_rank {invariant goal : Nat -> Prop} {rank : Nat -> Nat} {start : Nat}
    (nearer : forall moment, start ≤ moment -> invariant moment ->
      goal moment ∨ (invariant (moment + 1) ∧ rank (moment + 1) < rank moment))
    (holds : invariant start) : ∃ moment, start ≤ moment ∧ goal moment := by
  suffices reached : forall bound moment, start ≤ moment -> invariant moment ->
      rank moment < bound -> ∃ later, start ≤ later ∧ goal later from
    reached (rank start + 1) start (Nat.le_refl start) holds (Nat.lt_succ_self _)
  intro bound
  induction bound with
  | zero => exact fun _ _ _ below => absurd below (Nat.not_lt_zero _)
  | succ _ ih =>
    intro moment late inside below
    rcases nearer moment late inside with done | ⟨next, smaller⟩
    · exact ⟨moment, late, done⟩
    · exact ih (moment + 1) (Nat.le_succ_of_le late) next
        (Nat.lt_of_lt_of_le smaller (Nat.le_of_lt_succ below))

end Endless

end Runs
