import Mathlib.Data.List.Chain

namespace WazuhOperator
namespace Constancy

open List

/-!
# A value which only some states of a sequence carry

Rules which compare each state of a sequence with the one before it see a value
change only where both carry one.  This module says what they leave open: the
value may change across a stretch of states which carry none.
-/

variable {σ M : Type} (value : σ -> Option M)

def Constant (states : List σ) : Prop :=
  ∀ a ∈ states, ∀ b ∈ states, forall m n, value a = some m -> value b = some n -> m = n

/-- The sequence has `b` after `a`, with exactly the states of `gap` between them, and none
of those carries a value. -/
def Follows (states gap : List σ) (a b : σ) : Prop :=
  ∃ before after, states = before ++ a :: (gap ++ b :: after) ∧ ∀ state ∈ gap, value state = none

/-- The value is the same again after every gap. -/
def ReturnsAlike (states : List σ) : Prop :=
  forall gap a b m n, gap ≠ [] -> Follows value states gap a b -> value a = some m -> value b = some n -> m = n

/-- Two neighbours which both carry a value carry the same one. -/
def NeighboursAgree (states : List σ) : Prop :=
  forall a b m n, Follows value states [] a b -> value a = some m -> value b = some n -> m = n

variable {value} {states : List σ}

theorem Follows.mem {gap : List σ} {a b : σ} (follows : Follows value states gap a b) :
    a ∈ states ∧ b ∈ states := by
  rcases follows with ⟨before, after, rfl, -⟩
  simp

theorem carried (neighbours : NeighboursAgree value states) (returns : ReturnsAlike value states)
    (rest : List σ) :
    forall before a gap m, states = before ++ a :: (gap ++ rest) -> (∀ state ∈ gap, value state = none) ->
      value a = some m -> ∀ b ∈ rest, forall n, value b = some n -> m = n := by
  induction rest with
  | nil => exact fun _ _ _ _ _ _ _ b member => nomatch member
  | cons next rest ih =>
    intro before a gap m split silent carries b member n found
    cases here : value next with
    | none =>
      have onward : b ∈ rest := by
        rcases mem_cons.mp member with rfl | later
        · exact nomatch here.symm.trans found
        · exact later
      refine ih before a (gap ++ [next]) m (by simpa using split) ?_ carries b onward n found
      intro state between
      rcases mem_append.mp between with old | new
      · exact silent state old
      · exact mem_singleton.mp new ▸ here
    | some k =>
      have follows : Follows value states gap a next := ⟨before, rest, split, silent⟩
      have same : m = k := by
        by_cases adjacent : gap = []
        · exact neighbours a next m k (adjacent ▸ follows) carries here
        · exact returns gap a next m k adjacent follows carries here
      rcases mem_cons.mp member with rfl | later
      · exact same.trans (Option.some.inj (here.symm.trans found))
      · exact same.trans (ih (before ++ a :: gap) next [] k (by simpa using split)
          (fun _ absent => nomatch absent) here b later n found)

theorem constant_iff (states : List σ) :
    Constant value states <-> NeighboursAgree value states ∧ ReturnsAlike value states := by
  constructor
  · intro constant
    refine ⟨fun a b m n follows => ?_, fun gap a b m n _ follows => ?_⟩
    · exact constant a follows.mem.1 b follows.mem.2 m n
    · exact constant a follows.mem.1 b follows.mem.2 m n
  · rintro ⟨neighbours, returns⟩ a member b other m n carries found
    rcases append_of_mem member with ⟨before, after, split⟩
    rw [split, mem_append, mem_cons] at other
    rcases other with earlier | rfl | later
    · rcases append_of_mem earlier with ⟨front, back, rfl⟩
      have fromThere := carried neighbours returns (back ++ a :: after) front b [] n
        (by simpa using split) (fun _ absent => nomatch absent) found
      exact (fromThere a (by simp) m carries).symm
    · exact Option.some.inj (carries.symm.trans found)
    · exact carried neighbours returns after before a [] m split (fun _ absent => nomatch absent)
        carries b later n found

theorem returnsAlike_of_agree
    (agree : ∀ a ∈ states, ∀ b ∈ states, value a = none ∨ value b = none ∨ value a = value b) :
    ReturnsAlike value states := by
  intro gap a b m n _ follows carries found
  simpa [carries, found] using agree a follows.mem.1 b follows.mem.2

theorem Follows.related {R : σ -> σ -> Prop} (chain : states.IsChain R) {a b : σ}
    (follows : Follows value states [] a b) : R a b := by
  rcases follows with ⟨before, after, rfl, -⟩
  exact (isChain_append_cons_cons.mp chain).2.1

end Constancy
end WazuhOperator
