import Mathlib.Data.List.Basic

namespace HostNames

open List

/-!
# Patterns for names of labels

A name is a sequence of labels with a separator between them.  A pattern is a
name whose first label may be a wildcard, which stands for any one label.  The
separator and the wildcard are parameters; they are different.
-/

variable {α : Type} [DecidableEq α] (dot star : α)

def afterLabel : List α -> Option (List α)
  | [] => none
  | letter :: rest => if letter = dot then some rest else afterLabel rest

/-- The name equals the pattern, or differs from it in a first label where the pattern has the
wildcard. -/
def covers (pattern name : List α) : Bool :=
  pattern == name ||
    match pattern with
    | first :: second :: rest => first == star && second == dot && afterLabel dot name == some rest
    | _ => false

variable {dot star}

theorem covers_self (name : List α) : covers dot star name name = true := by
  simp [covers]

theorem count_afterLabel {name rest : List α} (found : afterLabel dot name = some rest) :
    name.count dot = rest.count dot + 1 := by
  induction name with
  | nil => exact nomatch found
  | cons letter _ ih =>
    rw [afterLabel] at found
    by_cases separates : letter = dot
    · rw [if_pos separates] at found
      cases found
      rw [separates, count_cons_self]
    · rw [if_neg separates] at found
      rw [count_cons_of_ne separates, ih found]

theorem covers_iff {pattern name : List α} :
    covers dot star pattern name <->
      pattern = name ∨ ∃ rest, pattern = star :: dot :: rest ∧ afterLabel dot name = some rest := by
  rcases pattern with _ | ⟨first, _ | ⟨second, rest⟩⟩
  · simp [covers]
  · simp [covers]
  · rw [covers, Bool.or_eq_true, beq_iff_eq]
    simp only [Bool.and_eq_true, beq_iff_eq, cons.injEq, and_assoc]
    refine or_congr_right ?_
    constructor
    · rintro ⟨rfl, rfl, found⟩
      exact ⟨rest, rfl, rfl, rfl, found⟩
    · rintro ⟨other, rfl, rfl, rfl, found⟩
      exact ⟨rfl, rfl, found⟩

omit [DecidableEq α] in
theorem label_eq_of_append {first second rest other : List α} (plain : dot ∉ first) (also : dot ∉ second)
    (same : first ++ dot :: rest = second ++ dot :: other) : first = second := by
  induction first generalizing second with
  | nil =>
    cases second with
    | nil => rfl
    | cons => exact absurd (cons.inj same).1 (ne_of_not_mem_cons also)
  | cons _ _ ih =>
    cases second with
    | nil => exact absurd (cons.inj same).1.symm (ne_of_not_mem_cons plain)
    | cons =>
      rcases cons.inj same with ⟨rfl, rest⟩
      rw [ih (not_mem_of_not_mem_cons plain) (not_mem_of_not_mem_cons also) rest]

section Distinct

variable (distinct : star ≠ dot)
include distinct

theorem count_eq_of_covers {pattern name : List α} (covered : covers dot star pattern name) :
    pattern.count dot = name.count dot := by
  rcases covers_iff.mp covered with same | ⟨rest, rfl, found⟩
  · rw [same]
  · rw [count_cons_of_ne distinct, count_cons_self, count_afterLabel found]

theorem covers_append_iff {front : List α} (long : 2 ≤ front.length) (pattern name : List α) :
    covers dot star (front ++ pattern) (front ++ name) <-> pattern = name := by
  match front, long with
  | first :: second :: rest, _ =>
    rw [covers_iff, append_cancel_left_eq]
    refine or_iff_left_of_imp ?_
    rintro ⟨tail, same, found⟩
    simp only [cons_append, cons.injEq] at same found
    rcases same with ⟨rfl, rfl, rfl⟩
    rw [afterLabel, if_neg distinct, afterLabel, if_pos rfl, Option.some.injEq] at found
    exact (append_cancel_left found).symm

end Distinct

end HostNames
