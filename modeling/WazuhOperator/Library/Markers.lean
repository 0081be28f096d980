import Mathlib.Data.List.Infix

namespace Markers

open List

/-!
# The text after the last occurrence of a marker

A reader of composed names cuts a text at the last place where a marker
occurs.  `afterLast` is that cut.  What it returns is determined by where the
marker occurs, so the second half of the module decides, for a marker with a
known first or last letter, where it can occur in a concatenation.
-/

variable {α : Type} [DecidableEq α]

def afterLast (marker : List α) : List α -> Option (List α)
  | [] => if marker = [] then some [] else none
  | letter :: rest =>
    match afterLast marker rest with
    | some after => some after
    | none =>
      if marker <+: letter :: rest then some ((letter :: rest).drop marker.length) else none

variable {marker before after : List α}

/-- The cut is at an occurrence, and the marker does not occur further right. -/
theorem afterLast_spec (nonempty : marker ≠ []) (text : List α) :
    match afterLast marker text with
    | none => ¬ marker <:+: text
    | some after => (∃ before, text = before ++ marker ++ after) ∧ ¬ marker <:+: (marker ++ after).tail := by
  induction text with
  | nil =>
    rw [afterLast, if_neg nonempty]
    exact fun occurs => nonempty (infix_nil.mp occurs)
  | cons letter rest ih =>
    rw [afterLast]
    cases later : afterLast marker rest with
    | some =>
      rw [later] at ih
      rcases ih with ⟨⟨before, cut⟩, last⟩
      exact ⟨⟨letter :: before, by rw [cut]; rfl⟩, last⟩
    | none =>
      rw [later] at ih
      by_cases here : marker <+: letter :: rest
      · rw [if_pos here]
        have cut := (prefix_append_drop here).symm
        refine ⟨⟨[], cut.symm⟩, ?_⟩
        rw [cut]
        exact ih
      · rw [if_neg here]
        intro occurs
        rcases infix_cons_iff.mp occurs with first | further
        · exact here first
        · exact ih further

theorem afterLast_eq_none_iff (nonempty : marker ≠ []) (text : List α) :
    afterLast marker text = none <-> ¬ marker <:+: text := by
  have spec := afterLast_spec nonempty text
  cases cut : afterLast marker text with
  | none =>
    rw [cut] at spec
    exact iff_of_true rfl spec
  | some after =>
    rw [cut] at spec
    rcases spec.1 with ⟨before, rfl⟩
    exact iff_of_false (Option.some_ne_none after) (not_not_intro (infix_append ..))

omit [DecidableEq α] in
theorem infix_tail_of_shorter {earlier other : List α} (nonempty : marker ≠ [])
    (same : before ++ marker ++ after = earlier ++ marker ++ other)
    (shorter : after.length < other.length) : marker <:+: (marker ++ other).tail := by
  have first : marker ++ after <:+ before ++ marker ++ after := by
    rw [append_assoc]
    exact suffix_append ..
  have second : (marker ++ other).tail <:+ before ++ marker ++ after := by
    rw [same, append_assoc]
    exact (tail_suffix _).trans (suffix_append ..)
  have positive : 0 < marker.length := length_pos_of_ne_nil nonempty
  have inside : marker ++ after <:+ (marker ++ other).tail := by
    apply suffix_of_suffix_length_le first second
    simp only [length_append, length_tail]
    omega
  exact (prefix_append marker after).isInfix.trans inside.isInfix

/-- A decomposition around an occurrence with none further right is the one that is found. -/
theorem afterLast_eq_some_iff (nonempty : marker ≠ []) (text after : List α) :
    afterLast marker text = some after <->
      (∃ before, text = before ++ marker ++ after) ∧ ¬ marker <:+: (marker ++ after).tail := by
  constructor
  · intro cut
    have spec := afterLast_spec nonempty text
    rw [cut] at spec
    exact spec
  · rintro ⟨⟨before, rfl⟩, last⟩
    have spec := afterLast_spec nonempty (before ++ marker ++ after)
    cases cut : afterLast marker (before ++ marker ++ after) with
    | none =>
      rw [cut] at spec
      exact absurd (infix_append before marker after) spec
    | some other =>
      rw [cut] at spec
      rcases spec with ⟨⟨earlier, same⟩, otherLast⟩
      rcases Nat.lt_trichotomy other.length after.length with shorter | equal | longer
      · exact absurd (infix_tail_of_shorter nonempty same.symm shorter) last
      · have first : other <:+ before ++ marker ++ after := by
          rw [same]
          exact suffix_append ..
        have second : after <:+ before ++ marker ++ after := suffix_append ..
        rw [(suffix_of_suffix_length_le first second equal.le).eq_of_length equal]
      · exact absurd (infix_tail_of_shorter nonempty same longer) otherLast
/-! ## Where a marker can occur in a concatenation -/

omit [DecidableEq α] in
theorem infix_append_of_head {first : α} (absent : first ∉ before) :
    first :: marker <:+: before ++ after <-> first :: marker <:+: after := by
  induction before with
  | nil => rfl
  | cons _ _ ih =>
    rw [mem_cons, not_or] at absent
    rw [cons_append, infix_cons_iff, cons_prefix_cons, ih absent.2]
    simp [absent.1]

omit [DecidableEq α] in
theorem infix_append_of_last {last : α} (absent : last ∉ after) :
    marker ++ [last] <:+: before ++ after <-> marker ++ [last] <:+: before := by
  have mirrored : last :: marker.reverse <:+: after.reverse ++ before.reverse <->
      last :: marker.reverse <:+: before.reverse :=
    infix_append_of_head (mt mem_reverse.mp absent)
  rw [<- reverse_append, <- reverse_concat, reverse_infix, reverse_infix] at mirrored
  simpa using mirrored

omit [DecidableEq α] in
/-- An occurrence which may end at one place further right ends there or lies before it. -/
theorem infix_append_cons_of_last {last : α} (absent : last ∉ after) :
    marker ++ [last] <:+: before ++ last :: after <->
      marker <:+ before ∨ marker ++ [last] <:+: before := by
  have moved : before ++ last :: after = (before ++ [last]) ++ after := by simp
  rw [moved, infix_append_of_last absent, infix_concat_iff]
  apply or_congr_left
  constructor
  · rintro ⟨front, same⟩
    rw [<- append_assoc] at same
    exact ⟨front, append_cancel_right same⟩
  · rintro ⟨front, rfl⟩
    exact ⟨front, by simp⟩

omit [DecidableEq α] in
/-- A separator which occurs only once in each of two endings makes them the same ending. -/
theorem cons_suffix_append_cons_iff {separator : α} {ending front rest : List α}
    (notInEnding : separator ∉ ending) (notInRest : separator ∉ rest) :
    separator :: ending <:+ front ++ separator :: rest <-> ending = rest := by
  constructor
  · intro ends
    have tail : separator :: rest <:+ front ++ separator :: rest := suffix_append ..
    rcases Nat.le_total ending.length rest.length with shorter | longer
    · have inside := suffix_of_suffix_length_le ends tail (Nat.succ_le_succ shorter)
      rcases suffix_cons_iff.mp inside with same | further
      · exact (cons.inj same).2
      · exact absurd (further.subset mem_cons_self) notInRest
    · have inside := suffix_of_suffix_length_le tail ends (Nat.succ_le_succ longer)
      rcases suffix_cons_iff.mp inside with same | further
      · exact (cons.inj same).2.symm
      · exact absurd (further.subset mem_cons_self) notInEnding
  · rintro rfl
    exact suffix_append ..

end Markers
