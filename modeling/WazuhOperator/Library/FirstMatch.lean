import Mathlib.Logic.Basic

namespace FirstMatch

open List

/-!
# Lists searched by a predicate

Records kept in a list are often looked up by the first item which answers to
a description, and updated by replacing that item in place or, where there is
none, by appending.  The lemmas say what becomes of the list and of a lookup:
the item put is the one found, and lookups by descriptions which the put and
the replaced items do not answer to are unaffected.
-/

variable {α : Type}

/-- Replace the first item of the description, or append where there is none. -/
def put (described : α -> Bool) (item : α) : List α -> List α
  | [] => [item]
  | first :: rest => if described first then item :: rest else first :: put described item rest

/-- The item stands in the place of the first of the description, or at the end. -/
theorem put_cases (described : α -> Bool) (item : α) (items : List α) :
    (∃ before old later, items = before ++ old :: later ∧ described old ∧
      put described item items = before ++ item :: later) ∨
    ((∀ other ∈ items, described other = false) ∧ put described item items = items ++ [item]) := by
  induction items with
  | nil => exact .inr ⟨by simp, rfl⟩
  | cons first rest ih =>
    cases found : described first with
    | true => exact .inl ⟨[], first, rest, rfl, found, by rw [put, if_pos found]; rfl⟩
    | false =>
      rw [put, if_neg (by simp [found])]
      rcases ih with ⟨before, old, later, split, fits, placed⟩ | ⟨missed, appended⟩
      · exact .inl ⟨first :: before, old, later, by rw [split]; rfl, fits, by rw [placed]; rfl⟩
      · exact .inr ⟨forall_mem_cons.mpr ⟨found, missed⟩, by rw [appended]; rfl⟩

theorem find_put_self {described : α -> Bool} {item : α} (fits : described item)
    (items : List α) : (put described item items).find? described = some item := by
  induction items with
  | nil => exact find?_cons_of_pos fits
  | cons first _ ih =>
    cases found : described first with
    | true =>
      rw [put, if_pos found]
      exact find?_cons_of_pos fits
    | false =>
      rw [put, if_neg (by simp [found]), find?_cons_of_neg (by simp [found])]
      exact ih

theorem find_put_other {described sought : α -> Bool} {item : α} (misses : sought item = false)
    (apart : forall other, described other -> sought other = false) (items : List α) :
    (put described item items).find? sought = items.find? sought := by
  induction items with
  | nil => exact find?_cons_of_neg (by simp [misses])
  | cons first _ ih =>
    cases found : described first with
    | true =>
      rw [put, if_pos found, find?_cons_of_neg (by simp [misses]),
        find?_cons_of_neg (by simp [apart first found])]
    | false =>
      rw [put, if_neg (by simp [found]), find?_cons, find?_cons, ih]

end FirstMatch
