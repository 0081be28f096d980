import Mathlib.Logic.Basic

namespace Patterns

/-!
# Searching a text for a pattern

A pattern is a sequence of items, each of which reads characters of a class:
one of them, any number of them, or at least one of them which are handed
out.  Matching tries the longest reading of a repetition first and goes back
to shorter ones where the rest of the pattern does not match, which is the
order of preference of regular expressions with greedy repetitions.

A search goes through the text from left to right, takes the first place at
which the pattern matches, and goes on behind what was matched.
-/

inductive Item where
  | one (allowed : Char -> Bool)
  /-- Any number of characters, as many as possible. -/
  | many (allowed : Char -> Bool)
  /-- At least one character, as many as possible; they are handed out. -/
  | captured (allowed : Char -> Bool)

def literal (text : String) : List Item := text.toList.map fun expected => .one (· == expected)

def some1 (allowed : Char -> Bool) : List Item := [.one allowed, .many allowed]

section Matching

variable {ρ : Type}

/-- Read as many allowed characters as possible such that `next` succeeds on what remains. -/
def greedy (allowed : Char -> Bool) (next : List Char -> Option ρ) :
    List Char -> Option (List Char × ρ)
  | [] => (next []).map fun result => ([], result)
  | char :: text =>
    if allowed char then
      match greedy allowed next text with
      | some (word, result) => some (char :: word, result)
      | none => (next (char :: text)).map fun result => ([], result)
    else (next (char :: text)).map fun result => ([], result)

/-- Match a pattern at the beginning of a text: what it hands out, and what is left of the
text. -/
def matchAt : List Item -> List Char -> Option (List Char × List Char)
  | [], text => some ([], text)
  | .one _ :: _, [] => none
  | .one allowed :: items, char :: text => if allowed char then matchAt items text else none
  | .many allowed :: items, text => (greedy allowed (matchAt items) text).map Prod.snd
  | .captured _ :: _, [] => none
  | .captured allowed :: items, char :: text =>
    if allowed char then
      (greedy allowed (matchAt items) text).map fun found =>
        (char :: found.1 ++ found.2.1, found.2.2)
    else none

/-- What all matches of a pattern in a text hand out, from left to right; `skip` characters
belong to the match before. -/
def findFrom (items : List Item) : Nat -> List Char -> List (List Char)
  | _, [] => []
  | skip + 1, _ :: text => findFrom items skip text
  | 0, char :: text =>
    match matchAt items (char :: text) with
    | none => findFrom items 0 text
    | some (word, rest) => word :: findFrom items (text.length - rest.length) text

/-- `FindAllStringSubmatch` for a pattern with one group which matches no empty text. -/
def findAll (items : List Item) (text : String) : List String :=
  (findFrom items 0 text.toList).map String.ofList

/-! ## What is found -/

section Reading

variable {allowed : Char -> Bool} {next : List Char -> Option ρ} {word text rest : List Char} {stop : Char}

/-- Nothing is read where the rest of the pattern matches at no place up to the first character
which is not allowed. -/
theorem greedy_eq_none (stops : allowed stop = false)
    (fails : ∀ left, left <:+ word -> next (left ++ stop :: rest) = none) :
    greedy allowed next (word ++ stop :: rest) = none := by
  induction word with
  | nil => simpa [greedy, stops] using fails [] List.suffix_rfl
  | cons char word ih =>
    have here := fails (char :: word) List.suffix_rfl
    have later := ih fun left inside => fails left (inside.trans (List.suffix_cons char word))
    rw [List.cons_append] at here ⊢
    simp [greedy, here, later]

theorem greedy_append (every : ∀ char ∈ word, allowed char) (reads : greedy allowed next text = some (more, result)) :
    greedy allowed next (word ++ text) = some (word ++ more, result) := by
  induction word with
  | nil => exact reads
  | cons char word ih =>
    rw [List.forall_mem_cons] at every
    simp [greedy, every.1, ih every.2]

theorem greedy_stop (stops : allowed stop = false) (reads : next (stop :: rest) = some result) :
    greedy allowed next (stop :: rest) = some ([], result) := by
  simp [greedy, stops, reads]

end Reading

section Items

variable {allowed : Char -> Bool} {items : List Item} {word text rest : List Char} {stop : Char}

theorem matchAt_literal (expected : String) (items : List Item) (text : List Char) :
    matchAt (literal expected ++ items) (expected.toList ++ text) = matchAt items text := by
  unfold literal
  generalize expected.toList = letters
  induction letters with
  | nil => rfl
  | cons letter letters ih => simpa [matchAt] using ih

theorem matchAt_literal_none (differs : ¬ expected.toList <+: text) :
    matchAt (literal expected ++ items) text = none := by
  unfold literal
  generalize expected.toList = letters at differs
  induction letters generalizing text with
  | nil => exact absurd List.nil_prefix differs
  | cons letter letters ih =>
    cases text with
    | nil => rfl
    | cons char text =>
      rw [List.cons_prefix_cons] at differs
      by_cases same : char = letter
      · simpa [matchAt, same] using ih fun begins => differs ⟨same.symm, begins⟩
      · simp [matchAt, same]

theorem matchAt_many (every : ∀ char ∈ word, allowed char) (stops : allowed stop = false)
    (found : matchAt items (stop :: text) = some result) :
    matchAt (.many allowed :: items) (word ++ stop :: text) = some result := by
  rw [matchAt, greedy_append every (greedy_stop stops found)]
  rfl

theorem matchAt_captured (occupied : word ≠ []) (every : ∀ char ∈ word, allowed char)
    (stops : allowed stop = false) (found : matchAt items (stop :: text) = some ([], rest)) :
    matchAt (.captured allowed :: items) (word ++ stop :: text) = some (word, rest) := by
  cases word with
  | nil => exact absurd rfl occupied
  | cons char word =>
    rw [List.forall_mem_cons] at every
    rw [List.cons_append, matchAt, if_pos every.1, greedy_append every.2 (greedy_stop stops found)]
    simp

theorem findFrom_skip (word : List Char) : findFrom items word.length (word ++ text) = findFrom items 0 text := by
  induction word with
  | nil => rfl
  | cons char word ih => exact ih

/-- A match at the beginning is handed out, and the search goes on behind it. -/
theorem findFrom_found (found : matchAt items (char :: (used ++ rest)) = some (word, rest)) :
    findFrom items 0 (char :: (used ++ rest)) = word :: findFrom items 0 rest := by
  rw [findFrom, found]
  simp [findFrom_skip]

/-- Nothing is found at places where the pattern does not match. -/
theorem findFrom_gap (fails : ∀ left, left <:+ word -> left ≠ [] -> matchAt items (left ++ text) = none) :
    findFrom items 0 (word ++ text) = findFrom items 0 text := by
  induction word with
  | nil => rfl
  | cons char word ih =>
    have here : matchAt items (char :: (word ++ text)) = none :=
      fails (char :: word) List.suffix_rfl (List.cons_ne_nil char word)
    rw [List.cons_append, findFrom, here]
    exact ih fun left inside => fails left (inside.trans (List.suffix_cons char word))

/-- Letters which a gap does not contain do not begin in it either, where what follows the gap
begins with a character that is not among the later ones. -/
theorem not_prefix_gap {letters : List Char} (absent : ¬ letters <:+: word)
    (follows : ∀ char ∈ text.head?, char ∉ letters.tail) (inside : left <:+ word) (occupied : left ≠ []) :
    ¬ letters <+: left ++ text := by
  intro begins
  rcases List.prefix_or_prefix_of_prefix begins (List.prefix_append left text) with within | ⟨more, rfl⟩
  · exact absent (within.isInfix.trans inside.isInfix)
  · rw [List.prefix_append_right_inj] at begins
    cases more with
    | nil => exact absent (by simpa using inside.isInfix)
    | cons char more =>
      rcases begins with ⟨beyond, rfl⟩
      refine follows char rfl ?_
      cases left with
      | nil => exact absurd rfl occupied
      | cons => simp

end Items

end Matching

end Patterns
