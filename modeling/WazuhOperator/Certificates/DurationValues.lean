import WazuhOperator.Certificates.Durations

namespace WazuhOperator
namespace Certificates

/-!
# The durations which are written

`ParseCertDuration` against the number and the unit which a text names, and
`FormatCertDuration`, whose texts are read back.  The number has to fit into
64 bits, but its product with the unit is not looked at.
-/

/-! ## What a text names -/

def numeral (text : List Char) : Option Int :=
  match text with
  | '+' :: digits => parseDigits digits
  | '-' :: digits => (parseDigits digits).map Neg.neg
  | digits => parseDigits digits

def unitOf (letter : Char) : Option Int :=
  match letter.toLower with
  | 'd' => some (24 * hour)
  | 'h' => some hour
  | 'm' => some minute
  | _ => none

def named (text : String) : Option (Int × Int) := do
  let trimmed := trimSpace text.toList
  let unit ← trimmed.getLast?.bind unitOf
  let number ← numeral trimmed.dropLast
  return (number, unit)

theorem atoi_eq_some :
    atoi text = some number <-> numeral text = some number ∧ -2 ^ 63 ≤ number ∧ number < 2 ^ 63 := by
  have : atoi text = (numeral text).filter fun number => -2 ^ 63 ≤ number && number < 2 ^ 63 := by
    rfl
  rw [this, Option.filter_eq_some_iff]
  simp

theorem named_eq_some :
    named text = some (number, unit) <-> exists letter, (trimSpace text.toList).getLast? = some letter ∧
      unitOf letter = some unit ∧ numeral (trimSpace text.toList).dropLast = some number := by
  simp only [named, bind, Option.bind_eq_some_iff]
  grind

theorem unitOf_positive (known : unitOf letter = some unit) :
    0 < unit := by
  unfold unitOf at known
  split at known <;> cases known <;> decide

theorem parseCertDuration_eq_ok :
    parseCertDuration text = .ok duration <-> exists number unit, named text = some (number, unit) ∧
      0 ≤ number ∧ number < 2 ^ 63 ∧ duration = wrap64 (number * unit) := by
  constructor
  · intro accepted
    unfold parseCertDuration at accepted
    cases ending : (trimSpace text.toList).getLast? with
    | none => simp [ending] at accepted
    | some letter =>
      cases read : atoi (trimSpace text.toList).dropLast with
      | none => simp [ending, read] at accepted
      | some number =>
        obtain ⟨reads, -, fits⟩ := atoi_eq_some.mp read
        simp only [ending, read] at accepted
        split at accepted
        · nomatch accepted
        · next nonnegative =>
          have names {unit : Int} (known : unitOf letter = some unit) :=
            named_eq_some.mpr ⟨letter, ending, known, reads⟩
          have bounds : 0 ≤ number ∧ number < 2 ^ 63 := ⟨Int.not_lt.mp nonnegative, fits⟩
          split at accepted <;> cases accepted
          · next isUnit =>
            exact ⟨_, _, names (by simp [unitOf, isUnit]; rfl), bounds.1, bounds.2, by
              rw [Int.mul_assoc]⟩
          · next isUnit => exact ⟨_, _, names (by simp [unitOf, isUnit]), bounds.1, bounds.2, rfl⟩
          · next isUnit => exact ⟨_, _, names (by simp [unitOf, isUnit]), bounds.1, bounds.2, rfl⟩
  · rintro ⟨number, unit, names, nonnegative, fits, rfl⟩
    obtain ⟨letter, ending, known, reads⟩ := named_eq_some.mp names
    have read := atoi_eq_some.mpr ⟨reads, by omega, fits⟩
    simp only [parseCertDuration, ending, read, if_neg (Int.not_lt.mpr nonnegative)]
    unfold unitOf at known
    split at known <;> cases known
    all_goals simp [*, Int.mul_assoc]

/-- What is named survives the multiplication in 64 bits where it fits. -/
theorem wrap64_named (names : named text = some (number, unit))
    (nonnegative : 0 ≤ number) : wrap64 (number * unit) = number * unit <-> number * unit < 2 ^ 63 := by
  obtain ⟨_, _, known, _⟩ := named_eq_some.mp names
  have product := Int.mul_nonneg nonnegative (Int.le_of_lt (unitOf_positive known))
  have cut (value : Int) : wrap64 value =
    if value % 2 ^ 64 < 2 ^ 63 then value % 2 ^ 64 else value % 2 ^ 64 - 2 ^ 64 := rfl
  rw [cut]
  split <;> omega

/-! ## `FormatCertDuration` -/

/-- The quotients are positive where they are written. -/
def formatCertDuration (duration : Int) : String :=
  if duration ≤ 0 then "0m"
  else if 0 < duration / (24 * hour) ∧ duration % (24 * hour) = 0 then
    (duration / (24 * hour)).toNat.repr ++ "d"
  else if 0 < duration / hour ∧ duration % hour = 0 then (duration / hour).toNat.repr ++ "h"
  else (duration / minute).toNat.repr ++ "m"

theorem trimSpace_eq_self (visible : ∀ letter ∈ text, isSpace letter = false) :
    trimSpace text = text := by
  have kept {letters : List Char} (visible : ∀ letter ∈ letters, isSpace letter = false) :
      letters.dropWhile isSpace = letters := by
    cases letters with
    | nil => rfl
    | cons first later => simp [visible first]
  rw [trimSpace, kept visible, kept (by simpa using visible), List.reverse_reverse]

theorem isSpace_of_isDigit (digit : letter.isDigit) : isSpace letter = false := by
  simp only [Char.isDigit, Bool.and_eq_true, decide_eq_true_eq, UInt32.le_iff_toNat_le] at digit
  change 48 ≤ letter.toNat ∧ letter.toNat ≤ 57 at digit
  simp [isSpace, ← UInt32.toNat_inj, UInt32.le_iff_toNat_le]
  omega

theorem numeral_toDigits (number : Nat) : numeral (Nat.toDigits 10 number) = some (number : Int) := by
  have digits {letter : Char} := @Nat.isDigit_of_mem_toDigits 10 number letter (by decide) (by decide)
  have value : parseDigits (Nat.toDigits 10 number) = some (number : Int) := by
    rw [parseDigits, if_pos]
    · simp
    · simpa using fun letter => @digits letter
  unfold numeral
  split
  · next later shape => exact absurd (digits (shape ▸ List.mem_cons_self)) (by decide)
  · next later shape => exact absurd (digits (shape ▸ List.mem_cons_self)) (by decide)
  · exact value

theorem named_repr (known : unitOf letter = some unit)
    (visible : isSpace letter = false) (number : Nat) :
    named (number.repr ++ String.singleton letter) = some ((number : Int), unit) := by
  have text : trimSpace (number.repr ++ String.singleton letter).toList =
      Nat.toDigits 10 number ++ [letter] := by
    rw [String.toList_append, Nat.toList_repr, String.toList_singleton]
    refine trimSpace_eq_self fun other mem => ?_
    rcases List.mem_append.mp mem with digit | unit
    · exact isSpace_of_isDigit (Nat.isDigit_of_mem_toDigits (by decide) (by decide) digit)
    · rwa [List.mem_singleton.mp unit]
  refine named_eq_some.mpr ⟨letter, by rw [text, List.getLast?_concat], known, ?_⟩
  rw [text, List.dropLast_concat, numeral_toDigits]

theorem parse_repr (letter : Char) (known : unitOf letter = some unit)
    (visible : isSpace letter = false) (positive : 0 < number)
    (inRange : number * unit < 2 ^ 63) :
    parseCertDuration (number.toNat.repr ++ String.singleton letter) = .ok (number * unit) := by
  have names := named_repr known visible number.toNat
  rw [Int.toNat_of_nonneg (Int.le_of_lt positive)] at names
  have fits := Int.mul_le_mul_of_nonneg_left (unitOf_positive known) (Int.le_of_lt positive)
  exact parseCertDuration_eq_ok.mpr ⟨number, unit, names, by omega, by omega,
    ((wrap64_named names (by omega)).mpr inRange).symm⟩

theorem parse_format (minutes : Nat) (positive : 0 < minutes) (inRange : minutes * minute < 2 ^ 63) :
    parseCertDuration (formatCertDuration (minutes * minute)) = .ok (minutes * minute) := by
  have minutePositive : 0 < minutes * minute := Int.mul_pos (by omega) (by decide)
  rw [formatCertDuration, if_neg (by omega)]
  split
  · next whole =>
    have cut := Int.ediv_mul_cancel (Int.dvd_of_emod_eq_zero whole.2)
    conv_rhs => rw [← cut]
    exact parse_repr 'd' rfl (by decide) whole.1 (by omega)
  · split
    · next whole =>
      have cut := Int.ediv_mul_cancel (Int.dvd_of_emod_eq_zero whole.2)
      conv_rhs => rw [← cut]
      exact parse_repr 'h' rfl (by decide) whole.1 (by omega)
    · rw [Int.mul_ediv_cancel _ (by decide)]
      exact parse_repr 'm' rfl (by decide) (by omega) inRange

/-- What is read from a text is what it names, and what has been written for a
whole number of minutes is read back, if and only if a number which fits into
64 bits fits with its unit. -/
theorem durations_exact_iff (text : String) :
    ((forall duration, parseCertDuration text = .ok duration ->
        exists number unit, named text = some (number, unit) ∧ duration = number * unit) ∧
      (forall minutes : Nat, 0 < minutes -> minutes * minute < 2 ^ 63 ->
        parseCertDuration (formatCertDuration (minutes * minute)) = .ok (minutes * minute))) <->
      forall number unit, named text = some (number, unit) -> 0 ≤ number -> number < 2 ^ 63 ->
        number * unit < 2 ^ 63 := by
  rw [and_iff_left parse_format]
  constructor
  · intro exact number unit names nonnegative fits
    obtain ⟨_, _, same, value⟩ := exact _ (parseCertDuration_eq_ok.mpr
      ⟨number, unit, names, nonnegative, fits, rfl⟩)
    cases names.symm.trans same
    exact (wrap64_named names nonnegative).mp value
  · intro small duration accepted
    obtain ⟨number, unit, names, nonnegative, fits, rfl⟩ := parseCertDuration_eq_ok.mp accepted
    exact ⟨number, unit, names,
      (wrap64_named names nonnegative).mpr (small number unit names nonnegative fits)⟩

/-- The number of days is one too large for 64 bits. -/
theorem many_days_wrap :
    ¬ forall text duration, parseCertDuration text = .ok duration ->
      exists number unit, named text = some (number, unit) ∧ duration = number * unit := by
  intro exact
  obtain ⟨_, _, names, value⟩ := exact "106752d" (wrap64 (106752 * 24 * hour)) (by decide +kernel)
  cases names.symm.trans (by decide +kernel : named "106752d" = some (106752, 24 * hour))
  exact absurd value (by decide +kernel)

end Certificates
end WazuhOperator
