import Mathlib.Data.List.Lex
import Mathlib.Data.List.Nodup
import Mathlib.Data.List.Sort
import Mathlib.Order.Fin.Basic

namespace WazuhOperator
namespace NodePools

open List

/-!
# What the hashes of maps can tell apart

`HashMap`, `ComputeConfigHash` and `ComputeSecretHash` hash the entries of a
map in the order of their keys, each as key, `=`, value and a line break.  As
these may stand in values too, the texts of different maps can be the same.
-/

abbrev Byte : Type := Fin 256

abbrev Bytes : Type := List Byte

/-- A Go map, in the order of one iteration over it. -/
structure GoMap where
  entries : List (Bytes × Bytes)
  distinct : (entries.map Prod.fst).Nodup

namespace GoMap

def equals : Byte := 61

def newline : Byte := 10

def spelled (entry : Bytes × Bytes) : Bytes := entry.1 ++ equals :: (entry.2 ++ [newline])

def ordered (data : GoMap) : List (Bytes × Bytes) :=
  data.entries.insertionSort fun first second => first.1 ≤ second.1

def combined (data : GoMap) : Bytes := data.ordered.flatMap spelled

variable (sha256 : Bytes -> Bytes)

def computeConfigHash (data : GoMap) : Bytes :=
  if data.entries.length = 0 then [] else (sha256 data.combined).take 16

/-- The values are turned into strings, which are bytes again. -/
def computeSecretHash (data : GoMap) : Bytes := computeConfigHash sha256 data

def Same (data other : GoMap) : Prop := data.entries ~ other.entries

variable {data other : GoMap}

theorem ordered_perm (data : GoMap) : data.ordered ~ data.entries := perm_insertionSort ..

theorem ordered_eq_of_same (same : data.Same other) : data.ordered = other.ordered := by
  have : IsTrans (Bytes × Bytes) (fun first second => first.1 ≤ second.1) :=
    ⟨fun _ _ _ below above => le_trans below above⟩
  have : Std.Total (fun first second : Bytes × Bytes => first.1 ≤ second.1) :=
    ⟨fun first second => le_total first.1 second.1⟩
  refine Perm.eq_of_pairwise (fun first second inFirst inSecond below above => ?_)
    (pairwise_insertionSort _ _) (pairwise_insertionSort _ _)
    (data.ordered_perm.trans (same.trans other.ordered_perm.symm))
  exact inj_on_of_nodup_map other.distinct (same.subset (data.ordered_perm.subset inFirst))
    (other.ordered_perm.subset inSecond) (le_antisymm below above)

theorem combined_eq_of_same (same : data.Same other) : data.combined = other.combined :=
  congrArg (·.flatMap spelled) (ordered_eq_of_same same)

def single (key value : Bytes) : GoMap := ⟨[(key, value)], nodup_singleton key⟩

@[simp]
theorem combined_single (key value : Bytes) :
    (single key value).combined = key ++ equals :: (value ++ [newline]) := by
  simp [combined, ordered, single, spelled]

theorem same_single (same : (single key value).Same data) :
    data.entries = [(key, value)] :=
  (singleton_perm.mp same).symm

/-- The first entry can take all others into its value. -/
theorem exists_single_combined (occupied : data.entries ≠ []) :
    exists key value, (single key value).combined = data.combined := by
  have occupiedOrder : data.ordered ≠ [] := fun empty =>
    occupied (data.ordered_perm.symm.trans (Perm.of_eq empty)).eq_nil
  obtain ⟨⟨key, value⟩, later, order⟩ := exists_cons_of_ne_nil occupiedOrder
  rcases eq_nil_or_concat later with rfl | ⟨between, last, rfl⟩
  · exact ⟨key, value, by rw [combined_single]; simp [combined, order, spelled]⟩
  · refine ⟨key, value ++ newline :: (between.flatMap spelled ++ last.1 ++ equals :: last.2), ?_⟩
    rw [combined_single]
    simp [combined, order, spelled]

theorem combined_eq_nil : data.combined = [] <-> data.entries = [] := by
  constructor
  · intro empty
    by_contra occupied
    obtain ⟨key, value, agree⟩ := exists_single_combined occupied
    simp [empty] at agree
  · intro empty
    simp [combined, ordered, empty]

/-- Equal hashes mean equal texts. -/
theorem computeConfigHash_eq_iff (written : forall text, (sha256 text).take 16 ≠ [])
    (collisionFree : Function.Injective fun text => (sha256 text).take 16) :
    computeConfigHash sha256 data = computeConfigHash sha256 other <->
      data.combined = other.combined := by
  have hashed (data : GoMap) : computeConfigHash sha256 data =
      if data.combined = [] then [] else (sha256 data.combined).take 16 := by
    simp [computeConfigHash, combined_eq_nil]
  rw [hashed, hashed]
  split <;> split
  · next empty noneOther => simp [empty, noneOther]
  · next empty someOther => simp [empty, Ne.symm someOther, (written _).symm]
  · next given noneOther => simp [given, noneOther, written]
  · exact collisionFree.eq_iff

/-- Without a `=` in it, an entry can be read off the text. -/
theorem same_of_combined_single (keyPlain : equals ∉ key)
    (valuePlain : equals ∉ value) (agree : (single key value).combined = data.combined) :
    data.Same (single key value) := by
  refine data.ordered_perm.symm.trans (Perm.of_eq ?_)
  rw [combined_single, combined] at agree
  cases order : data.ordered with
  | nil => simp [order] at agree
  | cons entry later =>
    have tailPlain : equals ∉ value ++ [newline] := by
      simpa using ⟨valuePlain, by decide⟩
    rw [order, flatMap_cons, spelled, append_assoc, cons_append,
      append_cons_inj_of_notMem keyPlain tailPlain] at agree
    obtain ⟨rfl, -, agree⟩ := agree
    cases later with
    | nil =>
      have : value = entry.2 := by simpa using agree
      rw [single, this]
    | cons =>
      rw [agree] at tailPlain
      simp [spelled] at tailPlain

/-- A map is told from all others by the text which is hashed, whatever the order
of iteration, if and only if it has at most one entry, without a `=` in its key
or value. -/
theorem hash_tells_map_iff (data : GoMap) :
    (forall other : GoMap, other.combined = data.combined <-> other.Same data) <->
      data.entries.length ≤ 1 ∧ ∀ entry ∈ data.entries, equals ∉ entry.1 ∧ equals ∉ entry.2 := by
  constructor
  · intro told
    by_cases occupied : data.entries = []
    · simp [occupied]
    · obtain ⟨key, value, agree⟩ := exists_single_combined occupied
      have entries := same_single ((told _).mp agree)
      -- A further sign in the entry allows another cut.
      have cut {otherKey otherValue : Bytes}
          (texts : otherKey ++ equals :: (otherValue ++ [newline]) =
            key ++ equals :: (value ++ [newline])) : otherKey = key := by
        have same := (told (single otherKey otherValue)).mp (by simpa [← agree] using texts)
        exact (by simpa [entries] using (same_single same).symm : _ ∧ _).1
      refine ⟨by simp [entries], ?_⟩
      simp only [entries, mem_singleton, forall_eq]
      constructor
      · intro inKey
        obtain ⟨front, back, rfl⟩ := append_of_mem inKey
        have := @cut front (back ++ equals :: value) (by simp)
        simp at this
      · intro inValue
        obtain ⟨front, back, rfl⟩ := append_of_mem inValue
        have := @cut (key ++ equals :: front) back (by simp)
        simp at this
  · rintro ⟨short, plain⟩ other
    refine ⟨fun agree => ?_, combined_eq_of_same⟩
    obtain ⟨entries, distinct⟩ := data
    match entries with
    | [] =>
      exact Perm.of_eq (combined_eq_nil.mp (agree.trans (combined_eq_nil.mpr rfl)))
    | [entry] =>
      have entryPlain := plain entry mem_cons_self
      exact same_of_combined_single entryPlain.1 entryPlain.2 agree.symm

/-- Two entries, and one with the second in its value. -/
theorem entry_in_value :
    ¬ forall data other : GoMap, data.combined = other.combined -> data.Same other := by
  intro told
  have same := told ⟨[([97], [49]), ([98], [50])], by decide⟩
    (single [97] [49, newline, 98, equals, 50]) (by decide +kernel)
  exact absurd same.length_eq (by decide)

end GoMap

end NodePools
end WazuhOperator
