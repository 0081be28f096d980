import WazuhOperator.Cluster.Objects
import WazuhOperator.Library.HostNames

namespace WazuhOperator
namespace NodePools

open List

/-!
# The names of indexer StatefulSets and their pods

The name of a StatefulSet consists of the name of the cluster, `-indexer`, and
the name of the pool, if there is one.  As `-indexer` may stand in either name,
two names can come out the same.
-/

/-- The indexer of a cluster in simple mode, or one of its pools. -/
structure IndexerSet where
  clusterName : String
  poolName : Option String := none
  deriving DecidableEq

namespace IndexerSet

def name (set : IndexerSet) : String :=
  match set.poolName with
  | none => indexerName set.clusterName
  | some poolName => indexerNodePoolName set.clusterName poolName

def ending (set : IndexerSet) : String :=
  match set.poolName with
  | none => ""
  | some poolName => "-" ++ poolName

/-- The name of the other cluster goes on with `-indexer`, and that of the pool makes up for it. -/
def GoesOn (set other : IndexerSet) : Prop :=
  ∃ part, other.clusterName = set.clusterName ++ "-indexer" ++ part ∧
    set.ending = part ++ "-indexer" ++ other.ending

variable {set other : IndexerSet}

theorem name_eq (set : IndexerSet) : set.name = set.clusterName ++ "-indexer" ++ set.ending := by
  rcases set with ⟨clusterName, _ | poolName⟩
  · exact (String.append_empty).symm
  · simp [name, ending, indexerNodePoolName, String.ext_iff]

theorem eq_of_parts (names : set.clusterName.toList = other.clusterName.toList)
    (endings : set.ending.toList = other.ending.toList) : set = other := by
  rcases set with ⟨clusterName, _ | poolName⟩ <;> rcases other with ⟨otherName, _ | otherPool⟩ <;>
    simp_all [ending, String.toList_inj]

/-- `-indexer` does not overlap with itself. -/
theorem goesOn_of_longer (longer : other.clusterName.toList = set.clusterName.toList ++ extra)
    (rest : "-indexer".toList ++ set.ending.toList = extra ++ ("-indexer".toList ++ other.ending.toList)) :
    set = other ∨ set.GoesOn other := by
  rcases append_eq_append_iff.mp rest with ⟨part, rfl, tail⟩ | ⟨part, marker, tail⟩
  · exact .inr ⟨String.ofList part, by simp [String.ext_iff, longer], by simp [String.ext_iff, tail]⟩
  cases extra with
  | nil => exact .inl (eq_of_parts (by simpa using longer.symm) (by simpa using rest))
  | cons first extra =>
    cases part with
    | nil =>
      rw [append_nil] at marker
      exact .inr ⟨"", by simp [String.ext_iff, longer, ← marker], by simpa [String.ext_iff] using tail.symm⟩
    | cons letter part =>
      have inside : letter ∈ "indexer".toList := by
        rw [show "indexer".toList = extra ++ letter :: part from (cons.inj marker).2]
        simp
      rw [← (cons.inj tail).1] at inside
      exact absurd inside (by decide)

theorem name_eq_of_goesOn (goesOn : set.GoesOn other) : set.name = other.name := by
  rcases goesOn with ⟨part, names, endings⟩
  simp [name_eq, names, endings, String.append_assoc]

theorem dash_notMem_digits (ordinal : Nat) : '-' ∉ (Nat.repr ordinal).toList := by
  intro member
  rw [Nat.toList_repr] at member
  exact absurd (Nat.isDigit_of_mem_toDigits (by decide) (by decide) member) (by decide)

/-- Digits contain no dash, so that the name of a pod tells that of the StatefulSet. -/
theorem sets_eq_of_podName_eq
    (same : podName first ordinal = podName second later) : first = second := by
  have reversed : (Nat.repr ordinal).toList.reverse ++ '-' :: first.toList.reverse =
      (Nat.repr later).toList.reverse ++ '-' :: second.toList.reverse := by
    simpa [podName] using congrArg (fun name => name.toList.reverse) same
  have digits := HostNames.label_eq_of_append (mt mem_reverse.mp (dash_notMem_digits ordinal))
    (mt mem_reverse.mp (dash_notMem_digits later)) reversed
  rw [digits] at reversed
  simpa [String.toList_inj] using reversed

/-- Two indexer StatefulSets and all of their pods have different names if and only if the name of
neither cluster goes on where the other's pool takes it up. -/
theorem names_unambiguous_iff (set other : IndexerSet) :
    ((set.name = other.name -> set = other) ∧
        forall ordinal later, podName set.name ordinal = podName other.name later ->
          set = other ∧ ordinal = later) <->
      ¬ set.GoesOn other ∧ ¬ other.GoesOn set := by
  have differ {first second : IndexerSet} (goesOn : first.GoesOn second) : first ≠ second := by
    rintro rfl
    rcases goesOn with ⟨part, names, _⟩
    simpa using congrArg (fun name => name.toList.length) names
  constructor
  · rintro ⟨told, -⟩
    exact ⟨fun goesOn => differ goesOn (told (name_eq_of_goesOn goesOn)),
      fun goesOn => differ goesOn (told (name_eq_of_goesOn goesOn).symm).symm⟩
  · rintro ⟨apart, also⟩
    have told (same : set.name = other.name) : set = other := by
      have lists := congrArg String.toList same
      simp only [name_eq, String.toList_append, append_assoc] at lists
      rcases append_eq_append_iff.mp lists with ⟨extra, longer, rest⟩ | ⟨extra, longer, rest⟩
      · exact (goesOn_of_longer longer rest).resolve_right apart
      · exact ((goesOn_of_longer longer rest).resolve_right also).symm
    refine ⟨told, fun ordinal later same => ?_⟩
    obtain rfl := told (sets_eq_of_podName_eq same)
    exact ⟨rfl, podName_injective _ same⟩

/-- A pool of the cluster `siem` and one of the cluster `siem-indexer`. -/
theorem pools_share_name :
    let set : IndexerSet := ⟨"siem", some "indexer-data"⟩
    let other : IndexerSet := ⟨"siem-indexer", some "data"⟩
    set ≠ other ∧ set.name = other.name ∧ podName set.name 0 = podName other.name 0 := by
  decide

end IndexerSet

end NodePools
end WazuhOperator
