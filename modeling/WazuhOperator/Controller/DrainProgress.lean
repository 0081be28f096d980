import WazuhOperator.Indexer.Drainer
import WazuhOperator.Worker.Drainer

namespace WazuhOperator
namespace Drain

open Procedure Indexer Worker

/-!
# What a drain reports as its progress

The percentage counts what has left the node, in 32 bits for shards and in 64
for events.  It is no measure of what the end of a drain waits for: a drain
which found nothing at its start is at 100 percent whatever comes later, and so
is one that has nothing left but waits for the cluster or the grace period.
-/

/-- A status after a look at a node with so many shards. -/
def ShardProgress (initial : Int32) (remaining : Int) (progress : Int32) : Prop :=
  exists (count relocating : Nat) (status : ComponentDrainStatus) (message : String), remaining = count ∧
    progress = (updateProgress status (progressReport initial count relocating).percent message).progress

/-- A status after a look at a worker with so many events. -/
def QueueProgress (initial : Int64) (remaining : Int) (progress : Int32) : Prop :=
  exists depth now key node drainer report status message, remaining = depth.toInt ∧
    drainer.initialQueueDepth = initial ∧
    (ManagerDrainer.monitorQueueDepth (.ok depth) now key node drainer).result = .ok report ∧
    progress = (updateProgress status report.percent message).progress

/-- Whatever is stored is between 0 and 100. -/
def IsPercentage (stored : Int -> Int32 -> Prop) : Prop :=
  forall remaining progress, stored remaining progress -> 0 ≤ progress ∧ progress ≤ 100

/-- Progress does not fall when less remains, and comes to 100 only when nothing remains or
nothing was there. -/
structure Meaningful (initial limit : Int) (stored : Int -> Int32 -> Prop) : Prop where
  antitone : forall fewer more less greater, 0 ≤ fewer -> fewer ≤ more -> more < limit ->
    stored fewer greater -> stored more less -> less ≤ greater
  complete : forall remaining, 0 ≤ remaining -> remaining < limit -> stored remaining 100 ->
    remaining = 0 ∨ initial ≤ 0

/-- The percentage which is stored, in unbounded arithmetic. -/
def percentage (initial remaining : Int) : Int :=
  if 0 < initial then max 0 (min 100 ((initial - remaining) * 100 / initial)) else 100

theorem zero_toInt : (0 : Int32).toInt = 0 := rfl

theorem hundred_toInt : (100 : Int32).toInt = 100 := rfl

variable (status : ComponentDrainStatus)

theorem updateProgress_toInt (percent : Int32) (message : String) :
    (updateProgress status percent message).progress.toInt = max 0 (min 100 percent.toInt) := by
  simp only [updateProgress, Int32.lt_iff_toInt_lt, hundred_toInt, zero_toInt]
  have zero := zero_toInt
  have hundred := hundred_toInt
  split <;> split <;> omega

variable {initial : Int}

theorem percentage_antitone (less : fewer ≤ more) :
    percentage initial more ≤ percentage initial fewer := by
  unfold percentage
  split
  · have order := Int.ediv_le_ediv ‹0 < initial›
      (show (initial - more) * 100 ≤ (initial - fewer) * 100 by omega)
    omega
  · exact Int.le_refl 100

variable {remaining : Int}

theorem percentage_complete (left : 0 ≤ remaining) (full : percentage initial remaining = 100) :
    remaining = 0 ∨ initial ≤ 0 := by
  unfold percentage at full
  split at full
  · by_cases zero : remaining = 0
    · exact .inl zero
    · have short := @Int.ediv_lt_of_lt_mul ((initial - remaining) * 100) 100 initial ‹_› (by omega)
      omega
  · exact .inr (by omega)

theorem percentage_none (initial : Int) : percentage initial 0 = 100 := by
  unfold percentage
  split
  · rw [Int.sub_zero, Int.mul_ediv_cancel_left _ (by omega)]
    rfl
  · rfl

/-- The direction of rounding makes no difference after clamping. -/
theorem clamp_tdiv (positive : 0 < initial) :
    max 0 (min 100 (moved.tdiv initial)) = max 0 (min 100 (moved / initial)) := by
  by_cases nonneg : 0 ≤ moved
  · rw [Int.tdiv_eq_ediv_of_nonneg nonneg]
  · have below := Int.ediv_neg_of_neg_of_pos (Int.not_le.mp nonneg) positive
    rw [Int.tdiv_eq_ediv, Int.sign_eq_one_of_pos positive]
    split <;> omega

theorem ShardProgress.toInt {initial progress : Int32} (small : initial.toInt * 100 < 2 ^ 31)
    (few : remaining * 100 < 2 ^ 31) (stored : ShardProgress initial remaining progress) :
    progress.toInt = percentage initial.toInt remaining := by
  rcases stored with ⟨count, relocating, status, message, rfl, rfl⟩
  rw [updateProgress_toInt]
  unfold progressReport
  split
  · rename_i finished
    rw [finished.1]
    exact (percentage_none _).symm
  · have counted : (Int32.ofNat count).toInt = count := Int32.toInt_ofNat_of_lt (by omega)
    simp only [progressPercent, percentage, Int32.lt_iff_toInt_lt, zero_toInt]
    split
    · have moved : ((initial - Int32.ofNat count) * 100).toInt = (initial.toInt - count) * 100 := by
        rw [Int32.toInt_mul, Int32.toInt_sub, counted, hundred_toInt,
          Int.bmod_eq_of_le (n := initial.toInt - count) (by omega) (by omega),
          Int.bmod_eq_of_le (by omega) (by omega)]
      have size := Int.natAbs_tdiv_le_natAbs ((initial.toInt - count) * 100) initial.toInt
      rw [Int32.toInt_div, moved, Int.bmod_eq_of_le (by omega) (by omega), clamp_tdiv ‹_›]
    · rfl

theorem QueueProgress.toInt {initial : Int64} (left : 0 ≤ remaining)
    (small : initial.toInt * 100 < 2 ^ 63) (few : remaining * 100 < 2 ^ 63)
    (stored : QueueProgress initial remaining progress) :
    progress.toInt = percentage initial.toInt remaining := by
  rcases stored with ⟨depth, now, key, node, drainer, report, status, message, rfl, rfl, told, rfl⟩
  rw [updateProgress_toInt]
  have percent : report.percent = (queuePercent drainer.initialQueueDepth depth).1 ∨
      depth = 0 ∧ report.percent = 100 := by
    by_cases empty : depth = 0
    · by_cases elapsed : drainer.gracePeriod ≤ now - (drainer.emptyQueueSeenTime.getD (now, key)).1
      · simp [ManagerDrainer.monitorQueueDepth, getQueueStatus, empty, elapsed] at told
        exact .inr ⟨empty, told ▸ rfl⟩
      · simp [ManagerDrainer.monitorQueueDepth, getQueueStatus, empty, elapsed] at told
        exact .inl (told ▸ empty ▸ rfl)
    · simp [ManagerDrainer.monitorQueueDepth, getQueueStatus, empty] at told
      exact .inl (told ▸ rfl)
  rcases percent with percent | ⟨rfl, percent⟩
  · generalize drainer.initialQueueDepth = initial at *
    have zero : (0 : Int64).toInt = 0 := rfl
    have hundred : (100 : Int64).toInt = 100 := rfl
    rw [percent]
    simp only [queuePercent, percentage, Int64.lt_iff_toInt_lt, zero]
    split
    · have moved : (initial - depth).toInt = initial.toInt - depth.toInt := by
        rw [Int64.toInt_sub, Int.bmod_eq_of_le (by omega) (by omega)]
      split
      · have zero : (0 * 100 / depth).toInt32.toInt = 0 := by simp
        have below := Int.ediv_neg_of_neg_of_pos
          (show (initial.toInt - depth.toInt) * 100 < 0 by omega) ‹0 < initial.toInt›
        rw [zero]
        omega
      · have bound := @Int.ediv_lt_of_lt_mul ((initial.toInt - depth.toInt) * 100) 101 initial.toInt
          ‹_› (by omega)
        have nonneg := Int.ediv_nonneg (a := (initial.toInt - depth.toInt) * 100) (by omega)
          (Int.le_of_lt ‹0 < initial.toInt›)
        rw [Int64.toInt_toInt32, Int64.toInt_div, Int64.toInt_mul, moved, hundred,
          Int.bmod_eq_of_le (n := (initial.toInt - depth.toInt) * 100) (by omega) (by omega),
          Int.tdiv_eq_ediv_of_nonneg (by omega)]
        generalize (initial.toInt - depth.toInt) * 100 / initial.toInt = quotient at *
        rw [Int.bmod_eq_of_le (n := quotient) (by omega) (by omega),
          Int.bmod_eq_of_le (by omega) (by omega)]
    · rfl
  · rw [percent]
    exact (percentage_none _).symm

theorem updateProgress_range (percent : Int32) (message : String) :
    0 ≤ (updateProgress status percent message).progress ∧
      (updateProgress status percent message).progress ≤ 100 := by
  have stored := updateProgress_toInt status percent message
  simp only [Int32.le_iff_toInt_le, zero_toInt, hundred_toInt]
  omega

theorem meaningful_of_toInt
    (computed : forall remaining progress, 0 ≤ remaining -> remaining < limit ->
      stored remaining progress -> progress.toInt = percentage initial remaining) :
    Meaningful initial limit stored where
  antitone fewer more less greater left order below first second := by
    rw [Int32.le_iff_toInt_le, computed fewer greater left (by omega) first,
      computed more less (by omega) below second]
    exact percentage_antitone order
  complete remaining left below full :=
    percentage_complete left (computed remaining 100 left below full).symm

/-- Progress is always a percentage, whatever the counts, and it is meaningful as long as the
counts times a hundred fit. -/
theorem drain_progress_meaningful :
    (forall initial : Int32, IsPercentage (ShardProgress initial)) ∧
      (forall initial : Int64, IsPercentage (QueueProgress initial)) ∧
      (forall initial : Int32, initial.toInt * 100 < 2 ^ 31 ->
        Meaningful initial.toInt 21474837 (ShardProgress initial)) ∧
      forall initial : Int64, initial.toInt * 100 < 2 ^ 63 ->
        Meaningful initial.toInt 92233720368547759 (QueueProgress initial) := by
  refine ⟨?_, ?_, fun initial small => ?_, fun initial small => ?_⟩
  · rintro initial remaining progress ⟨count, relocating, status, message, -, rfl⟩
    exact updateProgress_range status _ message
  · rintro initial remaining progress ⟨depth, now, key, node, drainer, report, status, message, -, -, -, rfl⟩
    exact updateProgress_range status _ message
  · exact meaningful_of_toInt fun _ _ left below => ShardProgress.toInt small (by omega)
  · exact meaningful_of_toInt fun _ _ left below => QueueProgress.toInt left small (by omega)

theorem drain_progress_meaningful_five_shards :
    IsPercentage (ShardProgress 21474837) ∧ Meaningful 5 21474837 (ShardProgress 5) ∧
      Meaningful 700 92233720368547759 (QueueProgress 700) :=
  ⟨drain_progress_meaningful.1 21474837, drain_progress_meaningful.2.2.1 5 (by decide),
    drain_progress_meaningful.2.2.2 700 (by decide)⟩

/-- A drain which began on an empty node is at 100 percent with five shards on it; and so is a
drain of five shards which have all left while others are still on the move. -/
theorem full_progress_before_completion :
    ShardProgress 0 5 100 ∧ (progressReport 0 5 0).isComplete = false ∧
      ShardProgress 5 0 100 ∧ (progressReport 5 0 3).isComplete = false :=
  ⟨⟨5, 0, initializeDrainStatus, "", rfl, by decide⟩, by decide,
    ⟨0, 3, initializeDrainStatus, "", rfl, by decide⟩, by decide⟩

end Drain
end WazuhOperator
