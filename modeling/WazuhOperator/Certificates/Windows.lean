import WazuhOperator.Certificates.Maintenance

namespace WazuhOperator
namespace Certificates

/-!
# How exact the check of a maintenance window is

The schedules of the last module fire for ever or never.  Here a schedule has
a set of times at which it fires, and `Next` searches for the first of them
up to a limit, the end of the fifth year; where there is none it returns the
zero time.
-/

/-- A cron expression in a time zone, and what `Next` makes of it. -/
structure CronSchedule where
  fires : Int -> Prop
  limit : Int -> Int
  limit_mono : forall {earlier later}, earlier ≤ later -> limit earlier ≤ limit later
  next : Int -> Int
  next_first : forall {time}, (∃ start, fires start ∧ time < start ∧ start ≤ limit time) ->
    fires (next time) ∧ time < next time ∧ next time ≤ limit time ∧
      forall {start}, fires start -> time < start -> next time ≤ start
  next_zero : forall {time}, ¬ (∃ start, fires start ∧ time < start ∧ start ≤ limit time) ->
    next time = zeroTime

/-- The loop of `IsWithinWindow`, for any function in the place of `Next`. -/
def search (next : Int -> Int) (now : Int) : Nat -> Int -> Option Int
  | 0, _ => none
  | fuel + 1, last => if now < next last then some last else search next now fuel (next last)

def Checker.within (checker : Checker) (next : Int -> Int) (fuel : Nat) (now : Int) : Option Bool :=
  (search next now fuel (checker.checkStart now)).map fun last =>
    if last = checker.checkStart now then false else last < now && now < last + checker.duration

theorem Checker.covers_eq_within (checker : Checker) (schedule : Schedule) (fuel : Nat) (now : Int) :
    checker.covers schedule fuel now = checker.within schedule.next fuel now := by
  have same (last : Int) : lastScheduled schedule now fuel last = search schedule.next now fuel last := by
    induction fuel generalizing last with
    | zero => rfl
    | succ _ ih =>
      rw [lastScheduled, search, ih]
  rw [covers, within, same]

namespace CronSchedule

variable (cron : CronSchedule) {now : Int}

/-- `Next` finds a time after this one. -/
def Soon (time : Int) : Prop := ∃ start, cron.fires start ∧ time < start ∧ start ≤ cron.limit time

/-- `Next` finds a time after each one from the first, or the zero time, up to the clock. -/
def SoonFrom (first now : Int) : Prop := forall time, 0 ≤ time -> first ≤ time -> time ≤ now -> cron.Soon time

/-! ## Termination -/

/-- Every round brings the search nearer to the clock, which it thus passes. -/
theorem exists_search (distance : Nat) : forall last, last ≤ now -> now - last ≤ distance ->
    cron.SoonFrom last now -> ∃ fuel found, search cron.next now fuel last = some found := by
  induction distance using Nat.strong_induction_on with
  | _ distance ih =>
    intro last before near soon
    by_cases past : now < cron.next last
    · exact ⟨1, last, if_pos past⟩
    have later : last < cron.next last := by
      by_cases found : cron.Soon last
      · exact (cron.next_first found).2.1
      · -- Before the zero time the zero time itself is later.
        rw [cron.next_zero found, zeroTime]
        by_contra nonneg
        exact found (soon last (by omega) (Int.le_refl last) before)
    obtain ⟨fuel, found, ended⟩ := ih (distance - 1) (by omega) (cron.next last) (by omega) (by omega)
      fun time nonneg after => soon time nonneg (by omega)
    exact ⟨fuel + 1, found, (if_neg past).trans ended⟩

/-- Where `Next` returns the zero time at a time which is not after the clock, the search comes back. -/
theorem search_eq_none (nonneg : 0 ≤ time) (before : time ≤ now) (stuck : ¬ cron.Soon time)
    (fuel : Nat) : forall last, last ≤ time -> search cron.next now fuel last = none := by
  induction fuel with
  | zero => exact fun _ _ => rfl
  | succ fuel ih =>
    intro last earlier
    have back : cron.next last ≤ time := by
      by_cases found : cron.Soon last
      · obtain ⟨fires, later, near, first⟩ := cron.next_first found
        by_contra beyond
        exact stuck ⟨_, fires, by omega, Int.le_trans near (cron.limit_mono earlier)⟩
      · rw [cron.next_zero found]
        exact nonneg
    rw [search, if_neg (by omega), ih _ back]

theorem search_ends_iff (before : first ≤ now) :
    (∃ fuel found, search cron.next now fuel first = some found) <-> cron.SoonFrom first now := by
  constructor
  · rintro ⟨fuel, found, ended⟩ time nonneg after below
    by_contra stuck
    rw [cron.search_eq_none nonneg below stuck fuel first after] at ended
    exact nomatch ended
  · exact cron.exists_search (now - first).toNat first before (by omega)

theorem search_beyond_iff (beyond : now < first) :
    (∃ fuel found, search cron.next now fuel first = some found) <-> cron.Soon first ∨ cron.SoonFrom 0 now := by
  by_cases soon : cron.Soon first
  · have later := (cron.next_first soon).2.1
    exact iff_of_true ⟨1, first, if_pos (by omega)⟩ (.inl soon)
  have zero := cron.next_zero soon
  rw [or_iff_right soon]
  rcases Int.lt_or_le now 0 with negative | nonneg
  · exact iff_of_true ⟨1, first, if_pos (zero ▸ negative)⟩ fun time positive _ below => by omega
  rw [← cron.search_ends_iff nonneg]
  constructor
  · rintro ⟨_ | fuel, found, ended⟩
    · exact nomatch ended
    · rw [search, if_neg (zero ▸ Int.not_lt.mpr nonneg), zero] at ended
      exact ⟨fuel, found, ended⟩
  · rintro ⟨fuel, found, ended⟩
    refine ⟨fuel + 1, found, ?_⟩
    rw [search, if_neg (zero ▸ Int.not_lt.mpr nonneg), zero]
    exact ended

/-- `IsWithinWindow` returns if and only if `Next` finds a time after each one from the start of the
search up to the clock.  A search which starts after the clock ends at once, or at the zero time starts
anew. -/
theorem window_check_returns_iff (checker : Checker) (now : Int) :
    (∃ fuel answer, checker.within cron.next fuel now = some answer) <->
      (checker.checkStart now ≤ now -> cron.SoonFrom (checker.checkStart now) now) ∧
      (now < checker.checkStart now -> cron.Soon (checker.checkStart now) ∨ cron.SoonFrom 0 now) := by
  have answered : (∃ fuel answer, checker.within cron.next fuel now = some answer) <->
      ∃ fuel found, search cron.next now fuel (checker.checkStart now) = some found := by
    simp only [Checker.within, ← Option.isSome_iff_exists, Option.isSome_map]
  generalize checker.checkStart now = first at *
  rw [answered]
  rcases Int.lt_or_le now first with beyond | before
  · simp only [Int.not_le.mpr beyond, beyond, false_imp_iff, true_imp_iff, true_and]
    exact cron.search_beyond_iff beyond
  · simp only [Int.not_lt.mpr before, before, false_imp_iff, true_imp_iff, and_true]
    exact cron.search_ends_iff before

/-- The thirtieth of February. -/
def impossible : CronSchedule where
  fires _ := False
  limit time := time
  limit_mono before := before
  next _ := zeroTime
  next_first found := found.choose_spec.1.elim
  next_zero _ := rfl

/-- With such a date the check does not return, two thousand years after the zero time. -/
theorem impossible_date_hangs :
    let checker : Checker := { schedule := "0 0 30 2 *", duration := 4 * hour, timezone := "UTC" }
    ¬ ∃ fuel answer, checker.within impossible.next fuel (2000 * 365 * 24 * hour) = some answer := by
  rintro checker ⟨fuel, answer, ended⟩
  have missed := impossible.search_eq_none (by decide) (Int.le_refl (2000 * 365 * 24 * hour))
    (fun soon => soon.choose_spec.1) fuel (checker.checkStart (2000 * 365 * 24 * hour)) (by decide)
  rw [Checker.within, missed] at ended
  exact nomatch ended

/-! ## Membership -/

/-- `Next` finds a time after each one from the first up to the clock, the first among them. -/
def SoonUpTo (first now : Int) : Prop := forall time, first ≤ time -> time ≤ max first now -> cron.Soon time

def InWindow (duration now : Int) : Prop := ∃ start, cron.fires start ∧ start ≤ now ∧ now < start + duration

theorem search_spec : forall {fuel last}, cron.SoonUpTo last now ->
    search cron.next now fuel last = some found ->
      (found = last ∨ cron.fires found ∧ last < found ∧ found ≤ now) ∧
        forall start, cron.fires start -> found < start -> now < start := by
  intro fuel
  induction fuel with
  | zero => exact nofun
  | succ fuel ih =>
    intro last soon ended
    obtain ⟨fires, later, near, first⟩ := cron.next_first (soon last (by omega) (by omega))
    rw [search] at ended
    split at ended
    · next past =>
        cases ended
        exact ⟨.inl rfl, fun start hit after => Int.lt_of_lt_of_le past (first hit after)⟩
    · next upTo =>
        obtain ⟨which, passed⟩ := ih (fun time after below => soon time (by omega) (by omega)) ended
        refine ⟨.inr ?_, passed⟩
        rcases which with rfl | ⟨hit, after, below⟩
        · exact ⟨fires, later, by omega⟩
        · exact ⟨hit, by omega, below⟩

theorem exists_search_of_soon (soon : cron.SoonUpTo first now) :
    ∃ fuel found, search cron.next now fuel first = some found := by
  rcases Int.lt_or_le now first with beyond | before
  · exact (cron.search_beyond_iff beyond).mpr (.inl (soon first (by omega) (by omega)))
  · exact (cron.search_ends_iff before).mpr fun time _ after below => soon time after (by omega)

theorem found_exact_iff (soon : cron.SoonUpTo first now)
    (positive : 0 < duration) (early : first < now - duration)
    (ended : search cron.next now fuel first = some found) :
    ((found ≠ first ∧ found < now ∧ now < found + duration) <-> cron.InWindow duration now) <->
      ¬ cron.fires now := by
  obtain ⟨which, passed⟩ := cron.search_spec soon ended
  rcases which with rfl | ⟨hit, after, below⟩
  · refine iff_of_true (iff_of_false (fun same => same.1 rfl) ?_) fun hit => ?_
    · rintro ⟨start, hit, started, within⟩
      exact Int.not_lt.mpr started (passed start hit (by omega))
    · exact Int.lt_irrefl now (passed now hit (by omega))
  · have inside : cron.InWindow duration now <-> now < found + duration := by
      refine ⟨?_, fun within => ⟨found, hit, below, within⟩⟩
      rintro ⟨start, started, before, within⟩
      by_contra outside
      exact Int.not_lt.mpr before (passed start started (by omega))
    rw [inside]
    rcases Int.lt_or_eq_of_le below with less | rfl
    · refine iff_of_true ⟨fun within => within.2.2, fun within => ⟨by omega, less, within⟩⟩ fun now_hit => ?_
      exact Int.lt_irrefl now (passed now now_hit less)
    · exact iff_of_false (fun same => by have := same.mpr (by omega); omega) (not_not_intro hit)

/-- For a schedule of which `Next` finds a time all along the search, the check says whether the clock is in a window if and only if the clock
does not show the start of one, or, with a duration of almost 2⁶³ nanoseconds, is in none. -/
theorem window_exact_iff (checker : Checker) (now : Int) (soon : cron.SoonUpTo (checker.checkStart now) now)
    (positive : 0 < checker.duration) (fits : checker.duration < 2 ^ 63) :
    (∃ fuel answer, checker.within cron.next fuel now = some answer ∧
        (answer = true <-> cron.InWindow checker.duration now)) <->
      if checker.duration ≤ 2 ^ 63 - 24 * hour then ¬ cron.fires now
      else ¬ cron.InWindow checker.duration now := by
  have oneHour : hour = 3600 * 10 ^ 9 := rfl
  have told {fuel : Nat} {found : Int} (ended : search cron.next now fuel (checker.checkStart now) = some found) :
      ((found ≠ checker.checkStart now ∧ found < now ∧ now < found + checker.duration) <->
        cron.InWindow checker.duration now) <->
      if checker.duration ≤ 2 ^ 63 - 24 * hour then ¬ cron.fires now
      else ¬ cron.InWindow checker.duration now := by
    have start : checker.checkStart now = now + (-checker.duration - 24 * hour) +
        if checker.duration ≤ 2 ^ 63 - 24 * hour then 0 else 2 ^ 64 := by
      rw [Checker.checkStart, wrap64, Int.bmod]
      split <;> split <;> omega
    split at start
    · next short =>
      rw [if_pos short]
      exact cron.found_exact_iff soon positive (by omega) ended
    · next long =>
      rw [if_neg long]
      have same : found = checker.checkStart now := by
        obtain ⟨which | ⟨_, after, below⟩, _⟩ := cron.search_spec soon ended
        · exact which
        · omega
      simp [same]
  constructor
  · rintro ⟨fuel, answer, within, exact⟩
    obtain ⟨found, ended, rfl⟩ := Option.map_eq_some_iff.mp within
    refine (told ended).mp (Iff.trans ?_ exact)
    simp
  · intro condition
    obtain ⟨fuel, found, ended⟩ := cron.exists_search_of_soon soon
    refine ⟨fuel, _, by rw [Checker.within, ended]; rfl, Iff.trans ?_ ((told ended).mpr condition)⟩
    simp

theorem nextHour (time : Int) : (time / hour + 1) * hour % hour = 0 ∧ time < (time / hour + 1) * hour ∧
    (time / hour + 1) * hour ≤ time + hour := by
  have oneHour : hour = 3600 * 10 ^ 9 := rfl
  rw [oneHour]
  omega

def hourly : CronSchedule where
  fires time := time % hour = 0
  limit time := time + hour
  limit_mono before := Int.add_le_add_right before hour
  next time := (time / hour + 1) * hour
  next_first _ := by
    refine ⟨(nextHour _).1, (nextHour _).2.1, (nextHour _).2.2, fun {start} hit after => ?_⟩
    have hit : start % (3600 * 10 ^ 9) = 0 := hit
    rw [show hour = 3600 * 10 ^ 9 from rfl]
    omega
  next_zero never := absurd ⟨_, nextHour _⟩ never

theorem window_exact_iff_hourly :
    let checker : Checker := { schedule := "0 * * * *", duration := hour / 2, timezone := "UTC" }
    (∃ fuel answer, checker.within hourly.next fuel 0 = some answer ∧
        (answer <-> hourly.InWindow checker.duration 0)) <->
      if checker.duration ≤ 2 ^ 63 - 24 * hour then ¬ hourly.fires 0
      else ¬ hourly.InWindow checker.duration 0 :=
  window_exact_iff hourly _ 0 (fun time _ _ => ⟨_, nextHour time⟩) (by decide) (by decide)

/-- At the start of a window the check says that the window is not open. -/
theorem start_not_in_window :
    let checker : Checker := { schedule := "0 * * * *", duration := hour / 2, timezone := "UTC" }
    hourly.InWindow checker.duration (100 * hour) ∧
      checker.within hourly.next 30 (100 * hour) = some false :=
  ⟨⟨100 * hour, show 100 * hour % hour = 0 by decide, by decide, by decide⟩, by decide +kernel⟩

end CronSchedule

end Certificates
end WazuhOperator
