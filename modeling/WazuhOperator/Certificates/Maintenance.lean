import WazuhOperator.Certificates.Durations

namespace WazuhOperator
namespace Certificates

open List

/-!
# Maintenance windows for the renewal of the CA

`checkCAMaintenanceWindow` and the window checker it uses.  Cron expressions
and time zones are read by libraries; they are a parameter here, of which one
thing is assumed: `Next` returns the zero time for a schedule that never
fires, and a later instant for any other.

Instants are nanoseconds after the zero time, which is therefore `0`, and the
clock shows a natural number.  `IsWithinWindow` searches for the last start of
the window with an unbounded loop; the loop is run with fuel, and `none` means
that the fuel did not suffice.  For a schedule that never fires no fuel does.

The CA is renewed once it has expired when the check returns and allows it.
`renewal_allowed_iff` says for which lists of windows that is so.
-/

/-! ## Libraries -/

/-- What a cron expression does in a time zone. -/
inductive Schedule where
  | never
  | fires (next : Int -> Int) (later : forall time, time < next time)

def zeroTime : Int := 0

def Schedule.next : Schedule -> Int -> Int
  | .never, _ => zeroTime
  | .fires next _, time => next time

/-- The cron parser and the time zone database. -/
structure Calendar where
  /-- `time.LoadLocation` knows the time zone. -/
  loadLocation : String -> Bool
  /-- The parser for five fields, with the behaviour of the expression in each time zone. -/
  parse : String -> Option (String -> Schedule)

/-! ## `MaintenanceWindowChecker` -/

/-- `MaintenanceWindowChecker`. -/
structure Checker where
  schedule : String
  duration : Int
  timezone : String

inductive WindowError where
  | unknownTimezone
  | invalidSchedule

def newMaintenanceWindowChecker (calendar : Calendar) (schedule : String) (duration : Int)
    (timezone : String) : Except WindowError Checker :=
  if timezone ≠ "" && timezone ≠ "UTC" then
    if calendar.loadLocation timezone then .ok ⟨schedule, duration, timezone⟩
    else .error .unknownTimezone
  else .ok ⟨schedule, duration, "UTC"⟩

/-- The loop of `IsWithinWindow`: the last scheduled time which is not after the clock. -/
def lastScheduled (schedule : Schedule) (now : Int) : Nat -> Int -> Option Int
  | 0, _ => none
  | fuel + 1, last =>
    let nextScheduled := schedule.next last
    if now < nextScheduled then some last else lastScheduled schedule now fuel nextScheduled

def Checker.checkStart (checker : Checker) (now : Int) : Int :=
  now + wrap64 (-checker.duration - 24 * hour)

/-- `IsWithinWindow`, for a schedule which has been parsed. -/
def Checker.covers (checker : Checker) (schedule : Schedule) (fuel : Nat) (now : Int) : Option Bool :=
  let checkStart := checker.checkStart now
  (lastScheduled schedule now fuel checkStart).map fun last =>
    if last = checkStart then false else last < now && now < last + checker.duration

def Checker.isWithinWindow (calendar : Calendar) (checker : Checker) (fuel : Nat) (now : Int) :
    Option (Except WindowError Bool) :=
  match calendar.parse checker.schedule with
  | none => some (.error .invalidSchedule)
  | some schedule => (checker.covers (schedule checker.timezone) fuel now).map .ok

def Checker.nextWindowStart (calendar : Calendar) (checker : Checker) (after : Int) :
    Except WindowError Int :=
  match calendar.parse checker.schedule with
  | none => .error .invalidSchedule
  | some schedule => .ok ((schedule checker.timezone).next after)

/-! ## `checkCAMaintenanceWindow` -/

structure MaintenanceWindow where
  schedule : String
  (duration timezone : String := "")

structure CAMaintenanceConfig where
  autoRestart : Bool
  maintenanceWindows : List MaintenanceWindow := []
  maxWaitDuration : String := ""

inductive Reason where
  | noWindowsConfigured
  | autoRestartDisabled
  | withinWindow
  | forced (timeUntilExpiry : Int)
  | waiting (nextWindow : Int)
  deriving DecidableEq

structure CAMaintenanceCheckResult where
  allowRenewal : Bool
  reason : Reason
  nextWindowStart : Int := zeroTime
  forceRenewal : Bool := false
  deriving DecidableEq

def MaintenanceWindow.checker (calendar : Calendar) (window : MaintenanceWindow) :
    Except WindowError Checker :=
  newMaintenanceWindowChecker calendar window.schedule (durationOr window.duration (4 * hour)) window.timezone

inductive WindowScan where
  | within
  | outside (nextWindow : Int)
  deriving DecidableEq

/-- The earlier of two starts, where the zero time stands for none seen so far. -/
def earlierWindow (nextWindow next : Int) : Int :=
  if nextWindow = zeroTime || next < nextWindow then next else nextWindow

/-- The loop of `checkCAMaintenanceWindow` over the windows. -/
def scanWindows (calendar : Calendar) (fuel : Nat) (now : Int) :
    List MaintenanceWindow -> Int -> Option WindowScan
  | [], nextWindow => some (.outside nextWindow)
  | window :: rest, nextWindow =>
    match window.checker calendar with
    | .error _ => scanWindows calendar fuel now rest nextWindow
    | .ok checker =>
      match checker.isWithinWindow calendar fuel now with
      | none => none
      | some (.error _) => scanWindows calendar fuel now rest nextWindow
      | some (.ok true) => some .within
      | some (.ok false) =>
        match checker.nextWindowStart calendar now with
        | .error _ => scanWindows calendar fuel now rest nextWindow
        | .ok next => scanWindows calendar fuel now rest (earlierWindow nextWindow next)

/-- `Time.Sub`, which saturates. -/
def timeBetween (later earlier : Int) : Int := max (-2 ^ 63) (min (2 ^ 63 - 1) (later - earlier))

/-- The longest wait for a window, seven days unless the resource says otherwise. -/
def CAMaintenanceConfig.maxWait (config : CAMaintenanceConfig) : Int :=
  durationOr config.maxWaitDuration (7 * 24 * hour)

/-- The part of `checkCAMaintenanceWindow` which follows its loop. -/
def concludeScan (config : CAMaintenanceConfig) (now caExpiry : Int) : WindowScan -> CAMaintenanceCheckResult
  | .within => { allowRenewal := true, reason := .withinWindow }
  | .outside nextWindow =>
    let timeUntilExpiry := timeBetween caExpiry now
    if timeUntilExpiry < config.maxWait && nextWindow ≠ zeroTime && caExpiry < nextWindow then
      { allowRenewal := true, forceRenewal := true, reason := .forced timeUntilExpiry }
    else
      { allowRenewal := false, nextWindowStart := nextWindow, reason := .waiting nextWindow }

def checkCAMaintenanceWindow (calendar : Calendar) (fuel : Nat) (maintenance : Option CAMaintenanceConfig)
    (now caExpiry : Int) : Option CAMaintenanceCheckResult :=
  match maintenance with
  | none => some { allowRenewal := true, reason := .noWindowsConfigured }
  | some config =>
    if config.autoRestart = false then
      some { allowRenewal := false, reason := .autoRestartDisabled }
    else if config.maintenanceWindows = [] then
      some { allowRenewal := true, reason := .noWindowsConfigured }
    else
      (scanWindows calendar fuel now config.maintenanceWindows zeroTime).map
        (concludeScan config now caExpiry)

/-! ## When the search for the last start ends -/

theorem lastScheduled_never (now : Nat) (fuel : Nat) : forall last,
    lastScheduled .never now fuel last = none := by
  induction fuel with
  | zero => exact fun _ => rfl
  | succ _ ih =>
    intro last
    have notAfter := Int.not_lt.mpr (Int.natCast_nonneg now)
    rw [lastScheduled]
    exact (if_neg notAfter).trans (ih _)

variable {fuel : Nat}

theorem lastScheduled_mono {schedule : Schedule} {now found : Int} : forall {last more},
    lastScheduled schedule now fuel last = some found -> fuel ≤ more ->
      lastScheduled schedule now more last = some found := by
  induction fuel with
  | zero => exact nofun
  | succ fuel ih =>
    intro last more ended enough
    cases more with
    | zero => exact absurd enough (Nat.not_succ_le_zero fuel)
    | succ =>
      rw [lastScheduled] at ended ⊢
      by_cases past : now < schedule.next last
      · exact (if_pos past).trans ((if_pos past).symm.trans ended)
      · exact (if_neg past).trans (ih ((if_neg past).symm.trans ended) (Nat.le_of_succ_le_succ enough))

/-- Each round comes closer to the clock, so the search ends for a schedule which fires. -/
theorem lastScheduled_fires (next : Int -> Int) (later : forall time, time < next time) (now : Int)
    (distance : Nat) : forall last, now - last ≤ distance ->
      ∃ fuel found, lastScheduled (.fires next later) now fuel last = some found := by
  induction distance with
  | zero =>
    intro last near
    have past : now < next last := by
      have := later last
      omega
    exact ⟨1, last, if_pos past⟩
  | succ distance ih =>
    intro last near
    by_cases past : now < next last
    · exact ⟨1, last, if_pos past⟩
    · have closer : now - next last ≤ distance := by
        have := later last
        omega
      rcases ih (next last) closer with ⟨fuel, found, ended⟩
      exact ⟨fuel + 1, found, (if_neg past).trans ended⟩

namespace Checker

variable (checker : Checker)

theorem covers_never (now fuel : Nat) : checker.covers .never fuel now = none := by
  rw [covers, lastScheduled_never]
  rfl

theorem covers_mono {schedule : Schedule} {now : Int}
    (ended : checker.covers schedule fuel now = some answer) (enough : fuel ≤ more) :
    checker.covers schedule more now = some answer := by
  rw [covers, Option.map_eq_some_iff] at ended ⊢
  rcases ended with ⟨found, searched, told⟩
  exact ⟨found, lastScheduled_mono searched enough, told⟩

theorem covers_fires (next : Int -> Int) (later : forall time, time < next time) (now : Int) :
    ∃ fuel answer, checker.covers (.fires next later) fuel now = some answer := by
  rcases lastScheduled_fires next later now (now - checker.checkStart now).toNat
    (checker.checkStart now) (by omega) with ⟨fuel, found, ended⟩
  refine ⟨fuel, ?_⟩
  rw [covers, ended]
  exact ⟨_, rfl⟩

end Checker

/-! ## What each window contributes -/

/-- The window can be evaluated: its time zone is known and its schedule parses. -/
def MaintenanceWindow.usable (calendar : Calendar) (window : MaintenanceWindow) :
    Option (Checker × Schedule) :=
  match window.checker calendar with
  | .error _ => none
  | .ok checker => (calendar.parse checker.schedule).map fun schedule => (checker, schedule checker.timezone)

section Windows

variable (calendar : Calendar)

/-- The window can be evaluated, but its schedule never fires. -/
def MaintenanceWindow.Stalls (window : MaintenanceWindow) : Prop :=
  ∃ checker, window.usable calendar = some (checker, .never)

/-- `IsWithinWindow` answers that the clock is within the window. -/
def MaintenanceWindow.IsOpen (now : Int) (window : MaintenanceWindow) : Prop :=
  ∃ checker schedule fuel,
    window.usable calendar = some (checker, schedule) ∧ checker.covers schedule fuel now = some true

/-- One of the windows is open, and none listed before it has a schedule which never fires. -/
def OpensBeforeStalling (now : Int) : List MaintenanceWindow -> Prop
  | [] => False
  | window :: rest =>
    window.IsOpen calendar now ∨ (¬ window.Stalls calendar ∧ OpensBeforeStalling now rest)

variable {calendar}

variable {window : MaintenanceWindow} {checker : Checker} {schedule : Schedule} {now : Int}

theorem scanWindows_unusable (unusable : window.usable calendar = none)
    (fuel : Nat) (now : Int) (rest : List MaintenanceWindow) (nextWindow : Int) :
    scanWindows calendar fuel now (window :: rest) nextWindow =
      scanWindows calendar fuel now rest nextWindow := by
  rw [scanWindows]
  rw [MaintenanceWindow.usable] at unusable
  cases made : window.checker calendar with
  | error => rfl
  | ok checker =>
    rw [made] at unusable
    have unparsed : calendar.parse checker.schedule = none := Option.map_eq_none_iff.mp unusable
    simp [Checker.isWithinWindow, unparsed]

variable (usable : window.usable calendar = some (checker, schedule))
include usable

theorem scanWindows_usable (fuel : Nat) (now : Int) (rest : List MaintenanceWindow)
    (nextWindow : Int) :
    scanWindows calendar fuel now (window :: rest) nextWindow =
      match checker.covers schedule fuel now with
      | none => none
      | some true => some .within
      | some false => scanWindows calendar fuel now rest (earlierWindow nextWindow (schedule.next now)) := by
  rw [scanWindows]
  rw [MaintenanceWindow.usable] at usable
  cases made : window.checker calendar with
  | error => simp [made] at usable
  | ok =>
    rw [made] at usable
    rcases Option.map_eq_some_iff.mp usable with ⟨behaviour, parsed, same⟩
    cases same
    simp only [Checker.isWithinWindow, Checker.nextWindowStart, parsed]
    cases checker.covers (behaviour checker.timezone) fuel now with
    | none => rfl
    | some answer => cases answer <;> rfl

theorem exists_covers (moving : ¬ window.Stalls calendar) (now : Int) :
    ∃ fuel answer, checker.covers schedule fuel now = some answer := by
  cases schedule with
  | never => exact absurd ⟨checker, usable⟩ moving
  | fires next later => exact checker.covers_fires next later now

theorem not_stalls_of_covers {now : Nat}
    (ended : checker.covers schedule fuel now = some answer) : ¬ window.Stalls calendar := by
  rintro ⟨other, never⟩
  rw [usable] at never
  cases never
  rw [Checker.covers_never] at ended
  exact nomatch ended

omit usable

theorem scanWindows_mono (enough : fuel ≤ more) (windows : List MaintenanceWindow) :
    forall {nextWindow scan},
      scanWindows calendar fuel now windows nextWindow = some scan ->
        scanWindows calendar more now windows nextWindow = some scan := by
  induction windows with
  | nil => exact fun ended => ended
  | cons window _ ih =>
    intro nextWindow scan ended
    cases usable : window.usable calendar with
    | none =>
      rw [scanWindows_unusable usable] at ended ⊢
      exact ih ended
    | some parts =>
      rcases parts with ⟨checker, schedule⟩
      rw [scanWindows_usable usable] at ended ⊢
      cases told : checker.covers schedule fuel now with
      | none => simp [told] at ended
      | some answer =>
        rw [told] at ended
        rw [checker.covers_mono told enough]
        cases answer with
        | true => exact ended
        | false => exact ih ended

variable (calendar) in
def ScanEnds (now : Int) (windows : List MaintenanceWindow) (nextWindow : Int) (scan : WindowScan) : Prop :=
  ∃ fuel, scanWindows calendar fuel now windows nextWindow = some scan

theorem scanEnds_nil : ScanEnds calendar now [] nextWindow scan <-> scan = .outside nextWindow := by
  constructor
  · rintro ⟨fuel, ended⟩
    exact (Option.some.inj ended).symm
  · rintro rfl
    exact ⟨0, rfl⟩

theorem scanEnds_unusable (unusable : window.usable calendar = none) :
    ScanEnds calendar now (window :: rest) nextWindow scan <->
      ScanEnds calendar now rest nextWindow scan :=
  exists_congr fun fuel => by rw [scanWindows_unusable unusable]

theorem scanEnds_usable (usable : window.usable calendar = some (checker, schedule)) :
    ScanEnds calendar now (window :: rest) nextWindow scan <->
      (∃ fuel, checker.covers schedule fuel now = some true ∧ scan = .within) ∨
        ∃ fuel, checker.covers schedule fuel now = some false ∧
          ScanEnds calendar now rest (earlierWindow nextWindow (schedule.next now)) scan := by
  constructor
  · rintro ⟨fuel, ended⟩
    rw [scanWindows_usable usable] at ended
    cases told : checker.covers schedule fuel now with
    | none => simp [told] at ended
    | some answer =>
      rw [told] at ended
      cases answer with
      | true => exact .inl ⟨fuel, told, (Option.some.inj ended).symm⟩
      | false => exact .inr ⟨fuel, told, fuel, ended⟩
  · rintro (⟨fuel, told, rfl⟩ | ⟨fuel, told, other, ended⟩)
    · refine ⟨fuel, ?_⟩
      rw [scanWindows_usable usable, told]
    · -- The search of this window and the rest of the loop may need different amounts of fuel.
      refine ⟨max fuel other, ?_⟩
      rw [scanWindows_usable usable, checker.covers_mono told (Nat.le_max_left fuel other)]
      exact scanWindows_mono (Nat.le_max_right fuel other) rest ended

/-! ## The result of the loop -/

theorem opensBeforeStalling_of_scanEnds {now : Nat} :
    forall {nextWindow}, ScanEnds calendar now windows nextWindow .within ->
      OpensBeforeStalling calendar now windows := by
  induction windows with
  | nil => exact fun ended => nomatch scanEnds_nil.mp ended
  | cons window _ ih =>
    intro nextWindow ended
    cases usable : window.usable calendar with
    | none =>
      refine .inr ⟨?_, ih ((scanEnds_unusable usable).mp ended)⟩
      rintro ⟨checker, never⟩
      exact nomatch usable.symm.trans never
    | some parts =>
      rcases parts with ⟨checker, schedule⟩
      rcases (scanEnds_usable usable).mp ended with ⟨fuel, told, _⟩ | ⟨fuel, told, further⟩
      · exact .inl ⟨checker, schedule, fuel, usable, told⟩
      · exact .inr ⟨not_stalls_of_covers usable told, ih further⟩

theorem scanEnds_of_opensBeforeStalling {now : Nat} :
    forall {nextWindow}, OpensBeforeStalling calendar now windows ->
      ScanEnds calendar now windows nextWindow .within := by
  induction windows with
  | nil => exact nofun
  | cons window _ ih =>
    rintro nextWindow (⟨checker, schedule, fuel, usable, told⟩ | ⟨moving, further⟩)
    · exact (scanEnds_usable usable).mpr (.inl ⟨fuel, told, rfl⟩)
    · cases usable : window.usable calendar with
      | none => exact (scanEnds_unusable usable).mpr (ih further)
      | some parts =>
        rcases parts with ⟨checker, schedule⟩
        rcases exists_covers usable moving now with ⟨fuel, answer, told⟩
        apply (scanEnds_usable usable).mpr
        cases answer with
        | true => exact .inl ⟨fuel, told, rfl⟩
        | false => exact .inr ⟨fuel, told, ih further⟩

theorem exists_scanEnds (moving : ∀ window ∈ windows, ¬ window.Stalls calendar) :
    forall nextWindow, ∃ scan, ScanEnds calendar now windows nextWindow scan := by
  induction windows with
  | nil => exact fun nextWindow => ⟨.outside nextWindow, scanEnds_nil.mpr rfl⟩
  | cons window _ ih =>
    intro nextWindow
    have others := ih fun other member => moving other (mem_cons_of_mem window member)
    cases usable : window.usable calendar with
    | none =>
      rcases others nextWindow with ⟨scan, ended⟩
      exact ⟨scan, (scanEnds_unusable usable).mpr ended⟩
    | some parts =>
      rcases parts with ⟨checker, schedule⟩
      rcases exists_covers usable (moving window mem_cons_self) now with ⟨fuel, answer, told⟩
      cases answer with
      | true => exact ⟨.within, (scanEnds_usable usable).mpr (.inl ⟨fuel, told, rfl⟩)⟩
      | false =>
        rcases others (earlierWindow nextWindow (schedule.next now)) with ⟨scan, ended⟩
        exact ⟨scan, (scanEnds_usable usable).mpr (.inr ⟨fuel, told, ended⟩)⟩

theorem lt_earlierWindow {next : Int} (seen : nextWindow = zeroTime ∨ now < nextWindow)
    (later : now < next) : now < earlierWindow nextWindow next := by
  rw [earlierWindow]
  split
  · exact later
  · next kept =>
      rcases seen with none | start
      · simp [none] at kept
      · exact start

theorem outside_of_scanEnds {now : Nat} :
    forall {nextWindow found : Int}, nextWindow = zeroTime ∨ (now : Int) < nextWindow ->
      ScanEnds calendar now windows nextWindow (.outside found) ->
      (∀ window ∈ windows, ¬ window.Stalls calendar) ∧
        ((found = nextWindow ∧ ∀ window ∈ windows, window.usable calendar = none) ∨
          ((now : Int) < found ∧ ∃ window ∈ windows, window.usable calendar ≠ none)) := by
  induction windows with
  | nil =>
    intro nextWindow found _ ended
    cases scanEnds_nil.mp ended
    exact ⟨forall_mem_nil _, .inl ⟨rfl, forall_mem_nil _⟩⟩
  | cons window _ ih =>
    intro nextWindow found seen ended
    rw [forall_mem_cons, forall_mem_cons]
    cases usable : window.usable calendar with
    | none =>
      rcases ih seen ((scanEnds_unusable usable).mp ended) with ⟨moving, outcome⟩
      refine ⟨⟨?_, moving⟩, ?_⟩
      · rintro ⟨checker, never⟩
        exact nomatch usable.symm.trans never
      · rcases outcome with ⟨same, unusable⟩ | ⟨later, other, member, found⟩
        · exact .inl ⟨same, rfl, unusable⟩
        · exact .inr ⟨later, other, mem_cons_of_mem window member, found⟩
    | some parts =>
      rcases parts with ⟨checker, schedule⟩
      rcases (scanEnds_usable usable).mp ended with ⟨_, _, other⟩ | ⟨fuel, told, further⟩
      · exact nomatch other
      · have moving := not_stalls_of_covers usable told
        have start : (now : Int) < schedule.next now := by
          cases schedule with
          | never => exact absurd ⟨checker, usable⟩ moving
          | fires _ later => exact later now
        have first := lt_earlierWindow seen start
        rcases ih (.inr first) further with ⟨others, outcome⟩
        refine ⟨⟨moving, others⟩, .inr ⟨?_, window, mem_cons_self, by simp [usable]⟩⟩
        rcases outcome with ⟨same, _⟩ | later
        · rw [same]
          exact first
        · exact later.1

end Windows

/-! ## Renewal of an expired CA -/

def AllowsRenewal (calendar : Calendar) (maintenance : Option CAMaintenanceConfig) (now caExpiry : Int) : Prop :=
  ∃ fuel result, checkCAMaintenanceWindow calendar fuel maintenance now caExpiry = some result ∧
    result.allowRenewal = true

/-- There are no windows; or one of them is open and the loop gets to it; or the search of each
window ends, one of them is usable, and the longest wait exceeds the time left, which is not
positive any more. -/
def CanRenewExpired (calendar : Calendar) (config : CAMaintenanceConfig) (now caExpiry : Int) : Prop :=
  config.maintenanceWindows = [] ∨ OpensBeforeStalling calendar now config.maintenanceWindows ∨
    ((∀ window ∈ config.maintenanceWindows, ¬ window.Stalls calendar) ∧
      (∃ window ∈ config.maintenanceWindows, window.usable calendar ≠ none) ∧
      timeBetween caExpiry now < config.maxWait)

theorem concludeScan_outside (config : CAMaintenanceConfig) (now caExpiry nextWindow : Int) :
    (concludeScan config now caExpiry (.outside nextWindow)).allowRenewal <->
      timeBetween caExpiry now < config.maxWait ∧ nextWindow ≠ zeroTime ∧ caExpiry < nextWindow := by
  rw [concludeScan]
  split
  · next forced => simpa [and_assoc] using forced
  · next waits => simpa [and_assoc] using waits

theorem allowsRenewal_iff_scan {calendar : Calendar} (now : Nat)
    (caExpiry : Int) (automatic : config.autoRestart) (some_windows : config.maintenanceWindows ≠ []) :
    AllowsRenewal calendar (some config) now caExpiry <->
      ∃ scan, ScanEnds calendar now config.maintenanceWindows zeroTime scan ∧
        (concludeScan config now caExpiry scan).allowRenewal = true := by
  have shape (fuel : Nat) : checkCAMaintenanceWindow calendar fuel (some config) now caExpiry =
      (scanWindows calendar fuel now config.maintenanceWindows zeroTime).map (concludeScan config now caExpiry) := by
    rw [checkCAMaintenanceWindow, if_neg (by simp [automatic]), if_neg some_windows]
  constructor
  · rintro ⟨fuel, result, ended, allowed⟩
    rw [shape, Option.map_eq_some_iff] at ended
    rcases ended with ⟨scan, scanned, rfl⟩
    exact ⟨scan, ⟨fuel, scanned⟩, allowed⟩
  · rintro ⟨scan, ⟨fuel, scanned⟩, allowed⟩
    exact ⟨fuel, _, by rw [shape, scanned]; rfl, allowed⟩

theorem renewal_allowed_iff (calendar : Calendar) (config : CAMaintenanceConfig) (now : Nat) (caExpiry : Int)
    (automatic : config.autoRestart = true) (expired : caExpiry ≤ now) :
    AllowsRenewal calendar (some config) now caExpiry <-> CanRenewExpired calendar config now caExpiry := by
  by_cases empty : config.maintenanceWindows = []
  · refine iff_of_true ⟨0, { allowRenewal := true, reason := .noWindowsConfigured }, ?_, rfl⟩ (.inl empty)
    rw [checkCAMaintenanceWindow, if_neg (by simp [automatic]), if_pos empty]
  rw [allowsRenewal_iff_scan now caExpiry automatic empty, CanRenewExpired, or_iff_right empty]
  constructor
  · rintro ⟨scan, ended, allowed⟩
    cases scan with
    | within => exact .inl (opensBeforeStalling_of_scanEnds ended)
    | outside =>
      rcases (concludeScan_outside ..).mp allowed with ⟨waited, found, _⟩
      rcases outside_of_scanEnds (.inl rfl) ended with ⟨moving, outcome⟩
      rcases outcome with ⟨missing, _⟩ | ⟨_, usable⟩
      · exact absurd missing found
      · exact .inr ⟨moving, usable, waited⟩
  · rintro (opens | ⟨moving, ⟨window, member, usable⟩, waited⟩)
    · exact ⟨.within, scanEnds_of_opensBeforeStalling opens, rfl⟩
    · rcases exists_scanEnds moving zeroTime with ⟨scan, ended⟩
      refine ⟨scan, ended, ?_⟩
      cases scan with
      | within => rfl
      | outside =>
        rcases (outside_of_scanEnds (.inl rfl) ended).2 with ⟨_, unusable⟩ | ⟨later, _⟩
        · exact absurd (unusable window member) usable
        · refine (concludeScan_outside ..).mpr ⟨waited, ?_, Int.lt_of_le_of_lt expired later⟩
          exact Int.ne_of_gt (Int.lt_of_le_of_lt (Int.natCast_nonneg now) later)

def weeklyCalendar : Calendar where
  loadLocation := (· == "Europe/Paris")
  parse expression :=
    if expression = "0 2 * * 6" then
      some fun _ => .fires (fun time => (time / (7 * 24 * hour) + 1) * (7 * 24 * hour))
        fun time => Int.lt_ediv_add_one_mul_self time (by decide)
    else none

theorem renewal_allowed_iff_weekly : let config : CAMaintenanceConfig :=
      { autoRestart := true, maintenanceWindows := [{ schedule := "0 2 * * 6", timezone := "Europe/Paris" }] }
    config.autoRestart ∧ (0 : Int) ≤ (1 : Nat) ∧
      (AllowsRenewal weeklyCalendar (some config) (1 : Nat) 0 <->
        CanRenewExpired weeklyCalendar config (1 : Nat) 0) :=
  ⟨rfl, by decide, renewal_allowed_iff weeklyCalendar _ 1 0 rfl (by decide)⟩

/-- The only window names a time zone which does not exist: an expired CA is never renewed. -/
theorem misspelt_timezone_blocks_renewal : ¬ AllowsRenewal weeklyCalendar
      (some { autoRestart := true
              maintenanceWindows := [{ schedule := "0 2 * * 6", timezone := "Europe/Pariss" }]
              maxWaitDuration := "7d" })
      (400 * 24 * hour) 0 := by
  rintro ⟨fuel, result, ended, allowed⟩
  have waits : result.allowRenewal = false := by
    cases ended
    decide +kernel
  rw [waits] at allowed
  exact nomatch allowed

end Certificates
end WazuhOperator
