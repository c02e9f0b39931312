import Mathlib.Algebra.BigOperators.Intervals
import Mathlib.Tactic.IntervalCases
import QueueDepth.Calendar

/-!
# The Gregorian calendar

How long ago 1970 began is the days of the years that are over since then, the days of the months of the
year that are over, the days of the month that are over and the time of the day (`DateTime.elapsed`). The
date and time of an instant are those for which this is the instant (`DateTime.elapsed_ofMillis`).

Days are found by years that begin in March. `daysBeforeMarch` counts the days up to the first of March of a
year, from that of the year zero on; a day lies in the one such year that has begun and is not over.
-/

namespace QueueDepth.Calendar

/-! ## Dates and times -/

/-- The days of a year. -/
def daysOfYear (year : Nat) : Nat :=
  if isLeap year then 366 else 365

namespace DateTime

/-- A date of the calendar, in the year 1970 or later, and a time of the day. -/
structure Valid (time : DateTime) : Prop where
  year : 1970 ≤ time.year
  month : 1 ≤ time.month ∧ time.month ≤ 12
  day : 1 ≤ time.day ∧ time.day ≤ daysOfMonth time.year time.month
  hour : time.hour < 24
  minute : time.minute < 60
  second : time.second < 60
  millisecond : time.millisecond < 1000

/-- The days of the year that are over. -/
def dayOfYear (time : DateTime) : Nat :=
  ∑ month ∈ Finset.Ico 1 time.month, daysOfMonth time.year month + (time.day - 1)

/-- The days that are over since the start of 1970. -/
def daysSince1970 (time : DateTime) : Nat :=
  ∑ year ∈ Finset.Ico 1970 time.year, daysOfYear year + time.dayOfYear

/-- The milliseconds of the day that are over. -/
def millisOfDay (time : DateTime) : Nat :=
  ((time.hour * 60 + time.minute) * 60 + time.second) * 1000 + time.millisecond

/-- The milliseconds that are over since the start of 1970. -/
def elapsed (time : DateTime) : Nat :=
  time.daysSince1970 * millisPerDay + time.millisOfDay

end DateTime

/-! ## Years that begin in March -/

/-- The days from the first of March of the year zero to that of another year. -/
def daysBeforeMarch (year : Nat) : Nat :=
  365 * year + year / 4 - year / 100 + year / 400

/-- A leap day is the last day of a year that begins in March. -/
theorem daysBeforeMarch_succ (year : Nat) :
    daysBeforeMarch (year + 1) = daysBeforeMarch year + daysOfYear (year + 1) := by
  have leap : isLeap (year + 1) = true ↔
      4 ∣ year + 1 ∧ (¬ 100 ∣ year + 1 ∨ 400 ∣ year + 1) := by
    simp [isLeap, Nat.dvd_iff_mod_eq_zero]
  have centuries : year / 100 ≤ year := Nat.div_le_self ..
  simp only [daysBeforeMarch, daysOfYear, leap, Nat.succ_div]
  generalize year / 4 = four, year / 100 = century, year / 400 = era at *
  split_ifs <;> omega

/-- Between the first of March and the new year lie 306 days. -/
theorem sum_daysOfYear {year : Nat} (late : 1969 ≤ year) :
    ∑ y ∈ Finset.Ico 1970 (year + 1), daysOfYear y + daysBefore1970 = daysBeforeMarch year + 306 := by
  induction year, late using Nat.le_induction with
  | base => rfl
  | succ year late ih =>
    rw [Finset.sum_Ico_succ_top (by omega), daysBeforeMarch_succ]
    omega

/-- Every day lies in a year that begins in March. -/
theorem exists_marchYear (day : Nat) :
    ∃ year, daysBeforeMarch year ≤ day ∧ day < daysBeforeMarch (year + 1) := by
  have reached : ∀ year, day < daysBeforeMarch year →
      ∃ year, daysBeforeMarch year ≤ day ∧ day < daysBeforeMarch (year + 1) := by
    intro year before
    induction year with
    | zero => exact absurd before (Nat.not_lt_zero day)
    | succ year ih =>
      by_cases begun : daysBeforeMarch year ≤ day
      · exact ⟨year, begun, before⟩
      · exact ih (Nat.lt_of_not_le begun)
  refine reached (day + 1) ?_
  unfold daysBeforeMarch
  omega

/-- An era has one leap day more than `daysBeforeYear` counts, on its last day. -/
theorem daysBeforeMarch_era (era : Nat) {year : Nat} (inEra : year < 400) :
    daysBeforeMarch (era * 400 + year) = era * daysPerEra + daysBeforeYear year ∧
      daysBeforeMarch (era * 400 + year + 1) =
        era * daysPerEra + daysBeforeYear (year + 1) + if year = 399 then 1 else 0 := by
  unfold daysBeforeMarch daysBeforeYear daysPerEra
  constructor
  · omega
  · split <;> omega

theorem yearOfEra_eq {day year : Nat} (begun : daysBeforeYear year ≤ day)
    (goesOn : day < daysBeforeYear (year + 1)) (inEra : year < 400) : yearOfEra day = year := by
  unfold daysBeforeYear at begun goesOn
  have noLeapDay : day / 146096 = 0 := by omega
  have fourYears : day / 1460 = year / 4 ∨ day / 1460 = year / 4 + 1 ∧ year % 4 = 3 := by omega
  have century : day / 36524 = year / 100 ∨ day / 36524 = year / 100 + 1 ∧ year % 100 = 99 := by omega
  unfold yearOfEra
  omega

/-- The year of a day, and which day of it. -/
theorem marchYear_eq {day year : Nat} (begun : daysBeforeMarch year ≤ day)
    (goesOn : day < daysBeforeMarch (year + 1)) :
    day / daysPerEra * 400 + yearOfEra (day % daysPerEra) = year ∧
      daysBeforeMarch year + (day % daysPerEra - daysBeforeYear (yearOfEra (day % daysPerEra))) =
        day := by
  obtain ⟨era, rest, inEra, rfl⟩ : ∃ era rest, rest < 400 ∧ year = era * 400 + rest :=
    ⟨year / 400, year % 400, by omega, by omega⟩
  obtain ⟨start, stop⟩ := daysBeforeMarch_era era inEra
  rw [start] at begun
  rw [stop] at goesOn
  have length : daysBeforeYear (rest + 1) + (if rest = 399 then 1 else 0) ≤ daysPerEra := by
    unfold daysBeforeYear daysPerEra
    split <;> omega
  have eras : day / daysPerEra = era := by
    rw [Nat.div_eq_iff (by decide)]
    unfold daysPerEra at *
    omega
  have parts : era * daysPerEra + day % daysPerEra = day := by
    rw [← eras, Nat.mul_comm, Nat.div_add_mod]
  generalize day % daysPerEra = dayOfEra at *
  have years : yearOfEra dayOfEra = rest := by
    by_cases before : dayOfEra < daysBeforeYear (rest + 1)
    · exact yearOfEra_eq (by omega) before inEra
    · have last : rest = 399 := by
        by_contra other
        rw [if_neg other] at goesOn
        omega
      subst last
      have lastDay : dayOfEra = 146096 := by
        have whole : daysBeforeYear (399 + 1) = 146096 := rfl
        rw [whole] at before goesOn
        rw [if_pos rfl] at goesOn
        omega
      rw [lastDay]
      rfl
  rw [eras, years, start]
  omega

/-! ## Months since March -/

theorem monthOfDay_bounds (day : Nat) :
    daysBeforeMonth (monthOfDay day) ≤ day ∧ day < daysBeforeMonth (monthOfDay day + 1) := by
  unfold daysBeforeMonth monthOfDay
  omega

theorem monthOfDay_lt {day : Nat} (inYear : day < 366) : monthOfDay day < 12 := by
  unfold monthOfDay
  omega

/-- The months from January to the one before a month of the same year that is not before March. -/
theorem sum_daysOfMonth (year : Nat) {month : Nat} (inYear : month < 10) :
    ∑ m ∈ Finset.Ico 1 (month + 3), daysOfMonth year m =
      31 + daysOfMonth year 2 + daysBeforeMonth month := by
  interval_cases month <;> simp [Finset.sum_Ico_succ_top, daysOfMonth, daysBeforeMonth]

theorem daysBeforeMonth_succ (year : Nat) {month : Nat} (inYear : month < 10) :
    daysBeforeMonth (month + 1) = daysBeforeMonth month + daysOfMonth year (month + 3) := by
  interval_cases month <;> rfl

theorem daysOfMonth_february (year : Nat) : daysOfMonth year 2 + 337 = daysOfYear year := by
  unfold daysOfMonth daysOfYear
  rw [if_pos rfl]
  split <;> rfl

/-! ## The date of a day -/

namespace DateTime

/-- A date that is found by a year that begins in March and a day of that year. -/
structure MarchDate (time : DateTime) (year day : Nat) : Prop where
  late : 1969 ≤ year
  inYear : day < daysOfYear (year + 1)
  year : time.year = year + if monthOfDay day < 10 then 0 else 1
  month : time.month = if monthOfDay day < 10 then monthOfDay day + 3 else monthOfDay day - 9
  day : time.day = day - daysBeforeMonth (monthOfDay day) + 1

theorem exists_marchDate (millis : Nat) :
    ∃ year day, MarchDate (ofMillis millis) year day ∧
      daysBeforeMarch year + day = millis / millisPerDay + daysBefore1970 := by
  obtain ⟨year, begun, goesOn⟩ := exists_marchYear (millis / millisPerDay + daysBefore1970)
  obtain ⟨found, dayFound⟩ := marchYear_eq begun goesOn
  have late : 1969 ≤ year := by
    have after : daysBefore1970 < daysBeforeMarch (year + 1) :=
      Nat.lt_of_le_of_lt (Nat.le_add_left ..) goesOn
    clear found dayFound
    unfold daysBeforeMarch daysBefore1970 at after
    omega
  rw [daysBeforeMarch_succ] at goesOn
  refine ⟨year, _, ⟨late, by omega, ?_, rfl, rfl⟩, dayFound⟩
  rw [← found]
  rfl

namespace MarchDate

variable {time : DateTime} {year day : Nat}

theorem month_lt (date : MarchDate time year day) : monthOfDay day < 12 := by
  have inYear := date.inYear
  unfold daysOfYear at inYear
  refine monthOfDay_lt ?_
  split at inYear <;> omega

/-- From March to December the year is the same. -/
theorem ofSameYear (date : MarchDate time year day) (same : monthOfDay day < 10) :
    time.year = year ∧ time.month = monthOfDay day + 3 ∧
      1 ≤ time.day ∧ time.day ≤ daysOfMonth time.year time.month ∧
      time.dayOfYear = 31 + daysOfMonth year 2 + day := by
  obtain ⟨begun, goesOn⟩ := monthOfDay_bounds day
  rw [daysBeforeMonth_succ year same] at goesOn
  have years : time.year = year := by rw [date.year, if_pos same, Nat.add_zero]
  have months : time.month = monthOfDay day + 3 := by rw [date.month, if_pos same]
  refine ⟨years, months, ?_, ?_, ?_⟩
  · rw [date.day]
    omega
  · rw [date.day, years, months]
    omega
  · unfold dayOfYear
    rw [years, months, sum_daysOfMonth year same, date.day]
    omega

/-- January and February belong to the year that follows. -/
theorem ofNextYear (date : MarchDate time year day) (next : ¬ monthOfDay day < 10) :
    time.year = year + 1 ∧ 1 ≤ time.month ∧ time.month ≤ 2 ∧
      1 ≤ time.day ∧ time.day ≤ daysOfMonth time.year time.month ∧
      time.dayOfYear + 306 = day := by
  obtain ⟨begun, goesOn⟩ := monthOfDay_bounds day
  have years : time.year = year + 1 := by rw [date.year, if_neg next]
  obtain january | late : monthOfDay day = 10 ∨ monthOfDay day = 11 := by
    have bound := date.month_lt
    omega
  · have months : time.month = 1 := by rw [date.month, if_neg next, january]
    have start : daysBeforeMonth 10 = 306 := rfl
    have stop : daysBeforeMonth (10 + 1) = 337 := rfl
    have length : daysOfMonth time.year 1 = 31 := rfl
    have none : ∑ m ∈ Finset.Ico 1 1, daysOfMonth time.year m = 0 := rfl
    rw [january] at begun goesOn
    rw [dayOfYear, date.day, months, january]
    omega
  · have months : time.month = 2 := by rw [date.month, if_neg next, late]
    have start : daysBeforeMonth 11 = 337 := rfl
    have length : daysOfMonth time.year 2 + 337 = daysOfYear (year + 1) := by
      rw [years, daysOfMonth_february]
    have january : ∑ m ∈ Finset.Ico 1 2, daysOfMonth time.year m = 31 := rfl
    have inYear := date.inYear
    rw [late] at begun
    rw [dayOfYear, date.day, months, late]
    omega

theorem late_of_reached (date : MarchDate time year day)
    (reached : daysBefore1970 ≤ daysBeforeMarch year + day) : 1970 ≤ time.year := by
  have late := date.late
  rw [date.year]
  split
  case isTrue same =>
    -- The year 1970 began ten months after March 1969.
    have early : year = 1969 → 306 ≤ day := by
      rintro rfl
      exact Nat.le_of_add_le_add_left reached
    unfold monthOfDay at same
    omega
  case isFalse => omega

/-- The days since 1970 are counted by years that begin in January. -/
theorem daysSince1970_eq (date : MarchDate time year day) (late : 1970 ≤ time.year) :
    time.daysSince1970 + daysBefore1970 = daysBeforeMarch year + day := by
  unfold daysSince1970
  by_cases same : monthOfDay day < 10
  · obtain ⟨years, _, _, _, days⟩ := date.ofSameYear same
    have february := daysOfMonth_february year
    obtain ⟨before, rfl⟩ : ∃ before, year = before + 1 := ⟨year - 1, by omega⟩
    have start : ∑ y ∈ Finset.Ico 1970 (before + 1), daysOfYear y + daysBefore1970 =
        daysBeforeMarch before + 306 := sum_daysOfYear (by omega)
    rw [years, days, daysBeforeMarch_succ]
    omega
  · obtain ⟨years, _, _, _, _, days⟩ := date.ofNextYear same
    have start := sum_daysOfYear date.late
    rw [years]
    omega

end MarchDate

/-- The date and time of an instant are a date of the calendar and a time of the day. -/
theorem valid_ofMillis (millis : Nat) : (ofMillis millis).Valid := by
  obtain ⟨year, day, date, days⟩ := exists_marchDate millis
  have late := date.late_of_reached (by rw [days]; exact Nat.le_add_left ..)
  have inDay : millis % millisPerDay < 86400000 := Nat.mod_lt _ (by decide)
  have ofDay : 1 ≤ (ofMillis millis).month ∧ (ofMillis millis).month ≤ 12 ∧
      1 ≤ (ofMillis millis).day ∧
      (ofMillis millis).day ≤ daysOfMonth (ofMillis millis).year (ofMillis millis).month := by
    by_cases same : monthOfDay day < 10
    · obtain ⟨_, month, first, last, _⟩ := date.ofSameYear same
      exact ⟨by omega, by omega, first, last⟩
    · obtain ⟨_, january, february, first, last, _⟩ := date.ofNextYear same
      exact ⟨january, by omega, first, last⟩
  obtain ⟨january, december, first, last⟩ := ofDay
  exact {
    year := late
    month := ⟨january, december⟩
    day := ⟨first, last⟩
    hour := by
      change millis % millisPerDay / 3600000 < 24
      omega
    minute := Nat.mod_lt _ (by decide)
    second := Nat.mod_lt _ (by decide)
    millisecond := Nat.mod_lt _ (by decide) }

theorem millisOfDay_ofMillis (millis : Nat) : (ofMillis millis).millisOfDay = millis % millisPerDay := by
  have inDay : millis % millisPerDay < 86400000 := Nat.mod_lt _ (by decide)
  unfold millisOfDay ofMillis
  dsimp only
  omega

/-- And they are those of the instant. -/
theorem elapsed_ofMillis (millis : Nat) : (ofMillis millis).elapsed = millis := by
  obtain ⟨year, day, date, days⟩ := exists_marchDate millis
  have counted := date.daysSince1970_eq (valid_ofMillis millis).year
  have parted : (ofMillis millis).daysSince1970 = millis / millisPerDay := by omega
  rw [elapsed, parted, millisOfDay_ofMillis, Nat.div_add_mod']

end DateTime

end QueueDepth.Calendar
