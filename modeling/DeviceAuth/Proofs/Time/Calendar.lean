import Mathlib.Tactic.IntervalCases
import DeviceAuth.Time.Calendar

/-!
**Dates and day numbers.** The date with a day number exists and has that number
(`ofDayNumber_spec`). The computation divides by the lengths of years as if leap days were spread
evenly over a cycle; that this finds the right year is checked at the first and the last day of each
of its 400 years, and holds between them because `evened` grows.
-/

namespace DeviceAuth.Calendar

/-! ### Years of a cycle -/

/-- How many days of a cycle lie before a year of it. -/
def daysBefore (year : Nat) : Nat :=
  365 * year + year / 4 - year / 100

/-- A day of a cycle, counted as if every year had 365 days. -/
def evened (day : Nat) : Nat :=
  day - day / 1460 + day / 36524 - day / 146096

theorem evened_mono {first second : Nat} (le : first ≤ second) (within : second < 146097) :
    evened first ≤ evened second := by
  induction second, le using Nat.le_induction with
  | base => exact Nat.le_refl _
  | succ day le ih =>
    have step : evened day ≤ evened (day + 1) := by
      unfold evened
      omega
    exact Nat.le_trans (ih (by omega)) step

theorem evened_daysBefore : ∀ year : Fin 400,
    365 * year.val ≤ evened (daysBefore year) ∧
      evened (daysBefore (year + 1) - 1) < 365 * (year + 1) := by
  decide +kernel

/-- The year of a day of a cycle. The last one has a day more than is counted before a next one. -/
theorem year_evened {day : Nat} (within : day < 146097) :
    evened day / 365 < 400 ∧ daysBefore (evened day / 365) ≤ day ∧
      day < daysBefore (evened day / 365 + 1) + if evened day / 365 = 399 then 1 else 0 := by
  have small : evened day / 365 < 400 := by
    unfold evened
    omega
  have starts (year : Nat) (one : year < 400) := (evened_daysBefore ⟨year, one⟩).1
  have ends (year : Nat) (one : year < 400) := (evened_daysBefore ⟨year, one⟩).2
  generalize shape : evened day / 365 = year at small ⊢
  have first : daysBefore year < 146097 := by
    unfold daysBefore
    omega
  refine ⟨small, ?_, ?_⟩
  · by_contra early
    obtain ⟨before, rfl⟩ : ∃ before, year = before + 1 :=
      Nat.exists_eq_succ_of_ne_zero (by rintro rfl; exact early (Nat.zero_le _))
    have sooner := evened_mono (show day ≤ daysBefore (before + 1) - 1 by omega) (by omega)
    have bound := ends before (by omega)
    dsimp only at bound
    omega
  · split
    · next last =>
      subst last
      exact within
    · next more =>
      by_contra late
      have later := evened_mono (show daysBefore (year + 1) ≤ day by omega) within
      have bound := starts (year + 1) (by omega)
      dsimp only at bound
      omega

/-- The days of a year that starts in March: the leap day at its end is that of the year in which
it ends. -/
def marchLength (year : Nat) : Nat :=
  if isLeapYear (year + 1) then 366 else 365

theorem daysBefore_succ {year : Nat} (small : year < 400) :
    daysBefore (year + 1) + (if year = 399 then 1 else 0) = daysBefore year + marchLength year := by
  have leap : isLeapYear (year + 1) ↔
      (year + 1) % 4 = 0 ∧ ((year + 1) % 100 ≠ 0 ∨ (year + 1) % 400 = 0) := by
    simp only [isLeapYear, Bool.and_eq_true, Bool.or_eq_true, beq_iff_eq, bne_iff_ne]
    omega
  simp only [marchLength, leap]
  unfold daysBefore
  split_ifs <;> omega

theorem day_lt_marchLength {day : Nat} (within : day < 146097) :
    day - daysBefore (evened day / 365) < marchLength (evened day / 365) := by
  obtain ⟨small, starts, ends⟩ := year_evened within
  have next := daysBefore_succ small
  omega

/-! ### Dates -/

/-- The month with a number, of months counted from March on. -/
def monthFromMarch (count : Nat) : Nat :=
  if count < 10 then count + 3 else count - 9

/-- The date of a day of a year of a cycle. -/
def ofParts (cycle : Int) (year day : Nat) : Date :=
  let count := (5 * day + 2) / 153
  let shown := cycle * 400 + year
  ⟨if monthFromMarch count ≤ 2 then shown + 1 else shown, monthFromMarch count,
    day - (153 * count + 2) / 5 + 1⟩

section Parts

variable {cycle : Int} {year day : Nat}

theorem dayNumber_ofParts (small : year < 400) (within : day < 366) :
    (ofParts cycle year day).dayNumber =
      cycle * 146097 + (daysBefore year + day : Nat) - 719468 := by
  obtain ⟨count, shape⟩ : ∃ count, (5 * day + 2) / 153 = count := ⟨_, rfl⟩
  obtain ⟨shown, number⟩ : ∃ shown, cycle * 400 + (year : Int) = shown := ⟨_, rfl⟩
  have month : (if monthFromMarch count ≤ 2 then monthFromMarch count + 9
      else monthFromMarch count - 3) = count := by
    unfold monthFromMarch
    split_ifs <;> omega
  have yearBack : (if monthFromMarch count ≤ 2
      then (if monthFromMarch count ≤ 2 then shown + 1 else shown) - 1
      else if monthFromMarch count ≤ 2 then shown + 1 else shown) = shown := by
    split_ifs <;> omega
  have cycleBack : shown / 400 = cycle ∧ (shown % 400).toNat = year := by omega
  have dayBack : (153 * count + 2) / 5 + (day - (153 * count + 2) / 5 + 1) - 1 = day := by omega
  simp only [ofParts, Date.dayNumber, shape, number, month, yearBack, cycleBack, dayBack]
  unfold daysBefore
  omega

theorem isLeapYear_cycle (cycle year : Int) :
    isLeapYear (cycle * 400 + year) = isLeapYear year := by
  rw [Bool.eq_iff_iff]
  simp only [isLeapYear, Bool.and_eq_true, Bool.or_eq_true, beq_iff_eq, bne_iff_ne]
  omega

theorem valid_ofParts (within : day < marchLength year) : (ofParts cycle year day).Valid := by
  have leap := isLeapYear_cycle cycle (year + 1)
  have bound : day < 366 := by
    unfold marchLength at within
    split at within <;> omega
  obtain ⟨count, shape⟩ : ∃ count, (5 * day + 2) / 153 = count := ⟨_, rfl⟩
  have twelve : count < 12 := by omega
  unfold marchLength at within
  simp only [ofParts, Date.Valid, shape]
  -- Only February, the last month, depends on the year.
  interval_cases count <;> simp [monthFromMarch, daysInMonth, leap, add_assoc] <;>
    split_ifs at * <;> omega

/-- The days of the years from -262143 to 262142 have dates in these years. -/
theorem year_ofParts (small : year < 400) (within : day < 366)
    (low : -96465292 ≤ cycle * 146097 + (daysBefore year + day : Nat) - 719468)
    (high : cycle * 146097 + (daysBefore year + day : Nat) - 719468 ≤ 95026236) :
    -262143 ≤ (ofParts cycle year day).year ∧ (ofParts cycle year day).year ≤ 262142 := by
  have month : monthFromMarch ((5 * day + 2) / 153) ≤ 2 ↔ 306 ≤ day := by
    unfold monthFromMarch
    split <;> omega
  simp only [ofParts, month]
  unfold daysBefore at low high
  have first : -656 ≤ cycle := by omega
  have last : cycle ≤ 655 := by omega
  -- Only in the first and the last cycle do the bounds cut off years.
  rcases Int.lt_or_eq_of_le first with inside | rfl
  · rcases Int.lt_or_eq_of_le last with insideToo | rfl <;> split <;> omega
  · split <;> omega

end Parts

/-- The parts of a day number: its cycle, and the year and the day within it. -/
theorem exists_parts (dayNumber : Int) : ∃ (cycle : Int) (year day : Nat),
    ofDayNumber dayNumber = ofParts cycle year day ∧ year < 400 ∧ day < marchLength year ∧
      cycle * 146097 + (daysBefore year + day : Nat) - 719468 = dayNumber := by
  obtain ⟨dayOfCycle, shape⟩ : ∃ day, ((dayNumber + 719468) % 146097).toNat = day := ⟨_, rfl⟩
  have within : dayOfCycle < 146097 := by omega
  obtain ⟨small, starts, -⟩ := year_evened within
  have date : ofDayNumber dayNumber = ofParts ((dayNumber + 719468) / 146097)
      (evened dayOfCycle / 365) (dayOfCycle - daysBefore (evened dayOfCycle / 365)) := by
    rw [← shape]
    rfl
  exact ⟨_, _, _, date, small, day_lt_marchLength within, by omega⟩

theorem marchLength_le (year : Nat) : marchLength year ≤ 366 := by
  unfold marchLength
  split <;> omega

/-- **The date with a day number exists and has that number.** -/
theorem ofDayNumber_spec (dayNumber : Int) :
    (ofDayNumber dayNumber).Valid ∧ (ofDayNumber dayNumber).dayNumber = dayNumber := by
  obtain ⟨cycle, year, day, date, small, within, number⟩ := exists_parts dayNumber
  have bound := marchLength_le year
  rw [date, dayNumber_ofParts small (by omega)]
  exact ⟨valid_ofParts within, number⟩

theorem year_ofDayNumber {dayNumber : Int} (low : -96465292 ≤ dayNumber)
    (high : dayNumber ≤ 95026236) :
    -262143 ≤ (ofDayNumber dayNumber).year ∧ (ofDayNumber dayNumber).year ≤ 262142 := by
  obtain ⟨cycle, year, day, date, small, within, number⟩ := exists_parts dayNumber
  have bound := marchLength_le year
  rw [date]
  exact year_ofParts small (by omega) (by omega) (by omega)

end DeviceAuth.Calendar
