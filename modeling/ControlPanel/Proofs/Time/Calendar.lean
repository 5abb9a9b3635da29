import ControlPanel.Time.Instant

/-!
# The calendar

A day and its date tell each other: the date of a day is a date of the calendar
(`CivilDate.day_ofDays`), and its day is the one it came from (`CivilDate.toDays_ofDays`). The
years of an era of four hundred are counted from March, so a leap day is the last of its year.
-/

namespace ControlPanel.CivilDate

/-! ## Years of an era -/

def yearStart (year : Int) : Int := 365 * year + year / 4 - year / 100

def flattened (day : Int) : Int := day - day / 1460 + day / 36524 - day / 146096

theorem flattened_mono {day later : Int} (le : day ≤ later) :
    flattened day ≤ flattened later := by
  have cycles : later / 1460 - day / 1460 ≤ later - day := by omega
  have eras (day : Int) : day / 146096 = day / 36524 / 4 := by omega
  have centuries : day / 36524 ≤ later / 36524 := Int.ediv_le_ediv (by decide) le
  simp only [flattened, eras]
  omega

theorem flattened_yearStart (year : Fin 400) :
    365 * (year : Int) ≤ flattened (yearStart year) ∧
      flattened (yearStart (year + 1) - 1) < 365 * ((year : Int) + 1) := by
  decide +kernel +revert

def yearOfEra (day : Int) : Int := flattened day / 365

section

variable {day : Int} (low : 0 ≤ day) (high : day < 146097)

include low high

theorem yearOfEra_bounds : 0 ≤ yearOfEra day ∧ yearOfEra day ≤ 399 := by
  simp only [yearOfEra, flattened]
  omega

theorem yearStart_le : yearStart (yearOfEra day) ≤ day := by
  obtain ⟨least, greatest⟩ := yearOfEra_bounds low high
  apply Int.not_lt.mp
  intro early
  have positive : 0 < yearOfEra day := by
    apply Decidable.byContradiction
    intro zero
    rw [show yearOfEra day = 0 by omega] at early
    change day < 0 at early
    omega
  -- the days before the year have smaller counts than those of the year
  have table := (flattened_yearStart ⟨(yearOfEra day - 1).toNat, by omega⟩).2
  have same : ((yearOfEra day - 1).toNat : Int) = yearOfEra day - 1 := by omega
  simp only [same] at table
  rw [show yearOfEra day - 1 + 1 = yearOfEra day by omega] at table
  have before := flattened_mono (show day ≤ yearStart (yearOfEra day) - 1 by omega)
  have count : 365 * yearOfEra day ≤ flattened day := by
    simp only [yearOfEra]
    omega
  omega

theorem lt_yearStart (notLast : day ≠ 146096) : day < yearStart (yearOfEra day + 1) := by
  obtain ⟨least, greatest⟩ := yearOfEra_bounds low high
  apply Int.not_le.mp
  intro late
  by_cases last : yearOfEra day = 399
  · rw [last] at late
    change 146096 ≤ day at late
    omega
  · have table := (flattened_yearStart ⟨(yearOfEra day + 1).toNat, by omega⟩).1
    have same : ((yearOfEra day + 1).toNat : Int) = yearOfEra day + 1 := by omega
    simp only [same] at table
    have after := flattened_mono late
    have count : flattened day < 365 * (yearOfEra day + 1) := by
      simp only [yearOfEra]
      omega
    omega

/-! ## Days of a year -/

def dayOfYear (day : Int) : Int := day - yearStart (yearOfEra day)

theorem dayOfYear_bounds : 0 ≤ dayOfYear day ∧ dayOfYear day ≤ 365 := by
  have start := yearStart_le low high
  obtain ⟨least, greatest⟩ := yearOfEra_bounds low high
  refine ⟨by simp only [dayOfYear]; omega, ?_⟩
  by_cases last : day = 146096
  · subst last
    decide
  · have ends := lt_yearStart low high last
    simp only [dayOfYear, yearStart] at *
    omega

theorem isLeapYear_of_dayOfYear (leap : dayOfYear day = 365) (era : Int) :
    isLeapYear (yearOfEra day + era * 400 + 1) = true := by
  have start := yearStart_le low high
  obtain ⟨least, greatest⟩ := yearOfEra_bounds low high
  simp only [isLeapYear, Bool.and_eq_true, Bool.or_eq_true, decide_eq_true_eq]
  by_cases last : day = 146096
  · have year : yearOfEra day = 399 := by
      subst last
      decide
    omega
  · have ends := lt_yearStart low high last
    simp only [dayOfYear, yearStart] at leap ends
    have fourth : (yearOfEra day + 1) / 4 = yearOfEra day / 4 + 1 := by omega
    have sameCentury : (yearOfEra day + 1) / 100 = yearOfEra day / 100 := by omega
    clear leap ends start
    omega

end

def monthOfYear (day : Int) : Int := (5 * dayOfYear day + 2) / 153

def dayOfMonth (day : Int) : Int := dayOfYear day - (153 * monthOfYear day + 2) / 5 + 1

def calendarMonth (month : Int) : Int := if month < 10 then month + 3 else month - 9

theorem ofDays_eq (days : Int) : ofDays days =
    let day := (days + 719468) % 146097
    let month := calendarMonth (monthOfYear day)
    ⟨yearOfEra day + (days + 719468) / 146097 * 400 + (if month ≤ 2 then 1 else 0), month.toNat,
      (dayOfMonth day).toNat⟩ := rfl

section

variable {day : Int} (low : 0 ≤ day) (high : day < 146097)

include low high

theorem monthOfYear_bounds : 0 ≤ monthOfYear day ∧ monthOfYear day ≤ 11 := by
  obtain ⟨least, greatest⟩ := dayOfYear_bounds low high
  simp only [monthOfYear]
  omega

theorem dayOfMonth_bounds (era : Int) : 1 ≤ dayOfMonth day ∧ dayOfMonth day ≤
    daysInMonth (yearOfEra day + era * 400 + if calendarMonth (monthOfYear day) ≤ 2 then 1 else 0)
      (calendarMonth (monthOfYear day)).toNat := by
  obtain ⟨least, greatest⟩ := dayOfYear_bounds low high
  obtain ⟨first, last⟩ := monthOfYear_bounds low high
  have month : monthOfYear day = (5 * dayOfYear day + 2) / 153 := rfl
  by_cases february : monthOfYear day = 11
  · simp only [dayOfMonth, february, calendarMonth]
    by_cases last : dayOfYear day = 365
    · have leap := isLeapYear_of_dayOfYear low high last era
      simp [daysInMonth, last, leap]
    · simp [daysInMonth]
      split <;> omega
  · have cases : monthOfYear day = 0 ∨ monthOfYear day = 1 ∨ monthOfYear day = 2 ∨
        monthOfYear day = 3 ∨ monthOfYear day = 4 ∨ monthOfYear day = 5 ∨ monthOfYear day = 6 ∨
        monthOfYear day = 7 ∨ monthOfYear day = 8 ∨ monthOfYear day = 9 ∨ monthOfYear day = 10 := by
      omega
    rcases cases with here | here | here | here | here | here | here | here | here | here | here
    all_goals
      rw [here] at month ⊢
      simp [dayOfMonth, here, calendarMonth, daysInMonth]
      omega

end

/-! ## Days and dates -/

theorem era_bounds (days : Int) :
    0 ≤ (days + 719468) % 146097 ∧ (days + 719468) % 146097 < 146097 := by
  omega

theorem ofDays_bounds (days : Int) :
    (1 ≤ (ofDays days).month ∧ (ofDays days).month ≤ 12) ∧ 1 ≤ (ofDays days).day ∧
      (ofDays days).day ≤ daysInMonth (ofDays days).year (ofDays days).month := by
  obtain ⟨low, high⟩ := era_bounds days
  have month := monthOfYear_bounds low high
  have day := dayOfMonth_bounds low high ((days + 719468) / 146097)
  constructor
  · simp only [ofDays_eq, calendarMonth]
    omega
  · simp only [ofDays_eq]
    omega

theorem daysInMonth_le (year : Int) (month : Nat) : daysInMonth year month ≤ 31 := by
  unfold daysInMonth
  repeat' split
  all_goals decide

theorem ofDays_isValid (days : Int) : (ofDays days).isValid = true ↔
    minYear ≤ (ofDays days).year ∧ (ofDays days).year ≤ maxYear := by
  obtain ⟨month, day⟩ := ofDays_bounds days
  simp [isValid, month, day]

theorem toDays_ofDays (days : Int) : (ofDays days).toDays = days := by
  obtain ⟨low, high⟩ := era_bounds days
  have year := yearOfEra_bounds low high
  have month := monthOfYear_bounds low high
  have day := dayOfMonth_bounds low high ((days + 719468) / 146097)
  generalize era : (days + 719468) / 146097 = e at *
  generalize within : (days + 719468) % 146097 = d at *
  have shifted : (((calendarMonth (monthOfYear d)).toNat : Int) + 9) % 12 = monthOfYear d := by
    simp only [calendarMonth]
    omega
  have march : (if (calendarMonth (monthOfYear d)).toNat ≤ 2 then
      yearOfEra d + e * 400 + (if calendarMonth (monthOfYear d) ≤ 2 then 1 else 0) - 1 else
      yearOfEra d + e * 400 + (if calendarMonth (monthOfYear d) ≤ 2 then 1 else 0)) =
        yearOfEra d + e * 400 := by
    split <;> split <;> omega
  simp only [ofDays_eq, toDays, era, within, march, shifted]
  have start : dayOfYear d = d - yearStart (yearOfEra d) := rfl
  have whole : ((dayOfMonth d).toNat : Int) = dayOfYear d - (153 * monthOfYear d + 2) / 5 + 1 := by
    rw [Int.toNat_of_nonneg (by omega)]
    rfl
  rw [whole, show (yearOfEra d + e * 400) / 400 = e by omega,
    show (yearOfEra d + e * 400) % 400 = yearOfEra d by omega]
  simp only [start, yearStart]
  omega

end ControlPanel.CivilDate
