/-!
# Calendar dates

Dates of the proleptic Gregorian calendar and the day numbers they stand for, counted from
1970-01-01: a date's number counts the days of the years and months before it.
-/

namespace CallLog

/-- A day of the proleptic Gregorian calendar; the year before year 1 is year 0. -/
structure Date where
  year : Int
  month : Nat
  day : Nat
  deriving DecidableEq, Repr

namespace Date

/-! ## The calendar -/

/-- Every fourth year is a leap year, but of the full centuries only every fourth. -/
def isLeapYear (year : Int) : Bool :=
  year % 4 == 0 && (year % 100 != 0 || year % 400 == 0)

theorem isLeapYear_iff (year : Int) :
    isLeapYear year = true ↔ year % 4 = 0 ∧ (year % 100 ≠ 0 ∨ year % 400 = 0) := by
  simp [isLeapYear]

/-- The length of a month. -/
def daysInMonth (year : Int) : Nat → Nat
  | 2 => if isLeapYear year then 29 else 28
  | 4 | 6 | 9 | 11 => 30
  | _ => 31

/-- Month and day exist in the year. -/
def Valid (date : Date) : Prop :=
  1 ≤ date.month ∧ date.month ≤ 12 ∧ 1 ≤ date.day ∧ date.day ≤ daysInMonth date.year date.month

instance (date : Date) : Decidable date.Valid := by unfold Valid; infer_instance

/-! ## Day numbers -/

/-- The days from 0001-01-01 to the first of January of a year. -/
def daysBeforeYear (year : Int) : Int :=
  365 * (year - 1) + (year - 1) / 4 - (year - 1) / 100 + (year - 1) / 400

/-- The days of a year before the first of a month. -/
def daysBeforeMonth (year : Int) : Nat → Nat
  | 0 | 1 => 0
  | month + 2 => daysBeforeMonth year (month + 1) + daysInMonth year (month + 1)

/-- The day number of a date: 1970-01-01 is day 0. -/
def dayNumber (date : Date) : Int :=
  daysBeforeYear date.year + daysBeforeMonth date.year date.month + date.day - 1 - 719162

/-! ## Counting the days -/

/-- A year has 365 days, and a leap year one more. -/
theorem daysBeforeYear_succ (year : Int) :
    daysBeforeYear (year + 1) = daysBeforeYear year + 365 + (if isLeapYear year then 1 else 0) := by
  have hleap := isLeapYear_iff year
  simp only [daysBeforeYear]
  split <;> simp_all <;> omega

/-- The days before January and February of a year. -/
theorem daysBeforeMonth_of_le {year : Int} {month : Nat} (h : month ≤ 2) :
    daysBeforeMonth year month = if month = 2 then 31 else 0 := by
  match month, h with
  | 0, _ | 1, _ => rfl
  | 2, _ => rfl

/-- The days before March and later months of a year. -/
theorem daysBeforeMonth_march (year : Int) {month : Nat} (h : month < 10) :
    daysBeforeMonth year (month + 3)
      = 59 + (if isLeapYear year then 1 else 0) + (153 * month + 2) / 5 := by
  cases hl : isLeapYear year <;>
    match month, h with
    | 0, _ | 1, _ | 2, _ | 3, _ | 4, _ | 5, _ | 6, _ | 7, _ | 8, _ | 9, _ =>
      simp [daysBeforeMonth, daysInMonth, hl]

end Date
end CallLog
