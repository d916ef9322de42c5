import CallLog.Time.Date

/-!
# Dates of day numbers

The inverse of `Date.dayNumber`. A day number is split into cycles of 400, 100, 4 and 1 years, with
years taken from March to February so that a leap day ends its year. `dayNumber_ofDayNumber` and
`valid_ofDayNumber`: the result is a date of the calendar, and it has that number.
-/

namespace CallLog.Date

/-! ## Years of a cycle -/

/-- The days from 0000-03-01, where a 400-year cycle begins, to 1970-01-01. -/
def cycleOffset : Int := 719468

/-- A day of a 400-year cycle as the year of the cycle and the day of that year. The last century
of a cycle and the last year of four can be a day longer than the others. -/
def yearOfCycle (day : Nat) : Nat × Nat :=
  let century := min (day / 36524) 3
  let day := day - century * 36524
  let four := day / 1461
  let day := day - four * 1461
  let year := min (day / 365) 3
  (century * 100 + four * 4 + year, day - year * 365)

/-- Every day of the cycle is one of its years, and only a year that ends in a leap day has a day
365. -/
theorem yearOfCycle_spec {day : Nat} (h : day < 146097) :
    (yearOfCycle day).1 < 400 ∧ (yearOfCycle day).2 ≤ 365
      ∧ day + (yearOfCycle day).1 / 100
        = 365 * (yearOfCycle day).1 + (yearOfCycle day).1 / 4 + (yearOfCycle day).2
      ∧ ((yearOfCycle day).2 = 365 →
        ((yearOfCycle day).1 + 1) % 4 = 0
          ∧ (((yearOfCycle day).1 + 1) % 100 ≠ 0 ∨ ((yearOfCycle day).1 + 1) % 400 = 0)) := by
  simp only [yearOfCycle]
  obtain ⟨century, hc⟩ : ∃ c, min (day / 36524) 3 = c := ⟨_, rfl⟩
  simp only [hc]
  obtain ⟨r, hr⟩ : ∃ r, day - century * 36524 = r := ⟨_, rfl⟩
  have h1 : day = century * 36524 + r ∧ century ≤ 3 ∧ r ≤ 36524 ∧ (r = 36524 → century = 3) := by
    omega
  simp only [hr]
  obtain ⟨four, hf⟩ : ∃ c, r / 1461 = c := ⟨_, rfl⟩
  simp only [hf]
  obtain ⟨q, hq⟩ : ∃ q, r - four * 1461 = q := ⟨_, rfl⟩
  have h2 : r = four * 1461 + q ∧ four ≤ 24 ∧ q < 1461 ∧ (four = 24 → q ≤ 1460) := by omega
  simp only [hq]
  obtain ⟨y, hy⟩ : ∃ y, min (q / 365) 3 = y := ⟨_, rfl⟩
  simp only [hy]
  obtain ⟨d, hd⟩ : ∃ d, q - y * 365 = d := ⟨_, rfl⟩
  have h3 : q = y * 365 + d ∧ y ≤ 3 ∧ d ≤ 365 ∧ (d = 365 → y = 3) := by omega
  simp only [hd]
  clear hc hr hf hq hy hd
  have hdiv : (century * 100 + four * 4 + y) / 100 = century := by omega
  have hdiv4 : (century * 100 + four * 4 + y) / 4 = century * 25 + four := by omega
  rw [hdiv, hdiv4]
  refine ⟨by omega, by omega, by omega, fun h365 => ?_⟩
  omega

/-! ## Months of a year -/

/-- A day of a year that begins in March as a month, from 0 for March to 11 for February, and the
day of that month, from 0. -/
def monthOfYear (day : Nat) : Nat × Nat :=
  let month := (5 * day + 2) / 153
  (month, day - (153 * month + 2) / 5)

/-- Every day of the year is in one of its months, and no month is longer than it should be. -/
theorem monthOfYear_spec {day : Nat} (h : day ≤ 365) :
    (monthOfYear day).1 ≤ 11
      ∧ day = (153 * (monthOfYear day).1 + 2) / 5 + (monthOfYear day).2
      ∧ (monthOfYear day).2
        < (153 * ((monthOfYear day).1 + 1) + 2) / 5 - (153 * (monthOfYear day).1 + 2) / 5 := by
  simp only [monthOfYear]
  omega

/-! ## Dates -/

/-- The date of a day number. -/
def ofDayNumber (n : Int) : Date :=
  let (year, dayOfYear) := yearOfCycle ((n + cycleOffset) % 146097).toNat
  let (month, day) := monthOfYear dayOfYear
  let year := (n + cycleOffset) / 146097 * 400 + year
  if month < 10 then ⟨year, month + 3, day + 1⟩ else ⟨year + 1, month - 9, day + 1⟩

/-- The days before a year in terms of its place in a 400-year cycle. -/
theorem daysBeforeYear_cycle (cycle : Int) {y : Nat} (h : y < 400) :
    daysBeforeYear (cycle * 400 + y + 1) + (y / 100 : Nat)
      = cycle * 146097 + 365 * y + (y / 4 : Nat) := by
  simp only [daysBeforeYear]
  have h4 : (cycle * 400 + y + 1 - 1) / 4 = cycle * 100 + (y / 4 : Nat) := by omega
  have h100 : (cycle * 400 + y + 1 - 1) / 100 = cycle * 4 + (y / 100 : Nat) := by omega
  have h400 : (cycle * 400 + y + 1 - 1) / 400 = cycle := by omega
  rw [h4, h100, h400]
  omega

/-- The date of a day number has that number. -/
theorem dayNumber_ofDayNumber (n : Int) : (ofDayNumber n).dayNumber = n := by
  obtain ⟨cycle, hcycle⟩ : ∃ c, (n + cycleOffset) / 146097 = c := ⟨_, rfl⟩
  obtain ⟨day, hday⟩ : ∃ d, ((n + cycleOffset) % 146097).toNat = d := ⟨_, rfl⟩
  have hn : n = cycle * 146097 + day - 719468 ∧ day < 146097 := by
    simp only [cycleOffset] at hcycle hday; omega
  obtain ⟨hy, hd, heq, -⟩ := yearOfCycle_spec hn.2
  simp only [ofDayNumber, hcycle, hday]
  generalize yearOfCycle day = yd at *
  obtain ⟨y, d⟩ := yd
  obtain ⟨hm, hdm, -⟩ := monthOfYear_spec hd
  simp only at *
  generalize monthOfYear d = mk at *
  obtain ⟨m, k⟩ := mk
  simp only at *
  have hyear := daysBeforeYear_cycle cycle hy
  split
  next h10 =>
    have hsucc := daysBeforeYear_succ (cycle * 400 + y)
    simp only [dayNumber, daysBeforeMonth_march _ h10]
    split at hsucc <;> simp_all <;> omega
  next h10 =>
    simp only [dayNumber, daysBeforeMonth_of_le (show m - 9 ≤ 2 by omega)]
    split <;> omega

/-- The date of a day number exists in the calendar. -/
theorem valid_ofDayNumber (n : Int) : (ofDayNumber n).Valid := by
  obtain ⟨cycle, hcycle⟩ : ∃ c, (n + cycleOffset) / 146097 = c := ⟨_, rfl⟩
  obtain ⟨day, hday⟩ : ∃ d, ((n + cycleOffset) % 146097).toNat = d := ⟨_, rfl⟩
  have hlt : day < 146097 := by simp only [cycleOffset] at hcycle hday; omega
  obtain ⟨hy, hd, -, hleap⟩ := yearOfCycle_spec hlt
  simp only [ofDayNumber, hcycle, hday]
  generalize yearOfCycle day = yd at *
  obtain ⟨y, d⟩ := yd
  obtain ⟨hm, hdm, hk⟩ := monthOfYear_spec hd
  simp only at *
  generalize monthOfYear d = mk at *
  obtain ⟨m, k⟩ := mk
  simp only at *
  split
  next h10 =>
    match m, h10 with
    | 0, _ | 1, _ | 2, _ | 3, _ | 4, _ | 5, _ | 6, _ | 7, _ | 8, _ | 9, _ =>
      simp [Valid, daysInMonth]; omega
  next h10 =>
    have hm' : m = 10 ∨ m = 11 := by omega
    have hl := isLeapYear_iff (cycle * 400 + y + 1)
    rcases hm' with rfl | rfl
    · simp [Valid, daysInMonth]; omega
    · simp only [Valid, daysInMonth]
      refine ⟨by omega, by omega, by omega, ?_⟩
      split <;> simp_all <;> omega
end CallLog.Date
