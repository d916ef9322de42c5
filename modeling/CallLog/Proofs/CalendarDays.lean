import CallLog.Time.DayNumber
import Mathlib.Data.Int.Order.Basic
import Mathlib.Data.List.Lex
import Mathlib.Logic.Function.Iterate

/-!
# The calendar from day to day

`Date.next` is the day after a date, by the lengths of months and years alone, and `Date.IsDay` counts
days from 1970-01-01 by going from each date to the next, or back. The day number of a date is what is
counted so (`isDay_iff`): it grows by one from day to day (`dayNumber_next`), and in the order of year,
month and day (`dayNumber_lt`), so that every date is passed once.
-/

namespace CallLog.Date

/-! ## The next day -/

/-- The first day of 1970. -/
def epoch : Date := ⟨1970, 1, 1⟩

/-- The day after a date: another day of its month, or the first of the next month or year. -/
def next (date : Date) : Date :=
  if date.day < daysInMonth date.year date.month then ⟨date.year, date.month, date.day + 1⟩
  else if date.month < 12 then ⟨date.year, date.month + 1, 1⟩
  else ⟨date.year + 1, 1, 1⟩

theorem daysInMonth_pos (year : Int) (month : Nat) : 1 ≤ daysInMonth year month := by
  unfold daysInMonth
  split <;> first | (split <;> decide) | decide

theorem daysBeforeMonth_succ (year : Int) {month : Nat} (h : 1 ≤ month) :
    daysBeforeMonth year (month + 1) = daysBeforeMonth year month + daysInMonth year month := by
  obtain ⟨month, rfl⟩ := Nat.exists_eq_add_of_le' h
  rfl

/-- The days before December and its 31 days are those of the year. -/
theorem daysBeforeMonth_twelve (year : Int) :
    daysBeforeMonth year 12 + 31 = 365 + if isLeapYear year then 1 else 0 := by
  have hmarch : daysBeforeMonth year 12 = _ := daysBeforeMonth_march year (show 9 < 10 by decide)
  omega

theorem valid_next {date : Date} (h : date.Valid) : date.next.Valid := by
  obtain ⟨hmonth, hmonth', hday, hday'⟩ := h
  unfold next
  split
  next hlt => exact ⟨hmonth, hmonth', Nat.le_add_left 1 _, hlt⟩
  next =>
    split
    next hlt => exact ⟨Nat.le_add_left 1 _, hlt, Nat.le_refl 1, daysInMonth_pos _ _⟩
    next => exact ⟨Nat.le_refl 1, Nat.le_add_left 1 11, Nat.le_refl 1, daysInMonth_pos _ _⟩

/-- Day numbers count the days of the calendar. -/
theorem dayNumber_next {date : Date} (h : date.Valid) : date.next.dayNumber = date.dayNumber + 1 := by
  obtain ⟨hmonth, hmonth', hday, hday'⟩ := h
  unfold next
  split
  next hlt =>
    simp only [dayNumber]
    omega
  next hlast =>
    split
    next hlt =>
      simp only [dayNumber, daysBeforeMonth_succ date.year hmonth]
      omega
    next hdecember =>
      obtain ⟨year, month, day⟩ := date
      obtain rfl : month = 12 := by simp only at *; omega
      have hyear := daysBeforeYear_succ year
      have htwelve := daysBeforeMonth_twelve year
      have hthirtyone : daysInMonth year 12 = 31 := rfl
      simp only [dayNumber, daysBeforeMonth] at *
      split at hyear <;> simp_all <;> omega

/-! ## The order of dates -/

/-- Year, month and day, in the order in which dates are compared. -/
def fields (date : Date) : List Int := [date.year, date.month, date.day]

theorem daysBeforeYear_mono {y z : Int} (h : y ≤ z) : daysBeforeYear y ≤ daysBeforeYear z := by
  simp only [daysBeforeYear]
  omega

theorem daysBeforeMonth_add_le (year : Int) {m n : Nat} (hm : 1 ≤ m) (h : m < n) :
    daysBeforeMonth year m + daysInMonth year m ≤ daysBeforeMonth year n := by
  rw [← daysBeforeMonth_succ year hm]
  induction h with
  | refl => exact Nat.le_refl _
  | step hlt ih =>
    rw [daysBeforeMonth_succ year (Nat.le_trans hm (Nat.le_of_lt hlt))]
    exact Nat.le_trans ih (Nat.le_add_right _ _)

/-- The day numbers of a year lie between its first of January and that of the next year. -/
theorem dayNumber_bounds {date : Date} (h : date.Valid) :
    daysBeforeYear date.year ≤ date.dayNumber + 719162
      ∧ date.dayNumber + 719162 < daysBeforeYear (date.year + 1) := by
  obtain ⟨hmonth, hmonth', hday, hday'⟩ := h
  have hyear := daysBeforeYear_succ date.year
  have hrest := daysBeforeMonth_add_le date.year hmonth (Nat.lt_succ_of_le hmonth')
  have htwelve := daysBeforeMonth_twelve date.year
  rw [daysBeforeMonth_succ date.year (by decide)] at hrest
  have hthirtyone : daysInMonth date.year 12 = 31 := rfl
  simp only [dayNumber]
  split at hyear <;> simp_all <;> omega

/-- An earlier date has a smaller day number. -/
theorem dayNumber_lt {d e : Date} (hd : d.Valid) (he : e.Valid) (h : d.fields < e.fields) :
    d.dayNumber < e.dayNumber := by
  simp only [fields, List.cons_lt_cons_iff, Int.ofNat_lt, Int.natCast_inj, List.not_lt_nil, and_false,
    or_false] at h
  rcases h with hyear | ⟨hyear, hmonth | ⟨hmonth, hday⟩⟩
  · have hbefore := (dayNumber_bounds hd).2
    have hafter := (dayNumber_bounds he).1
    have hyears := daysBeforeYear_mono (Int.add_one_le_of_lt hyear)
    omega
  · have hmonths := daysBeforeMonth_add_le d.year hd.1 hmonth
    have hday := hd.2.2.2
    have hday' := he.2.2.1
    simp only [dayNumber, ← hyear]
    omega
  · simp only [dayNumber, ← hyear, ← hmonth]
    omega

theorem fields_injective {d e : Date} (h : d.fields = e.fields) : d = e := by
  cases d
  cases e
  simpa [fields, Int.natCast_inj] using h

/-- Dates are in the order of their day numbers. -/
theorem fields_lt_iff {d e : Date} (hd : d.Valid) (he : e.Valid) :
    d.fields < e.fields ↔ d.dayNumber < e.dayNumber := by
  refine ⟨dayNumber_lt hd he, fun h => ?_⟩
  rcases lt_trichotomy d.fields e.fields with hlt | heq | hgt
  · exact hlt
  · rw [fields_injective heq] at h
    exact absurd h (Int.lt_irrefl _)
  · exact absurd h (Int.not_lt.2 (Int.le_of_lt (dayNumber_lt he hd hgt)))

theorem dayNumber_injective {d e : Date} (hd : d.Valid) (he : e.Valid)
    (h : d.dayNumber = e.dayNumber) : d = e := by
  rcases lt_trichotomy d.fields e.fields with hlt | heq | hgt
  · exact absurd h (Int.ne_of_lt (dayNumber_lt hd he hlt))
  · exact fields_injective heq
  · exact absurd h.symm (Int.ne_of_lt (dayNumber_lt he hd hgt))

/-! ## Counting from 1970 -/

/-- A date is this many days after 1970-01-01, going from each date to the next; a negative number
leads from the date to 1970-01-01. -/
def IsDay (date : Date) (n : Int) : Prop :=
  ∃ k : Nat, n = k ∧ next^[k] epoch = date ∨ n = -k ∧ next^[k] date = epoch

theorem valid_epoch : epoch.Valid := by decide

theorem dayNumber_epoch : epoch.dayNumber = 0 := rfl

theorem valid_iterate_next {date : Date} (h : date.Valid) (k : Nat) : (next^[k] date).Valid := by
  induction k with
  | zero => exact h
  | succ k ih =>
    rw [Function.iterate_succ_apply']
    exact valid_next ih

theorem dayNumber_iterate_next {date : Date} (h : date.Valid) (k : Nat) :
    (next^[k] date).dayNumber = date.dayNumber + k := by
  induction k with
  | zero => simp
  | succ k ih =>
    rw [Function.iterate_succ_apply', dayNumber_next (valid_iterate_next h k), ih]
    omega

/-- **The day number of a date counts the days from 1970-01-01.** -/
theorem isDay_iff {date : Date} (h : date.Valid) {n : Int} : IsDay date n ↔ date.dayNumber = n := by
  constructor
  · rintro ⟨k, ⟨rfl, hdate⟩ | ⟨rfl, hdate⟩⟩
    · rw [← hdate, dayNumber_iterate_next valid_epoch, dayNumber_epoch, Int.zero_add]
    · have hcount := dayNumber_iterate_next h k
      rw [hdate, dayNumber_epoch] at hcount
      omega
  · rintro rfl
    rcases Int.le_total 0 date.dayNumber with hpos | hneg
    · obtain ⟨k, hk⟩ := Int.eq_ofNat_of_zero_le hpos
      refine ⟨k, .inl ⟨hk, dayNumber_injective (valid_iterate_next valid_epoch k) h ?_⟩⟩
      rw [dayNumber_iterate_next valid_epoch, dayNumber_epoch, hk, Int.zero_add]
    · obtain ⟨k, hk⟩ := Int.exists_eq_neg_ofNat hneg
      refine ⟨k, .inr ⟨hk, dayNumber_injective (valid_iterate_next h k) valid_epoch ?_⟩⟩
      rw [dayNumber_iterate_next h, dayNumber_epoch, hk]
      omega

end CallLog.Date
