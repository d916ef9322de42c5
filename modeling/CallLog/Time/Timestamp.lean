import CallLog.Time.DayNumber
import CallLog.Time.Fraction

/-!
# Timestamps

An instant as seconds since 1970-01-01T00:00:00Z and nanoseconds that count up from them, also
before 1970. Nanoseconds of one second or more stand for a leap second, which only the last second
of a minute has. The text is RFC 3339: date and time of day in UTC, a fraction with the fewest of
0, 3, 6 or 9 digits that are exact, and `Z`.
-/

namespace CallLog

/-- An instant in UTC with nanoseconds. -/
structure Timestamp where
  seconds : Int
  nanos : Nat
  nanos_valid : nanos < 1000000000 ∨ nanos < 2000000000 ∧ seconds % 60 = 59
  deriving DecidableEq, Repr

namespace Timestamp

/-- The instant of these seconds and nanoseconds, if there is one. -/
def of? (seconds : Int) (nanos : Nat) : Option Timestamp :=
  if h : nanos < 1000000000 ∨ nanos < 2000000000 ∧ seconds % 60 = 59 then
    some ⟨seconds, nanos, h⟩
  else none

/-- The instant at which a clock reads this many nanoseconds since 1970. -/
def ofClock (reading : Int) : Timestamp :=
  ⟨reading / 1000000000, (reading % 1000000000).toNat, .inl (by omega)⟩

theorem seconds_ofClock (reading : Int) : (ofClock reading).seconds = reading / 1000000000 := rfl

theorem nanos_ofClock (reading : Int) : ((ofClock reading).nanos : Int) = reading % 1000000000 := by
  simp only [ofClock]; omega

theorem ofClock_injective {m n : Int} (h : ofClock m = ofClock n) : m = n := by
  have hs := congrArg seconds h
  have hn := congrArg (fun t => (t.nanos : Int)) h
  simp only [seconds_ofClock, nanos_ofClock] at hs hn
  omega

/-! ## Fields -/

/-- The calendar date. -/
def date (t : Timestamp) : Date := Date.ofDayNumber (t.seconds / 86400)

/-- The second of the day. -/
def secondOfDay (t : Timestamp) : Nat := (t.seconds % 86400).toNat

/-- The hour of the day. -/
def hour (t : Timestamp) : Nat := t.secondOfDay / 3600

/-- The minute of the hour. -/
def minute (t : Timestamp) : Nat := t.secondOfDay / 60 % 60

/-- Nanoseconds of one second or more stand for a leap second. -/
def IsLeapSecond (t : Timestamp) : Prop := 1000000000 ≤ t.nanos

instance (t : Timestamp) : Decidable t.IsLeapSecond := by unfold IsLeapSecond; infer_instance

/-- The second of the minute; a leap second is second 60. -/
def second (t : Timestamp) : Nat :=
  if t.IsLeapSecond then 60 else t.secondOfDay % 60

/-- The nanoseconds of the second. -/
def fraction (t : Timestamp) : Nat := t.nanos % 1000000000

theorem hour_lt (t : Timestamp) : t.hour < 24 := by
  simp only [hour, secondOfDay]; omega

theorem minute_lt (t : Timestamp) : t.minute < 60 := Nat.mod_lt _ (by decide)

theorem second_le (t : Timestamp) : t.second ≤ 60 := by
  simp only [second]; split <;> omega

theorem fraction_lt (t : Timestamp) : t.fraction < 1000000000 := Nat.mod_lt _ (by decide)

/-- The instant of a date and a time of day, if there is one; second 60 is a leap second. -/
def ofCivil? (date : Date) (hour minute second fraction : Nat) : Option Timestamp :=
  if date.Valid ∧ hour < 24 ∧ minute < 60 ∧ second ≤ 60 ∧ fraction < 1000000000 then
    let start := date.dayNumber * 86400 + (hour * 3600 + minute * 60 : Nat)
    if second = 60 then of? (start + 59) (1000000000 + fraction)
    else of? (start + second) fraction
  else none

theorem of?_seconds_nanos (t : Timestamp) : of? t.seconds t.nanos = some t := by
  simp [of?, t.nanos_valid]

/-- Date and time of day determine the instant. -/
theorem ofCivil?_fields (t : Timestamp) :
    ofCivil? t.date t.hour t.minute t.second t.fraction = some t := by
  have hday : t.date.dayNumber = t.seconds / 86400 := Date.dayNumber_ofDayNumber _
  have hfields : t.date.Valid ∧ t.hour < 24 ∧ t.minute < 60 ∧ t.second ≤ 60
      ∧ t.fraction < 1000000000 :=
    ⟨Date.valid_ofDayNumber _, t.hour_lt, t.minute_lt, t.second_le, t.fraction_lt⟩
  have hvalid := t.nanos_valid
  rw [ofCivil?, if_pos hfields, hday]
  by_cases hleap : t.IsLeapSecond
  · have hsecond : t.second = 60 := if_pos hleap
    have hs : t.seconds / 86400 * 86400 + (t.hour * 3600 + t.minute * 60 : Nat) + 59
        = t.seconds := by
      simp only [IsLeapSecond] at hleap
      simp only [hour, minute, secondOfDay]
      omega
    have hn : 1000000000 + t.fraction = t.nanos := by
      simp only [IsLeapSecond] at hleap
      simp only [fraction]
      omega
    rw [hsecond, if_pos rfl, hs, hn, of?_seconds_nanos]
  · have hsecond : t.second = t.secondOfDay % 60 := if_neg hleap
    have hs : t.seconds / 86400 * 86400 + (t.hour * 3600 + t.minute * 60 : Nat) + t.second
        = t.seconds := by
      simp only [hsecond, hour, minute, secondOfDay]
      omega
    have hn : t.fraction = t.nanos := by
      simp only [IsLeapSecond] at hleap
      simp only [fraction]
      omega
    have h60 : t.second ≠ 60 := by omega
    simp only [if_neg h60, hs, hn, of?_seconds_nanos]

/-! ## Text -/

/-- A year has four digits; outside 0 to 9999 it has a sign and at least four. -/
def yearChars (year : Int) : List Char :=
  if year < 0 then '-' :: Text.decimalPadded 4 year.natAbs
  else if year ≤ 9999 then Text.decimalPadded 4 year.natAbs
  else '+' :: Text.decimalPadded 4 year.natAbs

/-- The characters of the RFC 3339 text. -/
def chars (t : Timestamp) : List Char :=
  yearChars t.date.year ++ '-' :: Text.decimalPadded 2 t.date.month
    ++ '-' :: Text.decimalPadded 2 t.date.day
    ++ 'T' :: Text.decimalPadded 2 t.hour
    ++ ':' :: Text.decimalPadded 2 t.minute
    ++ ':' :: Text.decimalPadded 2 t.second
    ++ Fraction.chars t.fraction ++ ['Z']

/-- The RFC 3339 text of an instant. -/
def text (t : Timestamp) : String := String.ofList t.chars

end Timestamp
end CallLog
