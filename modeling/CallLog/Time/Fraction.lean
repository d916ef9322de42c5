import CallLog.Text.Digits

/-!
# Decimal fractions of a second

Nanoseconds written after a decimal point with 0, 3, 6 or 9 digits, the fewest that are exact.
Timestamps and durations share this form.
-/

namespace CallLog.Fraction

/-- How many digits of 0, 3, 6 and 9 are needed for a number of nanoseconds. -/
def width (nanos : Nat) : Nat :=
  if nanos = 0 then 0
  else if nanos % 1000000 = 0 then 3
  else if nanos % 1000 = 0 then 6
  else 9

/-- The nanoseconds that the last of some digits counts. -/
def unit (digits : Nat) : Nat := Nat.pow 10 (9 - digits)

/-- The point and the digits, or nothing for a whole second. -/
def chars (nanos : Nat) : List Char :=
  if nanos = 0 then []
  else '.' :: Text.decimalPadded (width nanos) (nanos / unit (width nanos))

/-- The nanoseconds that a fraction denotes: its digits, filled up with zeros to nine. -/
def read : List Char → Nat
  | '.' :: digits => Text.readDecimal digits * unit digits.length
  | _ => 0

/-! ## Reading back -/

/-- The digits written are as many as are needed. -/
theorem length_digits {nanos : Nat} (hpos : nanos ≠ 0) (hlt : nanos < 1000000000) :
    (Text.decimalPadded (width nanos) (nanos / unit (width nanos))).length = width nanos := by
  have hw : width nanos = 3 ∨ width nanos = 6 ∨ width nanos = 9 := by
    simp only [width, hpos, if_false]; split
    · exact .inl rfl
    · split <;> simp
  refine Text.length_decimalPadded (by omega) ?_
  rcases hw with h | h | h <;>
    simp only [h, unit, Nat.pow_eq, Nat.reduceSub, Nat.reducePow] <;> omega

/-- Nothing is lost by writing only that many digits. -/
theorem mul_div_width {nanos : Nat} (hpos : nanos ≠ 0) :
    nanos / unit (width nanos) * unit (width nanos) = nanos := by
  simp only [width, hpos, if_false, unit, Nat.pow_eq]
  split
  · omega
  · split <;> omega

/-- The fraction of some nanoseconds is read as them. -/
theorem read_chars {nanos : Nat} (h : nanos < 1000000000) : read (chars nanos) = nanos := by
  by_cases hpos : nanos = 0
  · simp [chars, hpos, read]
  · simp only [chars, hpos, if_false, read, Text.readDecimal_decimalPadded, length_digits hpos h,
      mul_div_width hpos]

end CallLog.Fraction
