import CallLog.Proofs.TimeText
import CallLog.Text.Numeral
import Mathlib.Algebra.Field.Rat
import Mathlib.Tactic.FieldSimp
import Mathlib.Tactic.Ring

/-!
# Seconds as decimal numbers

Spans of time and seconds of a minute are written as decimal numbers. `Decimal` is such a number as
text, with the rational number that it denotes; a text is one decimal at most (`Decimal.chars_inj`).
`Decimal.Shortest` says of a decimal that it is exact with the fewest of 0, 3, 6 and 9 places. The
fraction of a second that is written behind whole seconds makes them the shortest decimal
(`Decimal.shortest_ofSeconds`): that fewer places would not do is a matter of the powers of ten that
divide the nanoseconds (`Fraction.width_le_of_dvd`).
-/

namespace CallLog

open Text

namespace Fraction

/-- The digits behind the point. -/
def places (nanos : Nat) : List Char :=
  if nanos = 0 then [] else decimalPadded (width nanos) (nanos / unit (width nanos))

theorem isDigit_places {nanos : Nat} {c : Char} (h : c ∈ places nanos) : c.isDigit := by
  unfold places at h
  split at h
  · cases h
  · exact isDigit_of_mem_decimalPadded h

theorem length_places {nanos : Nat} (h : nanos < 1000000000) :
    (places nanos).length = width nanos := by
  unfold places
  split
  next hzero => rw [hzero]; rfl
  next hpos => exact length_digits hpos h

theorem readDecimal_places (nanos : Nat) : readDecimal (places nanos) * unit (width nanos) = nanos := by
  unfold places
  split
  next hzero => rw [hzero]; rfl
  next hpos => rw [readDecimal_decimalPadded, mul_div_width hpos]

theorem chars_eq_places (nanos : Nat) :
    chars nanos = if places nanos = [] then [] else '.' :: places nanos := by
  by_cases hzero : nanos = 0
  · simp [chars, places, hzero]
  · have hne : places nanos ≠ [] := by
      rw [places, if_neg hzero]
      exact decimalPadded_ne_nil _ _
    rw [if_neg hne, chars, places, if_neg hzero, if_neg hzero]

theorem width_mem (nanos : Nat) : width nanos ∈ [0, 3, 6, 9] := by
  unfold width
  split_ifs <;> decide

/-- The places and what the last of them counts make up a second. -/
theorem pow_mul_unit {digits : Nat} (h : digits ≤ 9) : 10 ^ digits * unit digits = 10 ^ 9 := by
  rw [unit, Nat.pow_eq, ← Nat.pow_add, Nat.add_sub_cancel' h]

theorem le_nine_of_mem {digits : Nat} (h : digits ∈ [0, 3, 6, 9]) : digits ≤ 9 := by
  simp only [List.mem_cons, List.not_mem_nil, or_false] at h
  omega

/-- Some places are enough only if what the last of them counts divides the nanoseconds. -/
theorem width_le_of_dvd {nanos digits : Nat} (hlt : nanos < 1000000000)
    (hdigits : digits ∈ [0, 3, 6, 9]) (hdvd : unit digits ∣ nanos) : width nanos ≤ digits := by
  simp only [List.mem_cons, List.not_mem_nil, or_false] at hdigits
  unfold width
  rcases hdigits with rfl | rfl | rfl | rfl <;>
    simp only [unit, Nat.pow_eq, Nat.reduceSub, Nat.reducePow] at hdvd <;> split_ifs <;> omega

end Fraction

/-! ## Decimal numbers -/

/-- A decimal number as text: digits before the point, and perhaps digits behind it. -/
structure Decimal where
  whole : List Char
  places : List Char
  whole_ne_nil : whole ≠ []
  isDigit_whole : ∀ c ∈ whole, c.isDigit
  isDigit_places : ∀ c ∈ places, c.isDigit

namespace Decimal

/-- The text; the point is left out where no digit follows it. -/
def chars (d : Decimal) : List Char :=
  d.whole ++ if d.places = [] then [] else '.' :: d.places

/-- The number that is denoted: the places count tenths, hundredths and so on. -/
def value (d : Decimal) : ℚ :=
  readDecimal d.whole + readDecimal d.places / 10 ^ d.places.length

/-- A decimal is a number exactly, with the fewest of 0, 3, 6 and 9 places that can be. -/
structure Shortest (d : Decimal) (q : ℚ) : Prop where
  width : d.places.length ∈ [0, 3, 6, 9]
  exact : d.value = q
  fewest : ∀ other : Decimal, other.places.length ∈ [0, 3, 6, 9] → other.value = q →
    d.places.length ≤ other.places.length

/-- A text is one decimal at most. -/
theorem chars_inj {d d' : Decimal} (h : d.chars = d'.chars) : d = d' := by
  have hends (places : List Char) :
      Json.EndsNumber (if places = [] then [] else '.' :: places) := by
    split
    · exact fun c hc => by cases hc
    · exact Json.endsNumber_cons (by decide)
  have htake (d : Decimal) : d.chars.takeWhile Char.isDigit = d.whole :=
    Json.takeWhile_digits d.isDigit_whole (hends d.places)
  have hdrop (d : Decimal) :
      d.chars.dropWhile Char.isDigit = if d.places = [] then [] else '.' :: d.places :=
    Json.dropWhile_digits d.isDigit_whole (hends d.places)
  have hwhole : d.whole = d'.whole := by rw [← htake d, h, htake d']
  have hplaces : d.places = d'.places := by
    have hpointed := (hdrop d).symm.trans ((congrArg _ h).trans (hdrop d'))
    by_cases hempty : d.places = [] <;> by_cases hempty' : d'.places = [] <;> simp_all
  cases d
  cases d'
  obtain rfl := hwhole
  obtain rfl := hplaces
  rfl

/-- Digits behind which the fraction of a second is written. -/
def ofSeconds (whole : List Char) (hne : whole ≠ []) (hdigits : ∀ c ∈ whole, c.isDigit)
    (nanos : Nat) : Decimal :=
  ⟨whole, Fraction.places nanos, hne, hdigits, fun _ => Fraction.isDigit_places⟩

theorem chars_ofSeconds {whole : List Char} (hne : whole ≠ []) (hdigits : ∀ c ∈ whole, c.isDigit)
    (nanos : Nat) : (ofSeconds whole hne hdigits nanos).chars = whole ++ Fraction.chars nanos := by
  rw [Fraction.chars_eq_places]
  rfl

/-- A decimal with at most nine places, as a number of nanoseconds. -/
theorem value_eq_iff {d : Decimal} {seconds nanos : Nat} (h : d.places.length ≤ 9) :
    d.value = seconds + nanos / 10 ^ 9
      ↔ (readDecimal d.whole * 10 ^ d.places.length + readDecimal d.places)
          * Fraction.unit d.places.length = seconds * 10 ^ 9 + nanos := by
  have hunit : (10 : ℚ) ^ d.places.length * Fraction.unit d.places.length = 10 ^ 9 := by
    exact_mod_cast Fraction.pow_mul_unit h
  have hvalue : d.value = (readDecimal d.whole * 10 ^ d.places.length + readDecimal d.places)
      * Fraction.unit d.places.length / 10 ^ 9 := by
    have hne : (Fraction.unit d.places.length : ℚ) ≠ 0 := by
      intro hzero
      rw [hzero] at hunit
      norm_num at hunit
    rw [value, ← hunit]
    field_simp
  have hsum : (seconds + nanos / 10 ^ 9 : ℚ) = (seconds * 10 ^ 9 + nanos) / 10 ^ 9 := by ring
  rw [hvalue, hsum, div_left_inj' (by norm_num)]
  exact_mod_cast Iff.rfl

/-- **Whole seconds and a fraction are the shortest decimal of both together.** -/
theorem shortest_ofSeconds {whole : List Char} (hne : whole ≠ [])
    (hdigits : ∀ c ∈ whole, c.isDigit) {nanos : Nat} (h : nanos < 1000000000) :
    (ofSeconds whole hne hdigits nanos).Shortest (readDecimal whole + nanos / 10 ^ 9) := by
  have hwidth : (ofSeconds whole hne hdigits nanos).places.length = Fraction.width nanos :=
    Fraction.length_places h
  have hnine : Fraction.width nanos ≤ 9 := Fraction.le_nine_of_mem (Fraction.width_mem nanos)
  refine ⟨hwidth ▸ Fraction.width_mem nanos, ?_, fun other hother hvalue => ?_⟩
  · rw [value_eq_iff (hwidth ▸ hnine), hwidth, Nat.add_mul, Nat.mul_assoc,
      Fraction.pow_mul_unit hnine]
    exact congrArg _ (Fraction.readDecimal_places nanos)
  · rw [hwidth]
    refine Fraction.width_le_of_dvd h hother ?_
    -- what the last place counts divides the sum and a second, so also the nanoseconds
    have hnine' := Fraction.le_nine_of_mem hother
    have hsum : Fraction.unit other.places.length ∣ readDecimal whole * 10 ^ 9 + nanos :=
      Dvd.intro_left _ ((value_eq_iff hnine').1 hvalue)
    refine (Nat.dvd_add_right ?_).1 hsum
    exact Dvd.dvd.mul_left (Dvd.intro_left _ (Fraction.pow_mul_unit hnine')) _

end Decimal

/-! ## Spans of time -/

/-- **The text of a span is exact and shortest.** Before its `s` it is one decimal, whose whole part
is the numeral of the seconds, and which is the span in seconds with the fewest places that can be.
So two spans have one text only if they are the same. -/
theorem Duration.text_is_shortest_decimal (d : Duration) :
    (∃ decimal : Decimal,
      (∀ other : Decimal, d.text.toList = other.chars ++ ['s'] ↔ other = decimal)
        ∧ IsNumeral 10 d.seconds.toNat decimal.whole
        ∧ decimal.Shortest (d.seconds.toNat + d.nanos / 10 ^ 9))
      ∧ ∀ other : Duration, d.text = other.text ↔ d = other := by
  have hdigits : ∀ c ∈ decimal d.seconds.toNat, c.isDigit := fun _ => isDigit_of_mem_decimal
  have hshortest := Decimal.shortest_ofSeconds (decimal_ne_nil _) hdigits d.nanos_lt
  have htext : d.text.toList
      = (Decimal.ofSeconds _ (decimal_ne_nil _) hdigits d.nanos).chars ++ ['s'] := by
    rw [Decimal.chars_ofSeconds]
    exact String.toList_ofList
  rw [readDecimal_decimal] at hshortest
  refine ⟨⟨_, fun other => ⟨fun h => ?_, fun h => h ▸ htext⟩, isNumeral_decimal_iff.2 rfl, hshortest⟩,
    fun other => ⟨fun h => text_injective h, congrArg text⟩⟩
  exact Decimal.chars_inj (List.append_cancel_right (h.symm.trans htext))

/-- Zeros before the digits of a fraction are kept, and those behind them only to fill up three. -/
example :
    Duration.text ⟨1, 5000000, by decide⟩ = "1.005s" ∧ Duration.text ⟨1, 500000000, by decide⟩ = "1.500s"
      ∧ Duration.text ⟨0, 7, by decide⟩ = "0.000000007s" := by
  decide

end CallLog
