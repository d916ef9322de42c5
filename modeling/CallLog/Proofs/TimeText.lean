import CallLog.Json.RoundTrip
import CallLog.Time.Duration
import CallLog.Time.Timestamp

/-!
# Reading timestamps and durations back

Readers for the texts of instants and of spans of time. A year is read up to the first character that
is no digit, after its sign if it has one; the other fields of an instant have two digits each, so
they stand at fixed places behind it, and the fraction is what remains before the `Z`. Both readers
give back what was written (`Timestamp.parse?_chars`, `Duration.parse?_chars`), leap seconds and years
of any size and sign included, so the texts lose nothing (`Timestamp.text_injective`,
`Duration.text_injective`).
-/

namespace CallLog

open Text

/-! ## Digits -/

theorem decimalPadded_two {n : Nat} (h : n < 100) :
    ∃ a b, decimalPadded 2 n = [a, b] ∧ readDecimal [a, b] = n := by
  have hlen : (decimalPadded 2 n).length = 2 := length_decimalPadded (by decide) h
  have hread := readDecimal_decimalPadded 2 n
  match decimalPadded 2 n, hlen, hread with
  | [a, b], _, hread => exact ⟨a, b, rfl, hread⟩

theorem span_decimalPadded (width n : Nat) {rest : List Char} (h : Json.EndsNumber rest) :
    (decimalPadded width n ++ rest).takeWhile Char.isDigit = decimalPadded width n
      ∧ (decimalPadded width n ++ rest).dropWhile Char.isDigit = rest := by
  have hd : ∀ c ∈ decimalPadded width n, c.isDigit := fun _ => isDigit_of_mem_decimalPadded
  exact ⟨Json.takeWhile_digits hd h, Json.dropWhile_digits hd h⟩

theorem decimalPadded_ne_nil (width n : Nat) : decimalPadded width n ≠ [] := by
  intro h
  simp only [decimalPadded, List.leftpad, List.append_eq_nil_iff] at h
  exact decimal_ne_nil n h.2

namespace Timestamp

/-! ## Instants -/

/-- The year that a text begins with, and what follows its digits. -/
def readYear : List Char → Int × List Char
  | '-' :: cs => (-(readDecimal (cs.takeWhile Char.isDigit)), cs.dropWhile Char.isDigit)
  | '+' :: cs => (readDecimal (cs.takeWhile Char.isDigit), cs.dropWhile Char.isDigit)
  | cs => (readDecimal (cs.takeWhile Char.isDigit), cs.dropWhile Char.isDigit)

/-- The instant of an RFC 3339 text in UTC. -/
def parse? (cs : List Char) : Option Timestamp :=
  match readYear cs with
  | (year, '-' :: m :: m' :: '-' :: d :: d' :: 'T' :: h :: h' :: ':' :: n :: n' :: ':' :: s :: s'
      :: rest) =>
    ofCivil? ⟨year, readDecimal [m, m'], readDecimal [d, d']⟩ (readDecimal [h, h'])
      (readDecimal [n, n']) (readDecimal [s, s']) (Fraction.read rest.dropLast)
  | _ => none

/-- A year that begins with a digit has no sign. -/
theorem readYear_of_isDigit {c : Char} (h : c.isDigit) (cs : List Char) :
    readYear (c :: cs)
      = ((readDecimal ((c :: cs).takeWhile Char.isDigit) : Int),
        (c :: cs).dropWhile Char.isDigit) := by
  have hminus : c ≠ '-' := by
    rintro rfl
    exact absurd h (by decide)
  have hplus : c ≠ '+' := by
    rintro rfl
    exact absurd h (by decide)
  unfold readYear
  split
  · rename_i heq
    exact absurd (List.cons.inj heq).1 hminus
  · rename_i heq
    exact absurd (List.cons.inj heq).1 hplus
  · rfl

theorem readYear_yearChars (year : Int) {rest : List Char} (h : Json.EndsNumber rest) :
    readYear (yearChars year ++ rest) = (year, rest) := by
  obtain ⟨htake, hdrop⟩ := span_decimalPadded 4 year.natAbs h
  unfold yearChars
  split
  · simp only [List.cons_append, readYear, htake, hdrop, readDecimal_decimalPadded]
    congr
    omega
  · split
    · obtain ⟨c, cs, hc⟩ := List.exists_cons_of_ne_nil (decimalPadded_ne_nil 4 year.natAbs)
      have hmem : c ∈ decimalPadded 4 year.natAbs := by
        rw [hc]
        exact List.mem_cons_self
      have hdigit : c.isDigit := isDigit_of_mem_decimalPadded hmem
      rw [hc, List.cons_append] at htake hdrop ⊢
      rw [readYear_of_isDigit hdigit, htake, hdrop, ← hc, readDecimal_decimalPadded]
      congr
      omega
    · simp only [List.cons_append, readYear, htake, hdrop, readDecimal_decimalPadded]
      congr
      omega

theorem daysInMonth_le (year : Int) (month : Nat) : Date.daysInMonth year month ≤ 31 := by
  unfold Date.daysInMonth
  split <;> first | (split <;> decide) | decide

/-- The text of an instant is read as that instant. -/
@[simp] theorem parse?_chars (t : Timestamp) : parse? t.chars = some t := by
  obtain ⟨_, hmonth, _, hday⟩ : t.date.Valid := Date.valid_ofDayNumber _
  have hday := Nat.le_trans hday (daysInMonth_le _ _)
  obtain ⟨m, m', hm, hm'⟩ := decimalPadded_two (n := t.date.month) (by omega)
  obtain ⟨d, d', hd, hd'⟩ := decimalPadded_two (n := t.date.day) (by omega)
  obtain ⟨h, h', hh, hh'⟩ := decimalPadded_two (n := t.hour) (by have := t.hour_lt; omega)
  obtain ⟨n, n', hn, hn'⟩ := decimalPadded_two (n := t.minute) (by have := t.minute_lt; omega)
  obtain ⟨s, s', hs, hs'⟩ := decimalPadded_two (n := t.second) (by have := t.second_le; omega)
  simp only [chars, hm, hd, hh, hn, hs, List.append_assoc, List.cons_append, List.nil_append]
  rw [parse?, readYear_yearChars _ (Json.endsNumber_cons (by decide))]
  simp only [hm', hd', hh', hn', hs', List.dropLast_concat, Fraction.read_chars t.fraction_lt]
  exact ofCivil?_fields t

theorem text_injective : Function.Injective text :=
  injective_of_read parse?_chars

end Timestamp

namespace Duration

/-! ## Spans -/

/-- The span that a text in seconds denotes. -/
def parse? (cs : List Char) : Option Duration :=
  of? (UInt64.ofNat (readDecimal (cs.takeWhile Char.isDigit)))
    (Fraction.read (cs.dropWhile Char.isDigit).dropLast)

/-- The text of a span is read as that span. -/
@[simp] theorem parse?_chars (d : Duration) : parse? d.chars = some d := by
  have hends : Json.EndsNumber (Fraction.chars d.nanos ++ ['s']) := by
    unfold Fraction.chars
    split <;> exact Json.endsNumber_cons (by decide)
  have hdigits : ∀ c ∈ decimal d.seconds.toNat, c.isDigit := fun _ => isDigit_of_mem_decimal
  rw [parse?, chars, List.append_assoc, Json.takeWhile_digits hdigits hends,
    Json.dropWhile_digits hdigits hends, List.dropLast_concat, Fraction.read_chars d.nanos_lt,
    readDecimal_decimal, UInt64.ofNat_toNat, of?, dif_pos d.nanos_lt]

theorem text_injective : Function.Injective text :=
  injective_of_read parse?_chars

end Duration
end CallLog
