import CallLog.Proofs.CalendarDays
import CallLog.Proofs.CallPayload
import CallLog.Proofs.DecimalSeconds

/-!
# The text of a timestamp is its date and time of day

`Civil` is a date and a time of day, which stand for an instant by counting whole days on the calendar
(`Civil.Denotes`) and are written in the form of RFC 3339 (`Civil.WrittenAs`). Both determine what they
relate (`Civil.Denotes.unique`, `Civil.WrittenAs.unique`). The text of an instant is written by its
own date and time of day, and they come in the order of the instants (`civil_lt`); so
`Record.timestamp_denotes_reading` says of a record what its text denotes and in which order.
-/

namespace CallLog

open Text

/-- A date and a time of day in UTC, with the nanoseconds of the second. -/
structure Civil where
  date : Date
  hour : Nat
  minute : Nat
  second : Nat
  fraction : Nat

namespace Civil

/-- The date is in the calendar and the time is in the day; second 60 is a leap second. -/
def Valid (c : Civil) : Prop :=
  c.date.Valid ∧ c.hour < 24 ∧ c.minute < 60 ∧ c.second ≤ 60 ∧ c.fraction < 1000000000

/-- Everything from the year to the fraction, in the order in which it is compared. -/
def fields (c : Civil) : List Int := c.date.fields ++ [(c.hour : Int), c.minute, c.second, c.fraction]

/-- Dates are compared first, then times of day. -/
theorem fields_lt_iff {c c' : Civil} :
    c.fields < c'.fields ↔ c.date.fields < c'.date.fields ∨ c.date = c'.date
      ∧ (c.hour < c'.hour ∨ c.hour = c'.hour ∧ (c.minute < c'.minute ∨ c.minute = c'.minute
        ∧ (c.second < c'.second ∨ c.second = c'.second ∧ c.fraction < c'.fraction))) := by
  have hdate : c.date = c'.date ↔ c.date.year = c'.date.year ∧ c.date.month = c'.date.month
      ∧ c.date.day = c'.date.day := by
    rw [Date.mk.injEq]
  rw [hdate]
  simp only [fields, Date.fields, List.cons_append, List.nil_append, List.cons_lt_cons_iff,
    List.not_lt_nil, and_false, or_false]
  omega

/-! ## Instants -/

/-- The instant of a date and a time of day. Days are counted on the calendar; a leap second counts as
the second before it, with a second more of nanoseconds. -/
def Denotes (c : Civil) (t : Timestamp) : Prop :=
  ∃ days, c.date.IsDay days
    ∧ (c.second < 60 ∧ t.seconds = days * 86400 + (c.hour * 3600 + c.minute * 60 + c.second : Nat)
        ∧ t.nanos = c.fraction
      ∨ c.second = 60 ∧ t.seconds = days * 86400 + (c.hour * 3600 + c.minute * 60 + 59 : Nat)
        ∧ t.nanos = 1000000000 + c.fraction)

theorem Denotes.unique {c : Civil} {t t' : Timestamp} (hvalid : c.Valid) (h : c.Denotes t)
    (h' : c.Denotes t') : t = t' := by
  obtain ⟨days, hdays, hsum⟩ := h
  obtain ⟨days', hdays', hsum'⟩ := h'
  rw [Date.isDay_iff hvalid.1] at hdays hdays'
  have hseconds : t.seconds = t'.seconds := by omega
  have hnanos : t.nanos = t'.nanos := by omega
  cases t
  cases t'
  obtain rfl := hseconds
  obtain rfl := hnanos
  rfl

end Civil

namespace Timestamp

/-- The date and the time of day of an instant. -/
def civil (t : Timestamp) : Civil := ⟨t.date, t.hour, t.minute, t.second, t.fraction⟩

theorem valid_civil (t : Timestamp) : t.civil.Valid :=
  ⟨Date.valid_ofDayNumber _, t.hour_lt, t.minute_lt, t.second_le, t.fraction_lt⟩

theorem secondOfDay_eq (t : Timestamp) : (t.secondOfDay : Int) = t.seconds % 86400 := by
  simp only [secondOfDay]
  omega

/-- A leap second is second 60 and stands in for second 59. -/
theorem second_cases (t : Timestamp) :
    t.second = 60 ∧ t.secondOfDay % 60 = 59 ∧ t.nanos = 1000000000 + t.fraction
      ∨ t.second = t.secondOfDay % 60 ∧ t.nanos = t.fraction := by
  have hvalid := t.nanos_valid
  have hday := t.secondOfDay_eq
  unfold fraction
  by_cases hleap : t.IsLeapSecond
  · have hmore : 1000000000 ≤ t.nanos := hleap
    exact .inl ⟨if_pos hleap, by omega, by omega⟩
  · have hless : t.nanos < 1000000000 := Nat.lt_of_not_le hleap
    exact .inr ⟨if_neg hleap, by omega⟩

/-- Hour and minute are those of the second of the day. -/
theorem hour_minute_eq (t : Timestamp) :
    t.hour * 3600 + t.minute * 60 + t.secondOfDay % 60 = t.secondOfDay := by
  simp only [hour, minute]
  omega

theorem denotes_civil (t : Timestamp) : t.civil.Denotes t := by
  have hsum : t.seconds = t.seconds / 86400 * 86400
      + (t.hour * 3600 + t.minute * 60 + t.secondOfDay % 60 : Nat) := by
    rw [t.hour_minute_eq, t.secondOfDay_eq]
    omega
  refine ⟨t.seconds / 86400, (Date.isDay_iff t.valid_civil.1).2 (Date.dayNumber_ofDayNumber _), ?_⟩
  rcases t.second_cases with ⟨hsecond, hlast, hnanos⟩ | ⟨hsecond, hnanos⟩
  · exact .inr ⟨hsecond, hlast ▸ hsum, hnanos⟩
  · rw [← hsecond] at hsum
    exact .inl ⟨Nat.lt_of_le_of_lt (Nat.le_of_eq hsecond) (Nat.mod_lt _ (by decide)), hsum, hnanos⟩

/-- The seconds of a day are in the order of hour, minute and second. -/
theorem hour_minute_lt {t t' : Timestamp} (h : t.secondOfDay < t'.secondOfDay) :
    t.hour < t'.hour ∨ t.hour = t'.hour ∧ (t.minute < t'.minute ∨ t.minute = t'.minute
      ∧ t.secondOfDay % 60 < t'.secondOfDay % 60) := by
  simp only [hour, minute]
  omega

/-- Later instants have later dates and times of day, leap seconds included. -/
theorem civil_lt {t t' : Timestamp}
    (h : t.seconds < t'.seconds ∨ t.seconds = t'.seconds ∧ t.nanos < t'.nanos) :
    t.civil.fields < t'.civil.fields := by
  rw [Civil.fields_lt_iff]
  have hday : t.seconds / 86400 < t'.seconds / 86400
      ∨ t.seconds / 86400 = t'.seconds / 86400 := by omega
  rcases hday with hbefore | hsame
  · refine .inl ((Date.fields_lt_iff t.valid_civil.1 t'.valid_civil.1).2 ?_)
    rw [civil, civil, date, date, Date.dayNumber_ofDayNumber, Date.dayNumber_ofDayNumber]
    exact hbefore
  · refine .inr ⟨congrArg Date.ofDayNumber hsame, ?_⟩
    have htime : t.secondOfDay < t'.secondOfDay
        ∨ t.secondOfDay = t'.secondOfDay ∧ t.nanos < t'.nanos := by
      have hseconds := t.secondOfDay_eq
      have hseconds' := t'.secondOfDay_eq
      omega
    have hcases := t.second_cases
    have hcases' := t'.second_cases
    rcases htime with hlater | ⟨hequal, hnanos⟩
    · rcases hour_minute_lt hlater with hhour | ⟨hhour, hminute | ⟨hminute, hsecond⟩⟩
      · exact .inl hhour
      · exact .inr ⟨hhour, .inl hminute⟩
      · -- a leap second comes after second 59, so it is not the earlier of the two
        refine .inr ⟨hhour, .inr ⟨hminute, .inl ?_⟩⟩
        simp only [civil]
        omega
    · have hhour : t.hour = t'.hour := congrArg (· / 3600) hequal
      have hminute : t.minute = t'.minute := congrArg (· / 60 % 60) hequal
      have hfraction := t'.fraction_lt
      refine .inr ⟨hhour, .inr ⟨hminute, ?_⟩⟩
      simp only [civil]
      omega

end Timestamp

/-! ## Texts -/

/-- A number in a fixed number of decimal digits. -/
structure IsField (width n : Nat) (cs : List Char) : Prop where
  length_eq : cs.length = width
  isDigit : ∀ c ∈ cs, c.isDigit
  value : readDecimal cs = n

/-- A year in four digits, or with a sign and at least four digits if it is not one of 0 to 9999. -/
inductive IsYear : Int → List Char → Prop
  | plain {n : Nat} {cs : List Char} (h : IsField 4 n cs) : IsYear n cs
  | after {n : Nat} {cs : List Char} (hn : 9999 < n) (h : IsNumeral 10 n cs) : IsYear n ('+' :: cs)
  | before {n : Nat} {cs : List Char} (hn : 0 < n)
      (h : IsField 4 n cs ∨ 9999 < n ∧ IsNumeral 10 n cs) : IsYear (-n) ('-' :: cs)

/-- The text of a date and a time of day in the form of RFC 3339. The seconds are two digits and a
fraction, which together are the shortest decimal of second and nanoseconds. -/
def Civil.WrittenAs (c : Civil) (cs : List Char) : Prop :=
  ∃ (year month day hour minute : List Char) (seconds : Decimal),
    cs = year ++ '-' :: month ++ '-' :: day ++ 'T' :: hour ++ ':' :: minute ++ ':' :: seconds.chars
        ++ ['Z']
      ∧ IsYear c.date.year year ∧ IsField 2 c.date.month month ∧ IsField 2 c.date.day day
      ∧ IsField 2 c.hour hour ∧ IsField 2 c.minute minute ∧ IsField 2 c.second seconds.whole
      ∧ seconds.Shortest (c.second + c.fraction / 10 ^ 9)

theorem isField_decimalPadded {width n : Nat} (hw : 0 < width) (h : n < Nat.pow 10 width) :
    IsField width n (decimalPadded width n) :=
  ⟨length_decimalPadded hw h, fun _ => isDigit_of_mem_decimalPadded, readDecimal_decimalPadded _ _⟩

/-- A number with more digits than it is filled up to is its numeral. -/
theorem isNumeral_decimalPadded {width n : Nat} (hw : 0 < width) (h : Nat.pow 10 width ≤ n) :
    IsNumeral 10 n (decimalPadded width n) := by
  have hlong : ¬(decimal n).length ≤ width := fun hle =>
    absurd ((length_decimal_le_iff hw).1 hle) (Nat.not_lt.2 h)
  rw [isNumeral_decimal_iff, decimalPadded, List.leftpad, Nat.sub_eq_zero_of_le (by omega)]
  rfl

theorem isYear_yearChars (year : Int) : IsYear year (Timestamp.yearChars year) := by
  have hpow : Nat.pow 10 4 = 10000 := rfl
  unfold Timestamp.yearChars
  split
  next hneg =>
    obtain ⟨n, rfl⟩ := Int.exists_eq_neg_ofNat (Int.le_of_lt hneg)
    rw [Int.natAbs_neg, Int.natAbs_natCast]
    refine .before (by omega) ?_
    rcases Nat.lt_or_ge n 10000 with hn | hn
    · exact .inl (isField_decimalPadded (by decide) (by omega))
    · exact .inr ⟨hn, isNumeral_decimalPadded (by decide) (by omega)⟩
  next hpos =>
    obtain ⟨n, rfl⟩ := Int.eq_ofNat_of_zero_le (Int.not_lt.1 hpos)
    rw [Int.natAbs_natCast]
    split
    next hle => exact .plain (isField_decimalPadded (by decide) (by omega))
    next hgt => exact .after (by omega) (isNumeral_decimalPadded (by decide) (by omega))

/-- The text of an instant is written by its date and time of day. -/
theorem Timestamp.writtenAs_civil (t : Timestamp) : t.civil.WrittenAs t.text.toList := by
  have hfield {n : Nat} (h : n < 100) : IsField 2 n (decimalPadded 2 n) :=
    isField_decimalPadded (by decide) h
  obtain ⟨_, hmonth, _, hday⟩ : t.date.Valid := Date.valid_ofDayNumber _
  have hday := Nat.le_trans hday (daysInMonth_le _ _)
  have hmonth := hfield (n := t.date.month) (by omega)
  have hday := hfield (n := t.date.day) (by omega)
  have hhour := hfield (n := t.hour) (by have := t.hour_lt; omega)
  have hminute := hfield (n := t.minute) (by have := t.minute_lt; omega)
  have hsecond := hfield (n := t.second) (by have := t.second_le; omega)
  have hshortest := Decimal.shortest_ofSeconds (decimalPadded_ne_nil 2 t.second) hsecond.isDigit
    t.fraction_lt
  rw [readDecimal_decimalPadded] at hshortest
  refine ⟨_, _, _, _, _, _, ?_, isYear_yearChars t.date.year, hmonth, hday, hhour, hminute, ?_,
    hshortest⟩
  · rw [text, String.toList_ofList, chars, Decimal.chars_ofSeconds,
      List.append_assoc _ _ (Fraction.chars _)]
    rfl
  · exact hsecond

/-! ## Reading texts -/

theorem IsField.exists_two {n : Nat} {cs : List Char} (h : IsField 2 n cs) :
    ∃ a b, cs = [a, b] ∧ readDecimal [a, b] = n := by
  match cs, h.length_eq, h.value with
  | [a, b], _, hvalue => exact ⟨a, b, rfl, hvalue⟩

/-- A year is read back, whatever its sign and its number of digits. -/
theorem IsYear.readYear {year : Int} {cs rest : List Char} (h : IsYear year cs)
    (hrest : Json.EndsNumber rest) : Timestamp.readYear (cs ++ rest) = (year, rest) := by
  have hfield {width n : Nat} {cs : List Char} (h : IsField width n cs) :
      readDecimal ((cs ++ rest).takeWhile Char.isDigit) = n
        ∧ (cs ++ rest).dropWhile Char.isDigit = rest := by
    rw [Json.takeWhile_digits h.isDigit hrest, Json.dropWhile_digits h.isDigit hrest]
    exact ⟨h.value, rfl⟩
  have hnumeral {n : Nat} {cs : List Char} (h : IsNumeral 10 n cs) :
      IsField cs.length n cs := by
    obtain rfl := isNumeral_decimal_iff.1 h
    exact ⟨rfl, fun _ => isDigit_of_mem_decimal, readDecimal_decimal n⟩
  cases h with
  | @plain n cs h =>
    obtain ⟨c, cs', rfl⟩ := List.exists_cons_of_length_pos (l := cs) (by rw [h.length_eq]; decide)
    obtain ⟨htake, hdrop⟩ := hfield h
    rw [List.cons_append] at htake hdrop ⊢
    rw [Timestamp.readYear_of_isDigit (h.isDigit c List.mem_cons_self), htake, hdrop]
  | after hn h =>
    obtain ⟨htake, hdrop⟩ := hfield (hnumeral h)
    rw [List.cons_append, Timestamp.readYear, htake, hdrop]
  | before hn h =>
    obtain ⟨htake, hdrop⟩ := h.elim hfield fun h => hfield (hnumeral h.2)
    rw [List.cons_append, Timestamp.readYear, htake, hdrop]

/-- A text is written by one date and time of day at most. -/
theorem Civil.WrittenAs.unique {c c' : Civil} {cs : List Char} (h : c.WrittenAs cs)
    (h' : c'.WrittenAs cs) : c = c' := by
  obtain ⟨year, month, day, hour, minute, seconds, hcs, hyear, hmonth, hday, hhour, hminute, hsecond,
    hseconds⟩ := h
  obtain ⟨year', month', day', hour', minute', seconds', hcs', hyear', hmonth', hday', hhour',
    hminute', hsecond', hseconds'⟩ := h'
  obtain ⟨m₁, m₂, rfl, hm⟩ := hmonth.exists_two
  obtain ⟨m₁', m₂', rfl, hm'⟩ := hmonth'.exists_two
  obtain ⟨d₁, d₂, rfl, hd⟩ := hday.exists_two
  obtain ⟨d₁', d₂', rfl, hd'⟩ := hday'.exists_two
  obtain ⟨h₁, h₂, rfl, hh⟩ := hhour.exists_two
  obtain ⟨h₁', h₂', rfl, hh'⟩ := hhour'.exists_two
  obtain ⟨n₁, n₂, rfl, hn⟩ := hminute.exists_two
  obtain ⟨n₁', n₂', rfl, hn'⟩ := hminute'.exists_two
  have hends {rest : List Char} : Json.EndsNumber ('-' :: rest) := Json.endsNumber_cons (by decide)
  simp only [List.append_assoc, List.cons_append, List.nil_append] at hcs hcs'
  have hread := congrArg Timestamp.readYear (hcs.symm.trans hcs')
  rw [hyear.readYear hends, hyear'.readYear hends] at hread
  simp only [Prod.mk.injEq, List.cons.injEq, true_and] at hread
  obtain ⟨hyears, rfl, rfl, rfl, rfl, rfl, rfl, rfl, rfl, hrest⟩ := hread
  obtain rfl := Decimal.chars_inj (List.append_cancel_right hrest)
  have hseconds₀ : c.second = c'.second := hsecond.value.symm.trans hsecond'.value
  have hfraction : c.fraction = c'.fraction := by
    have hsum := hseconds.exact.symm.trans hseconds'.exact
    rw [hseconds₀, add_right_inj, div_left_inj' (by norm_num)] at hsum
    exact_mod_cast hsum
  obtain ⟨⟨_, _, _⟩, _, _, _, _⟩ := c
  obtain ⟨⟨_, _, _⟩, _, _, _, _⟩ := c'
  simp only at hyears hm hm' hd hd' hh hh' hn hn' hseconds₀ hfraction
  simp only [Civil.mk.injEq, Date.mk.injEq]
  exact ⟨⟨hyears, hm.symm.trans hm', hd.symm.trans hd'⟩, hh.symm.trans hh', hn.symm.trans hn',
    hseconds₀, hfraction⟩

/-- A text denotes an instant: it is written by one date and time of day, which are in the calendar
and stand for that instant. -/
theorem Timestamp.exists_civil (t : Timestamp) :
    ∃ c : Civil, c.Valid ∧ (∀ other : Civil, other.WrittenAs t.text.toList ↔ other = c)
      ∧ ∀ other, c.Denotes other ↔ other = t := by
  refine ⟨t.civil, t.valid_civil, fun other => ⟨fun h => h.unique t.writtenAs_civil, ?_⟩,
    fun other => ⟨fun h => h.unique t.valid_civil t.denotes_civil, ?_⟩⟩
  · rintro rfl
    exact t.writtenAs_civil
  · rintro rfl
    exact other.denotes_civil

namespace Record

theorem get?_timestamp_payload (record : Record) :
    record.payload.get? "timestamp" = some (.str record.timestamp.text) := by
  rw [get?_payload]
  rfl

/-- **Timestamps denote the reading of the clock.** A record has the whole seconds of its logger's
clock, rounded down, and the nanoseconds that are left. In its payload this is a text that denotes the
instant, and of two readings the later one has the later date and time of day. -/
theorem timestamp_denotes_reading :
    (∀ (logger : Logger) (call : Call) (record : Record), logger.assemble call = .ok record →
        record.timestamp.seconds = Int.fdiv logger.clock 1000000000
          ∧ (record.timestamp.nanos : Int) = Int.fmod logger.clock 1000000000)
      ∧ (∀ record : Record, record.payload.get? "timestamp" = some (.str record.timestamp.text)
          ∧ ∃ c : Civil, c.Valid
            ∧ (∀ other : Civil, other.WrittenAs record.timestamp.text.toList ↔ other = c)
            ∧ ∀ t, c.Denotes t ↔ t = record.timestamp)
      ∧ ∀ (logger logger' : Logger) (call call' : Call) (record record' : Record),
          logger.assemble call = .ok record → logger'.assemble call' = .ok record' →
          logger.clock < logger'.clock →
          ∀ c c' : Civil, c.WrittenAs record.timestamp.text.toList →
            c'.WrittenAs record'.timestamp.text.toList → c.fields < c'.fields := by
  have hclock {logger : Logger} {call : Call} {record : Record}
      (h : logger.assemble call = .ok record) : record.timestamp = .ofClock logger.clock := by
    rw [← ((Logger.assemble_eq_ok_iff _ _ _).1 h).2, Logger.timestamp_record]
  refine ⟨fun logger call record h => ?_, fun record => ?_, ?_⟩
  · rw [hclock h, Timestamp.seconds_ofClock, Timestamp.nanos_ofClock,
      Int.fdiv_eq_ediv_of_nonneg _ (by decide), Int.fmod_eq_emod_of_nonneg _ (by decide)]
    exact ⟨rfl, rfl⟩
  · exact ⟨record.get?_timestamp_payload, record.timestamp.exists_civil⟩
  · intro logger logger' call call' record record' h h' hlt c c' hc hc'
    rw [hc.unique (Timestamp.writtenAs_civil _), hc'.unique (Timestamp.writtenAs_civil _), hclock h,
      hclock h']
    refine Timestamp.civil_lt ?_
    have hnanos := Timestamp.nanos_ofClock logger.clock
    have hnanos' := Timestamp.nanos_ofClock logger'.clock
    simp only [Timestamp.seconds_ofClock]
    omega

/-- The last nanosecond before 1970, a leap second, and a year before year 0. -/
example :
    (Timestamp.ofClock (-1)).text = "1969-12-31T23:59:59.999999999Z"
      ∧ (Timestamp.mk 1483228799 1500000000 (by decide)).text = "2016-12-31T23:59:60.500Z"
      ∧ (Timestamp.mk (-62167219201) 0 (by decide)).text = "-0001-12-31T23:59:59Z" := by
  decide

end Record
end CallLog
