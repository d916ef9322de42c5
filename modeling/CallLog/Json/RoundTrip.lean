import CallLog.Json.Reader

/-!
# Reading what was printed

`parse?_render`: the compact form of a value is read as that value. So printing loses nothing:
`render_injective`.
-/

namespace CallLog.Json

/-! ## Strings -/

theorem codePoint?_control {n : Nat} (h : n < 0x20) :
    codePoint? '0' '0' (Nat.digitChar (n / 16)) (Nat.digitChar (n % 16)) = some (Char.ofNat n) := by
  have all : ∀ m ∈ List.range 0x20,
      codePoint? '0' '0' (Nat.digitChar (m / 16)) (Nat.digitChar (m % 16))
        = some (Char.ofNat m) := by decide
  exact all n (List.mem_range.2 h)

theorem readString_escapeChar (c : Char) (rest : List Char) :
    readString (escapeChar c ++ rest) = prepend c (readString rest) := by
  unfold escapeChar
  split
  next h => subst h; simp [readString, unescape?]
  split
  next h => subst h; simp [readString, unescape?]
  next hb =>
  split
  next h => subst h; simp [readString, unescape?]
  split
  next h => subst h; simp [readString, unescape?]
  split
  next h => subst h; simp [readString, unescape?]
  split
  next h => subst h; simp [readString, unescape?]
  split
  next h => subst h; simp [readString, unescape?]
  split
  next h => simp [readString, codePoint?_control h, Char.ofNat_toNat]
  next h => simp [readString, hb, h]

theorem readString_escaped (cs rest : List Char) :
    readString (cs.flatMap escapeChar ++ '"' :: rest) = some (cs, rest) := by
  induction cs with
  | nil => simp [readString]
  | cons c cs ih => simp [readString_escapeChar, ih, prepend]

/-! ## Numbers -/

/-- A text that does not go on with a digit. -/
def EndsNumber (rest : List Char) : Prop := ∀ c ∈ rest.head?, c.isDigit = false

theorem takeWhile_digits {digits rest : List Char} (hd : ∀ c ∈ digits, c.isDigit)
    (hr : EndsNumber rest) : (digits ++ rest).takeWhile Char.isDigit = digits := by
  rw [List.takeWhile_append_of_pos hd]
  cases rest with
  | nil => simp
  | cons c rest => simp [hr c (by simp)]

theorem dropWhile_digits {digits rest : List Char} (hd : ∀ c ∈ digits, c.isDigit)
    (hr : EndsNumber rest) : (digits ++ rest).dropWhile Char.isDigit = rest := by
  rw [List.dropWhile_append_of_pos hd]
  cases rest with
  | nil => simp
  | cons c rest => simp [hr c (by simp)]

/-- Only zero is written with a zero in front. -/
theorem decimal_eq_zero_cons {n : Nat} {ds : List Char} (h : Text.decimal n = '0' :: ds) :
    ds = [] := by
  induction n using Nat.strongRecOn generalizing ds with
  | ind n ih =>
    by_cases hn : n < 10
    · rw [Text.decimal, Nat.toDigits_of_lt_base hn] at h
      exact (List.cons.inj h).2.symm
    · have hsplit : Text.decimal n = Text.decimal (n / 10) ++ [Nat.digitChar (n % 10)] :=
        Nat.toDigits_of_base_le (by decide) (by omega)
      rw [hsplit] at h
      cases hq : Text.decimal (n / 10) with
      | nil => exact absurd hq (Text.decimal_ne_nil _)
      | cons c cs =>
        rw [hq, List.cons_append] at h
        obtain ⟨rfl, -⟩ := List.cons.inj h
        have hnil := ih (n / 10) (by omega) hq
        have hzero : n / 10 = 0 := by
          rw [← Text.readDecimal_decimal (n / 10), hq, hnil]; rfl
        omega

theorem readNat_decimal (n : Nat) {rest : List Char} (hr : EndsNumber rest) :
    readNat (Text.decimal n ++ rest) = some (n, rest) := by
  have hd : ∀ c ∈ Text.decimal n, c.isDigit := fun _ => Text.isDigit_of_mem_decimal
  unfold readNat
  rw [takeWhile_digits hd hr, dropWhile_digits hd hr]
  split
  · exact absurd ‹_› (Text.decimal_ne_nil n)
  · exact absurd (decimal_eq_zero_cons ‹_›) (by simp)
  · simp

theorem readInt_intChars (n : Int) {rest : List Char} (hr : EndsNumber rest) :
    readInt (intChars n ++ rest) = some (n, rest) := by
  cases n with
  | ofNat n =>
    rw [intChars]
    unfold readInt
    split
    next cs heq =>
      exfalso
      cases hq : Text.decimal n with
      | nil => exact Text.decimal_ne_nil n hq
      | cons c ds =>
        rw [hq, List.cons_append] at heq
        have hc : '-'.isDigit :=
          (List.cons.inj heq).1 ▸ Text.isDigit_of_mem_decimal (n := n) (by rw [hq]; simp)
        exact absurd hc (by decide)
    · simp [readNat_decimal n hr]
  | negSucc n =>
    rw [intChars, List.cons_append, readInt, readNat_decimal (n + 1) hr]
    rfl

/-! ## Values -/

/-- An integer begins with a digit or a minus sign. -/
theorem intChars_eq_cons (n : Int) :
    ∃ c cs, intChars n = c :: cs ∧ (c = '-' ∨ c.isDigit) := by
  cases n with
  | ofNat n =>
    cases hq : Text.decimal n with
    | nil => exact absurd hq (Text.decimal_ne_nil n)
    | cons c cs =>
      exact ⟨c, cs, hq, .inr (Text.isDigit_of_mem_decimal (n := n) (by rw [hq]; simp))⟩
  | negSucc n => exact ⟨'-', _, rfl, .inl rfl⟩

theorem readValue_int (n : Int) (fuel : Nat) {rest : List Char} (hr : EndsNumber rest) :
    readValue (fuel + 1) (intChars n ++ rest) = some (int n, rest) := by
  obtain ⟨c, cs, hcs, hc⟩ := intChars_eq_cons n
  have hread := readInt_intChars n hr
  rw [hcs, List.cons_append] at hread ⊢
  unfold readValue
  split <;> try (rename_i heq; cases (List.cons.inj heq).1; exact absurd hc (by decide))
  simp [hread]

/-- A value does not begin with a closing bracket. -/
theorem chars_eq_cons (value : Json) :
    ∃ c cs, value.chars = c :: cs ∧ c ≠ ']' := by
  cases value with
  | null => exact ⟨_, _, rfl, by decide⟩
  | bool b => cases b <;> exact ⟨_, _, rfl, by decide⟩
  | int n =>
    obtain ⟨c, cs, hcs, hc⟩ := intChars_eq_cons n
    exact ⟨c, cs, hcs, by rintro rfl; exact absurd hc (by decide)⟩
  | str text => exact ⟨_, _, rfl, by decide⟩
  | arr items => exact ⟨_, _, rfl, by decide⟩
  | obj members => exact ⟨_, _, rfl, by decide⟩

theorem endsNumber_cons {c : Char} {rest : List Char} (h : c.isDigit = false) :
    EndsNumber (c :: rest) := by simp [EndsNumber, h]

/-- What a following item or the end of an array begins with. -/
theorem endsNumber_itemChars (items : List Json) (rest : List Char) :
    EndsNumber (itemChars [','] items ++ ']' :: rest) := by
  cases items with
  | nil => exact endsNumber_cons (by decide)
  | cons item items => exact endsNumber_cons (by decide)

/-- What a following member or the end of an object begins with. -/
theorem endsNumber_memberChars (members : List (String × Json)) (rest : List Char) :
    EndsNumber (memberChars [','] members ++ '\x7d' :: rest) := by
  cases members with
  | nil => exact endsNumber_cons (by decide)
  | cons member members => exact endsNumber_cons (by decide)

mutual

/-- A printed value is read back, whatever follows it, as long as that is not a digit. -/
theorem readValue_chars (value : Json) (fuel : Nat) (rest : List Char)
    (hf : value.chars.length < fuel) (hr : EndsNumber rest) :
    readValue fuel (value.chars ++ rest) = some (value, rest) := by
  match value, fuel, hf with
  | null, fuel + 1, _ => rfl
  | bool true, fuel + 1, _ => rfl
  | bool false, fuel + 1, _ => rfl
  | int n, fuel + 1, _ => exact readValue_int n fuel hr
  | str text, fuel + 1, _ => simp [chars, stringChars, readValue, readString_escaped]
  | arr [], fuel + 1, _ => rfl
  | arr (item :: items), fuel + 1, hf =>
    have hread := readItems_itemChars item items fuel rest (by
      simp only [chars, List.length_append, List.length_cons] at hf
      omega)
    obtain ⟨c, cs, hcs, hc⟩ := chars_eq_cons item
    simp only [chars, itemChars, hcs, List.nil_append, List.cons_append, List.append_assoc]
      at hread ⊢
    unfold readValue
    simp [hc, hread]
  | obj [], fuel + 1, _ => rfl
  | obj ((key, value) :: members), fuel + 1, hf =>
    have hread := readMembers_memberChars key value members fuel rest (by
      simp only [chars, List.length_append, List.length_cons] at hf
      omega)
    simp only [chars, memberChars, stringChars, List.nil_append, List.cons_append,
      List.append_assoc] at hread ⊢
    unfold readValue
    simp [hread]

/-- Printed items are read back up to the closing bracket. -/
theorem readItems_itemChars (item : Json) (items : List Json) (fuel : Nat) (rest : List Char)
    (hf : (itemChars [] (item :: items)).length + 1 < fuel) :
    readItems fuel (itemChars [] (item :: items) ++ ']' :: rest) = some (item :: items, rest) := by
  match fuel, hf with
  | fuel + 1, hf =>
    simp only [itemChars, List.nil_append, List.length_append] at hf
    simp only [itemChars, List.nil_append, List.append_assoc]
    unfold readItems
    rw [readValue_chars item fuel _ (by omega) (endsNumber_itemChars items rest)]
    match items, hf with
    | [], _ => rfl
    | next :: items, hf =>
      have hread := readItems_itemChars next items fuel rest (by
        simp only [itemChars, List.nil_append, List.length_append, List.length_cons] at hf ⊢
        omega)
      simp only [itemChars, List.nil_append, List.append_assoc] at hread
      simp [itemChars, hread, prepend]

/-- Printed members are read back up to the closing brace. -/
theorem readMembers_memberChars (key : String) (value : Json) (members : List (String × Json))
    (fuel : Nat) (rest : List Char)
    (hf : (memberChars [] ((key, value) :: members)).length + 1 < fuel) :
    readMembers fuel (memberChars [] ((key, value) :: members) ++ '\x7d' :: rest)
      = some ((key, value) :: members, rest) := by
  match fuel, hf with
  | fuel + 1, hf =>
    simp only [memberChars, List.nil_append, List.length_append, List.length_cons] at hf
    simp only [memberChars, stringChars, List.nil_append, List.append_assoc, List.cons_append]
    rw [readMembers, readString_escaped]
    simp only
    rw [readValue_chars value fuel _ (by omega) (endsNumber_memberChars members rest)]
    match members, hf with
    | [], _ => simp [memberChars]
    | (key', value') :: members, hf =>
      have hread := readMembers_memberChars key' value' members fuel rest (by
        simp only [memberChars, List.nil_append, List.length_append, List.length_cons] at hf ⊢
        omega)
      simp only [memberChars, stringChars, List.nil_append, List.append_assoc,
        List.cons_append] at hread
      simp [memberChars, stringChars, hread, prepend]

end

/-- The compact form of a value is read as that value. -/
@[simp] theorem parse?_render (value : Json) : parse? value.render = some value := by
  have hread := readValue_chars value (value.chars.length + 1) [] (by omega) (by simp [EndsNumber])
  rw [List.append_nil] at hread
  simp [parse?, hread]

/-- Two values of one compact form are equal. -/
theorem render_injective {a b : Json} (h : a.render = b.render) : a = b := by
  have := parse?_render a
  rw [h, parse?_render b] at this
  exact (Option.some.inj this).symm

end CallLog.Json
