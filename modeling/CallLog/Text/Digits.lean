/-!
# Digits

Natural numbers as text: decimal and lower-case hexadecimal, without leading zeros or padded to a
fixed width. Reading a decimal back gives the number, padded or not.
-/

namespace CallLog.Text

/-- Decimal digits, most significant first, without leading zeros; zero is `0`. -/
def decimal (n : Nat) : List Char := Nat.toDigits 10 n

/-- Lower-case hexadecimal digits, most significant first, without leading zeros. -/
def hexadecimal (n : Nat) : List Char := Nat.toDigits 16 n

/-- Decimal digits filled up with zeros on the left to at least `width` of them. -/
def decimalPadded (width n : Nat) : List Char := (decimal n).leftpad width '0'

/-- A number in decimal, as a string. -/
def number (n : Nat) : String := String.ofList (decimal n)

/-- The number that a row of decimal digits denotes. -/
def readDecimal (digits : List Char) : Nat := Nat.ofDigitChars 10 digits 0

/-- The value of a hexadecimal digit of either case. -/
def hexValue? (c : Char) : Option Nat :=
  if '0' ≤ c ∧ c ≤ '9' then some (c.toNat - 48)
  else if 'a' ≤ c ∧ c ≤ 'f' then some (c.toNat - 87)
  else if 'A' ≤ c ∧ c ≤ 'F' then some (c.toNat - 55)
  else none

/-- The number that a row of hexadecimal digits denotes after `n`, if they are all such digits. -/
def readHexadecimalFrom? (n : Nat) : List Char → Option Nat
  | [] => some n
  | c :: cs => (hexValue? c).bind fun d => readHexadecimalFrom? (n * 16 + d) cs

/-- The number that a row of hexadecimal digits denotes, if they are all such digits. -/
def readHexadecimal? (digits : List Char) : Option Nat := readHexadecimalFrom? 0 digits

/-! ## Reading back -/

@[simp] theorem readDecimal_decimal (n : Nat) : readDecimal (decimal n) = n :=
  Nat.ofDigitChars_ten_toDigits

@[simp] theorem readDecimal_decimalPadded (width n : Nat) :
    readDecimal (decimalPadded width n) = n := by
  simp [readDecimal, decimalPadded, List.leftpad, Nat.ofDigitChars_append, decimal]

theorem decimal_injective {m n : Nat} (h : decimal m = decimal n) : m = n := by
  rw [← readDecimal_decimal m, h, readDecimal_decimal]

theorem number_injective {m n : Nat} (h : number m = number n) : m = n :=
  decimal_injective (String.ofList_injective h)

/-- A text that can be read back belongs to one value only. -/
theorem injective_of_read {α : Type} {write : α → List Char} {read : List Char → Option α}
    (hread : ∀ x, read (write x) = some x) : Function.Injective fun x => String.ofList (write x) := by
  intro x y h
  have hx := hread x
  rw [String.ofList_injective h, hread y] at hx
  exact (Option.some.inj hx).symm

theorem hexValue?_digitChar {d : Nat} (h : d < 16) : hexValue? (Nat.digitChar d) = some d := by
  have all : ∀ m ∈ List.range 16, hexValue? (Nat.digitChar m) = some m := by decide
  exact all d (List.mem_range.2 h)

theorem readHexadecimalFrom?_append (n : Nat) (xs ys : List Char) :
    readHexadecimalFrom? n (xs ++ ys)
      = (readHexadecimalFrom? n xs).bind fun m => readHexadecimalFrom? m ys := by
  induction xs generalizing n with
  | nil => rfl
  | cons c xs ih =>
    simp only [List.cons_append, readHexadecimalFrom?]
    cases hexValue? c with
    | none => rfl
    | some d => exact ih (n * 16 + d)

@[simp] theorem readHexadecimal?_hexadecimal (n : Nat) :
    readHexadecimal? (hexadecimal n) = some n := by
  induction n using Nat.strongRecOn with
  | ind n ih =>
    by_cases hn : n < 16
    · rw [hexadecimal, Nat.toDigits_of_lt_base hn]
      simp [readHexadecimal?, readHexadecimalFrom?, hexValue?_digitChar hn]
    · have hsplit : hexadecimal n = hexadecimal (n / 16) ++ [Nat.digitChar (n % 16)] :=
        Nat.toDigits_of_base_le (by decide) (by omega)
      have hprev := ih (n / 16) (by omega)
      rw [readHexadecimal?] at hprev ⊢
      rw [hsplit, readHexadecimalFrom?_append, hprev]
      simp only [Option.bind_some, readHexadecimalFrom?,
        hexValue?_digitChar (Nat.mod_lt n (by decide : 16 > 0)), Option.some.injEq]
      omega

/-! ## Shape -/

theorem decimal_ne_nil (n : Nat) : decimal n ≠ [] := Nat.toDigits_ne_nil

theorem hexadecimal_ne_nil (n : Nat) : hexadecimal n ≠ [] := Nat.toDigits_ne_nil

theorem length_hexadecimal_le_iff {n k : Nat} (h : 0 < k) :
    (hexadecimal n).length ≤ k ↔ n < Nat.pow 16 k :=
  Nat.length_toDigits_le_iff (by decide) h

theorem isDigit_of_mem_decimal {c : Char} {n : Nat} (h : c ∈ decimal n) : c.isDigit :=
  Nat.isDigit_of_mem_toDigits (by decide) (by decide) h

theorem not_mem_decimal {c : Char} (hc : c.isDigit = false) (n : Nat) : c ∉ decimal n :=
  fun h => by simp [isDigit_of_mem_decimal h] at hc

theorem isDigit_of_mem_decimalPadded {c : Char} {width n : Nat} (h : c ∈ decimalPadded width n) :
    c.isDigit := by
  simp only [decimalPadded, List.leftpad, List.mem_append, List.mem_replicate] at h
  rcases h with ⟨_, rfl⟩ | h
  · decide
  · exact isDigit_of_mem_decimal h

theorem length_decimal_le_iff {n k : Nat} (h : 0 < k) :
    (decimal n).length ≤ k ↔ n < Nat.pow 10 k :=
  Nat.length_toDigits_le_iff (by decide) h

theorem length_decimalPadded {width n : Nat} (hw : 0 < width) (h : n < Nat.pow 10 width) :
    (decimalPadded width n).length = width := by
  have := (length_decimal_le_iff hw).2 h
  simp only [decimalPadded, List.length_leftpad]
  omega

end CallLog.Text
