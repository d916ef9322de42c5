import CallLog.Text.Digits
import Mathlib.Data.List.Forall2
import Mathlib.Data.Nat.Digits.Defs

/-!
# Numerals

`IsNumeral base n cs`: a text is a number in a base, said of its digits and not of how they are
found. Every number has exactly one numeral, the one that is written (`isNumeral_iff`), and so have
several numbers with a separator between them (`isJoined_iff`).
-/

namespace CallLog.Text

/-- A text is a number in a base: digits of that base as characters, in lower case and the most
significant first, with a leading zero only in `0` itself. -/
def IsNumeral (base n : Nat) (cs : List Char) : Prop :=
  ∃ digits : List Nat, cs = digits.map Nat.digitChar ∧ (∀ d ∈ digits, d < base)
    ∧ (digits = [0] ∨ ∃ d rest, digits = d :: rest ∧ d ≠ 0)
    ∧ Nat.ofDigits base digits.reverse = n

variable {base n : Nat}

theorem isNumeral_toDigits (h : 1 < base) (n : Nat) : IsNumeral base n (Nat.toDigits base n) := by
  induction n using Nat.strongRecOn with
  | ind n ih =>
    rw [Nat.toDigits_eq_if h]
    split
    next hlt =>
      refine ⟨[n], rfl, by simpa using hlt, ?_, by simp⟩
      rcases Nat.eq_zero_or_pos n with rfl | hpos
      · exact .inl rfl
      · exact .inr ⟨n, [], rfl, Nat.ne_of_gt hpos⟩
    next hge =>
      have hpos : 0 < n / base := Nat.div_pos (by omega) (by omega)
      obtain ⟨digits, hcs, hlt, hlead, hvalue⟩ := ih (n / base) (Nat.div_lt_self (by omega) h)
      refine ⟨digits ++ [n % base], by simp [hcs], ?_, .inr ?_, ?_⟩
      · intro d hd
        rcases List.mem_append.1 hd with hd | hd
        · exact hlt d hd
        · rw [List.mem_singleton.1 hd]
          exact Nat.mod_lt n (by omega)
      · rcases hlead with rfl | ⟨d, rest, rfl, hd⟩
        · simp at hvalue
          omega
        · exact ⟨d, rest ++ [n % base], rfl, hd⟩
      · rw [List.reverse_append, List.reverse_singleton, List.singleton_append, Nat.ofDigits_cons,
          hvalue]
        exact Nat.mod_add_div n base

/-- The digits of a numeral depend on its number only. -/
theorem IsNumeral.unique {cs cs' : List Char} (h : 1 < base) (hcs : IsNumeral base n cs)
    (hcs' : IsNumeral base n cs') : cs = cs' := by
  -- without the leading zero of `0`, the digits are those that repeated division gives
  have hdigits {digits : List Nat} (hlt : ∀ d ∈ digits, d < base)
      (hlead : digits = [0] ∨ ∃ d rest, digits = d :: rest ∧ d ≠ 0)
      (hvalue : Nat.ofDigits base digits.reverse = n) :
      digits.reverse = if n = 0 then [0] else Nat.digits base n := by
    rcases hlead with rfl | ⟨d, rest, rfl, hd⟩
    · simp only [List.reverse_singleton, Nat.ofDigits_singleton] at hvalue
      rw [← hvalue, if_pos rfl, List.reverse_singleton]
    · have hback := Nat.digits_ofDigits base h (d :: rest).reverse
        (fun d hd => hlt d (List.mem_reverse.1 hd)) (by simpa using hd)
      rw [hvalue] at hback
      rw [← hback, if_neg]
      rintro rfl
      simp at hback
  obtain ⟨digits, rfl, hlt, hlead, hvalue⟩ := hcs
  obtain ⟨digits', rfl, hlt', hlead', hvalue'⟩ := hcs'
  have hreverse := (hdigits hlt hlead hvalue).trans (hdigits hlt' hlead' hvalue').symm
  rw [List.reverse_inj.1 hreverse]

theorem isNumeral_iff (h : 1 < base) {cs : List Char} :
    IsNumeral base n cs ↔ cs = Nat.toDigits base n := by
  constructor
  · intro hcs
    exact hcs.unique h (isNumeral_toDigits h n)
  · rintro rfl
    exact isNumeral_toDigits h n

/-- Numbers in a base with a separator between them. -/
def IsJoined (separator : Char) (base : Nat) (numbers : List Nat) (cs : List Char) : Prop :=
  ∃ numerals, List.Forall₂ (IsNumeral base) numbers numerals
    ∧ cs = [separator].intercalate numerals

theorem isJoined_iff (h : 1 < base) {separator : Char} {numbers : List Nat} {cs : List Char} :
    IsJoined separator base numbers cs
      ↔ cs = [separator].intercalate (numbers.map (Nat.toDigits base)) := by
  have hrel : IsNumeral base = fun n cs => Nat.toDigits base n = cs := by
    funext n cs
    exact propext ((isNumeral_iff h).trans eq_comm)
  have hall (numerals : List (List Char)) : List.Forall₂ (IsNumeral base) numbers numerals
      ↔ numbers.map (Nat.toDigits base) = numerals := by
    rw [hrel, ← List.forall₂_map_left_iff, List.forall₂_eq_eq_eq]
  constructor
  · rintro ⟨numerals, hnumerals, rfl⟩
    rw [(hall numerals).1 hnumerals]
  · intro hcs
    exact ⟨_, (hall _).2 rfl, hcs⟩

theorem isNumeral_decimal_iff {cs : List Char} : IsNumeral 10 n cs ↔ cs = decimal n :=
  isNumeral_iff (by decide)

end CallLog.Text
