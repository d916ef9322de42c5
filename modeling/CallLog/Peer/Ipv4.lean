import CallLog.Text.Digits
import CallLog.Text.Split

/-!
# IPv4 addresses

Four octets, written in dotted decimal. The reader takes numbers from 0 to 255 without leading
zeros, and gives back the address that was written (`parse?_chars`).
-/

namespace CallLog

/-- An IPv4 address. -/
structure Ipv4 where
  first : UInt8
  second : UInt8
  third : UInt8
  fourth : UInt8
  deriving DecidableEq, Repr

namespace Ipv4

/-- The characters of the dotted decimal form. -/
def chars (ip : Ipv4) : List Char :=
  Text.decimal ip.first.toNat ++ '.' :: Text.decimal ip.second.toNat
    ++ '.' :: Text.decimal ip.third.toNat ++ '.' :: Text.decimal ip.fourth.toNat

/-- The dotted decimal form. -/
def text (ip : Ipv4) : String := String.ofList ip.chars

/-! ## Reading -/

/-- The octet that a decimal number without leading zeros gives. -/
def octet? (digits : List Char) : Option UInt8 :=
  if digits.all Char.isDigit ∧ Text.readDecimal digits < 256
      ∧ Text.decimal (Text.readDecimal digits) = digits then
    some (UInt8.ofNat (Text.readDecimal digits))
  else none

/-- The address that a text is the dotted decimal form of. -/
def parse? (cs : List Char) : Option Ipv4 :=
  match (Text.split '.' cs).mapM octet? with
  | some [first, second, third, fourth] => some ⟨first, second, third, fourth⟩
  | _ => none

theorem octet?_decimal (octet : UInt8) : octet? (Text.decimal octet.toNat) = some octet := by
  have hd : (Text.decimal octet.toNat).all Char.isDigit :=
    List.all_eq_true.2 fun _ => Text.isDigit_of_mem_decimal
  simp [octet?, hd, octet.toNat_lt]

theorem chars_eq_intercalate (ip : Ipv4) :
    ip.chars = ['.'].intercalate [Text.decimal ip.first.toNat, Text.decimal ip.second.toNat,
      Text.decimal ip.third.toNat, Text.decimal ip.fourth.toNat] := by
  simp [chars, List.intercalate]

/-- The dotted decimal form of an address is read as that address. -/
@[simp] theorem parse?_chars (ip : Ipv4) : parse? ip.chars = some ip := by
  have hdot (n : Nat) : '.' ∉ Text.decimal n := Text.not_mem_decimal (by decide) n
  rw [parse?, chars_eq_intercalate, Text.split_intercalate (by simp) (by simp [hdot])]
  simp [octet?_decimal]

theorem text_injective : Function.Injective text :=
  Text.injective_of_read parse?_chars

end Ipv4
end CallLog
