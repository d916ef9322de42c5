/-!
# UTF-8

Text as bytes and back. `encode` writes each character's UTF-8 form. Reading cuts the bytes into
pieces, each a well-formed character or a malformed stretch that no character starts with: `decode?`
refuses any malformed stretch, `decodeLossy` writes U+FFFD for each.
-/

namespace CallLog

/-- A string of octets. -/
abbrev Bytes := List UInt8

namespace Text.Utf8

/-! ## Writing -/

/-- The UTF-8 bytes of a text. -/
def encode (text : String) : Bytes := text.toList.flatMap String.utf8EncodeChar

/-! ## Reading -/

/-- A character of several bytes that is still being read: the bits gathered so far, how many
bytes are owed, and the range of the next one. -/
structure Partial where
  bits : Nat
  owed : Nat
  low : Nat
  high : Nat

/-- What a first byte promises: a character of its own, a longer one, or nothing (`none`). The range
of the second byte keeps out forms that are too long, halves of pairs, and code points above the
last one. -/
def lead (b : Nat) : Option (Char ⊕ Partial) :=
  if b < 0x80 then some (.inl (Char.ofNat b))
  else if b < 0xC2 then none
  else if b < 0xE0 then some (.inr ⟨b - 0xC0, 1, 0x80, 0xBF⟩)
  else if b < 0xF0 then
    some (.inr ⟨b - 0xE0, 2, if b = 0xE0 then 0xA0 else 0x80, if b = 0xED then 0x9F else 0xBF⟩)
  else if b < 0xF5 then
    some (.inr ⟨b - 0xF0, 3, if b = 0xF0 then 0x90 else 0x80, if b = 0xF4 then 0x8F else 0xBF⟩)
  else none

/-- The characters that bytes spell, `none` for each malformed stretch. A stretch ends before the
first byte that cannot go on with the character begun. -/
def pieces : Option Partial → Bytes → List (Option Char)
  | none, [] => []
  | some _, [] => [none]
  | none, b :: rest =>
    match lead b.toNat with
    | none => none :: pieces none rest
    | some (.inl c) => some c :: pieces none rest
    | some (.inr p) => pieces (some p) rest
  | some p, b :: rest =>
    if p.low ≤ b.toNat ∧ b.toNat ≤ p.high then
      let bits := p.bits * 64 + (b.toNat - 0x80)
      if p.owed = 1 then some (Char.ofNat bits) :: pieces none rest
      else pieces (some ⟨bits, p.owed - 1, 0x80, 0xBF⟩) rest
    else
      match lead b.toNat with
      | none => none :: none :: pieces none rest
      | some (.inl c) => none :: some c :: pieces none rest
      | some (.inr q) => none :: pieces (some q) rest

/-- The text that bytes spell, if all of them are well formed. -/
def decode? (bytes : Bytes) : Option String :=
  ((pieces none bytes).mapM id).map String.ofList

/-- The text that bytes spell, with U+FFFD for each malformed stretch. -/
def decodeLossy (bytes : Bytes) : String :=
  String.ofList ((pieces none bytes).map (·.getD '\uFFFD'))

end Text.Utf8
end CallLog
