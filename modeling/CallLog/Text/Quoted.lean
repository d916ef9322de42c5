import CallLog.Text.Digits
import CallLog.Text.GraphemeBase

/-!
# Quoted names

A name in double quotes, as diagnostics show it: quote and backslash are escaped, and so is every
character that cannot be seen by itself, so that a quoted name stays on its line, ends where it
seems to and hides nothing.
-/

namespace CallLog.Text

/-- The property Space_Separator: the spaces, of any width. -/
def isSpaceSeparator (c : Char) : Bool :=
  inRanges [(0x20, 0x20), (0xA0, 0xA0), (0x1680, 0x1680), (0x2000, 0x200A), (0x202F, 0x202F),
    (0x205F, 0x205F), (0x3000, 0x3000)] c.toNat

/-- The property Default_Ignorable_Code_Point: characters that leave no trace where they are not
supported, among them the four fillers of Hangul. -/
def isDefaultIgnorable (c : Char) : Bool :=
  inRanges [(0xAD, 0xAD), (0x34F, 0x34F), (0x61C, 0x61C), (0x115F, 0x1160), (0x17B4, 0x17B5),
    (0x180B, 0x180F), (0x200B, 0x200F), (0x202A, 0x202E), (0x2060, 0x206F), (0x3164, 0x3164),
    (0xFE00, 0xFE0F), (0xFEFF, 0xFEFF), (0xFFA0, 0xFFA0), (0xFFF0, 0xFFF8), (0x1BCA0, 0x1BCA3),
    (0x1D173, 0x1D17A), (0xE0000, 0xE0FFF)] c.toNat

/-- The halfwidth sound marks of Katakana extend a grapheme, but stand in a cell of their own. -/
def isHalfwidthSoundMark (c : Char) : Bool := inRanges [(0xFF9E, 0xFF9F)] c.toNat

/-- Characters that can be seen by themselves are the grapheme bases and the halfwidth sound marks,
without the default ignorables and without the spaces other than U+0020. -/
def isVisible (c : Char) : Bool :=
  c = ' ' || ((isGraphemeBase c || isHalfwidthSoundMark c) && !isDefaultIgnorable c
    && !isSpaceSeparator c)

/-- A character inside quotes: a backslash escape where it has one, a code point in braces for the
others that are not visible, and itself otherwise. -/
def quotedChar (c : Char) : List Char :=
  if c = '"' ∨ c = '\\' then ['\\', c]
  else if c = '\n' then ['\\', 'n']
  else if c = '\r' then ['\\', 'r']
  else if c = '\t' then ['\\', 't']
  else if c = '\x00' then ['\\', '0']
  else if isVisible c then [c]
  else ['\\', 'u', '\x7b'] ++ hexadecimal c.toNat ++ ['\x7d']

/-- A name in double quotes. -/
def quoted (name : String) : String :=
  "\"" ++ String.ofList (name.toList.flatMap quotedChar) ++ "\""

end CallLog.Text
