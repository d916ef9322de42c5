import CallLog.Json.Basic
import CallLog.Text.Digits

/-!
# Printing JSON

The compact form: no blanks, members in the order of the object. In strings the quote, the
backslash and the characters below U+0020 are escaped, and nothing else is.
-/

namespace CallLog.Json

/-! ## Strings -/

/-- A character inside a JSON string. -/
def escapeChar (c : Char) : List Char :=
  if c = '"' then ['\\', '"']
  else if c = '\\' then ['\\', '\\']
  else if c = '\x08' then ['\\', 'b']
  else if c = '\x0c' then ['\\', 'f']
  else if c = '\n' then ['\\', 'n']
  else if c = '\r' then ['\\', 'r']
  else if c = '\t' then ['\\', 't']
  else if c.toNat < 0x20 then
    ['\\', 'u', '0', '0', Nat.digitChar (c.toNat / 16), Nat.digitChar (c.toNat % 16)]
  else [c]

/-- A string between quotes. -/
def stringChars (text : String) : List Char :=
  '"' :: text.toList.flatMap escapeChar ++ ['"']

/-! ## Numbers -/

/-- An integer in decimal, with a minus sign when it is negative. -/
def intChars : Int → List Char
  | .ofNat n => Text.decimal n
  | .negSucc n => '-' :: Text.decimal (n + 1)

/-! ## Values -/

mutual

/-- The characters of the compact form. -/
def chars : Json → List Char
  | null => ['n', 'u', 'l', 'l']
  | bool true => ['t', 'r', 'u', 'e']
  | bool false => ['f', 'a', 'l', 's', 'e']
  | int n => intChars n
  | str text => stringChars text
  | arr items => '[' :: itemChars [] items ++ [']']
  | obj members => '\x7b' :: memberChars [] members ++ ['\x7d']

/-- The items one after another, the first after `lead` and each other one after a comma. -/
def itemChars (lead : List Char) : List Json → List Char
  | [] => []
  | item :: rest => lead ++ item.chars ++ itemChars [','] rest

/-- The members one after another, the first after `lead` and each other one after a comma. -/
def memberChars (lead : List Char) : List (String × Json) → List Char
  | [] => []
  | (key, value) :: rest =>
    lead ++ stringChars key ++ ':' :: value.chars ++ memberChars [','] rest

end

/-- The items of an array stand with one comma between two of them. -/
theorem itemChars_eq_intercalate (items : List Json) :
    itemChars [] items = [','].intercalate (items.map chars) := by
  induction items with
  | nil => rfl
  | cons item rest ih =>
    cases rest with
    | nil => simp [itemChars]
    | cons next rest =>
      have hnext : itemChars [','] (next :: rest) = [','] ++ itemChars [] (next :: rest) := by
        simp [itemChars]
      rw [itemChars, hnext, ih]
      simp [List.intercalate_cons_cons]

/-- The compact text of a value. -/
def render (value : Json) : String := String.ofList value.chars

@[simp] theorem toList_render (value : Json) : value.render.toList = value.chars := by
  simp [render]

end CallLog.Json
