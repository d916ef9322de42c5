import CallLog.Text.Utf8

/-!
# Metadata

The headers of a call in the order they were sent. A key may occur more than once, and each header
counts with the bytes of its key and of its value.
-/

namespace CallLog

/-- A header: a key and the bytes of its value. -/
structure Header where
  key : String
  value : Bytes
  deriving DecidableEq, Repr

/-- What a header counts: the UTF-8 bytes of its key and the bytes of its value. -/
def Header.size (header : Header) : Nat := header.key.utf8ByteSize + header.value.length

/-- Headers in order, duplicates included. -/
abbrev Metadata := List Header

namespace Metadata

/-- Puts a header after all others. -/
def insert (metadata : Metadata) (header : Header) : Metadata := metadata ++ [header]

/-- What all headers count together. -/
def size : Metadata → Nat
  | [] => 0
  | header :: rest => header.size + size rest

@[simp] theorem size_nil : size [] = 0 := rfl

@[simp] theorem size_cons (header : Header) (rest : Metadata) :
    size (header :: rest) = header.size + size rest := rfl

@[simp] theorem size_append (xs ys : Metadata) : size (xs ++ ys) = size xs + size ys := by
  induction xs with
  | nil => simp
  | cons header rest ih => simp [ih, Nat.add_assoc]

theorem size_le_of_sublist {kept metadata : Metadata} (h : kept.Sublist metadata) :
    size kept ≤ size metadata := by
  induction h with
  | slnil => exact Nat.le_refl _
  | cons header _ ih =>
    rw [size_cons]
    omega
  | cons_cons header _ ih =>
    rw [size_cons, size_cons]
    omega

end Metadata
end CallLog
