import CallLog.Peer.Basic
import CallLog.Text.Quoted

/-!
# Attributes

A bag of values that a transport attaches to a call. A value is stored under a name together with
its kind, and a key asks for a name and a kind: it finds the value last stored under its name, if
that value is of its kind. One kind, the peer, is known here; the others are the caller's.
-/

namespace CallLog

/-- The kinds of attribute values: peers, and the kinds `κ` that a caller brings. -/
inductive AttributeKind (κ : Type) where
  | peer
  | custom (kind : κ)
  deriving DecidableEq

/-- The values of a kind. -/
def AttributeKind.Value {κ : Type} (V : κ → Type) : AttributeKind κ → Type
  | peer => Peer
  | custom kind => V kind

/-- A name and the kind of value expected under it. -/
structure AttributeKey (κ : Type) where
  name : String
  kind : AttributeKind κ

namespace AttributeKey

/-- The key under which a transport stores the remote end of a call. -/
def remoteAddress {κ : Type} : AttributeKey κ := ⟨"remote-addr", .peer⟩

/-- The key as diagnostics show it. -/
def display {κ : Type} (key : AttributeKey κ) : String := "Key(" ++ Text.quoted key.name ++ ")"

end AttributeKey

/-- A stored value with its kind. -/
abbrev AttributeValue {κ : Type} (V : κ → Type) := (kind : AttributeKind κ) × kind.Value V

/-- Values by name, each name once. -/
structure Attributes {κ : Type} (V : κ → Type) where
  entries : List (String × AttributeValue V)

namespace Attributes

variable {κ : Type} {V : κ → Type}

/-- The bag without values. -/
def empty : Attributes V := ⟨[]⟩

/-- Replaces the value under a name, or adds one after the others. -/
def store (name : String) (value : AttributeValue V) :
    List (String × AttributeValue V) → List (String × AttributeValue V)
  | [] => [(name, value)]
  | (n, v) :: rest => if n = name then (name, value) :: rest else (n, v) :: store name value rest

/-- The bag with a value stored under a key. -/
def set (bag : Attributes V) (key : AttributeKey κ) (value : key.kind.Value V) : Attributes V :=
  ⟨store key.name ⟨key.kind, value⟩ bag.entries⟩

/-- A stored value as one of the kind asked for. -/
def cast? [DecidableEq κ] (kind : AttributeKind κ) (value : AttributeValue V) :
    Option (kind.Value V) :=
  if h : value.1 = kind then some (h ▸ value.2) else none

/-- The value that a key finds. -/
def get? [DecidableEq κ] (bag : Attributes V) (key : AttributeKey κ) :
    Option (key.kind.Value V) :=
  (bag.entries.lookup key.name).bind (cast? key.kind)

/-- The remote end of the call, if the transport stored it. -/
def peer? [DecidableEq κ] (bag : Attributes V) : Option Peer := bag.get? .remoteAddress

/-- The names in use. -/
def names (bag : Attributes V) : List String := bag.entries.map (·.1)

/-- The bag as diagnostics show it: its names, without the values. -/
def display (bag : Attributes V) : String :=
  "\x7b" ++ ", ".intercalate (bag.names.map Text.quoted) ++ "\x7d"

/-! ## Looking up what was stored -/

theorem lookup_store_self (name : String) (value : AttributeValue V)
    (entries : List (String × AttributeValue V)) :
    (store name value entries).lookup name = some value := by
  induction entries with
  | nil => simp [store]
  | cons entry rest ih =>
    obtain ⟨n, v⟩ := entry
    by_cases h : n = name
    · simp [store, h]
    · have hn : (name == n) = false := beq_eq_false_iff_ne.2 (Ne.symm h)
      simp [store, h, List.lookup_cons, hn, ih]

theorem lookup_store_of_ne {name other : String} (h : other ≠ name) (value : AttributeValue V)
    (entries : List (String × AttributeValue V)) :
    (store name value entries).lookup other = entries.lookup other := by
  have ho : (other == name) = false := beq_eq_false_iff_ne.2 h
  induction entries with
  | nil => simp [store, List.lookup_cons, ho]
  | cons entry rest ih =>
    obtain ⟨n, v⟩ := entry
    by_cases hn : n = name
    · subst hn
      simp [store, List.lookup_cons, ho]
    · simp [store, hn, List.lookup_cons, ih]

end Attributes
end CallLog
