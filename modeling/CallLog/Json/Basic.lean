/-!
# JSON values

The JSON values that records and log entries are written as. Numbers are integers: quantities
that need more than that travel as text. An object is its list of members in the order they are
written; `sortKeys` puts the members of every object into key order.
-/

namespace CallLog

/-- A JSON value with integer numbers and ordered objects. -/
inductive Json where
  | null
  | bool (b : Bool)
  | int (n : Int)
  | str (text : String)
  | arr (items : List Json)
  | obj (members : List (String × Json))
  deriving BEq, Repr, Inhabited

namespace Json

/-! ## Members -/

/-- A member that is always there. -/
def member (key : String) (value : Json) : List (String × Json) := [(key, value)]

/-- A member that is left out when there is no value for it. -/
def member? {α : Type} (key : String) (write : α → Json) (value : Option α) :
    List (String × Json) :=
  (value.map fun x => (key, write x)).toList

@[simp] theorem member?_none {α : Type} (key : String) (write : α → Json) :
    member? key write none = [] := rfl

@[simp] theorem member?_some {α : Type} (key : String) (write : α → Json) (x : α) :
    member? key write (some x) = [(key, write x)] := rfl

/-- The value of the first member of that name, for an object that has one. -/
def get? (key : String) : Json → Option Json
  | obj members => members.lookup key
  | _ => none

/-! ## Key order -/

/-- Puts a member into a list in key order. Code point order on the keys is the order of their
UTF-8 bytes. A member that the list already has stays. -/
def insertMember (key : String) (value : Json) : List (String × Json) → List (String × Json)
  | [] => [(key, value)]
  | (k, v) :: rest =>
    if key < k then (key, value) :: (k, v) :: rest
    else if key = k then (k, v) :: rest
    else (k, v) :: insertMember key value rest

mutual

/-- The same value with the members of every object in key order. Of two members of one name the
later one counts. -/
def sortKeys : Json → Json
  | arr items => arr (sortItems items)
  | obj members => obj (sortMembers members)
  | null => null
  | bool b => bool b
  | int n => int n
  | str text => str text

/-- `sortKeys` on each item. -/
def sortItems : List Json → List Json
  | [] => []
  | item :: rest => item.sortKeys :: sortItems rest

/-- The members in key order, each with its value sorted. -/
def sortMembers : List (String × Json) → List (String × Json)
  | [] => []
  | (key, value) :: rest => insertMember key value.sortKeys (sortMembers rest)

end

@[simp] theorem sortItems_eq_map (items : List Json) : sortItems items = items.map sortKeys := by
  induction items with
  | nil => rfl
  | cons item rest ih => simp [sortItems, ih]

/-- Keys in strictly increasing order, so none twice. -/
def KeysSorted (members : List (String × Json)) : Prop :=
  (members.map (·.1)).Pairwise (· < ·)

end Json
end CallLog
