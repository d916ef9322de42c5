import CallLog.Json.Printer
import CallLog.Text.Utf8.Order
import CallLog.Proofs.Slots
import Mathlib.Data.String.Basic

/-!
# Forms of JSON values

What holds of every object in a value is `EveryObject`. A value may have several forms that differ in
the order of members only (`Reordered`); putting the members into key order gives one of them
(`reordered_sortKeys`, for objects without two members of one name), with the keys of every object in
strictly increasing order of their UTF-8 bytes (`everyObject_sortKeys`). Whatever a value holds, its
text has no control character (`printable_chars`).
-/

namespace CallLog.Json

/-! ## Objects at every level -/

mutual

/-- A property of the members of every object in a value. -/
def EveryObject (P : List (String × Json) → Prop) : Json → Prop
  | arr items => EveryItem P items
  | obj members => P members ∧ EveryMember P members
  | null | bool _ | int _ | str _ => True

/-- `EveryObject` of each item. -/
def EveryItem (P : List (String × Json) → Prop) : List Json → Prop
  | [] => True
  | item :: rest => item.EveryObject P ∧ EveryItem P rest

/-- `EveryObject` of the value of each member. -/
def EveryMember (P : List (String × Json) → Prop) : List (String × Json) → Prop
  | [] => True
  | (_, value) :: rest => value.EveryObject P ∧ EveryMember P rest

end

/-- No two members of one name. -/
def KeysDistinct (members : List (String × Json)) : Prop := (members.map (·.1)).Nodup

/-- Keys in strictly increasing order of their UTF-8 bytes. -/
def BytesSorted (members : List (String × Json)) : Prop :=
  (members.map fun member => Text.Utf8.encode member.1).Pairwise (· < ·)

section

variable {P : List (String × Json) → Prop}

theorem everyItem_iff {items : List Json} :
    EveryItem P items ↔ ∀ item ∈ items, item.EveryObject P := by
  induction items with
  | nil => simp [EveryItem]
  | cons item rest ih => simp [EveryItem, ih]

theorem everyMember_iff {members : List (String × Json)} :
    EveryMember P members ↔ ∀ member ∈ members, member.2.EveryObject P := by
  induction members with
  | nil => simp [EveryMember]
  | cons member rest ih => simp [EveryMember, ih]

end

/-! ## Key order -/

theorem mem_keys_insertMember {key k : String} {value : Json} {members : List (String × Json)} :
    k ∈ (insertMember key value members).map (·.1) ↔ k = key ∨ k ∈ members.map (·.1) := by
  induction members with
  | nil => simp [insertMember]
  | cons member rest ih =>
    obtain ⟨key', value'⟩ := member
    simp only [insertMember]
    split
    · simp
    split
    next heq => simp [heq]
    next => rw [List.map_cons, List.mem_cons, ih, List.map_cons, List.mem_cons, or_left_comm]

theorem mem_keys_sortMembers {k : String} {members : List (String × Json)} :
    k ∈ (sortMembers members).map (·.1) ↔ k ∈ members.map (·.1) := by
  induction members with
  | nil => rfl
  | cons member rest ih =>
    obtain ⟨key, value⟩ := member
    rw [sortMembers, mem_keys_insertMember, ih, List.map_cons, List.mem_cons]

theorem keysSorted_insertMember {key : String} {value : Json} {members : List (String × Json)}
    (h : KeysSorted members) : KeysSorted (insertMember key value members) := by
  induction members with
  | nil => simp [insertMember, KeysSorted]
  | cons member rest ih =>
    obtain ⟨key', value'⟩ := member
    obtain ⟨hfirst, hrest⟩ := List.pairwise_cons.1 h
    simp only [insertMember]
    split
    next hlt =>
      refine List.pairwise_cons.2 ⟨fun k hk => ?_, h⟩
      obtain rfl | hk := List.mem_cons.1 hk
      · exact hlt
      · exact lt_trans hlt (hfirst k hk)
    split
    next => exact h
    next hlt hne =>
      have hgt : key' < key := lt_of_le_of_ne (not_lt.1 hlt) (Ne.symm hne)
      refine List.pairwise_cons.2 ⟨fun k hk => ?_, ih hrest⟩
      obtain rfl | hk := mem_keys_insertMember.1 hk
      · exact hgt
      · exact hfirst k hk

theorem everyMember_insertMember {P : List (String × Json) → Prop} {key : String} {value : Json}
    {members : List (String × Json)} (hvalue : value.EveryObject P) (h : EveryMember P members) :
    EveryMember P (insertMember key value members) := by
  induction members with
  | nil => exact ⟨hvalue, trivial⟩
  | cons member rest ih =>
    obtain ⟨key', value'⟩ := member
    simp only [insertMember]
    split
    · exact ⟨hvalue, h⟩
    split
    · exact h
    · exact ⟨h.1, ih h.2⟩

theorem BytesSorted.of_keysSorted {members : List (String × Json)} (h : KeysSorted members) :
    BytesSorted members := by
  have hkeys := List.Pairwise.map Text.Utf8.encode (fun _ _ => Text.Utf8.encode_lt_encode) h
  rwa [List.map_map] at hkeys

theorem keysSorted_sortMembers (members : List (String × Json)) :
    KeysSorted (sortMembers members) := by
  induction members with
  | nil => exact List.Pairwise.nil
  | cons member rest ih =>
    obtain ⟨key, value⟩ := member
    exact keysSorted_insertMember ih

mutual

/-- Key order puts the keys of every object in order. -/
theorem everyObject_sortKeys (value : Json) : value.sortKeys.EveryObject BytesSorted := by
  match value with
  | null | bool _ | int _ | str _ => trivial
  | arr items => exact everyItem_sortItems items
  | obj members =>
    exact ⟨.of_keysSorted (keysSorted_sortMembers members), everyMember_sortMembers members⟩

theorem everyItem_sortItems (items : List Json) : EveryItem BytesSorted (sortItems items) := by
  match items with
  | [] => trivial
  | item :: rest => exact ⟨everyObject_sortKeys item, everyItem_sortItems rest⟩

theorem everyMember_sortMembers (members : List (String × Json)) :
    EveryMember BytesSorted (sortMembers members) := by
  match members with
  | [] => trivial
  | (_, value) :: rest =>
    exact everyMember_insertMember (everyObject_sortKeys value) (everyMember_sortMembers rest)

end

/-! ## The same value in another order -/

mutual

/-- Two forms of one value: objects may have their members in different orders. -/
inductive Reordered : Json → Json → Prop
  | null : Reordered null null
  | bool (b : Bool) : Reordered (bool b) (bool b)
  | int (n : Int) : Reordered (int n) (int n)
  | str (text : String) : Reordered (str text) (str text)
  | arr {xs ys : List Json} (h : ReorderedItems xs ys) : Reordered (arr xs) (arr ys)
  | obj {xs ys : List (String × Json)} (h : ReorderedMembers xs ys) : Reordered (obj xs) (obj ys)

/-- Items in one order, each in two forms. -/
inductive ReorderedItems : List Json → List Json → Prop
  | nil : ReorderedItems [] []
  | cons {x y : Json} {xs ys : List Json} (h : Reordered x y) (hs : ReorderedItems xs ys) :
    ReorderedItems (x :: xs) (y :: ys)

/-- Members that are paired off by their names, in any order, each with its value in two forms. -/
inductive ReorderedMembers : List (String × Json) → List (String × Json) → Prop
  | nil : ReorderedMembers [] []
  | cons {key : String} {x y : Json} {rest before after : List (String × Json)}
    (h : Reordered x y) (hs : ReorderedMembers rest (before ++ after)) :
    ReorderedMembers ((key, x) :: rest) (before ++ (key, y) :: after)

end

/-- A member of a new name is put between those that are there. -/
theorem insertMember_of_not_mem {key : String} (value : Json) {members : List (String × Json)}
    (h : key ∉ members.map (·.1)) :
    ∃ before after, members = before ++ after
      ∧ insertMember key value members = before ++ (key, value) :: after := by
  induction members with
  | nil => exact ⟨[], [], rfl, rfl⟩
  | cons member rest ih =>
    obtain ⟨key', value'⟩ := member
    obtain ⟨hne, hrest⟩ := not_or.1 (mt List.mem_cons.2 h)
    simp only [insertMember, if_neg (show ¬key = key' from hne)]
    split
    · exact ⟨[], (key', value') :: rest, rfl, rfl⟩
    · obtain ⟨before, after, hmembers, hinsert⟩ := ih hrest
      exact ⟨(key', value') :: before, after, by rw [hmembers]; rfl, by rw [hinsert]; rfl⟩

mutual

/-- Key order changes nothing but the order, where no object has two members of one name. -/
theorem reordered_sortKeys (value : Json) (h : value.EveryObject KeysDistinct) :
    Reordered value value.sortKeys := by
  match value, h with
  | null, _ => exact .null
  | bool b, _ => exact .bool b
  | int n, _ => exact .int n
  | str text, _ => exact .str text
  | arr items, h => exact .arr (reorderedItems_sortItems items h)
  | obj members, h => exact .obj (reorderedMembers_sortMembers members h.1 h.2)

theorem reorderedItems_sortItems (items : List Json) (h : EveryItem KeysDistinct items) :
    ReorderedItems items (sortItems items) := by
  match items, h with
  | [], _ => exact .nil
  | item :: rest, h =>
    exact .cons (reordered_sortKeys item h.1) (reorderedItems_sortItems rest h.2)

theorem reorderedMembers_sortMembers (members : List (String × Json)) (hkeys : KeysDistinct members)
    (h : EveryMember KeysDistinct members) : ReorderedMembers members (sortMembers members) := by
  match members, hkeys, h with
  | [], _, _ => exact .nil
  | (key, value) :: rest, hkeys, h =>
    obtain ⟨hkey, hrest⟩ := List.nodup_cons.1 hkeys
    obtain ⟨before, after, hsorted, hinsert⟩ :=
      insertMember_of_not_mem value.sortKeys (mt mem_keys_sortMembers.1 hkey)
    rw [sortMembers, hinsert]
    refine .cons (reordered_sortKeys value h.1) ?_
    rw [← hsorted]
    exact reorderedMembers_sortMembers rest hrest h.2

end

/-! ## Text without control characters -/

/-- A text without raw control characters. -/
def Printable (cs : List Char) : Prop := ∀ c ∈ cs, 0x20 ≤ c.toNat

instance (cs : List Char) : Decidable (Printable cs) := List.decidableBAll _ cs

theorem printable_append {xs ys : List Char} :
    Printable (xs ++ ys) ↔ Printable xs ∧ Printable ys := List.forall_mem_append

theorem printable_cons {c : Char} {cs : List Char} :
    Printable (c :: cs) ↔ 0x20 ≤ c.toNat ∧ Printable cs := List.forall_mem_cons

theorem printable_decimal (n : Nat) : Printable (Text.decimal n) := by
  intro c hc
  have hdigit := Text.isDigit_of_mem_decimal hc
  rw [Char.isDigit_iff_toNat] at hdigit
  exact Nat.le_trans (by decide) hdigit.1

theorem printable_digitChar {n : Nat} (h : n < 16) : 0x20 ≤ (Nat.digitChar n).toNat := by
  have all : ∀ m ∈ List.range 16, 0x20 ≤ (Nat.digitChar m).toNat := by decide
  exact all n (List.mem_range.2 h)

theorem printable_escapeChar (c : Char) : Printable (escapeChar c) := by
  unfold escapeChar
  iterate 7
    split
    · decide
  split
  next hcontrol =>
    have hdigits : Printable [Nat.digitChar (c.toNat / 16), Nat.digitChar (c.toNat % 16)] :=
      printable_cons.2 ⟨printable_digitChar (by omega),
        printable_cons.2 ⟨printable_digitChar (by omega), List.forall_mem_nil _⟩⟩
    have hlead : Printable ['\\', 'u', '0', '0'] := by decide
    exact printable_append.2 ⟨hlead, hdigits⟩
  next hcontrol =>
    exact printable_cons.2 ⟨Nat.le_of_not_lt hcontrol, List.forall_mem_nil _⟩

theorem printable_stringChars (text : String) : Printable (stringChars text) := by
  refine printable_cons.2 ⟨by decide, printable_append.2 ⟨fun c hc => ?_, by decide⟩⟩
  obtain ⟨d, -, hc⟩ := List.mem_flatMap.1 hc
  exact printable_escapeChar d c hc

theorem printable_intChars (n : Int) : Printable (intChars n) := by
  cases n with
  | ofNat n => exact printable_decimal n
  | negSucc n => exact printable_cons.2 ⟨by decide, printable_decimal (n + 1)⟩

mutual

theorem printable_chars (value : Json) : Printable value.chars := by
  match value with
  | null | bool true | bool false => decide
  | int n => exact printable_intChars n
  | str text => exact printable_stringChars text
  | arr items =>
    have hitems := printable_itemChars [] (by decide) items
    exact printable_cons.2 ⟨by decide, printable_append.2 ⟨hitems, by decide⟩⟩
  | obj members =>
    have hmembers := printable_memberChars [] (by decide) members
    exact printable_cons.2 ⟨by decide, printable_append.2 ⟨hmembers, by decide⟩⟩

theorem printable_itemChars (lead : List Char) (hlead : Printable lead) (items : List Json) :
    Printable (itemChars lead items) := by
  match items with
  | [] => exact List.forall_mem_nil _
  | item :: rest =>
    have hrest := printable_itemChars [','] (by decide) rest
    exact printable_append.2 ⟨printable_append.2 ⟨hlead, printable_chars item⟩, hrest⟩

theorem printable_memberChars (lead : List Char) (hlead : Printable lead)
    (members : List (String × Json)) : Printable (memberChars lead members) := by
  match members with
  | [] => exact List.forall_mem_nil _
  | (key, value) :: rest =>
    have hrest := printable_memberChars [','] (by decide) rest
    have hkey := printable_append.2 ⟨hlead, printable_stringChars key⟩
    have hvalue : Printable (':' :: value.chars) :=
      printable_cons.2 ⟨by decide, printable_chars value⟩
    exact printable_append.2 ⟨printable_append.2 ⟨hkey, hvalue⟩, hrest⟩

end

end CallLog.Json
