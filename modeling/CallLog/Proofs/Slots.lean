import CallLog.Json.Basic

/-!
# Objects whose members may be missing

A record, an address or a header is written from a fixed list of slots, each a key with a value or
without one (`present`). With distinct keys the slots can be told from the object, and still when its
members have been put into key order: a slot is found again under its key (`lookup_sort_present`), so
two objects written from the same keys agree only if all their slots do (`slots_inj`).
-/

namespace CallLog.Json

/-- The members of the slots that have a value. -/
def present (slots : List (String × Option Json)) : List (String × Json) :=
  slots.filterMap fun slot => slot.2.map (slot.1, ·)

@[simp] theorem present_nil : present [] = [] := rfl

theorem present_cons (key : String) (value : Option Json) (slots : List (String × Option Json)) :
    present ((key, value) :: slots) = member? key id value ++ present slots := by
  cases value <;> rfl

theorem present_cons_some (key : String) (value : Json) (slots : List (String × Option Json)) :
    present ((key, some value) :: slots) = member key value ++ present slots := rfl

theorem present_cons_map {α : Type} (key : String) (write : α → Json) (value : Option α)
    (slots : List (String × Option Json)) :
    present ((key, value.map write) :: slots) = member? key write value ++ present slots := by
  cases value <;> rfl

/-! ## Looking up a key -/

theorem lookup_cons_of_ne {α : Type} {key k : String} (h : key ≠ k) (value : α)
    (entries : List (String × α)) : ((k, value) :: entries).lookup key = entries.lookup key := by
  have hk : (key == k) = false := beq_eq_false_iff_ne.2 h
  rw [List.lookup_cons, hk]

theorem lookup_eq_none_of_not_mem {α : Type} {key : String} {entries : List (String × α)}
    (h : key ∉ entries.map (·.1)) : entries.lookup key = none := by
  rw [List.lookup_eq_none_iff]
  intro entry hentry
  have hne : key ≠ entry.1 := fun he => h (he ▸ List.mem_map_of_mem hentry)
  simpa using hne

theorem lookup_insertMember {key : String} {members : List (String × Json)}
    (h : members.lookup key = none) (value : Json) (k : String) :
    (insertMember key value members).lookup k = ((key, value) :: members).lookup k := by
  induction members with
  | nil => rfl
  | cons entry rest ih =>
    obtain ⟨k', v'⟩ := entry
    have hne : key ≠ k' := by
      rintro rfl
      simp at h
    rw [lookup_cons_of_ne hne] at h
    simp only [insertMember, if_neg hne]
    split
    · rfl
    · -- the new member goes further back, past a member of another key
      by_cases hk : k = k'
      · subst hk
        rw [List.lookup_cons_self, lookup_cons_of_ne (Ne.symm hne), List.lookup_cons_self]
      · rw [lookup_cons_of_ne hk, ih h]
        by_cases hkey : k = key
        · rw [hkey, List.lookup_cons_self, List.lookup_cons_self]
        · rw [lookup_cons_of_ne hkey, lookup_cons_of_ne hkey, lookup_cons_of_ne hk]

/-- Key order hides no member: under each key stands the value it had, itself in key order. -/
theorem lookup_sortMembers {members : List (String × Json)} (h : (members.map (·.1)).Nodup)
    (key : String) : (sortMembers members).lookup key = (members.lookup key).map sortKeys := by
  induction members generalizing key with
  | nil => rfl
  | cons entry rest ih =>
    obtain ⟨k, v⟩ := entry
    obtain ⟨hk, hrest⟩ := List.nodup_cons.1 h
    have hnone : (sortMembers rest).lookup k = none := by
      rw [ih hrest, lookup_eq_none_of_not_mem hk]
      rfl
    rw [sortMembers, lookup_insertMember hnone]
    by_cases he : key = k
    · rw [he, List.lookup_cons_self, List.lookup_cons_self]
      rfl
    · rw [lookup_cons_of_ne he, lookup_cons_of_ne he, ih hrest]

theorem keys_present (slots : List (String × Option Json)) :
    ((present slots).map (·.1)).Sublist (slots.map (·.1)) := by
  induction slots with
  | nil => simp [present]
  | cons slot slots ih =>
    obtain ⟨key, value⟩ := slot
    rw [present_cons]
    cases value with
    | none => exact ih.cons _
    | some v => exact ih.cons_cons _

theorem mem_present {member : String × Json} {slots : List (String × Option Json)} :
    member ∈ present slots ↔ (member.1, some member.2) ∈ slots := by
  induction slots with
  | nil => simp
  | cons slot slots ih =>
    obtain ⟨key, value⟩ := slot
    obtain ⟨k, v⟩ := member
    cases value <;> simp [present_cons, ih]

/-- A key stands in an object if its slot has a value. -/
theorem mem_keys_present {key : String} {slots : List (String × Option Json)} :
    key ∈ (present slots).map (·.1)
      ↔ (key, true) ∈ slots.map fun slot => (slot.1, slot.2.isSome) := by
  simp only [List.mem_map, mem_present, Prod.mk.injEq, Option.isSome_iff_exists]
  constructor
  · rintro ⟨member, hmember, rfl⟩
    exact ⟨_, hmember, rfl, member.2, rfl⟩
  · rintro ⟨slot, hslot, rfl, value, hvalue⟩
    exact ⟨(slot.1, value), hvalue ▸ hslot, rfl⟩

theorem lookup_present {slots : List (String × Option Json)} (h : (slots.map (·.1)).Nodup)
    (key : String) : (present slots).lookup key = (slots.lookup key).join := by
  induction slots with
  | nil => rfl
  | cons slot slots ih =>
    obtain ⟨k, v⟩ := slot
    obtain ⟨hk, hrest⟩ := List.nodup_cons.1 h
    rw [present_cons, List.lookup_append, ih hrest]
    by_cases he : key = k
    · subst he
      rw [lookup_eq_none_of_not_mem hk, List.lookup_cons_self]
      cases v <;> simp
    · rw [lookup_cons_of_ne he]
      cases v with
      | none => rfl
      | some v =>
        rw [member?_some, lookup_cons_of_ne he]
        rfl

/-- A slot is found again under its key, whatever the order of the members. -/
theorem lookup_sort_present {slots : List (String × Option Json)} (h : (slots.map (·.1)).Nodup)
    (key : String) :
    (sortMembers (present slots)).lookup key = (slots.lookup key).join.map sortKeys := by
  rw [lookup_sortMembers (h.sublist (keys_present slots)), lookup_present h]

theorem get?_sortKeys_present {slots : List (String × Option Json)} (h : (slots.map (·.1)).Nodup)
    (key : String) :
    (obj (present slots)).sortKeys.get? key = (slots.lookup key).join.map sortKeys :=
  lookup_sort_present h key

/-! ## Telling slots apart -/

theorem slots_inj {xs ys : List (String × Option Json)}
    (h : sortMembers (present xs) = sortMembers (present ys))
    (hkeys : xs.map (·.1) = ys.map (·.1)) (hnodup : (xs.map (·.1)).Nodup) :
    xs.map (·.2.map sortKeys) = ys.map (·.2.map sortKeys) := by
  have hlookup : ∀ key, (xs.lookup key).join.map sortKeys = (ys.lookup key).join.map sortKeys := by
    intro key
    rw [← lookup_sort_present hnodup, ← lookup_sort_present (hkeys ▸ hnodup), h]
  clear h
  induction xs generalizing ys with
  | nil =>
    cases ys with
    | nil => rfl
    | cons => cases hkeys
  | cons x xs ih =>
    cases ys with
    | nil => cases hkeys
    | cons y ys =>
      obtain ⟨k, v⟩ := x
      obtain ⟨k', w⟩ := y
      simp only [List.map_cons, List.cons.injEq] at hkeys
      obtain ⟨rfl, hkeys⟩ := hkeys
      obtain ⟨hk, hrest⟩ := List.nodup_cons.1 hnodup
      have hhead := hlookup k
      simp only [List.lookup_cons_self, Option.join_some] at hhead
      refine List.cons_eq_cons.2 ⟨hhead, ih hkeys hrest fun key => ?_⟩
      by_cases he : key = k
      · subst he
        rw [lookup_eq_none_of_not_mem hk, lookup_eq_none_of_not_mem (hkeys ▸ hk)]
      · have htail := hlookup key
        rwa [lookup_cons_of_ne he, lookup_cons_of_ne he] at htail

end CallLog.Json
