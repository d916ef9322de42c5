import CallLog.Call.Attributes
import CallLog.Proofs.Assembly
import CallLog.Proofs.Slots
import Mathlib.Data.List.Induction
import Mathlib.Data.List.Nodup

/-!
# What a bag of attributes holds

A transport builds a bag by sets, each of which stores a value of some kind under some name
(`Attributes.ofSets`). Only the last set of a name counts (`lookup_ofSets`), so a key finds a value if
this set stored one of its kind, and otherwise nothing, whatever was set before. `last_set_wins` says so
for the bag and every copy of it. That a copy may have its entries in another order makes no difference,
because no name is there twice (`nodup_names_ofSets`). The peer of a call is found in the same way, and
it is the same to the records of a call whether its peer was taken from a bag or named outright.
-/

namespace CallLog

namespace Attributes

variable {κ : Type} {V : κ → Type}

/-- The bag that sets build, each a name and the value stored under it. -/
def ofSets (sets : List (String × AttributeValue V)) : Attributes V :=
  sets.foldl (fun bag set => bag.set ⟨set.1, set.2.1⟩ set.2.2) empty

/-- The last set of a name stored a value. -/
def StoredLast (sets : List (String × AttributeValue V)) (name : String)
    (value : AttributeValue V) : Prop :=
  ∃ before after, sets = before ++ (name, value) :: after ∧ name ∉ after.map (·.1)

/-- A copy of a bag holds the same entries. It need not have them in the same order. -/
def IsCopy (copy bag : Attributes V) : Prop := copy.entries.Perm bag.entries

variable {sets : List (String × AttributeValue V)} {name : String} {value : AttributeValue V}

/-! ## Sets -/

theorem entries_ofSets_append (set : String × AttributeValue V) :
    (ofSets (sets ++ [set])).entries = store set.1 set.2 (ofSets sets).entries := by
  rw [ofSets, List.foldl_append]
  rfl

theorem forall_ne_iff {entries : List (String × AttributeValue V)} :
    (∀ entry ∈ entries.reverse, (name != entry.1) = true) ↔ name ∉ entries.map (·.1) := by
  simp only [List.mem_reverse, bne_iff_ne, List.mem_map, not_exists, not_and]
  exact forall₂_congr fun entry _ => ne_comm

theorem not_set_iff : sets.reverse.lookup name = none ↔ name ∉ sets.map (·.1) :=
  List.lookup_eq_none_iff.trans forall_ne_iff

/-- What the last set of a name stored is the first value under it from behind. -/
theorem storedLast_iff : StoredLast sets name value ↔ sets.reverse.lookup name = some value := by
  rw [List.lookup_eq_some_iff]
  refine ⟨fun h => ?_, fun h => ?_⟩
  · obtain ⟨before, after, rfl, hafter⟩ := h
    exact ⟨after.reverse, before.reverse, by simp, forall_ne_iff.2 hafter⟩
  · obtain ⟨after, before, heq, hafter⟩ := h
    refine ⟨before.reverse, after.reverse, ?_, forall_ne_iff.1 (by simpa using hafter)⟩
    rw [← List.reverse_reverse sets, heq]
    simp

/-- **The last set of a name decides** what stands under it. -/
theorem lookup_ofSets : (ofSets sets).entries.lookup name = sets.reverse.lookup name := by
  induction sets using List.reverseRecOn with
  | nil => rfl
  | append_singleton sets set ih =>
    rw [entries_ofSets_append, List.reverse_append, List.reverse_singleton, List.singleton_append]
    by_cases h : name = set.1
    · rw [h, lookup_store_self, List.lookup_cons_self]
    · rw [lookup_store_of_ne h, ih, Json.lookup_cons_of_ne h]

/-- Only the sets of a name count for what is found under it. -/
theorem lookup_filter : (sets.filter (·.1 = name)).lookup name = sets.lookup name := by
  induction sets with
  | nil => rfl
  | cons set sets ih =>
    by_cases h : set.1 = name
    · rw [List.filter_cons_of_pos (by simpa using h), ← h, List.lookup_cons_self, List.lookup_cons_self]
    · rw [List.filter_cons_of_neg (by simpa using h), ih, Json.lookup_cons_of_ne (Ne.symm h)]

/-- Two sets of different names can change places. -/
theorem lookup_swap {x y : String × AttributeValue V} (h : x.1 ≠ y.1) :
    (x :: y :: sets).lookup name = (y :: x :: sets).lookup name := by
  by_cases hx : name = x.1
  · rw [hx, List.lookup_cons_self, Json.lookup_cons_of_ne h, List.lookup_cons_self]
  · rw [Json.lookup_cons_of_ne hx, List.lookup_cons, List.lookup_cons, Json.lookup_cons_of_ne hx]

/-! ## Entries -/

theorem keys_store (entries : List (String × AttributeValue V)) :
    (store name value entries).map (·.1)
      = if name ∈ entries.map (·.1) then entries.map (·.1) else entries.map (·.1) ++ [name] := by
  induction entries with
  | nil => rfl
  | cons entry rest ih =>
    obtain ⟨n, v⟩ := entry
    by_cases h : n = name
    · simp [store, h]
    · have hn : name ≠ n := Ne.symm h
      rw [store, if_neg h, List.map_cons, List.map_cons, ih]
      split
      next hmem => rw [if_pos (List.mem_cons_of_mem _ hmem)]
      next hmem =>
        rw [if_neg (List.not_mem_cons_of_ne_of_not_mem hn hmem)]
        rfl

/-- No name is in a bag twice. -/
theorem nodup_names_ofSets : (ofSets sets).names.Nodup := by
  induction sets using List.reverseRecOn with
  | nil => exact List.nodup_nil
  | append_singleton sets set ih =>
    rw [names, entries_ofSets_append, keys_store]
    split
    next => exact ih
    next h => exact List.concat_eq_append ▸ List.Nodup.concat h ih

theorem lookup_eq_some_iff_mem {entries : List (String × AttributeValue V)}
    (h : (entries.map (·.1)).Nodup) : entries.lookup name = some value ↔ (name, value) ∈ entries := by
  induction entries with
  | nil => simp
  | cons entry rest ih =>
    obtain ⟨n, v⟩ := entry
    obtain ⟨hn, hrest⟩ := List.nodup_cons.1 h
    rw [List.mem_cons]
    by_cases he : name = n
    · subst he
      have hnot : (name, value) ∉ rest := fun hmem => hn (List.mem_map.2 ⟨_, hmem, rfl⟩)
      simp [hnot, eq_comm]
    · rw [Json.lookup_cons_of_ne he, ih hrest]
      simp [he]

/-- A copy finds the same under each name. -/
theorem IsCopy.lookup {copy bag : Attributes V} (h : copy.IsCopy bag) (hnodup : bag.names.Nodup) :
    copy.entries.lookup name = bag.entries.lookup name := by
  have hcopy : copy.names.Nodup := (h.map _).nodup_iff.2 hnodup
  refine Option.ext fun value => ?_
  rw [lookup_eq_some_iff_mem hcopy, lookup_eq_some_iff_mem hnodup]
  exact h.mem_iff

/-- Bags that find the same are copies of each other. -/
theorem isCopy_ofSets {sets' : List (String × AttributeValue V)}
    (h : ∀ name, sets.reverse.lookup name = sets'.reverse.lookup name) :
    (ofSets sets).IsCopy (ofSets sets') := by
  refine (List.perm_ext_iff_of_nodup (nodup_names_ofSets.of_map _) (nodup_names_ofSets.of_map _)).2 ?_
  intro entry
  rw [← lookup_eq_some_iff_mem nodup_names_ofSets, ← lookup_eq_some_iff_mem nodup_names_ofSets,
    lookup_ofSets, lookup_ofSets, h]

/-! ## Keys -/

section

variable [DecidableEq κ] {bag : Attributes V}

/-- A value is found as one of its own kind, and of no other. -/
theorem cast?_eq_some_iff {kind : AttributeKind κ} {found : kind.Value V} :
    cast? kind value = some found ↔ value = ⟨kind, found⟩ := by
  obtain ⟨kind', stored⟩ := value
  unfold cast?
  split
  next h =>
    subst h
    simp
  next h => simp [h]

theorem cast?_eq_none_iff {kind : AttributeKind κ} : cast? kind value = none ↔ value.1 ≠ kind := by
  unfold cast?
  split <;> simp_all

theorem get?_eq_some_iff {key : AttributeKey κ} {found : key.kind.Value V} :
    bag.get? key = some found ↔ bag.entries.lookup key.name = some ⟨key.kind, found⟩ := by
  rw [get?, Option.bind_eq_some_iff]
  refine ⟨fun h => ?_, fun h => ⟨_, h, cast?_eq_some_iff.2 rfl⟩⟩
  obtain ⟨value, hvalue, hfound⟩ := h
  rw [hvalue, cast?_eq_some_iff.1 hfound]

theorem get?_eq_none_iff {key : AttributeKey κ} :
    bag.get? key = none
      ↔ ∀ value, bag.entries.lookup key.name = some value → value.1 ≠ key.kind := by
  rw [get?, Option.bind_eq_none_iff]
  exact forall₂_congr fun value _ => cast?_eq_none_iff

end

end Attributes

/-! ## Peers of calls -/

/-- The event with another peer, if it is one that takes a peer. -/
def CallEvent.withPeer (peer : Option Peer) : CallEvent → CallEvent
  | requestHeader authority timeout metadata _ => requestHeader authority timeout metadata peer
  | responseHeader metadata _ => responseHeader metadata peer
  | trailer status metadata _ => trailer status metadata peer
  | message kind body => message kind body

theorem Logger.peer_record_withPeer (logger : Logger) {info : CallInfo} {event : CallEvent}
    {peer : Option Peer} (haccepted : ¬(Call.mk info (event.withPeer peer)).Breaches)
    (htakes : ¬event.kind.IsMessage) :
    (logger.record ⟨info, event.withPeer peer⟩).peer = peer.map Address.ofPeer := by
  cases event with
  | requestHeader | responseHeader | trailer => rfl
  | message kind body => exact absurd (Call.isMessage_of_accepted haccepted) htakes

namespace Attributes

variable {κ : Type} {V : κ → Type} [DecidableEq κ] {σ : Type} [Sink σ]

/-- **Bags keep the last value of each name, with its kind.** In any copy of a bag that sets have built,
a key finds a value exactly if the last set of its name stored this value as one of its kind, and finds
nothing if there was no set of its name or the last one stored a value of another kind. Sets of other
names do not matter, and two sets of different names can change places. So the peer of a call is the one
that the last set of `remote-addr` stored, if that was a peer; and any session treats an event with the
peer from the bag like one that names this peer, and delivers a record with its address. -/
theorem last_set_wins (sets : List (String × AttributeValue V)) (bag : Attributes V)
    (h : bag.IsCopy (ofSets sets)) :
    (∀ (key : AttributeKey κ) (value : key.kind.Value V),
        bag.get? key = some value ↔ StoredLast sets key.name ⟨key.kind, value⟩)
      ∧ (∀ key : AttributeKey κ, bag.get? key = none ↔ key.name ∉ sets.map (·.1)
          ∨ ∃ value, StoredLast sets key.name value ∧ value.1 ≠ key.kind)
      ∧ (∀ key : AttributeKey κ,
          bag.get? key = (ofSets (sets.filter (·.1 = key.name))).get? key)
      ∧ (∀ before x y after, sets = before ++ x :: y :: after → x.1 ≠ y.1 →
          bag.IsCopy (ofSets (before ++ y :: x :: after)))
      ∧ (∀ peer, bag.peer? = some peer ↔ StoredLast sets "remote-addr" ⟨.peer, peer⟩)
      ∧ ∀ (session : Session σ) (info : CallInfo) (event : CallEvent) (peer : Peer),
          StoredLast sets "remote-addr" ⟨.peer, peer⟩ →
          let call (peer : Option Peer) : Call := ⟨info, event.withPeer peer⟩
          session.step (.log (call bag.peer?)) = session.step (.log (call (some peer)))
            ∧ session.delivered (call bag.peer?) = session.delivered (call (some peer))
            ∧ (¬(call (some peer)).Breaches → ¬event.kind.IsMessage →
                ∃ record, session.delivered (call bag.peer?) = [record]
                  ∧ record.peer = some (Address.ofPeer peer)) := by
  have hlookup (name : String) : bag.entries.lookup name = sets.reverse.lookup name :=
    (h.lookup nodup_names_ofSets).trans lookup_ofSets
  have hfound (key : AttributeKey κ) (value : key.kind.Value V) :
      bag.get? key = some value ↔ StoredLast sets key.name ⟨key.kind, value⟩ := by
    rw [get?_eq_some_iff, hlookup, storedLast_iff]
  have hpeer (peer : Peer) :
      bag.peer? = some peer ↔ StoredLast sets "remote-addr" ⟨.peer, peer⟩ :=
    hfound .remoteAddress peer
  refine ⟨hfound, fun key => ?_, fun key => ?_, fun before x y after hsets hne => ?_, hpeer,
    fun session info event peer hstored => ?_⟩
  · rw [get?_eq_none_iff, hlookup, ← not_set_iff]
    simp only [storedLast_iff]
    cases sets.reverse.lookup key.name <;> simp
  · have hfilter : (sets.filter (·.1 = key.name)).reverse.lookup key.name
        = sets.reverse.lookup key.name := by
      rw [← List.filter_reverse, lookup_filter]
    rw [get?, get?, hlookup, lookup_ofSets, hfilter]
  · refine List.Perm.trans h (isCopy_ofSets fun name => ?_)
    simp only [hsets, List.reverse_append, List.reverse_cons, List.append_assoc, List.cons_append,
      List.nil_append]
    rw [List.lookup_append, List.lookup_append, lookup_swap hne]
  · intro call
    rw [(hpeer peer).2 hstored]
    refine ⟨rfl, rfl, fun haccepted htakes => ?_⟩
    exact ⟨_, session.delivered_of_accepted haccepted,
      session.logger.peer_record_withPeer haccepted htakes⟩

/-- Two names, each set twice with values of different kinds, in a copy with its entries the other way
round: the peer under `remote-addr` has replaced a number, and the number under `other` a peer. -/
theorem last_set_wins_across_kinds :
    let V : Unit → Type := fun _ => Nat
    let peer : Peer := .ipv4 ⟨127, 0, 0, 1⟩ 80
    let number (n : Nat) : AttributeValue V := ⟨.custom (), n⟩
    let sets : List (String × AttributeValue V) :=
      [("remote-addr", number 7), ("other", ⟨.peer, peer⟩), ("remote-addr", ⟨.peer, peer⟩),
        ("other", number 9)]
    let bag : Attributes V := ⟨[("other", number 9), ("remote-addr", ⟨.peer, peer⟩)]⟩
    let session : Session MemorySink := ⟨⟨5, .unlimited⟩, .empty⟩
    let info : CallInfo := ⟨1, "service", "method", "1", .client⟩
    let call (peer : Option Peer) : Call := ⟨info, .responseHeader [] peer⟩
    bag.IsCopy (ofSets sets)
      ∧ bag.get? ⟨"other", .custom ()⟩ = some (9 : Nat)
      ∧ bag.get? ⟨"remote-addr", .custom ()⟩ = none
      ∧ bag.peer? = some peer
      ∧ session.delivered (call bag.peer?) = session.delivered (call (some peer))
      ∧ ∃ record, session.delivered (call bag.peer?) = [record]
        ∧ record.peer = some (Address.ofPeer peer) := by
  intro V peer number sets bag session info call
  have hcopy : bag.IsCopy (ofSets sets) := List.Perm.swap _ _ _
  obtain ⟨hfound, hnone, -, -, hpeer, hsession⟩ := last_set_wins (σ := MemorySink) sets bag hcopy
  have hother : StoredLast sets "other" (number 9) := ⟨[_, _, _], [], rfl, List.not_mem_nil⟩
  have hremote : StoredLast sets "remote-addr" ⟨.peer, peer⟩ := ⟨[_, _], [_], rfl, by decide⟩
  obtain ⟨-, hsame, hrecord⟩ := hsession session info (.responseHeader [] none) peer hremote
  refine ⟨hcopy, (hfound ⟨"other", .custom ()⟩ _).2 hother, ?_, (hpeer peer).2 hremote, hsame,
    hrecord (by decide) (by decide)⟩
  exact (hnone ⟨"remote-addr", .custom ()⟩).2 (.inr ⟨_, hremote, nofun⟩)

end Attributes
end CallLog
