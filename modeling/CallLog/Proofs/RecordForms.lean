import CallLog.Proofs.JsonForms
import CallLog.Proofs.RecordJson

/-!
# The two JSON forms of a record

A record has a text of its own, with members in the order of its fields, and a payload with members
in key order. `forms_agree` says of any record, whatever stands in its strings and bytes, that its
text is one JSON object on one line without two members of one name, that reading the text gives the
payload, that the payload is the same object with the members of every object in the order of their
UTF-8 bytes, and which members are there: the mandatory ones, and of the optional ones those that
the record has a value for.
-/

namespace CallLog

open Json

/-! ## No member twice -/

theorem Json.everyObject_present {slots : List (String × Option Json)}
    (hkeys : (slots.map (·.1)).Nodup)
    (hvalues : ∀ slot ∈ slots, ∀ value ∈ slot.2, value.EveryObject KeysDistinct) :
    (obj (present slots)).EveryObject KeysDistinct := by
  refine ⟨hkeys.sublist (keys_present slots), everyMember_iff.2 fun member hmember => ?_⟩
  exact hvalues _ (mem_present.1 hmember) member.2 rfl

theorem Address.everyObject_toJson (address : Address) :
    address.toJson.EveryObject KeysDistinct := by
  rw [toJson_eq_present]
  refine everyObject_present (by simp [slots]) ?_
  simp [slots, EveryObject]

theorem Header.everyObject_toJson (header : Header) : header.toJson.EveryObject KeysDistinct := by
  rw [toJson_eq_present]
  refine everyObject_present (by simp [slots]) ?_
  simp [slots, EveryObject, Bytes.toJson]

theorem Metadata.everyObject_toJson (metadata : Metadata) :
    (Metadata.toJson metadata).EveryObject KeysDistinct := by
  unfold toJson
  split
  · exact ⟨List.nodup_nil, trivial⟩
  · have hitems : EveryItem KeysDistinct (metadata.map Header.toJson) :=
      everyItem_iff.2 (List.forall_mem_map.2 fun header _ => header.everyObject_toJson)
    exact ⟨List.pairwise_singleton _ _, hitems, trivial⟩

namespace Record

theorem everyObject_toJson (record : Record) : record.toJson.EveryObject KeysDistinct := by
  rw [toJson, members_eq_present]
  refine everyObject_present (record.keys_slots ▸ nodup_keys) ?_
  simp [slots, EveryObject, counterJson, Bytes.toJson, Address.everyObject_toJson,
    Metadata.everyObject_toJson]

/-! ## Which members are there -/

/-- The members of every record. -/
def mandatoryKeys : List String :=
  ["timestamp", "rpc_id", "service_name", "method_name", "sequence_id", "event_type",
    "event_logger", "log_level", "payload_size"]

/-- The other members that a record may have, and whether it has them. -/
def optionalKeys (record : Record) : List (String × Bool) :=
  [("authority", record.authority.isSome), ("peer_address", record.peer.isSome),
    ("timeout", record.timeout.isSome), ("metadata", record.metadata.isSome),
    ("message", record.message.isSome), ("payload_truncated", record.truncated),
    ("status_code", record.statusCode.isSome), ("status_message", record.statusMessage.isSome)]

theorem mem_keys_members (record : Record) (key : String) :
    key ∈ record.members.map (·.1)
      ↔ key ∈ mandatoryKeys ∨ (key, true) ∈ record.optionalKeys := by
  have htruncated : (if record.truncated then some (Json.bool true) else none).isSome
      = record.truncated := by
    cases record.truncated <;> rfl
  rw [members_eq_present, mem_keys_present]
  simp only [slots, mandatoryKeys, optionalKeys, List.map_cons, List.map_nil, Option.isSome_some,
    Option.isSome_map, htruncated, List.mem_cons, List.not_mem_nil, Prod.mk.injEq, and_true,
    or_false]
  -- both sides name the same keys, in two orders
  exact iff_of_eq (by ac_rfl)

/-! ## Text and payload -/

/-- **Text and payload of a record are two forms of one object.** The text is one JSON object without
raw control characters and without two members of one name in any object. Reading it gives the
payload, up to the order of members; in the payload, and so in the payload's own text, every object
has its members in the order of their UTF-8 bytes. Both have the mandatory members, those optional
ones that the record has a value for, and no others. -/
theorem forms_agree (record : Record) :
    ∃ own sorted,
      (Json.parse? record.text = some (.obj own) ∧ Printable record.text.toList
        ∧ (obj own).EveryObject KeysDistinct)
      ∧ ((Json.parse? record.text).map Json.sortKeys = some record.payload
        ∧ Reordered (.obj own) record.payload)
      ∧ (Json.parse? record.payload.render = some record.payload ∧ record.payload = .obj sorted
        ∧ record.payload.EveryObject BytesSorted)
      ∧ ∀ key, (key ∈ own.map (·.1) ↔ key ∈ mandatoryKeys ∨ (key, true) ∈ record.optionalKeys)
        ∧ (key ∈ sorted.map (·.1) ↔ key ∈ mandatoryKeys ∨ (key, true) ∈ record.optionalKeys) := by
  have hread : Json.parse? record.text = some record.toJson := Json.parse?_render record.toJson
  have hdistinct := record.everyObject_toJson
  refine ⟨record.members, Json.sortMembers record.members, ⟨hread, ?_, hdistinct⟩, ⟨?_, ?_⟩,
    ⟨Json.parse?_render _, rfl, everyObject_sortKeys _⟩, fun key => ⟨?_, ?_⟩⟩
  · rw [text, toList_render]
    exact printable_chars _
  · rw [hread]
    rfl
  · exact reordered_sortKeys _ hdistinct
  · exact record.mem_keys_members key
  · rw [mem_keys_sortMembers]
    exact record.mem_keys_members key

end Record
end CallLog
