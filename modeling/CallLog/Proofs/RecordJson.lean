import CallLog.Json.RoundTrip
import CallLog.Proofs.Slots
import CallLog.Proofs.TimeText
import CallLog.Record.Json
import Mathlib.Data.List.Basic
import Mathlib.Data.Option.Basic

/-!
# Records can be told from their JSON

`Record.payload_injective`: records with the same members in key order are the same record. Every
object a record is written as has its keys fixed, so its slots can be told from it (`slots_inj`), and
each slot is written injectively: absent is never written like present but empty, bytes and 64-bit
numbers are read back from their text, and so are instants and spans. With the text of a JSON value
determining the value, `Record.eq_iff_text_and_payload` states this for both forms of a record.
-/

namespace CallLog

open Function

/-! ## Values of fields -/

theorem EventKind.label_injective : Injective EventKind.label := by
  intro a b h
  cases a <;> cases b <;> first | rfl | exact absurd h (by decide)

theorem Side.label_injective : Injective Side.label := by
  intro a b h
  cases a <;> cases b <;> first | rfl | exact absurd h (by decide)

theorem Level.label_injective : Injective Level.label := by
  intro a b h
  cases a <;> cases b <;> first | rfl | exact absurd h (by decide)

theorem AddressKind.label_injective : Injective AddressKind.label := by
  intro a b h
  cases a <;> cases b <;> first | rfl | exact absurd h (by decide)

namespace Json

theorem sortKeys_str_injective {α : Type} {text : α → String} (h : Injective text) :
    Injective fun x => (Json.str (text x)).sortKeys := by
  intro a b hab
  simp only [sortKeys, str.injEq] at hab
  exact h hab

theorem sortKeys_int_injective {α : Type} {number : α → Nat} (h : Injective number) :
    Injective fun x => (Json.int (number x)).sortKeys := by
  intro a b hab
  simp only [sortKeys, int.injEq, Int.natCast_inj] at hab
  exact h hab

end Json

theorem sortKeys_counterJson_injective : Injective fun n => (counterJson n).sortKeys := by
  refine Json.sortKeys_str_injective (fun m n h => ?_)
  exact UInt64.toNat.inj (Text.number_injective h)

theorem Bytes.sortKeys_toJson_injective : Injective fun bytes => (Bytes.toJson bytes).sortKeys :=
  Json.sortKeys_str_injective (Text.injective_of_read Text.Base64.decode?_encode)

theorem sortKeys_truncationJson_injective :
    Injective fun truncated : Bool =>
      (if truncated then some (Json.bool true) else none).map Json.sortKeys := by
  intro a b h
  cases a <;> cases b <;> first | rfl | cases h

/-! ## Objects -/

/-- The slots of an address. -/
def Address.slots (address : Address) : List (String × Option Json) :=
  [("type", some (.str address.kind.label)), ("address", some (.str address.text)),
    ("ip_port", address.port.map fun port => .int port.toNat)]

theorem Address.toJson_eq_present (address : Address) :
    address.toJson = .obj (Json.present address.slots) := by
  obtain ⟨kind, text, port⟩ := address
  cases port <;> rfl

theorem Address.sortKeys_toJson_injective :
    Injective fun address => (Address.toJson address).sortKeys := by
  intro a b h
  simp only [toJson_eq_present, Json.sortKeys, Json.obj.injEq] at h
  have hslots := Json.slots_inj h rfl (by simp [slots])
  simp only [slots, List.map_cons, List.map_nil, Option.map_some, Option.map_map,
    List.cons.injEq, Option.some.injEq, and_true] at hslots
  obtain ⟨hkind, htext, hport⟩ := hslots
  obtain ⟨kind, text, port⟩ := a
  obtain ⟨kind', text', port'⟩ := b
  congr
  · exact Json.sortKeys_str_injective AddressKind.label_injective hkind
  · exact Json.sortKeys_str_injective injective_id htext
  · exact Option.map_injective (Json.sortKeys_int_injective fun _ _ => UInt16.toNat.inj) hport

/-- The slots of a header. -/
def Header.slots (header : Header) : List (String × Option Json) :=
  [("key", some (.str header.key)), ("value", some (Bytes.toJson header.value))]

theorem Header.toJson_eq_present (header : Header) :
    header.toJson = .obj (Json.present header.slots) := rfl

theorem Header.sortKeys_toJson_injective :
    Injective fun header => (Header.toJson header).sortKeys := by
  intro a b h
  simp only [toJson_eq_present, Json.sortKeys, Json.obj.injEq] at h
  have hslots := Json.slots_inj h rfl (by simp [slots])
  simp only [slots, List.map_cons, List.map_nil, Option.map_some, List.cons.injEq,
    Option.some.injEq, and_true] at hslots
  obtain ⟨hkey, hvalue⟩ := hslots
  obtain ⟨key, value⟩ := a
  obtain ⟨key', value'⟩ := b
  congr
  · exact Json.sortKeys_str_injective injective_id hkey
  · exact Bytes.sortKeys_toJson_injective hvalue

/-- Metadata is written as a list of entries only if it has any, so the list can be told from what
stands there. -/
theorem Metadata.sortKeys_toJson_injective :
    Injective fun metadata => (Metadata.toJson metadata).sortKeys := by
  have hitems : Injective fun metadata : Metadata =>
      (metadata.map Header.toJson).map Json.sortKeys := by
    intro a b h
    simp only [List.map_map] at h
    exact List.map_injective_iff.2 Header.sortKeys_toJson_injective h
  intro a b h
  cases a with
  | nil =>
    cases b with
    | nil => rfl
    | cons => simp [toJson, Json.sortKeys, Json.sortMembers, Json.member, Json.insertMember] at h
  | cons header rest =>
    cases b with
    | nil => simp [toJson, Json.sortKeys, Json.sortMembers, Json.member, Json.insertMember] at h
    | cons header' rest' =>
      simp only [toJson, List.isEmpty_cons, Bool.false_eq_true, if_false, Json.member,
        Json.sortKeys, Json.sortMembers, Json.insertMember, Json.sortItems_eq_map, Json.obj.injEq,
        List.cons.injEq, Prod.mk.injEq, Json.arr.injEq, true_and, and_true] at h
      exact hitems h

/-! ## Records -/

namespace Record

/-- The slots of a record. -/
def slots (record : Record) : List (String × Option Json) :=
  [("timestamp", some (.str record.timestamp.text)), ("rpc_id", some (.str record.rpcId)),
    ("service_name", some (.str record.service)), ("method_name", some (.str record.method)),
    ("sequence_id", some (counterJson record.sequence)),
    ("event_type", some (.str record.kind.label)), ("event_logger", some (.str record.side.label)),
    ("log_level", some (.str record.level.label)), ("authority", record.authority.map .str),
    ("peer_address", record.peer.map Address.toJson),
    ("timeout", record.timeout.map fun timeout => .str timeout.text),
    ("metadata", record.metadata.map Metadata.toJson),
    ("message", record.message.map Bytes.toJson),
    ("payload_size", some (counterJson record.payloadSize)),
    ("payload_truncated", if record.truncated then some (.bool true) else none),
    ("status_code", record.statusCode.map fun code => .int code.toNat),
    ("status_message", record.statusMessage.map .str)]

/-- The keys of a record in the order of its fields. -/
def keys : List String :=
  ["timestamp", "rpc_id", "service_name", "method_name", "sequence_id", "event_type",
    "event_logger", "log_level", "authority", "peer_address", "timeout", "metadata", "message",
    "payload_size", "payload_truncated", "status_code", "status_message"]

theorem keys_slots (record : Record) : record.slots.map (·.1) = keys := by
  simp only [slots, keys, List.map_cons, List.map_nil]

theorem nodup_keys : keys.Nodup := by decide

theorem members_eq_present (record : Record) : record.members = Json.present record.slots := by
  have htruncated (t : Bool) (slots : List (String × Option Json)) :
      Json.present (("payload_truncated", if t then some (.bool true) else none) :: slots)
        = (if t then Json.member "payload_truncated" (.bool true) else []) ++ Json.present slots := by
    cases t <;> rfl
  -- `unfold` would first prove an equation for the whole append
  delta members
  simp only [slots, Json.present_cons_some, Json.present_cons_map, htruncated, Json.present_nil,
    List.append_assoc, List.append_nil]

/-- A member of a record's own form is that of its slots. -/
theorem get?_toJson (record : Record) (key : String) :
    record.toJson.get? key = (record.slots.lookup key).join := by
  rw [toJson, members_eq_present]
  exact Json.lookup_present (record.keys_slots ▸ nodup_keys) key

/-- A member of a payload is that of the record's slots, in key order. -/
theorem get?_payload (record : Record) (key : String) :
    record.payload.get? key = (record.slots.lookup key).join.map Json.sortKeys := by
  rw [payload, toJson, members_eq_present]
  exact Json.get?_sortKeys_present (record.keys_slots ▸ nodup_keys) key

theorem lookup_metadata_slots (record : Record) :
    (record.slots.lookup "metadata").join = record.metadata.map Metadata.toJson := by
  simp [slots, List.lookup_cons]

theorem lookup_message_slots (record : Record) :
    (record.slots.lookup "message").join = record.message.map Bytes.toJson := by
  simp [slots, List.lookup_cons]

/-- **The payload determines the record.** -/
theorem payload_injective : Injective payload := by
  intro a b h
  simp only [payload, toJson, members_eq_present, Json.sortKeys, Json.obj.injEq] at h
  have hkeys : a.slots.map (·.1) = b.slots.map (·.1) := by rw [keys_slots, keys_slots]
  have hslots := Json.slots_inj h hkeys (a.keys_slots ▸ nodup_keys)
  simp only [slots, List.map_cons, List.map_nil, Option.map_some, Option.map_map, List.cons.injEq,
    Option.some.injEq, and_true] at hslots
  obtain ⟨htimestamp, hrpcId, hservice, hmethod, hsequence, hkind, hside, hlevel, hauthority, hpeer,
    htimeout, hmetadata, hmessage, hsize, htruncated, hcode, hdescription⟩ := hslots
  cases a
  cases b
  rw [mk.injEq]
  exact ⟨Json.sortKeys_str_injective Timestamp.text_injective htimestamp,
    Json.sortKeys_str_injective injective_id hrpcId,
    Json.sortKeys_str_injective injective_id hservice,
    Json.sortKeys_str_injective injective_id hmethod, sortKeys_counterJson_injective hsequence,
    Json.sortKeys_str_injective EventKind.label_injective hkind,
    Json.sortKeys_str_injective Side.label_injective hside,
    Json.sortKeys_str_injective Level.label_injective hlevel,
    Option.map_injective (Json.sortKeys_str_injective injective_id) hauthority,
    Option.map_injective Address.sortKeys_toJson_injective hpeer,
    Option.map_injective (Json.sortKeys_str_injective Duration.text_injective) htimeout,
    Option.map_injective Metadata.sortKeys_toJson_injective hmetadata,
    Option.map_injective Bytes.sortKeys_toJson_injective hmessage,
    sortKeys_counterJson_injective hsize, sortKeys_truncationJson_injective htruncated,
    Option.map_injective (Json.sortKeys_int_injective fun _ _ => UInt32.toNat.inj) hcode,
    Option.map_injective (Json.sortKeys_str_injective injective_id) hdescription⟩

/-- **Both forms determine the record**: its own text, and its members in key order. -/
theorem eq_iff_text_and_payload (a b : Record) :
    (a = b ↔ a.text = b.text) ∧ (a = b ↔ a.payload = b.payload) := by
  refine ⟨⟨congrArg text, fun h => ?_⟩, congrArg payload, fun h => payload_injective h⟩
  -- the text determines the members in the order of the fields, so also in key order
  have hjson : a.toJson = b.toJson := Json.render_injective h
  exact payload_injective (congrArg Json.sortKeys hjson)

end Record
end CallLog
