import CallLog.Proofs.RecordJson
import CallLog.Text.Base64.Standard
import Mathlib.Data.List.Forall2

/-!
# Bytes in records

Headers and messages carry bytes, which JSON cannot. `Bytes.WrittenAs` is what the string for a byte
string has to be: base64 as the standard says it in bits (`Text.Base64.IsText`), of the length that
follows, free of all that a JSON string escapes, and read back by a strict reader as these bytes and no
others. `bytes_in_base64`: wherever a record has bytes, both of its JSON forms have such a string. All
places that hold bytes are written by one function (`byteValues_toJson`, `byteValues_payload`), so the
rest is about that one.
-/

namespace CallLog

open Text.Base64

/-- A character stands in a JSON string as it is. -/
def Json.Plain (c : Char) : Prop := c ≠ '"' ∧ c ≠ '\\' ∧ 0x20 ≤ c.toNat

instance (c : Char) : Decidable (Json.Plain c) := inferInstanceAs (Decidable (_ ∧ _))

/-- A text is the standard base64 of a byte string, fit to stand in a JSON string as it is. -/
structure Bytes.WrittenAs (bytes : Bytes) (text : List Char) : Prop where
  length : text.length = 4 * ((bytes.length + 2) / 3)
  padded : ∃ symbols, (∀ c ∈ symbols, c ∈ alphabet)
    ∧ text = symbols ++ List.replicate ((3 - bytes.length % 3) % 3) '='
  plain : ∀ c ∈ text, Json.Plain c
  bits : IsText text bytes
  read : ∀ other, decode? text = some other ↔ other = bytes

/-- A JSON value is the string for a byte string, and printed without any escape. -/
def Json.IsBase64 (value : Json) (bytes : Bytes) : Prop :=
  ∃ text, value = .str (String.ofList text) ∧ value.chars = '"' :: text ++ ['"']
    ∧ bytes.WrittenAs text

/-! ## One byte string -/

/-- No symbol is among what JSON escapes. -/
theorem Json.plain_of_mem_alphabet {c : Char} (h : c ∈ alphabet) : Plain c := by
  have all : ∀ n ∈ List.range 64, Plain (symbol n) := by decide
  obtain ⟨n, hn, rfl⟩ := mem_alphabet_iff.1 h
  exact all n (List.mem_range.2 hn)

theorem Json.escapeChar_of_plain {c : Char} (h : Plain c) : escapeChar c = [c] := by
  obtain ⟨hquote, hbackslash, hlow⟩ := h
  have hne {d : Char} (hd : d.toNat < 0x20) : c ≠ d := by
    rintro rfl
    omega
  unfold escapeChar
  rw [if_neg hquote, if_neg hbackslash, if_neg (hne (by decide)), if_neg (hne (by decide)),
    if_neg (hne (by decide)), if_neg (hne (by decide)), if_neg (hne (by decide)), if_neg (by omega)]

/-- A text without anything to escape stands between quotes as it is. -/
theorem Json.chars_str_of_plain {text : List Char} (h : ∀ c ∈ text, Plain c) :
    (str (String.ofList text)).chars = '"' :: text ++ ['"'] := by
  have hescaped : text.flatMap escapeChar = text := by
    rw [List.flatMap_congr fun c hc => escapeChar_of_plain (h c hc)]
    exact List.flatMap_singleton' text
  rw [chars, stringChars, String.toList_ofList, hescaped]

namespace Bytes

theorem writtenAs_encode (bytes : Bytes) : bytes.WrittenAs (encode bytes) := by
  obtain ⟨symbols, hpadded, hspells⟩ : IsText (encode bytes) bytes := isText_iff.2 rfl
  have htext : IsText (encode bytes) bytes := ⟨symbols, hpadded, hspells⟩
  refine ⟨htext.length, ⟨symbols, hspells.mem, hpadded⟩, fun c hc => ?_, htext, fun other => ?_⟩
  · rw [hpadded, List.mem_append] at hc
    rcases hc with hc | hc
    · exact Json.plain_of_mem_alphabet (hspells.mem c hc)
    · rw [List.eq_of_mem_replicate hc]
      decide
  · rw [decode?_encode, Option.some.injEq, eq_comm]

theorem isBase64_toJson (bytes : Bytes) : (toJson bytes).IsBase64 bytes := by
  have hwritten := bytes.writtenAs_encode
  exact ⟨_, rfl, Json.chars_str_of_plain hwritten.plain, hwritten⟩

end Bytes

/-! ## Where records have bytes -/

/-- The byte strings of a record: the values of its headers, and its message. -/
def Record.byteStrings (record : Record) : List Bytes :=
  (record.metadata.getD []).map (·.value) ++ record.message.toList

namespace Json

/-- The items of an array. -/
def items : Json → List Json
  | arr items => items
  | _ => []

/-- The values that stand for byte strings in a record: those of the metadata entries, and the
message. -/
def byteValues (json : Json) : List Json :=
  (((json.get? "metadata").bind (get? "entry")).elim [] items).filterMap (get? "value")
    ++ (json.get? "message").toList

/-- In any form of a record where headers have their entries and entries their values, each byte
string has its value. -/
theorem byteValues_eq {json : Json} {record : Record} (ofMetadata : Metadata → Json)
    (ofHeader : Header → Json)
    (hmetadata : json.get? "metadata" = record.metadata.map ofMetadata)
    (hentries : ∀ metadata,
      ((ofMetadata metadata).get? "entry").elim [] items = metadata.map ofHeader)
    (hvalue : ∀ header, (ofHeader header).get? "value" = some (Bytes.toJson header.value))
    (hmessage : json.get? "message" = record.message.map Bytes.toJson) :
    json.byteValues = record.byteStrings.map Bytes.toJson := by
  have hmessages : (json.get? "message").toList = record.message.toList.map Bytes.toJson := by
    rw [hmessage, Option.toList_map]
  have hheaders (metadata : Metadata) : (metadata.map ofHeader).filterMap (get? "value")
      = (metadata.map (·.value)).map Bytes.toJson := by
    rw [List.filterMap_map, List.map_map, ← List.filterMap_eq_map]
    exact List.filterMap_congr fun header _ => hvalue header
  rw [byteValues, Record.byteStrings, List.map_append, hmessages, hmetadata]
  cases record.metadata with
  | none => rfl
  | some metadata => rw [Option.map_some, Option.bind_some, hentries, hheaders, Option.getD_some]

end Json

namespace Record

variable (record : Record)

theorem byteValues_toJson : record.toJson.byteValues = record.byteStrings.map Bytes.toJson := by
  refine Json.byteValues_eq Metadata.toJson Header.toJson ?_ (fun metadata => ?_)
    (fun header => rfl) ?_
  · rw [get?_toJson, lookup_metadata_slots]
  · cases metadata <;> rfl
  · rw [get?_toJson, lookup_message_slots]

theorem byteValues_payload : record.payload.byteValues = record.byteStrings.map Bytes.toJson := by
  refine Json.byteValues_eq (fun metadata => metadata.toJson.sortKeys)
    (fun header => header.toJson.sortKeys) ?_ (fun metadata => ?_) (fun header => rfl) ?_
  · rw [get?_payload, lookup_metadata_slots, Option.map_map]
    rfl
  · cases metadata with
    | nil => rfl
    | cons header rest =>
      simp [Metadata.toJson, Json.sortKeys, Json.sortMembers, Json.insertMember, Json.member,
        Json.get?, Json.items]
  · rw [get?_payload, lookup_message_slots, Option.map_map]
    rfl

/-- **Bytes are written in standard base64.** Of any byte string, the JSON value is a string of groups
of four symbols, one for each three bytes or less, with the symbols of the standard alphabet and then
as much padding as there are bytes missing. It needs no escape, and a strict reader takes it for these
bytes. Strict is a reader that takes the base64 of bytes only, with no bits but zeros behind them. The
values of the headers of a record and its message are written so, in both of its forms. -/
theorem bytes_in_base64 :
    (∀ bytes : Bytes, bytes.toJson.IsBase64 bytes)
      ∧ (∀ text bytes, decode? text = some bytes ↔ IsText text bytes)
      ∧ List.Forall₂ Json.IsBase64 record.toJson.byteValues record.byteStrings
      ∧ List.Forall₂ Json.IsBase64 record.payload.byteValues record.byteStrings := by
  have hall : List.Forall₂ Json.IsBase64 (record.byteStrings.map Bytes.toJson) record.byteStrings := by
    rw [List.forall₂_map_left_iff, List.forall₂_same]
    exact fun bytes _ => bytes.isBase64_toJson
  refine ⟨Bytes.isBase64_toJson, fun text bytes => decode?_eq_some_iff, ?_, ?_⟩
  · rw [byteValues_toJson]
    exact hall
  · rw [byteValues_payload]
    exact hall

end Record
end CallLog
