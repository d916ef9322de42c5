import CallLog.Json.RoundTrip
import CallLog.Proofs.HttpRequests
import CallLog.Proofs.JsonForms

/-!
# A request body determines its entries

The body of a request is the text of one JSON object with the entries in order (`bodyJson`). Reading the
text gives that object back, an entry's object has the entry's fields as members (`Entry.toJson_eq`),
and no two entries have the same (`Entry.toJson_injective`). So two lists of entries have one body just
if they are equal, whatever stands in their names and payloads (`body_determines_entries`).
-/

namespace CallLog

open Json

theorem Severity.label_injective : Function.Injective Severity.label := by
  intro a b h
  cases a <;> cases b <;> simp [label] at h ⊢

namespace Entry

theorem toJson_eq (entry : Entry) :
    entry.toJson
      = .obj [("logName", .str entry.logName),
          ("resource", .obj [("type", .str entry.resource)]),
          ("severity", .str entry.severity.label),
          ("jsonPayload", entry.payload)] := rfl

/-- Each field can be read off its member. -/
theorem toJson_injective : Function.Injective Entry.toJson := by
  intro a b h
  simp only [toJson_eq, obj.injEq, str.injEq, List.cons.injEq, Prod.mk.injEq, true_and,
    and_true] at h
  obtain ⟨hname, hresource, hseverity, hpayload⟩ := h
  obtain ⟨name, resource, severity, payload⟩ := a
  obtain rfl := Severity.label_injective hseverity
  obtain rfl : name = b.logName := hname
  obtain rfl : resource = b.resource := hresource
  obtain rfl : payload = b.payload := hpayload
  rfl

/-- Of the objects in an entry only those in its payload can have two members of one name. -/
theorem everyObject_toJson_iff (entry : Entry) :
    entry.toJson.EveryObject KeysDistinct ↔ entry.payload.EveryObject KeysDistinct := by
  simp [toJson_eq, EveryObject, EveryMember, KeysDistinct]

end Entry

namespace HttpClient

/-- The object that a request body is the text of. -/
def bodyJson (entries : List Entry) : Json := .obj [("entries", .arr (entries.map Entry.toJson))]

theorem render_bodyJson (entries : List Entry) : (bodyJson entries).render = bodyOf entries := rfl

theorem bodyJson_injective : Function.Injective bodyJson := by
  intro xs ys h
  simp only [bodyJson, obj.injEq, arr.injEq, List.cons.injEq, Prod.mk.injEq, true_and,
    and_true] at h
  exact Entry.toJson_injective.list_map h

theorem bodyOf_eq_bodyOf_iff {xs ys : List Entry} : bodyOf xs = bodyOf ys ↔ xs = ys := by
  constructor
  · intro h
    rw [← render_bodyJson, ← render_bodyJson] at h
    exact bodyJson_injective (render_injective h)
  · rintro rfl
    rfl

theorem everyObject_bodyJson_iff (entries : List Entry) :
    (bodyJson entries).EveryObject KeysDistinct
      ↔ ∀ entry ∈ entries, entry.payload.EveryObject KeysDistinct := by
  have hitems : EveryItem KeysDistinct (entries.map Entry.toJson)
      ↔ ∀ entry ∈ entries, entry.payload.EveryObject KeysDistinct := by
    rw [everyItem_iff, List.forall_mem_map]
    exact forall₂_congr fun entry _ => entry.everyObject_toJson_iff
  simp [bodyJson, EveryObject, EveryMember, KeysDistinct, hitems]

/-- **A request body determines the entries.** Posting entries adds one request to what the backend has
received, if the client has a route to it, and the body of that request is a text for these entries. The
text is JSON on one line: an object whose only member lists one object for each entry, in order, with
the entry's fields as its members; no object in it has two members of one name, unless one in a payload
has. Two lists of entries have the same text just if they are equal. -/
theorem body_determines_entries (entries : List Entry) :
    (∀ client : HttpClient, (client.send entries).2.backend.received.map (·.body)
        = client.backend.received.map (·.body)
          ++ if client.route?.isSome then [bodyOf entries] else [])
      ∧ (∃ json, Json.parse? (bodyOf entries) = some json
        ∧ json = .obj [("entries", .arr (entries.map fun entry =>
            .obj [("logName", .str entry.logName),
              ("resource", .obj [("type", .str entry.resource)]),
              ("severity", .str entry.severity.label),
              ("jsonPayload", entry.payload)]))]
        ∧ Printable (bodyOf entries).toList
        ∧ (json.EveryObject KeysDistinct
          ↔ ∀ entry ∈ entries, entry.payload.EveryObject KeysDistinct))
      ∧ ∀ others, bodyOf entries = bodyOf others ↔ entries = others := by
  refine ⟨fun client => ?_, ⟨bodyJson entries, ?_, rfl, ?_, everyObject_bodyJson_iff entries⟩,
    fun others => bodyOf_eq_bodyOf_iff⟩
  · rw [← receive_send, received_receive, List.map_append]
    cases client.route? <;> rfl
  · rw [← render_bodyJson]
    exact Json.parse?_render _
  · rw [← render_bodyJson, toList_render]
    exact printable_chars _

end HttpClient
end CallLog
