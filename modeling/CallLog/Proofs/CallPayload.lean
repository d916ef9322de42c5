import CallLog.Logger
import CallLog.Proofs.GreedySelection
import CallLog.Proofs.Ipv6Text
import CallLog.Proofs.RecordJson

/-!
# Calls can be told from their payloads

Without ceilings, a payload keeps a call up to two things: the flow label and scope of an IPv6 peer
are left out of addresses, and a status description that is empty counts as none. `Call.essence` is
a call without these, and they are all it leaves out (`Peer.unrouted_eq_iff`,
`Status.trimmed_eq_iff`). A record depends on a call's essence only (`record_essence`), and calls of
equal records have one essence (`essence_eq_of_record_eq`); since payloads determine records, two
payloads are equal exactly when their clocks and the essences of their calls are
(`payload_eq_iff`).
-/

namespace CallLog

/-! ## What records keep of a call -/

/-- A peer without the flow label and scope of an IPv6 address. -/
def Peer.unrouted : Peer → Peer
  | .ipv6 address port _ _ => .ipv6 address port 0 0
  | .ipv4 address port => .ipv4 address port
  | .other text => .other text

/-- A status without an empty description. -/
def Status.trimmed (status : Status) : Status := ⟨status.code, status.message?⟩

/-- An event without what records do not keep of its peer and status. -/
def CallEvent.essence : CallEvent → CallEvent
  | .requestHeader authority timeout metadata peer =>
    .requestHeader authority timeout metadata (peer.map Peer.unrouted)
  | .responseHeader metadata peer => .responseHeader metadata (peer.map Peer.unrouted)
  | .trailer status metadata peer => .trailer status.trimmed metadata (peer.map Peer.unrouted)
  | .message kind body => .message kind body

/-- A call without what records do not keep of its event. -/
def Call.essence (call : Call) : Call := { call with event := call.event.essence }

@[simp] theorem Status.code_trimmed (status : Status) : status.trimmed.code = status.code := rfl

@[simp] theorem Status.message?_trimmed (status : Status) :
    status.trimmed.message? = status.message? := by
  simp [trimmed, message?, Option.filter_filter]

/-- Only flow label and scope of an IPv6 peer are left out. -/
theorem Peer.unrouted_eq_iff {p q : Peer} :
    p.unrouted = q.unrouted
      ↔ p = q ∨ ∃ address port flow scope flow' scope',
          p = .ipv6 address port flow scope ∧ q = .ipv6 address port flow' scope' := by
  constructor
  · intro h
    cases p with
    | ipv6 address port flow scope =>
      cases q with
      | ipv6 address' port' flow' scope' =>
        simp only [unrouted, ipv6.injEq, and_true] at h
        obtain ⟨rfl, rfl⟩ := h
        exact .inr ⟨address, port, flow, scope, flow', scope', rfl, rfl⟩
      | ipv4 | other => cases h
    | ipv4 | other => cases q <;> first | exact .inl h | cases h
  · rintro (rfl | ⟨_, _, _, _, _, _, rfl, rfl⟩) <;> rfl

/-- Only the difference between an empty description and none is left out. -/
theorem Status.trimmed_eq_iff {s t : Status} :
    s.trimmed = t.trimmed
      ↔ s.code = t.code ∧ s.description.getD "" = t.description.getD "" := by
  have hgetD (description : Option String) :
      (description.filter (· ≠ "")).getD "" = description.getD "" := by
    cases description with
    | none => rfl
    | some text => by_cases ht : text = "" <;> simp [ht, Option.filter_some]
  have hfilter (description : Option String) :
      description.filter (· ≠ "")
        = if description.getD "" = "" then none else some (description.getD "") := by
    cases description with
    | none => rfl
    | some text => by_cases ht : text = "" <;> simp [ht]
  simp only [trimmed, message?, mk.injEq]
  refine and_congr_right fun _ => ⟨fun h => ?_, fun h => ?_⟩
  · rw [← hgetD s.description, h, hgetD]
  · rw [hfilter s.description, hfilter t.description, h]

/-! ## Peers -/

namespace Address

@[simp] theorem ofPeer_unrouted (peer : Peer) : ofPeer peer.unrouted = ofPeer peer := by
  cases peer <;> rfl

/-- Addresses differ as soon as peers do in more than flow label and scope. -/
theorem unrouted_eq_of_ofPeer_eq {p q : Peer} (h : ofPeer p = ofPeer q) :
    p.unrouted = q.unrouted := by
  have hkind := congrArg kind h
  have htext := congrArg text h
  have hport := congrArg port h
  cases p with
  | ipv4 address port =>
    cases q with
    | ipv4 address' port' =>
      obtain rfl := Ipv4.text_injective htext
      obtain rfl := Option.some.inj hport
      rfl
    | ipv6 | other => cases hkind
  | ipv6 address port flow scope =>
    cases q with
    | ipv6 address' port' flow' scope' =>
      obtain rfl := Ipv6.text_injective htext
      obtain rfl := Option.some.inj hport
      rfl
    | ipv4 | other => cases hkind
  | other text =>
    cases q with
    | other text' =>
      obtain rfl : text = text' := htext
      rfl
    | ipv4 | ipv6 => cases hkind

theorem map_unrouted_eq_of_map_ofPeer_eq {p q : Option Peer} (h : p.map ofPeer = q.map ofPeer) :
    p.map Peer.unrouted = q.map Peer.unrouted := by
  cases p with
  | none =>
    cases q with
    | none => rfl
    | some q => cases h
  | some p =>
    cases q with
    | none => cases h
    | some q => exact congrArg some (unrouted_eq_of_ofPeer_eq (Option.some.inj h))

end Address

/-! ## Records -/

namespace Logger

theorem content_embed_metadata (metadata : Metadata) :
    (metadata.embed Ceilings.unlimited.metadata).content = metadata :=
  congrArg Embedded.content (Metadata.embed_of_within (within_none _))

theorem content_embed_message (body : Bytes) :
    (Message.embed Ceilings.unlimited.message body).content = body :=
  congrArg Embedded.content (Message.embed_of_within (within_none _))

theorem eq_of_content_embed_eq {a b : Metadata}
    (h : some (a.embed Ceilings.unlimited.metadata).content
      = some (b.embed Ceilings.unlimited.metadata).content) : a = b := by
  rwa [content_embed_metadata, content_embed_metadata, Option.some.injEq] at h

/-- A record depends only on what records keep of a call. -/
theorem record_essence (logger : Logger) (call : Call) :
    logger.record call.essence = logger.record call := by
  obtain ⟨info, event⟩ := call
  have hpeer (peer : Option Peer) :
      (peer.map Peer.unrouted).map Address.ofPeer = peer.map Address.ofPeer := by
    cases peer with
    | none => rfl
    | some peer => exact congrArg some (Address.ofPeer_unrouted peer)
  cases event with
  | message => rfl
  | requestHeader | responseHeader =>
    simp only [record, Call.essence, CallEvent.essence, CallEvent.kind, hpeer]
  | trailer =>
    simp only [record, Call.essence, CallEvent.essence, CallEvent.kind, hpeer,
      Status.code_trimmed, Status.message?_trimmed]

theorem timestamp_record (logger : Logger) (call : Call) :
    (logger.record call).timestamp = .ofClock logger.clock := by
  unfold record
  cases call.event <;> rfl

/-- The record of a call says which call it is about. -/
theorem info_eq_of_record_eq {logger logger' : Logger} {c d : Call}
    (h : logger.record c = logger'.record d) : c.info = d.info := by
  have hinfo (logger : Logger) (call : Call) :
      CallInfo.mk (logger.record call).sequence (logger.record call).service
        (logger.record call).method (logger.record call).rpcId (logger.record call).side
        = call.info := by
    unfold record
    cases call.event <;> rfl
  rw [← hinfo logger c, h, hinfo logger' d]

/-- Without ceilings, the record of a call determines its essence. Which event it was shows in the
kind, and where the kind is the caller's choice, in metadata being there or not. -/
theorem essence_eq_of_record_eq {m n : Int} {c d : Call}
    (h : record ⟨m, .unlimited⟩ c = record ⟨n, .unlimited⟩ d) : c.essence = d.essence := by
  have hinfo := info_eq_of_record_eq h
  have hkind := congrArg Record.kind h
  have hmetadata := congrArg Record.metadata h
  have hpeer := congrArg Record.peer h
  obtain ⟨info, event⟩ := c
  obtain ⟨info', event'⟩ := d
  obtain rfl : info = info' := hinfo
  cases event with
  | requestHeader authority timeout metadata peer =>
    cases event' with
    | requestHeader authority' timeout' metadata' peer' =>
      obtain rfl := Option.some.inj (congrArg Record.authority h)
      obtain rfl : timeout = timeout' := congrArg Record.timeout h
      obtain rfl := eq_of_content_embed_eq hmetadata
      simp only [Call.essence, CallEvent.essence, Address.map_unrouted_eq_of_map_ofPeer_eq hpeer]
    | responseHeader | trailer => cases hkind
    | message => cases hmetadata
  | responseHeader metadata peer =>
    cases event' with
    | responseHeader metadata' peer' =>
      obtain rfl := eq_of_content_embed_eq hmetadata
      simp only [Call.essence, CallEvent.essence, Address.map_unrouted_eq_of_map_ofPeer_eq hpeer]
    | requestHeader | trailer => cases hkind
    | message => cases hmetadata
  | trailer status metadata peer =>
    cases event' with
    | trailer status' metadata' peer' =>
      obtain rfl := eq_of_content_embed_eq hmetadata
      have hcode := Code.value_injective (Option.some.inj (congrArg Record.statusCode h))
      have hmessage : status.message? = status'.message? := congrArg Record.statusMessage h
      simp only [Call.essence, CallEvent.essence, Status.trimmed, hcode, hmessage,
        Address.map_unrouted_eq_of_map_ofPeer_eq hpeer]
    | requestHeader | responseHeader => cases hkind
    | message => cases hmetadata
  | message kind body =>
    cases event' with
    | requestHeader | responseHeader | trailer => cases hmetadata
    | message kind' body' =>
      obtain rfl : kind = kind' := hkind
      have hmessage := Option.some.inj (congrArg Record.message h)
      obtain rfl : body = body' := by
        rw [← content_embed_message body, hmessage]
        exact content_embed_message body'
      rfl

/-- **A payload keeps a call**: the payloads of two accepted calls are equal exactly when the clocks
are and the calls are, up to flow label and scope of an IPv6 peer and an empty description. -/
theorem payload_eq_iff {m n : Int} {c d : Call} {r s : Record}
    (hc : assemble ⟨m, .unlimited⟩ c = .ok r) (hd : assemble ⟨n, .unlimited⟩ d = .ok s) :
    r.payload = s.payload ↔ m = n ∧ c.essence = d.essence := by
  obtain ⟨-, rfl⟩ := (assemble_eq_ok_iff _ c r).1 hc
  obtain ⟨-, rfl⟩ := (assemble_eq_ok_iff _ d s).1 hd
  constructor
  · intro h
    have hrecord := Record.payload_injective h
    have hclock := congrArg Record.timestamp hrecord
    rw [timestamp_record, timestamp_record] at hclock
    exact ⟨Timestamp.ofClock_injective hclock, essence_eq_of_record_eq hrecord⟩
  · rintro ⟨rfl, h⟩
    rw [← record_essence _ c, h, record_essence]

/-- Two trailers that name one host in two scopes, the first with an empty description: their
payloads are equal at one reading of the clock and differ at two. -/
theorem payload_eq_of_scopes_and_descriptions :
    let info : CallInfo := ⟨7, "service", "method", "1", .client⟩
    let host : Ipv6 := ⟨[0xFE80, 0, 0, 0, 0, 0, 0, 1], rfl⟩
    let first : Call :=
      ⟨info, .trailer ⟨.notFound, some ""⟩ [⟨"key", [1, 2]⟩] (some (.ipv6 host 80 1 2))⟩
    let second : Call :=
      ⟨info, .trailer ⟨.notFound, none⟩ [⟨"key", [1, 2]⟩] (some (.ipv6 host 80 0 3))⟩
    ∃ r s t, assemble ⟨5, .unlimited⟩ first = .ok r ∧ assemble ⟨5, .unlimited⟩ second = .ok s
      ∧ assemble ⟨6, .unlimited⟩ second = .ok t ∧ r.payload = s.payload
      ∧ s.payload ≠ t.payload := by
  intro info host first second
  have hr : assemble ⟨5, .unlimited⟩ first = .ok (record ⟨5, .unlimited⟩ first) := rfl
  have hs : assemble ⟨5, .unlimited⟩ second = .ok (record ⟨5, .unlimited⟩ second) := rfl
  have ht : assemble ⟨6, .unlimited⟩ second = .ok (record ⟨6, .unlimited⟩ second) := rfl
  have hessence : first.essence = second.essence := by decide
  refine ⟨_, _, _, hr, hs, ht, (payload_eq_iff hr hs).2 ⟨rfl, hessence⟩, fun h => ?_⟩
  exact absurd ((payload_eq_iff hs ht).1 h).1 (by decide)

end Logger
end CallLog
