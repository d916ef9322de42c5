import CallLog.Proofs.CallPayload

/-!
# Which peers have one structured address

`Peer.SameEnd` relates two peers, each of which may be absent, that are one remote end as far as
records are concerned: an IPv4 peer is only itself, an IPv6 peer is any with its address and port, and
all others are known by their text, where no peer at all counts as an empty text.
`ofPeer?_eq_iff_sameEnd`: these are exactly the peers with equal structured addresses. That they have
one address reads off what an address leaves out (`Peer.sameEnd_iff`). The converse rests on the texts
of Internet addresses, which can be told apart, and on the kind of an address, since the text of one
kind may well be a text of another.
-/

namespace CallLog

namespace Peer

/-- A peer, or the lack of one, is known by a text alone. -/
def IsText (peer : Option Peer) (text : String) : Prop :=
  peer = some (.other text) ∨ peer = none ∧ text = ""

/-- Two peers, each of which may be absent, are one remote end up to flow label and scope. -/
inductive SameEnd : Option Peer → Option Peer → Prop
  | ipv4 (address : Ipv4) (port : UInt16) :
    SameEnd (some (.ipv4 address port)) (some (.ipv4 address port))
  | ipv6 (address : Ipv6) (port : UInt16) (flow scope flow' scope' : UInt32) :
    SameEnd (some (.ipv6 address port flow scope)) (some (.ipv6 address port flow' scope'))
  | text {p q : Option Peer} {text : String} (hp : IsText p text) (hq : IsText q text) :
    SameEnd p q

/-- A peer, or the one with an empty text if there is none. -/
def orEmpty (peer : Option Peer) : Peer := peer.getD (.other "")

theorem orEmpty_eq_other_iff {peer : Option Peer} {text : String} :
    orEmpty peer = .other text ↔ IsText peer text := by
  rw [orEmpty, IsText, Option.getD_eq_iff, other.injEq, eq_comm (a := "")]

/-- Only a text can stand for no peer. -/
theorem eq_some_of_orEmpty_eq {peer : Option Peer} {p : Peer} (h : orEmpty peer = p)
    (hp : ∀ text, p ≠ .other text) : peer = some p := by
  rcases Option.getD_eq_iff.1 h with heq | ⟨-, hempty⟩
  · exact heq
  · exact absurd hempty.symm (hp "")

/-- Peers are one end exactly if they differ in flow label and scope only. -/
theorem sameEnd_iff {p q : Option Peer} :
    SameEnd p q ↔ (orEmpty p).unrouted = (orEmpty q).unrouted := by
  rw [unrouted_eq_iff]
  constructor
  · rintro (⟨address, port⟩ | ⟨address, port, flow, scope, flow', scope'⟩ | ⟨hp, hq⟩)
    · exact .inl rfl
    · exact .inr ⟨address, port, flow, scope, flow', scope', rfl, rfl⟩
    · exact .inl ((orEmpty_eq_other_iff.2 hp).trans (orEmpty_eq_other_iff.2 hq).symm)
  · rintro (heq | ⟨address, port, flow, scope, flow', scope', hp, hq⟩)
    · cases hq : orEmpty q with
      | ipv4 address port =>
        rw [eq_some_of_orEmpty_eq hq nofun, eq_some_of_orEmpty_eq (heq.trans hq) nofun]
        exact .ipv4 address port
      | ipv6 address port flow scope =>
        rw [eq_some_of_orEmpty_eq hq nofun, eq_some_of_orEmpty_eq (heq.trans hq) nofun]
        exact .ipv6 address port flow scope flow scope
      | other text =>
        exact .text (orEmpty_eq_other_iff.1 (heq.trans hq)) (orEmpty_eq_other_iff.1 hq)
    · rw [eq_some_of_orEmpty_eq hp nofun, eq_some_of_orEmpty_eq hq nofun]
      exact .ipv6 address port flow scope flow' scope'

end Peer

namespace Address

/-- Where there is no peer, the address is that of a peer with an empty text. -/
theorem ofPeer?_eq (peer : Option Peer) : ofPeer? peer = ofPeer (Peer.orEmpty peer) := by
  cases peer <;> rfl

theorem ofPeer_eq_iff {p q : Peer} : ofPeer p = ofPeer q ↔ p.unrouted = q.unrouted := by
  refine ⟨unrouted_eq_of_ofPeer_eq, fun h => ?_⟩
  rw [← ofPeer_unrouted p, h, ofPeer_unrouted]

/-- **Structured addresses identify peers.** Two peers, each of which may be absent, have one
structured address exactly if they are one remote end. So whatever has the address of an IPv6 peer is
an IPv6 peer with its address and port, also where that embeds an IPv4 address. -/
theorem ofPeer?_eq_iff_sameEnd (p q : Option Peer) :
    (ofPeer? p = ofPeer? q ↔ Peer.SameEnd p q)
      ∧ ∀ address port flow scope, p = some (.ipv6 address port flow scope) →
          ofPeer? p = ofPeer? q → ∃ flow' scope', q = some (.ipv6 address port flow' scope') := by
  have hiff : ofPeer? p = ofPeer? q ↔ Peer.SameEnd p q := by
    rw [ofPeer?_eq, ofPeer?_eq, ofPeer_eq_iff, Peer.sameEnd_iff]
  refine ⟨hiff, fun address port flow scope hp h => ?_⟩
  subst hp
  cases hiff.1 h with
  | ipv6 _ _ _ _ flow' scope' => exact ⟨flow', scope', rfl⟩
  | text hp _ => rcases hp with hp | ⟨hp, -⟩ <;> cases hp

/-- The address `::ffff:1.2.3.4` is neither `1.2.3.4` nor a text of its own. -/
example :
    let mapped : Ipv6 := ⟨[0, 0, 0, 0, 0, 0xFFFF, 0x0102, 0x0304], rfl⟩
    ofPeer? (some (.ipv6 mapped 80 0 0)) = ⟨.ipv6, "::ffff:1.2.3.4", some 80⟩
      ∧ ofPeer? (some (.ipv6 mapped 80 0 0)) ≠ ofPeer? (some (.ipv4 ⟨1, 2, 3, 4⟩ 80))
      ∧ ofPeer? (some (.ipv6 mapped 80 0 0)) ≠ ofPeer? (some (.other "::ffff:1.2.3.4")) := by
  decide

end Address
end CallLog
