import CallLog.Peer.Basic
import CallLog.Json.Basic

/-!
# Structured addresses

A peer as records carry it: what kind of address it is, its text, and its port. Flow label and scope
of an IPv6 peer are not part of it, and a peer of any other transport is its text alone.
-/

namespace CallLog

/-- What an address text is. -/
inductive AddressKind where
  | unknown
  | ipv4
  | ipv6
  | unix
  deriving DecidableEq, Repr

/-- A structured address. -/
structure Address where
  kind : AddressKind
  text : String
  port : Option UInt16
  deriving DecidableEq, Repr

/-- The name of a kind of address in a record. -/
def AddressKind.label : AddressKind → String
  | unknown => "TYPE_UNKNOWN"
  | ipv4 => "TYPE_IPV4"
  | ipv6 => "TYPE_IPV6"
  | unix => "TYPE_UNIX"

namespace Address

/-- The address of nobody: of unknown kind, without text and port. -/
def empty : Address := ⟨.unknown, "", none⟩

/-- The structured address of a peer. -/
def ofPeer : Peer → Address
  | .ipv4 address port => ⟨.ipv4, address.text, some port⟩
  | .ipv6 address port _ _ => ⟨.ipv6, address.text, some port⟩
  | .other text => ⟨.unknown, text, none⟩

/-- The structured address of a peer that may be absent. -/
def ofPeer? : Option Peer → Address
  | some peer => ofPeer peer
  | none => empty

/-- The address as a JSON object; the port is left out when there is none. -/
def toJson (address : Address) : Json :=
  .obj (Json.member "type" (.str address.kind.label)
    ++ Json.member "address" (.str address.text)
    ++ Json.member? "ip_port" (fun port => .int port.toNat) address.port)

/-- A structured address has a port exactly when it is of an Internet kind. -/
theorem isSome_port_ofPeer (peer : Peer) :
    (ofPeer peer).port.isSome ↔ (ofPeer peer).kind = .ipv4 ∨ (ofPeer peer).kind = .ipv6 := by
  cases peer <;> simp [ofPeer]

end Address
end CallLog
