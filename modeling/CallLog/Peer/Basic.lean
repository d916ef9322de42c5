import CallLog.Peer.Ipv6

/-!
# Peers

The remote end of a call as its transport knows it: an Internet address and port, or a text for any
other kind of transport. Two peers are equal only if all of this is, an IPv6 flow label and scope
included.
-/

namespace CallLog

/-- The remote end of a call. -/
inductive Peer where
  | ipv4 (address : Ipv4) (port : UInt16)
  | ipv6 (address : Ipv6) (port : UInt16) (flow scope : UInt32)
  | other (text : String)
  deriving DecidableEq, Repr

namespace Peer

/-- The peer as one text: address and port, an IPv6 address in brackets and with its scope unless
that is 0. -/
def display : Peer → String
  | ipv4 address port => address.text ++ ":" ++ Text.number port.toNat
  | ipv6 address port _ scope =>
    let zone := if scope = 0 then "" else "%" ++ Text.number scope.toNat
    "[" ++ address.text ++ zone ++ "]:" ++ Text.number port.toNat
  | other text => text

end Peer
end CallLog
