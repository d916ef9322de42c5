import CallLog.Peer.Ipv4

/-!
# IPv6 addresses

Eight groups of sixteen bits, written in the canonical form of RFC 5952: lower-case hexadecimal
without leading zeros, the leftmost of the longest runs of at least two zero groups as `::`, and the
addresses that embed an IPv4 address as `::ffff:` and dotted decimal. The reader takes any literal
form: groups of one to four digits of either case, one `::` for one or more zero groups, and dotted
decimal for the last two groups.
-/

namespace CallLog

/-- An IPv6 address. -/
structure Ipv6 where
  groups : List UInt16
  length_groups : groups.length = 8
  deriving DecidableEq, Repr

namespace Ipv6

/-- The address of these groups, if there are eight. -/
def of? (groups : List UInt16) : Option Ipv6 :=
  if h : groups.length = 8 then some ⟨groups, h⟩ else none

/-! ## Runs of zero groups -/

/-- The length of the run of zero groups that starts at an index. -/
def zerosAt (groups : List UInt16) (i : Nat) : Nat :=
  ((groups.drop i).takeWhile (· == 0)).length

/-- The start of the leftmost of the longest runs of zero groups. -/
def longestRun (groups : List UInt16) : Nat :=
  (List.range groups.length).foldl
    (fun best i => if zerosAt groups best < zerosAt groups i then i else best) 0

/-! ## Text -/

/-- The IPv4 address that an address embeds: five zero groups, a group `ffff`, and its octets. -/
def embedded? : List UInt16 → Option Ipv4
  | [0, 0, 0, 0, 0, 0xFFFF, high, low] =>
    some ⟨(high >>> 8).toUInt8, high.toUInt8, (low >>> 8).toUInt8, low.toUInt8⟩
  | _ => none

/-- Groups in hexadecimal with colons between them. -/
def groupChars (groups : List UInt16) : List Char :=
  [':'].intercalate (groups.map fun g => Text.hexadecimal g.toNat)

/-- The groups with the longest run of zeros elided, if it has at least two. -/
def elidedChars (groups : List UInt16) : List Char :=
  let start := longestRun groups
  let run := zerosAt groups start
  if 2 ≤ run then
    groupChars (groups.take start) ++ ':' :: ':' :: groupChars (groups.drop (start + run))
  else groupChars groups

/-- The characters of the canonical form. -/
def chars (ip : Ipv6) : List Char :=
  match embedded? ip.groups with
  | some v4 => [':', ':', 'f', 'f', 'f', 'f', ':'] ++ v4.chars
  | none => elidedChars ip.groups

/-- The canonical form. -/
def text (ip : Ipv6) : String := String.ofList ip.chars

/-! ## Reading -/

/-- The group that one to four hexadecimal digits give. -/
def group? (digits : List Char) : Option UInt16 :=
  if 1 ≤ digits.length ∧ digits.length ≤ 4 then
    (Text.readHexadecimal? digits).map UInt16.ofNat
  else none

/-- The two groups of an IPv4 address. -/
def groupsOfIpv4 (ip : Ipv4) : List UInt16 :=
  [ip.first.toUInt16 <<< 8 ||| ip.second.toUInt16, ip.third.toUInt16 <<< 8 ||| ip.fourth.toUInt16]

/-- The groups of the parts between colons; the last part may be an IPv4 address. -/
def readParts? : List (List Char) → Option (List UInt16)
  | [] => some []
  | [last] =>
    if '.' ∈ last then (Ipv4.parse? last).map groupsOfIpv4 else (group? last).map ([·])
  | part :: parts => do
    let group ← group? part
    let groups ← readParts? parts
    return group :: groups

/-- The groups of a text without `::`, which may be empty. -/
def readGroups? (cs : List Char) : Option (List UInt16) :=
  if cs = [] then some [] else readParts? (Text.split ':' cs)

/-- What stands before and after the first `::`. -/
def cutAtElision? : List Char → Option (List Char × List Char)
  | ':' :: ':' :: rest => some ([], rest)
  | c :: rest => (cutAtElision? rest).map fun (before, after) => (c :: before, after)
  | [] => none

/-- The address that a text is a literal of. -/
def parse? (cs : List Char) : Option Ipv6 :=
  match cutAtElision? cs with
  | none => (readGroups? cs).bind of?
  | some (before, after) => do
    if '.' ∈ before then none
    let front ← readGroups? before
    let back ← readGroups? after
    if front.length + back.length < 8 then
      of? (front ++ List.replicate (8 - (front.length + back.length)) 0 ++ back)
    else none

end Ipv6
end CallLog
