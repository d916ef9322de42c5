import CallLog.Peer.Address
import CallLog.Proofs.Ipv6Text
import CallLog.Text.Numeral
import Mathlib.Data.List.Infix

/-!
# The text of an IPv6 address is canonical

`Ipv6.Canonical`: the form of RFC 5952, said of the groups and not of how their text is found. Which
groups are left out is a matter of the runs of zero groups (`Ipv6.ZeroRun`, `Ipv6.Elides`); that the
first index with the longest run is that run's start is `longestRun_spec`. An address has one canonical
text (`Ipv6.canonical_iff`), so `Address.ofPeer?_ipv6_canonical` is about the text of a structured
address, whatever the port, flow label and scope of its peer. The text is cut at an elision
(`elisions_of_cutAtElision?`), of which there is one at most, and read back as the address.
-/

namespace CallLog

open Text

namespace Ipv6

/-! ## Runs of zero groups -/

/-- From an index on, this many groups are zero. -/
def ZeroRun (groups : List UInt16) (start length : Nat) : Prop :=
  ∀ i < length, groups[start + i]? = some 0

/-- The leftmost of the longest runs of zero groups, if that has at least two of them. -/
structure Elides (groups : List UInt16) (start length : Nat) : Prop where
  zeros : ZeroRun groups start length
  two_le : 2 ≤ length
  longest : ∀ other size, ZeroRun groups other size → size ≤ length
  leftmost : ∀ other, ZeroRun groups other length → start ≤ other

theorem le_length_takeWhile_iff {groups : List UInt16} {length : Nat} :
    length ≤ (groups.takeWhile (· == 0)).length ↔ ∀ i < length, groups[i]? = some 0 := by
  induction groups generalizing length with
  | nil =>
    rw [List.takeWhile_nil, List.length_nil, Nat.le_zero]
    constructor
    · rintro rfl i hi
      omega
    · intro h
      rcases Nat.eq_zero_or_pos length with hzero | hpos
      · exact hzero
      · cases h 0 hpos
  | cons g gs ih =>
    cases length with
    | zero => simp
    | succ length =>
      rw [Nat.forall_lt_succ_left, List.getElem?_cons_zero, Option.some.injEq]
      simp only [List.getElem?_cons_succ, ← ih]
      by_cases hg : g = 0 <;> simp [hg]

theorem zeroRun_iff {groups : List UInt16} {start length : Nat} :
    ZeroRun groups start length ↔ length ≤ zerosAt groups start := by
  rw [zerosAt, le_length_takeWhile_iff]
  simp only [ZeroRun, List.getElem?_drop]

/-- Going through the indices and moving on only to greater values ends at the first of the
greatest. -/
theorem foldl_range_spec (f : Nat → Nat) (n : Nat) :
    let best := (List.range n).foldl (fun best i => if f best < f i then i else best) 0
    (∀ i < n, f i ≤ f best) ∧ ∀ i < best, f i < f best := by
  induction n with
  | zero => simp
  | succ n ih =>
    obtain ⟨hle, hlt⟩ := ih
    simp only [List.range_succ, List.foldl_append, List.foldl_cons, List.foldl_nil]
    generalize (List.range n).foldl (fun best i => if f best < f i then i else best) 0 = best at *
    split
    next hmore =>
      refine ⟨fun i hi => ?_, fun i hi => Nat.lt_of_le_of_lt (hle i hi) hmore⟩
      rcases Nat.lt_succ_iff_lt_or_eq.1 hi with hi | rfl
      · exact Nat.le_of_lt (Nat.lt_of_le_of_lt (hle i hi) hmore)
      · exact Nat.le_refl _
    next hless =>
      refine ⟨fun i hi => ?_, hlt⟩
      rcases Nat.lt_succ_iff_lt_or_eq.1 hi with hi | rfl
      · exact hle i hi
      · exact Nat.le_of_not_lt hless

theorem longestRun_spec (groups : List UInt16) :
    (∀ i, zerosAt groups i ≤ zerosAt groups (longestRun groups))
      ∧ ∀ i < longestRun groups, zerosAt groups i < zerosAt groups (longestRun groups) := by
  obtain ⟨hle, hlt⟩ := foldl_range_spec (zerosAt groups) groups.length
  refine ⟨fun i => ?_, hlt⟩
  rcases Nat.lt_or_ge i groups.length with hi | hi
  · exact hle i hi
  · simp [zerosAt, List.drop_eq_nil_of_le hi]

theorem elides_iff {groups : List UInt16} {start length : Nat} :
    Elides groups start length
      ↔ start = longestRun groups ∧ length = zerosAt groups start ∧ 2 ≤ length := by
  obtain ⟨hle, hlt⟩ := longestRun_spec groups
  constructor
  · rintro ⟨hzeros, htwo, hlongest, hleftmost⟩
    have hmax := hlongest _ _ (zeroRun_iff.2 (Nat.le_refl (zerosAt groups (longestRun groups))))
    have hrun := zeroRun_iff.1 hzeros
    have hbest := hle start
    have hfirst := hleftmost (longestRun groups) (zeroRun_iff.2 (by omega))
    rcases Nat.lt_or_eq_of_le hfirst with hbefore | rfl
    · have := hlt start hbefore
      omega
    · exact ⟨rfl, by omega, htwo⟩
  · rintro ⟨rfl, rfl, htwo⟩
    refine ⟨zeroRun_iff.2 (Nat.le_refl _), htwo, fun other size h => ?_, fun other h => ?_⟩
    · exact Nat.le_trans (zeroRun_iff.1 h) (hle other)
    · refine Nat.le_of_not_lt fun hbefore => ?_
      have := hlt other hbefore
      have := zeroRun_iff.1 h
      omega

/-! ## The canonical form -/

/-- Groups in lower-case hexadecimal without leading zeros, with colons between them. -/
def IsGroups (groups : List UInt16) (cs : List Char) : Prop :=
  IsJoined ':' 16 (groups.map UInt16.toNat) cs

/-- The octets of an IPv4 address in decimal without leading zeros, with points between them. -/
def IsDotted (v4 : Ipv4) (cs : List Char) : Prop :=
  IsJoined '.' 10 [v4.first.toNat, v4.second.toNat, v4.third.toNat, v4.fourth.toNat] cs

/-- The groups are an address of `::ffff:0:0/96`, and the octets of its last two groups are an IPv4
address. -/
def Maps (groups : List UInt16) (v4 : Ipv4) : Prop :=
  ∃ high low : UInt16, groups = [0, 0, 0, 0, 0, 0xFFFF, high, low]
    ∧ high.toNat = 256 * v4.first.toNat + v4.second.toNat
    ∧ low.toNat = 256 * v4.third.toNat + v4.fourth.toNat

/-- The canonical text of some groups. -/
inductive Canonical (groups : List UInt16) : List Char → Prop
  | mapped {v4 : Ipv4} {dotted : List Char} (hmaps : Maps groups v4) (hdotted : IsDotted v4 dotted) :
    Canonical groups (':' :: ':' :: 'f' :: 'f' :: 'f' :: 'f' :: ':' :: dotted)
  | elided {start length : Nat} {front back : List Char} (hmaps : ∀ v4, ¬Maps groups v4)
      (hrun : Elides groups start length) (hfront : IsGroups (groups.take start) front)
      (hback : IsGroups (groups.drop (start + length)) back) :
    Canonical groups (front ++ ':' :: ':' :: back)
  | whole {cs : List Char} (hmaps : ∀ v4, ¬Maps groups v4)
      (hrun : ∀ start, ¬ZeroRun groups start 2) (hcs : IsGroups groups cs) : Canonical groups cs

theorem isGroups_iff {groups : List UInt16} {cs : List Char} :
    IsGroups groups cs ↔ cs = groupChars groups := by
  rw [IsGroups, isJoined_iff (by decide), List.map_map]
  rfl

theorem isDotted_iff {v4 : Ipv4} {cs : List Char} : IsDotted v4 cs ↔ cs = v4.chars := by
  rw [IsDotted, isJoined_iff (by decide), Ipv4.chars_eq_intercalate]
  rfl

theorem maps_iff {groups : List UInt16} {v4 : Ipv4} :
    Maps groups v4 ↔ embedded? groups = some v4 := by
  constructor
  · rintro ⟨high, low, rfl, hhigh, hlow⟩
    obtain ⟨first, second, third, fourth⟩ := v4
    have hfirst := first.toNat_lt
    have hsecond := second.toNat_lt
    have hthird := third.toNat_lt
    have hfourth := fourth.toNat_lt
    simp only [embedded?, Option.some.injEq, Ipv4.mk.injEq, ← UInt8.toNat_inj, UInt16.toNat_toUInt8,
      UInt16.toNat_shiftRight, UInt16.reduceToNat, Nat.reduceMod, Nat.shiftRight_eq_div_pow,
      Nat.reducePow] at hhigh hlow ⊢
    omega
  · intro h
    unfold embedded? at h
    split at h
    · rename_i high low
      cases h
      have := high.toNat_lt
      have := low.toNat_lt
      refine ⟨high, low, rfl, ?_, ?_⟩ <;>
        · simp only [UInt16.toNat_toUInt8, UInt16.toNat_shiftRight, UInt16.reduceToNat, Nat.reduceMod,
            Nat.shiftRight_eq_div_pow, Nat.reducePow]
          omega
    · cases h

/-- An address has one canonical text. -/
theorem canonical_iff (ip : Ipv6) {cs : List Char} : Canonical ip.groups cs ↔ cs = ip.chars := by
  have hnone : embedded? ip.groups = none ↔ ∀ v4, ¬Maps ip.groups v4 := by
    simp only [maps_iff, Option.eq_none_iff_forall_ne_some, ne_eq]
  constructor
  · rintro (⟨hmaps, hdotted⟩ | ⟨hmaps, hrun, hfront, hback⟩ | ⟨hmaps, hrun, hcs⟩)
    · rw [chars, maps_iff.1 hmaps, isDotted_iff.1 hdotted]
      rfl
    · obtain ⟨rfl, rfl, htwo⟩ := elides_iff.1 hrun
      simp only [chars, hnone.2 hmaps, elidedChars, if_pos htwo, isGroups_iff.1 hfront,
        isGroups_iff.1 hback]
    · have hshort : ¬2 ≤ zerosAt ip.groups (longestRun ip.groups) := fun h =>
        hrun _ (zeroRun_iff.2 h)
      simp only [chars, hnone.2 hmaps, elidedChars, if_neg hshort, isGroups_iff.1 hcs]
  · rintro rfl
    unfold chars
    split
    next v4 hv4 => exact .mapped (maps_iff.2 hv4) (isDotted_iff.2 rfl)
    next hv4 =>
      unfold elidedChars
      simp only
      split
      next htwo =>
        exact .elided (hnone.1 hv4) (elides_iff.2 ⟨rfl, rfl, htwo⟩) (isGroups_iff.2 rfl)
          (isGroups_iff.2 rfl)
      next hshort =>
        refine .whole (hnone.1 hv4) (fun start hrun => hshort ?_) (isGroups_iff.2 rfl)
        exact Nat.le_trans (zeroRun_iff.1 hrun) ((longestRun_spec ip.groups).1 start)

/-! ## Elisions -/

/-- How many places of a text begin with `::`. -/
def elisions (cs : List Char) : Nat := cs.tails.countP ([':', ':'].isPrefixOf ·)

theorem elisions_cons (c : Char) (cs : List Char) :
    elisions (c :: cs) = elisions cs + if [':', ':'].isPrefixOf (c :: cs) then 1 else 0 := by
  simp only [elisions, List.tails_cons, List.countP_cons]

theorem elisions_cons_of_ne {c : Char} {cs : List Char} (h : ∀ rest, c :: cs ≠ ':' :: ':' :: rest) :
    elisions (c :: cs) = elisions cs := by
  have hnot : [':', ':'].isPrefixOf (c :: cs) = false := by
    rw [Bool.eq_false_iff]
    intro hprefix
    obtain ⟨rest, hrest⟩ := List.isPrefixOf_iff_prefix.1 hprefix
    exact h rest hrest.symm
  rw [elisions_cons, hnot]
  rfl

/-- The first elision is where a text is cut. -/
theorem elisions_of_cutAtElision? (cs : List Char) :
    elisions cs = match cutAtElision? cs with
      | none => 0
      | some (_, after) => elisions (':' :: after) + 1 := by
  fun_induction cutAtElision? cs with
  | case1 rest => rw [elisions_cons]; rfl
  | case2 c rest hfirst ih =>
    have hne : ∀ after, c :: rest ≠ ':' :: ':' :: after := by
      intro after h
      obtain ⟨hc, hrest⟩ := List.cons.inj h
      exact hfirst after hc hrest
    rw [elisions_cons_of_ne hne, ih]
    cases cutAtElision? rest with
    | none => rfl
    | some cut => rfl
  | case3 => rfl

theorem elisions_of_not_mem {cs : List Char} (h : ':' ∉ cs) : elisions cs = 0 := by
  have hcut := cutAtElision?_append_of_not_mem h []
  rw [List.append_nil] at hcut
  rw [elisions_of_cutAtElision?, hcut]
  rfl

theorem elisions_groupChars (gs : List UInt16) : elisions (groupChars gs) = 0 := by
  have hcut := cutAtElision?_groupChars gs []
  rw [List.append_nil] at hcut
  rw [elisions_of_cutAtElision?, hcut]
  rfl

theorem elisions_elidedChars_le (groups : List UInt16) : elisions (elidedChars groups) ≤ 1 := by
  unfold elidedChars
  simp only
  split
  next htwo =>
    -- a group that follows the elision begins with a digit
    have hafter (gs : List UInt16) (rest : List Char) :
        ':' :: groupChars gs ≠ ':' :: ':' :: rest := by
      cases gs with
      | nil => simp [groupChars]
      | cons g gs =>
        obtain ⟨c, cs, hc, hne⟩ := groupChars_cons g gs
        simp [hc, hne]
    rw [elisions_of_cutAtElision?, cutAtElision?_groupChars, cutAtElision?]
    simp only [Option.map_some]
    rw [elisions_cons_of_ne (hafter _), elisions_groupChars]
  next hshort =>
    rw [elisions_groupChars]
    exact Nat.zero_le 1

theorem elisions_chars_le (ip : Ipv6) : elisions ip.chars ≤ 1 := by
  unfold chars
  split
  next v4 hv4 =>
    have hcolon := colon_not_mem_ipv4 v4
    have hlast : ∀ rest, ':' :: v4.chars ≠ ':' :: ':' :: rest := by
      intro rest h
      rw [(List.cons.inj h).2] at hcolon
      exact hcolon List.mem_cons_self
    -- the mark `ffff` and its colon come between the elision and the IPv4 address
    rw [List.cons_append, elisions_cons]
    simp only [List.cons_append, List.nil_append]
    rw [elisions_cons_of_ne (by simp), elisions_cons_of_ne (by simp), elisions_cons_of_ne (by simp),
      elisions_cons_of_ne (by simp), elisions_cons_of_ne (by simp), elisions_cons_of_ne hlast,
      elisions_of_not_mem hcolon]
    exact Nat.le_refl 1
  next hv4 => exact elisions_elidedChars_le ip.groups

end Ipv6

namespace Address

/-- **IPv6 peers have canonical texts.** The address of an IPv6 peer has the one canonical text of
the peer's groups, with one elision at most. Read as a literal it is the address of the peer, and so
gives the same structured address again. -/
theorem ofPeer?_ipv6_canonical (ip : Ipv6) (port : UInt16) (flow scope : UInt32) :
    let address := ofPeer? (some (.ipv6 ip port flow scope))
    (∀ cs, Ipv6.Canonical ip.groups cs ↔ cs = address.text.toList)
      ∧ Ipv6.elisions address.text.toList ≤ 1
      ∧ ∃ again, Ipv6.parse? address.text.toList = some again ∧ again.groups = ip.groups
        ∧ ∀ flow' scope', ofPeer? (some (.ipv6 again port flow' scope')) = address := by
  intro address
  have htext : address.text.toList = ip.chars := String.toList_ofList
  rw [htext]
  exact ⟨fun cs => ip.canonical_iff, ip.elisions_chars_le, ip, ip.parse?_chars, rfl,
    fun _ _ => rfl⟩

/-- Of two runs of one length the left one is elided, a single zero group never is, and the address
of zeros only is an elision alone. -/
example :
    Ipv6.text ⟨[0x2001, 0xDB8, 0, 0, 1, 0, 0, 1], rfl⟩ = "2001:db8::1:0:0:1"
      ∧ Ipv6.text ⟨[0x2001, 0xDB8, 0, 1, 1, 1, 1, 1], rfl⟩ = "2001:db8:0:1:1:1:1:1"
      ∧ Ipv6.text ⟨[0, 0, 0, 0, 0, 0, 0, 0], rfl⟩ = "::" := by
  decide

end Address
end CallLog
