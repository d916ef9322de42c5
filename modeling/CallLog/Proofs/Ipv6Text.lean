import CallLog.Peer.Ipv6

/-!
# Reading IPv6 addresses back

`Ipv6.parse?_chars`: the canonical text of an address is read as that address, so it belongs to no
other (`Ipv6.text_injective`). Groups in hexadecimal hold neither colons nor points and are never
empty; so the first `::` of a text is the elision, and what stands before and after it are the groups
around the elided run (`cutAtElision?_groupChars`). The elided groups are zeros
(`eq_take_zeros_drop`), and a text with a point ends in the two groups of an IPv4 address.
-/

namespace CallLog

open Text

/-! ## Hexadecimal digits -/

theorem isSome_hexValue?_of_readHexadecimalFrom? {cs : List Char} {n m : Nat}
    (h : readHexadecimalFrom? n cs = some m) : ∀ c ∈ cs, (hexValue? c).isSome := by
  induction cs generalizing n with
  | nil => simp
  | cons c cs ih =>
    simp only [readHexadecimalFrom?, Option.bind_eq_some_iff] at h
    obtain ⟨d, hd, hrest⟩ := h
    intro c' hc'
    rcases List.mem_cons.1 hc' with rfl | hc'
    · rw [hd]
      rfl
    · exact ih hrest c' hc'

theorem not_mem_hexadecimal {c : Char} (hc : hexValue? c = none) (n : Nat) :
    c ∉ hexadecimal n := by
  intro h
  have := isSome_hexValue?_of_readHexadecimalFrom? (readHexadecimal?_hexadecimal n) c h
  rw [hc] at this
  cases this

namespace Ipv6

/-! ## Groups -/

theorem group?_hexadecimal (g : UInt16) : group? (hexadecimal g.toNat) = some g := by
  have hpos : 1 ≤ (hexadecimal g.toNat).length :=
    List.length_pos_iff.2 (hexadecimal_ne_nil _)
  have hle : (hexadecimal g.toNat).length ≤ 4 :=
    (length_hexadecimal_le_iff (by decide)).2 g.toNat_lt
  rw [group?, if_pos ⟨hpos, hle⟩, readHexadecimal?_hexadecimal]
  simp

theorem groupChars_cons_cons (g g' : UInt16) (gs : List UInt16) :
    groupChars (g :: g' :: gs) = hexadecimal g.toNat ++ ':' :: groupChars (g' :: gs) := by
  simp [groupChars, List.intercalate_cons_cons]

/-- Groups begin with a digit. -/
theorem groupChars_cons (g : UInt16) (gs : List UInt16) :
    ∃ c cs, groupChars (g :: gs) = c :: cs ∧ c ≠ ':' := by
  obtain ⟨c, cs, hc⟩ := List.exists_cons_of_ne_nil (hexadecimal_ne_nil g.toNat)
  have hne : c ≠ ':' := by
    rintro rfl
    exact not_mem_hexadecimal (c := ':') (by decide) g.toNat (by rw [hc]; simp)
  cases gs with
  | nil => exact ⟨c, cs, by simp [groupChars, hc], hne⟩
  | cons g' gs => exact ⟨c, _, by rw [groupChars_cons_cons, hc, List.cons_append], hne⟩

theorem point_not_mem_groupChars (gs : List UInt16) : '.' ∉ groupChars gs := by
  match gs with
  | [] => simp [groupChars]
  | [g] =>
    simpa [groupChars] using not_mem_hexadecimal (c := '.') (by decide) g.toNat
  | g :: g' :: gs =>
    have hg := not_mem_hexadecimal (c := '.') (by decide) g.toNat
    have hgs := point_not_mem_groupChars (g' :: gs)
    rw [groupChars_cons_cons]
    simp [hg, hgs]

theorem readParts?_groups (gs : List UInt16) :
    readParts? (gs.map fun g => hexadecimal g.toNat) = some gs := by
  match gs with
  | [] => rfl
  | [g] =>
    have hg := not_mem_hexadecimal (c := '.') (by decide) g.toNat
    simp [readParts?, hg, group?_hexadecimal]
  | g :: g' :: gs =>
    have hgs := readParts?_groups (g' :: gs)
    rw [List.map_cons, readParts?, group?_hexadecimal, hgs]
    · rfl
    · simp

theorem readGroups?_groupChars (gs : List UInt16) : readGroups? (groupChars gs) = some gs := by
  cases gs with
  | nil => rfl
  | cons g gs =>
    obtain ⟨c, cs, hc, -⟩ := groupChars_cons g gs
    have hcolon : ∀ part ∈ (g :: gs).map fun g => hexadecimal g.toNat, ':' ∉ part := by
      intro part hpart
      obtain ⟨g', -, rfl⟩ := List.mem_map.1 hpart
      exact not_mem_hexadecimal (by decide) _
    rw [readGroups?, if_neg (by rw [hc]; simp), groupChars,
      split_intercalate (by simp) hcolon, readParts?_groups]

/-! ## The elision -/

theorem cutAtElision?_append_of_not_mem {cs : List Char} (h : ':' ∉ cs) (rest : List Char) :
    cutAtElision? (cs ++ rest)
      = (cutAtElision? rest).map fun (before, after) => (cs ++ before, after) := by
  induction cs with
  | nil => simp
  | cons c cs ih =>
    rw [List.mem_cons, not_or] at h
    rw [List.cons_append, cutAtElision?, ih h.2, Option.map_map]
    · rfl
    · rintro _ he
      exact absurd he.symm h.1

/-- No elision is found within groups. -/
theorem cutAtElision?_groupChars (gs : List UInt16) (rest : List Char) :
    cutAtElision? (groupChars gs ++ rest)
      = (cutAtElision? rest).map fun (before, after) => (groupChars gs ++ before, after) := by
  match gs with
  | [] => simp [groupChars]
  | [g] =>
    have hg := not_mem_hexadecimal (c := ':') (by decide) g.toNat
    simpa [groupChars] using cutAtElision?_append_of_not_mem hg rest
  | g :: g' :: gs =>
    have hg := not_mem_hexadecimal (c := ':') (by decide) g.toNat
    have hgs := cutAtElision?_groupChars (g' :: gs) rest
    -- the separator is no elision, since a digit follows it
    have hsep : cutAtElision? (':' :: (groupChars (g' :: gs) ++ rest))
        = (cutAtElision? (groupChars (g' :: gs) ++ rest)).map
          fun (before, after) => (':' :: before, after) := by
      obtain ⟨c, cs, hc, hne⟩ := groupChars_cons g' gs
      rw [hc, List.cons_append, cutAtElision?]
      intro _ _ he
      exact hne (List.cons.inj he).1
    rw [groupChars_cons_cons, List.append_assoc, cutAtElision?_append_of_not_mem hg,
      List.cons_append, hsep, hgs, Option.map_map, Option.map_map]
    simp only [Function.comp_def, List.append_assoc, List.cons_append]

theorem eq_take_zeros_drop (groups : List UInt16) (start : Nat) :
    groups = groups.take start ++ List.replicate (zerosAt groups start) 0
      ++ groups.drop (start + zerosAt groups start) := by
  have hzeros : (groups.drop start).takeWhile (· == 0)
      = List.replicate (zerosAt groups start) 0 := by
    rw [List.eq_replicate_iff]
    refine ⟨rfl, fun g hg => ?_⟩
    have hall := List.all_takeWhile (p := (· == 0)) (l := groups.drop start)
    simpa using List.all_eq_true.1 hall g hg
  have hrest : groups.drop (start + zerosAt groups start)
      = (groups.drop start).dropWhile (· == 0) := by
    rw [← List.drop_drop]
    conv => lhs; rw [← List.takeWhile_append_dropWhile (p := (· == 0)) (l := groups.drop start)]
    exact List.drop_left
  rw [hrest, ← hzeros, List.append_assoc, List.takeWhile_append_dropWhile, List.take_append_drop]

/-! ## Embedded IPv4 addresses -/

theorem join_octets (g : UInt16) :
    ((g >>> 8).toUInt8.toUInt16 <<< 8 ||| g.toUInt8.toUInt16) = g := by
  have hg := g.toNat_lt
  have hhigh : (g >>> 8).toUInt8.toUInt16.toNat = g.toNat / 256 := by
    simp [Nat.shiftRight_eq_div_pow]
    omega
  have hlow : g.toUInt8.toUInt16.toNat = g.toNat % 256 := by simp
  have hshift : (g.toNat / 256) <<< 8 % 2 ^ 16 = (g.toNat / 256) <<< 8 := by
    rw [Nat.shiftLeft_eq]
    omega
  apply UInt16.toNat.inj
  rw [UInt16.toNat_or, UInt16.toNat_shiftLeft, hhigh, hlow, show (8 : UInt16).toNat % 16 = 8 by rfl,
    hshift, ← Nat.shiftLeft_add_eq_or_of_lt (by omega), Nat.shiftLeft_eq]
  omega

theorem groups_of_embedded? {groups : List UInt16} {v4 : Ipv4} (h : embedded? groups = some v4) :
    groups = List.replicate 5 0 ++ 0xFFFF :: groupsOfIpv4 v4 := by
  unfold embedded? at h
  split at h
  · cases h
    simp only [groupsOfIpv4, join_octets]
    rfl
  · cases h

theorem colon_not_mem_ipv4 (v4 : Ipv4) : ':' ∉ v4.chars := by
  have hd (n : Nat) : ':' ∉ decimal n := not_mem_decimal (by decide) n
  simp [Ipv4.chars, hd]

theorem readGroups?_embedded (v4 : Ipv4) :
    readGroups? (['f', 'f', 'f', 'f', ':'] ++ v4.chars) = some (0xFFFF :: groupsOfIpv4 v4) := by
  have hcolon : ':' ∉ ['f', 'f', 'f', 'f'] := by decide
  have hsplit : split ':' (['f', 'f', 'f', 'f', ':'] ++ v4.chars)
      = [['f', 'f', 'f', 'f'], v4.chars] := by
    rw [show ['f', 'f', 'f', 'f', ':'] ++ v4.chars = ['f', 'f', 'f', 'f'] ++ ':' :: v4.chars by rfl,
      split_append_separator hcolon, split_of_not_mem (colon_not_mem_ipv4 v4)]
  have hpoint : '.' ∈ v4.chars := by simp [Ipv4.chars]
  have hgroup : group? ['f', 'f', 'f', 'f'] = some 0xFFFF := by decide
  rw [readGroups?, if_neg (by simp), hsplit]
  simp [readParts?, hpoint, hgroup]

/-! ## Addresses -/

theorem parse?_elidedChars (ip : Ipv6) : parse? (elidedChars ip.groups) = some ip := by
  unfold elidedChars
  obtain ⟨start, hstart⟩ : ∃ s, longestRun ip.groups = s := ⟨_, rfl⟩
  obtain ⟨run, hrun⟩ : ∃ r, zerosAt ip.groups start = r := ⟨_, rfl⟩
  have heq := eq_take_zeros_drop ip.groups start
  simp only [hstart, hrun] at heq ⊢
  split
  · rename_i h2
    generalize hfront : ip.groups.take start = front at *
    generalize hback : ip.groups.drop (start + run) = back at *
    have hlength : front.length + run + back.length = 8 := by
      have := congrArg List.length heq
      simp only [List.length_append, List.length_replicate, ip.length_groups] at this
      omega
    have hzeros : 8 - (front.length + back.length) = run := by omega
    have hcut : cutAtElision? (groupChars front ++ ':' :: ':' :: groupChars back)
        = some (groupChars front, groupChars back) := by
      simp [cutAtElision?_groupChars, cutAtElision?]
    rw [parse?, hcut]
    simp only [if_neg (point_not_mem_groupChars front), readGroups?_groupChars, Option.bind_eq_bind,
      Option.bind_some]
    rw [if_pos (by omega), hzeros, ← heq, of?, dif_pos ip.length_groups]
  · have hcut := cutAtElision?_groupChars ip.groups []
    rw [List.append_nil] at hcut
    rw [parse?, hcut]
    simp [cutAtElision?, readGroups?_groupChars, of?, ip.length_groups]

/-- The canonical text of an address is read as that address. -/
@[simp] theorem parse?_chars (ip : Ipv6) : parse? ip.chars = some ip := by
  unfold chars
  split
  · rename_i v4 hv4
    have hgroups := groups_of_embedded? hv4
    have hcut : cutAtElision? ([':', ':', 'f', 'f', 'f', 'f', ':'] ++ v4.chars)
        = some ([], ['f', 'f', 'f', 'f', ':'] ++ v4.chars) := rfl
    have hempty : readGroups? [] = some [] := rfl
    have hlength : (0xFFFF :: groupsOfIpv4 v4).length = 3 := rfl
    rw [parse?, hcut]
    simp only [List.not_mem_nil, if_false, hempty, readGroups?_embedded, hlength, List.length_nil,
      Option.bind_eq_bind, Option.bind_some, List.nil_append]
    rw [if_pos (by decide), ← hgroups, of?, dif_pos ip.length_groups]
  · exact parse?_elidedChars ip

theorem text_injective : Function.Injective text :=
  injective_of_read parse?_chars

end Ipv6
end CallLog
