import CallLog.Text.Base64
import Mathlib.Algebra.Group.Nat.Defs
import Mathlib.Data.List.Nodup

/-!
# What base64 is

The standard says it in bits: the bits of the bytes are cut into sixes, each six is the place of a
symbol in the alphabet, zeros fill up the last six, and padding fills up the last group of four
symbols (`Spells`, `IsText`). The writer produces just these texts (`isText_iff`), and the reader takes
no others (`decode?_eq_some_iff`): it is strict about the alphabet, the padding and the zeros.

Regrouping rests on `bits_append`: numbers side by side have the bits of one number. The bits of a byte
can so be cut where the symbols divide them, and this is what the arithmetic of the writer does.
-/

namespace CallLog.Text.Base64

/-- The symbols of the standard alphabet in the order of their values. -/
def alphabet : List Char :=
  "ABCDEFGHIJKLMNOPQRSTUVWXYZabcdefghijklmnopqrstuvwxyz0123456789+/".toList

/-- The lowest bits of a number, the highest of them first. -/
def bits : Nat → Nat → List Nat
  | 0, _ => []
  | width + 1, n => bits width (n / 2) ++ [n % 2]

/-- How many bytes the last group of three lacks. -/
def missing (bytes : Bytes) : Nat := (3 - bytes.length % 3) % 3

/-- Symbols spell a byte string: six bits each, they go through the bits of the bytes, and then there
are only zeros, as few as will do. -/
structure Spells (symbols : List Char) (bytes : Bytes) : Prop where
  mem : ∀ c ∈ symbols, c ∈ alphabet
  bits : symbols.flatMap (fun c => bits 6 (alphabet.idxOf c))
    = bytes.flatMap (fun byte => bits 8 byte.toNat) ++ List.replicate (2 * missing bytes) 0

/-- A text is the base64 of a byte string: symbols that spell it, padded to groups of four. -/
def IsText (text : List Char) (bytes : Bytes) : Prop :=
  ∃ symbols, text = symbols ++ List.replicate (missing bytes) '=' ∧ Spells symbols bytes

/-! ## Bits -/

@[simp] theorem length_bits (width n : Nat) : (bits width n).length = width := by
  induction width generalizing n with
  | zero => rfl
  | succ width ih => rw [bits, List.length_append, ih, List.length_singleton]

/-- Numbers side by side have the bits of one number. -/
theorem bits_append (width' width high : Nat) {low : Nat} (h : low < 2 ^ width) :
    bits width' high ++ bits width low = bits (width' + width) (high * 2 ^ width + low) := by
  induction width generalizing low with
  | zero => simp [bits, show low = 0 by simpa using h]
  | succ width ih =>
    have hdouble : high * 2 ^ (width + 1) = 2 * (high * 2 ^ width) := by
      rw [Nat.pow_succ, ← Nat.mul_assoc, Nat.mul_comm]
    have hhalf : low / 2 < 2 ^ width := by omega
    rw [bits, ← List.append_assoc, ih hhalf, ← Nat.add_assoc, bits, hdouble,
      Nat.mul_add_div (by decide), Nat.mul_add_mod]

theorem bits_zero (width : Nat) : bits width 0 = List.replicate width 0 := by
  induction width with
  | zero => rfl
  | succ width ih => rw [bits, ih, List.replicate_succ']

theorem bits_inj {width m n : Nat} (hm : m < 2 ^ width) (hn : n < 2 ^ width)
    (h : bits width m = bits width n) : m = n := by
  induction width generalizing m n with
  | zero =>
    rw [Nat.pow_zero] at hm hn
    omega
  | succ width ih =>
    obtain ⟨hhigh, hlast⟩ := List.append_inj' h rfl
    have hhalf : m / 2 = n / 2 := ih (by omega) (by omega) hhigh
    have hlast : m % 2 = n % 2 := List.singleton_inj.1 hlast
    omega

/-- A number has the bits of its two parts. -/
theorem bits_cut (width' width n : Nat) :
    bits (width' + width) n = bits width' (n / 2 ^ width) ++ bits width (n % 2 ^ width) := by
  rw [bits_append _ _ _ (Nat.mod_lt n (Nat.two_pow_pos width)), Nat.div_add_mod']

/-! ## Symbols -/

theorem alphabet_eq : alphabet = (List.range 64).map symbol := by decide

theorem mem_alphabet_iff {c : Char} : c ∈ alphabet ↔ ∃ n < 64, symbol n = c := by
  simp only [alphabet_eq, List.mem_map, List.mem_range]

theorem idxOf_lt {c : Char} (h : c ∈ alphabet) : alphabet.idxOf c < 64 := by
  have hlt := List.idxOf_lt_length_of_mem h
  rwa [alphabet_eq, List.length_map, List.length_range, ← alphabet_eq] at hlt

/-- The symbol of a value stands in its place. -/
theorem idxOf_symbol {n : Nat} (h : n < 64) : alphabet.idxOf (symbol n) = n := by
  have hnodup : ((List.range 64).map symbol).Nodup := by
    refine List.Nodup.map_on (fun m hm m' hm' heq => ?_) List.nodup_range
    have hvalue := congrArg value? heq
    rw [value?_symbol (List.mem_range.1 hm), value?_symbol (List.mem_range.1 hm')] at hvalue
    exact Option.some.inj hvalue
  have hlt : n < ((List.range 64).map symbol).length := by simpa using h
  have hplace := hnodup.idxOf_getElem n hlt
  rwa [List.getElem_map, List.getElem_range, ← alphabet_eq] at hplace

/-- Symbols can be told from their bits. -/
theorem eq_of_flatMap_bits {xs ys : List Char} (hxs : ∀ c ∈ xs, c ∈ alphabet)
    (hys : ∀ c ∈ ys, c ∈ alphabet)
    (h : xs.flatMap (fun c => bits 6 (alphabet.idxOf c))
      = ys.flatMap fun c => bits 6 (alphabet.idxOf c)) : xs = ys := by
  induction xs generalizing ys with
  | nil =>
    cases ys with
    | nil => rfl
    | cons => simp [bits] at h
  | cons x xs ih =>
    cases ys with
    | nil => simp [bits] at h
    | cons y ys =>
      rw [List.flatMap_cons, List.flatMap_cons] at h
      obtain ⟨hhead, htail⟩ := List.append_inj h (by rw [length_bits, length_bits])
      have hx := hxs x List.mem_cons_self
      have hy := hys y List.mem_cons_self
      have hplace : alphabet.idxOf x = alphabet.idxOf y :=
        bits_inj (idxOf_lt hx) (idxOf_lt hy) hhead
      rw [(List.idxOf_inj hx).1 hplace, ih (fun c hc => hxs c (List.mem_cons_of_mem _ hc))
        (fun c hc => hys c (List.mem_cons_of_mem _ hc)) htail]

/-! ## Writing -/

/-- A byte string has one base64 text at most. -/
theorem IsText.unique {bytes : Bytes} {text text' : List Char} (h : IsText text bytes)
    (h' : IsText text' bytes) : text = text' := by
  obtain ⟨symbols, rfl, hsymbols⟩ := h
  obtain ⟨symbols', rfl, hsymbols'⟩ := h'
  rw [eq_of_flatMap_bits hsymbols.mem hsymbols'.mem (hsymbols.bits.trans hsymbols'.bits.symm)]

/-- The values of the symbols that are written. -/
def values : Bytes → List Nat
  | [] => []
  | [a] => [a.toNat / 4, a.toNat % 4 * 16]
  | [a, b] => [a.toNat / 4, a.toNat % 4 * 16 + b.toNat / 16, b.toNat % 16 * 4]
  | a :: b :: c :: rest =>
    a.toNat / 4 :: (a.toNat % 4 * 16 + b.toNat / 16) :: (b.toNat % 16 * 4 + c.toNat / 64)
      :: c.toNat % 64 :: values rest

theorem missing_cons_cons_cons (a b c : UInt8) (rest : Bytes) :
    missing (a :: b :: c :: rest) = missing rest := by
  simp [missing, List.length_cons, Nat.add_assoc]

theorem encode_eq_values (bytes : Bytes) :
    encode bytes = (values bytes).map symbol ++ List.replicate (missing bytes) '=' := by
  fun_induction values bytes with
  | case1 => rfl
  | case2 a => rfl
  | case3 a b => rfl
  | case4 a b c rest ih => simp [encode, ih, missing_cons_cons_cons]

theorem values_lt {bytes : Bytes} : ∀ n ∈ values bytes, n < 64 := by
  fun_induction values bytes with
  | case1 => nofun
  | case2 a =>
    have ha := a.toNat_lt
    simp
    omega
  | case3 a b =>
    have ha := a.toNat_lt
    have hb := b.toNat_lt
    simp
    omega
  | case4 a b c rest ih =>
    have ha := a.toNat_lt
    have hb := b.toNat_lt
    have hc := c.toNat_lt
    simp only [List.mem_cons, forall_eq_or_imp]
    exact ⟨by omega, by omega, by omega, by omega, ih⟩

/-- The bits of the values are those of the bytes, with zeros behind them. -/
theorem flatMap_bits_values (bytes : Bytes) :
    (values bytes).flatMap (bits 6)
      = bytes.flatMap (fun byte => bits 8 byte.toNat) ++ List.replicate (2 * missing bytes) 0 := by
  -- where symbols divide a byte: after six bits of a first, four of a second, two of a third
  have hfirst (n : Nat) : bits 8 n = bits 6 (n / 4) ++ bits 2 (n % 4) := bits_cut 6 2 n
  have hsecond (n : Nat) : bits 8 n = bits 4 (n / 16) ++ bits 4 (n % 16) := bits_cut 4 4 n
  have hthird (n : Nat) : bits 8 n = bits 2 (n / 64) ++ bits 6 (n % 64) := bits_cut 2 6 n
  have hjoin {low : Nat} (high : Nat) (h : low < 16) :
      bits 6 (high * 16 + low) = bits 2 high ++ bits 4 low := (bits_append 2 4 high h).symm
  have hjoin' {low : Nat} (high : Nat) (h : low < 4) :
      bits 6 (high * 4 + low) = bits 4 high ++ bits 2 low := (bits_append 4 2 high h).symm
  fun_induction values bytes with
  | case1 => rfl
  | case2 a =>
    have hlast := hjoin (a.toNat % 4) (show 0 < 16 by decide)
    rw [Nat.add_zero, bits_zero] at hlast
    simp [hfirst a.toNat, hlast, missing]
  | case3 a b =>
    have hb := b.toNat_lt
    have hlast := hjoin' (b.toNat % 16) (show 0 < 4 by decide)
    rw [Nat.add_zero, bits_zero] at hlast
    simp [hfirst a.toNat, hsecond b.toNat, hjoin _ (show b.toNat / 16 < 16 by omega), hlast, missing]
  | case4 a b c rest ih =>
    have hb := b.toNat_lt
    have hc := c.toNat_lt
    simp [hfirst a.toNat, hsecond b.toNat, hthird c.toNat,
      hjoin _ (show b.toNat / 16 < 16 by omega), hjoin' _ (show c.toNat / 64 < 4 by omega),
      missing_cons_cons_cons, ih]

theorem spells_values (bytes : Bytes) : Spells ((values bytes).map symbol) bytes := by
  refine ⟨fun c hc => ?_, ?_⟩
  · obtain ⟨n, hn, rfl⟩ := List.mem_map.1 hc
    exact mem_alphabet_iff.2 ⟨n, values_lt n hn, rfl⟩
  · rw [← flatMap_bits_values, List.flatMap_map]
    exact List.flatMap_congr fun n hn => by rw [idxOf_symbol (values_lt n hn)]

/-- **What is written is the base64 of the bytes**, and nothing else is. -/
theorem isText_iff {text : List Char} {bytes : Bytes} :
    IsText text bytes ↔ text = encode bytes := by
  have hencode : IsText (encode bytes) bytes := ⟨_, encode_eq_values bytes, spells_values bytes⟩
  exact ⟨fun h => h.unique hencode, fun h => h ▸ hencode⟩

/-! ## Reading -/

theorem value?_eq_some_iff {c : Char} {n : Nat} : value? c = some n ↔ n < 64 ∧ c = symbol n := by
  refine ⟨fun h => ?_, fun ⟨hlt, hc⟩ => hc ▸ value?_symbol hlt⟩
  have hc : c = Char.ofNat c.toNat := (Char.ofNat_toNat c).symm
  unfold value? at h
  split_ifs at h with hupper hlower hdigit hplus hslash
  · obtain ⟨hlow, hhigh⟩ : 65 ≤ c.toNat ∧ c.toNat ≤ 90 := hupper
    obtain rfl := Option.some.inj h
    rw [symbol, if_pos (by omega), Nat.sub_add_cancel hlow]
    exact ⟨by omega, hc⟩
  · obtain ⟨hlow, hhigh⟩ : 97 ≤ c.toNat ∧ c.toNat ≤ 122 := hlower
    obtain rfl := Option.some.inj h
    rw [symbol, if_neg (by omega), if_pos (by omega), Nat.sub_add_cancel (by omega)]
    exact ⟨by omega, hc⟩
  · obtain ⟨hlow, hhigh⟩ : 48 ≤ c.toNat ∧ c.toNat ≤ 57 := hdigit
    obtain rfl := Option.some.inj h
    rw [symbol, if_neg (by omega), if_neg (by omega), if_pos (by omega), Nat.add_sub_cancel]
    exact ⟨by omega, hc⟩
  · obtain rfl := Option.some.inj h
    exact ⟨by decide, hplus⟩
  · obtain rfl := Option.some.inj h
    exact ⟨by decide, hslash⟩

/-- A number below 256 is a byte. -/
theorem exists_byte {n : Nat} (h : n < 256) : ∃ byte : UInt8, UInt8.ofNat n = byte ∧ n = byte.toNat :=
  ⟨_, rfl, (UInt8.toNat_ofNat_of_lt' h).symm⟩

theorem single?_eq_some {a b : Char} {bytes : Bytes} (h : single? a b = some bytes) :
    [a, b, '=', '='] = encode bytes := by
  simp only [single?, Option.bind_eq_bind, Option.bind_eq_some_iff, value?_eq_some_iff] at h
  obtain ⟨w, ⟨hw, rfl⟩, x, ⟨hx, rfl⟩, h⟩ := h
  split at h
  next hzero =>
    obtain ⟨first, hfirst, htoNat⟩ := exists_byte (show w * 4 + x / 16 < 256 by omega)
    rw [hfirst] at h
    obtain rfl := Option.some.inj h
    rw [encode, show first.toNat / 4 = w by omega, show first.toNat % 4 * 16 = x by omega]
  next => cases h

theorem pair?_eq_some {a b c : Char} {bytes : Bytes} (h : pair? a b c = some bytes) :
    [a, b, c, '='] = encode bytes := by
  simp only [pair?, Option.bind_eq_bind, Option.bind_eq_some_iff, value?_eq_some_iff] at h
  obtain ⟨w, ⟨hw, rfl⟩, x, ⟨hx, rfl⟩, y, ⟨hy, rfl⟩, h⟩ := h
  split at h
  next hzero =>
    obtain ⟨first, hfirst, htoNat⟩ := exists_byte (show w * 4 + x / 16 < 256 by omega)
    obtain ⟨second, hsecond, htoNat'⟩ := exists_byte (show x % 16 * 16 + y / 4 < 256 by omega)
    rw [hfirst, hsecond] at h
    obtain rfl := Option.some.inj h
    rw [encode, show first.toNat / 4 = w by omega,
      show first.toNat % 4 * 16 + second.toNat / 16 = x by omega,
      show second.toNat % 16 * 4 = y by omega]
  next => cases h

theorem triple?_eq_some {a b c d : Char} {bytes : Bytes} (h : triple? a b c d = some bytes)
    (rest : Bytes) : a :: b :: c :: d :: encode rest = encode (bytes ++ rest) := by
  simp only [triple?, Option.bind_eq_bind, Option.bind_eq_some_iff, value?_eq_some_iff,
    Option.pure_def] at h
  obtain ⟨w, ⟨hw, rfl⟩, x, ⟨hx, rfl⟩, y, ⟨hy, rfl⟩, z, ⟨hz, rfl⟩, h⟩ := h
  obtain ⟨first, hfirst, htoNat⟩ := exists_byte (show w * 4 + x / 16 < 256 by omega)
  obtain ⟨second, hsecond, htoNat'⟩ := exists_byte (show x % 16 * 16 + y / 4 < 256 by omega)
  obtain ⟨third, hthird, htoNat''⟩ := exists_byte (show y % 4 * 64 + z < 256 by omega)
  rw [hfirst, hsecond, hthird] at h
  obtain rfl := Option.some.inj h
  simp only [List.cons_append, List.nil_append]
  rw [encode, show first.toNat / 4 = w by omega,
    show first.toNat % 4 * 16 + second.toNat / 16 = x by omega,
    show second.toNat % 16 * 4 + third.toNat / 64 = y by omega,
    show third.toNat % 64 = z by omega]

theorem eq_encode_of_decode? {text : List Char} {bytes : Bytes} (h : decode? text = some bytes) :
    text = encode bytes := by
  fun_induction decode? text generalizing bytes with
  | case1 => exact Option.some.inj h ▸ rfl
  | case2 a b c rest hrest => cases h
  | case3 a b rest hrest =>
    rw [Classical.not_not.1 hrest]
    exact single?_eq_some h
  | case4 a b c rest hrest hc =>
    rw [Classical.not_not.1 hrest]
    exact pair?_eq_some h
  | case5 a b c d rest hd ih =>
    obtain ⟨first, hfirst, h⟩ := Option.bind_eq_some_iff.1 h
    obtain ⟨others, hothers, h⟩ := Option.bind_eq_some_iff.1 h
    obtain rfl := Option.some.inj h
    rw [ih hothers, triple?_eq_some hfirst]
  | case6 => cases h

/-- **Reading is strict**: it takes the base64 of a byte string for that byte string, and takes no
other text. So a symbol outside the alphabet, padding in another place, or a last symbol with bits
behind the bytes that are not zero is refused. -/
theorem decode?_eq_some_iff {text : List Char} {bytes : Bytes} :
    decode? text = some bytes ↔ IsText text bytes := by
  rw [isText_iff]
  exact ⟨eq_encode_of_decode?, fun h => h ▸ decode?_encode bytes⟩

/-- A lone byte leaves four bits of its second symbol open, and only zeros are read there. -/
example : encode [0x66] = "Zg==".toList ∧ decode? "Zg==".toList = some [0x66]
    ∧ decode? "Zh==".toList = none := by
  decide

/-! ## Length -/

/-- Symbols come in as many groups of four, padding included, as the bytes have threes, begun ones
included. -/
theorem IsText.length {text : List Char} {bytes : Bytes} (h : IsText text bytes) :
    text.length = 4 * ((bytes.length + 2) / 3) := by
  obtain ⟨symbols, rfl, hspells⟩ := h
  have hbits := congrArg List.length hspells.bits
  simp only [List.length_append, List.length_flatMap, length_bits, List.map_const',
    List.sum_replicate_nat, List.length_replicate, missing] at hbits ⊢
  omega

end CallLog.Text.Base64
