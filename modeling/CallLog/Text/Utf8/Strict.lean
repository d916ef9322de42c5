import CallLog.Text.Utf8.RoundTrip

/-!
# Bytes that are a text

`decode?_eq_some_iff`: strict reading takes only the bytes of a text for that text. A character that
is read without a malformed stretch was begun by a first byte of its form and went on with as many
bytes as that promises (`owes_last`, `owes_more`), each in the range that the byte before it left open,
and these bytes are the ones that the character is written as (`encodeChar_two` and its neighbours).
-/

namespace CallLog.Text.Utf8

/-! ## Forms of a character -/

theorem ofNat_eq_of_toNat {n : Nat} {b : UInt8} (h : n = b.toNat) : UInt8.ofNat n = b := by
  rw [h, UInt8.ofNat_toNat]

theorem val_ofNat {n : Nat} (h : n < 0xD800 ∨ 0xDFFF < n ∧ n < 0x110000) :
    (Char.ofNat n).val.toNat = n := by
  have hvalid : n.isValidChar := h
  rw [Char.ofNat, dif_pos hvalid]
  rfl

theorem encodeChar_one {a : UInt8} (ha : a.toNat < 0x80) :
    String.utf8EncodeChar (Char.ofNat a.toNat) = [a] := by
  have hv := val_ofNat (n := a.toNat) (by omega)
  simp only [String.utf8EncodeChar, hv]
  rw [if_pos (by omega), UInt8.ofNat_toNat]

theorem encodeChar_two {a b : UInt8} (ha : 0xC2 ≤ a.toNat ∧ a.toNat < 0xE0)
    (hb : 0x80 ≤ b.toNat ∧ b.toNat ≤ 0xBF) :
    String.utf8EncodeChar (Char.ofNat ((a.toNat - 0xC0) * 64 + (b.toNat - 0x80))) = [a, b] := by
  have hv := val_ofNat (n := (a.toNat - 0xC0) * 64 + (b.toNat - 0x80)) (by omega)
  simp only [String.utf8EncodeChar, hv]
  rw [if_neg (by omega), if_pos (by omega)]
  simp only [List.cons.injEq, and_true]
  exact ⟨ofNat_eq_of_toNat (by omega), ofNat_eq_of_toNat (by omega)⟩

theorem encodeChar_three {a b c : UInt8} (ha : 0xE0 ≤ a.toNat ∧ a.toNat < 0xF0)
    (hlow : (if a.toNat = 0xE0 then 0xA0 else 0x80) ≤ b.toNat)
    (hhigh : b.toNat ≤ if a.toNat = 0xED then 0x9F else 0xBF)
    (hc : 0x80 ≤ c.toNat ∧ c.toNat ≤ 0xBF) :
    String.utf8EncodeChar
        (Char.ofNat (((a.toNat - 0xE0) * 64 + (b.toNat - 0x80)) * 64 + (c.toNat - 0x80)))
      = [a, b, c] := by
  -- the second byte keeps out forms that are too long and halves of pairs
  have hb : 0x80 ≤ b.toNat ∧ b.toNat ≤ 0xBF ∧ (a.toNat = 0xE0 → 0xA0 ≤ b.toNat)
      ∧ (a.toNat = 0xED → b.toNat ≤ 0x9F) := by
    split at hlow <;> split at hhigh <;> omega
  have hv := val_ofNat (n := ((a.toNat - 0xE0) * 64 + (b.toNat - 0x80)) * 64 + (c.toNat - 0x80))
    (by omega)
  simp only [String.utf8EncodeChar, hv]
  rw [if_neg (by omega), if_neg (by omega), if_pos (by omega)]
  simp only [List.cons.injEq, and_true]
  exact ⟨ofNat_eq_of_toNat (by omega), ofNat_eq_of_toNat (by omega), ofNat_eq_of_toNat (by omega)⟩

theorem encodeChar_four {a b c d : UInt8} (ha : 0xF0 ≤ a.toNat ∧ a.toNat < 0xF5)
    (hlow : (if a.toNat = 0xF0 then 0x90 else 0x80) ≤ b.toNat)
    (hhigh : b.toNat ≤ if a.toNat = 0xF4 then 0x8F else 0xBF)
    (hc : 0x80 ≤ c.toNat ∧ c.toNat ≤ 0xBF) (hd : 0x80 ≤ d.toNat ∧ d.toNat ≤ 0xBF) :
    String.utf8EncodeChar
        (Char.ofNat ((((a.toNat - 0xF0) * 64 + (b.toNat - 0x80)) * 64 + (c.toNat - 0x80)) * 64
          + (d.toNat - 0x80)))
      = [a, b, c, d] := by
  -- the second byte keeps out forms that are too long and code points above the last one
  have hb : 0x80 ≤ b.toNat ∧ b.toNat ≤ 0xBF ∧ (a.toNat = 0xF0 → 0x90 ≤ b.toNat)
      ∧ (a.toNat = 0xF4 → b.toNat ≤ 0x8F) := by
    split at hlow <;> split at hhigh <;> omega
  have hv := val_ofNat (n := (((a.toNat - 0xF0) * 64 + (b.toNat - 0x80)) * 64 + (c.toNat - 0x80))
    * 64 + (d.toNat - 0x80)) (by omega)
  simp only [String.utf8EncodeChar, hv]
  rw [if_neg (by omega), if_neg (by omega), if_neg (by omega)]
  simp only [List.cons.injEq, and_true]
  exact ⟨ofNat_eq_of_toNat (by omega), ofNat_eq_of_toNat (by omega),
    ofNat_eq_of_toNat (by omega), ofNat_eq_of_toNat (by omega)⟩

/-! ## What a character begun goes on with -/

/-- The byte that a well-formed character goes on with, and what follows it. -/
theorem owes {p : Partial} {bytes : Bytes} {cs : List Char}
    (h : pieces (some p) bytes = cs.map some) :
    ∃ b rest, bytes = b :: rest ∧ p.low ≤ b.toNat ∧ b.toNat ≤ p.high
      ∧ (if p.owed = 1 then
            some (Char.ofNat (p.bits * 64 + (b.toNat - 0x80))) :: pieces none rest
          else pieces (some ⟨p.bits * 64 + (b.toNat - 0x80), p.owed - 1, 0x80, 0xBF⟩) rest)
        = cs.map some := by
  have hhead (l : List (Option Char)) : none :: l ≠ cs.map some := by
    cases cs <;> simp
  cases bytes with
  | nil => exact absurd h (hhead [])
  | cons b rest =>
    simp only [pieces] at h
    split at h
    next hrange => exact ⟨b, rest, rfl, hrange.1, hrange.2, h⟩
    next =>
      split at h <;> exact absurd h (hhead _)

theorem owes_last {bits low high : Nat} {bytes : Bytes} {cs : List Char}
    (h : pieces (some ⟨bits, 1, low, high⟩) bytes = cs.map some) :
    ∃ b rest cs', bytes = b :: rest ∧ low ≤ b.toNat ∧ b.toNat ≤ high
      ∧ cs = Char.ofNat (bits * 64 + (b.toNat - 0x80)) :: cs' ∧ pieces none rest = cs'.map some := by
  obtain ⟨b, rest, rfl, hlow, hhigh, hrest⟩ := owes h
  rw [if_pos rfl] at hrest
  cases cs with
  | nil => cases hrest
  | cons c cs =>
    obtain ⟨hc, hcs⟩ := List.cons.inj hrest
    exact ⟨b, rest, cs, rfl, hlow, hhigh, by rw [Option.some.inj hc], hcs⟩

theorem owes_more {bits owed low high : Nat} {bytes : Bytes} {cs : List Char}
    (h : pieces (some ⟨bits, owed + 2, low, high⟩) bytes = cs.map some) :
    ∃ b rest, bytes = b :: rest ∧ low ≤ b.toNat ∧ b.toNat ≤ high
      ∧ pieces (some ⟨bits * 64 + (b.toNat - 0x80), owed + 1, 0x80, 0xBF⟩) rest = cs.map some := by
  obtain ⟨b, rest, rfl, hlow, hhigh, hrest⟩ := owes h
  rw [if_neg (by simp)] at hrest
  exact ⟨b, rest, rfl, hlow, hhigh, hrest⟩

/-! ## Texts -/

theorem lead_eq_inl {n : Nat} {c : Char} (h : lead n = some (.inl c)) :
    n < 0x80 ∧ c = Char.ofNat n := by
  unfold lead at h
  split at h
  case isTrue hlt => exact ⟨hlt, by simpa using h.symm⟩
  case isFalse => repeat' (split at h <;> try cases h)

/-- The longer forms that a first byte can promise. -/
theorem lead_eq_inr {n : Nat} {p : Partial} (h : lead n = some (.inr p)) :
    (0xC2 ≤ n ∧ n < 0xE0 ∧ p = ⟨n - 0xC0, 1, 0x80, 0xBF⟩)
      ∨ (0xE0 ≤ n ∧ n < 0xF0
        ∧ p = ⟨n - 0xE0, 2, if n = 0xE0 then 0xA0 else 0x80, if n = 0xED then 0x9F else 0xBF⟩)
      ∨ (0xF0 ≤ n ∧ n < 0xF5
        ∧ p = ⟨n - 0xF0, 3, if n = 0xF0 then 0x90 else 0x80, if n = 0xF4 then 0x8F else 0xBF⟩) := by
  by_cases h₁ : n < 0x80
  · simp [lead, h₁] at h
  by_cases h₂ : n < 0xC2
  · simp [lead, h₁, h₂] at h
  by_cases h₃ : n < 0xE0
  · rw [lead, if_neg h₁, if_neg h₂, if_pos h₃] at h
    exact .inl ⟨by omega, h₃, by simpa using h.symm⟩
  by_cases h₄ : n < 0xF0
  · rw [lead, if_neg h₁, if_neg h₂, if_neg h₃, if_pos h₄] at h
    exact .inr (.inl ⟨by omega, h₄, by simpa using h.symm⟩)
  by_cases h₅ : n < 0xF5
  · rw [lead, if_neg h₁, if_neg h₂, if_neg h₃, if_neg h₄, if_pos h₅] at h
    exact .inr (.inr ⟨by omega, h₅, by simpa using h.symm⟩)
  · simp [lead, h₁, h₂, h₃, h₄, h₅] at h

/-- Bytes without a malformed stretch begin with a character as it is written. -/
theorem encodeChar_of_pieces {a : UInt8} {bytes : Bytes} {cs : List Char}
    (h : pieces none (a :: bytes) = cs.map some) :
    ∃ c cs' rest, cs = c :: cs' ∧ a :: bytes = String.utf8EncodeChar c ++ rest
      ∧ pieces none rest = cs'.map some := by
  simp only [pieces] at h
  split at h
  case h_1 => cases cs <;> cases h
  case h_2 c hlead =>
    obtain ⟨hone, rfl⟩ := lead_eq_inl hlead
    cases cs with
    | nil => cases h
    | cons c cs =>
      obtain ⟨hc, hcs⟩ := List.cons.inj h
      obtain rfl := Option.some.inj hc
      exact ⟨_, cs, bytes, rfl, by rw [encodeChar_one hone]; rfl, hcs⟩
  case h_3 p hlead =>
    obtain ⟨h₁, h₂, rfl⟩ | ⟨h₁, h₂, rfl⟩ | ⟨h₁, h₂, rfl⟩ := lead_eq_inr hlead
    · obtain ⟨b, rest, cs', rfl, hb, hb', rfl, hrest⟩ := owes_last h
      exact ⟨_, cs', rest, rfl, by rw [encodeChar_two ⟨h₁, h₂⟩ ⟨hb, hb'⟩]; rfl, hrest⟩
    · obtain ⟨b, bytes, rfl, hb, hb', h⟩ := owes_more h
      obtain ⟨c, rest, cs', rfl, hc, hc', rfl, hrest⟩ := owes_last h
      exact ⟨_, cs', rest, rfl, by rw [encodeChar_three ⟨h₁, h₂⟩ hb hb' ⟨hc, hc'⟩]; rfl, hrest⟩
    · obtain ⟨b, bytes, rfl, hb, hb', h⟩ := owes_more h
      obtain ⟨c, bytes, rfl, hc, hc', h⟩ := owes_more h
      obtain ⟨d, rest, cs', rfl, hd, hd', rfl, hrest⟩ := owes_last h
      exact ⟨_, cs', rest, rfl,
        by rw [encodeChar_four ⟨h₁, h₂⟩ hb hb' ⟨hc, hc'⟩ ⟨hd, hd'⟩]; rfl, hrest⟩

/-- Bytes without a malformed stretch are the characters that they spell, written one after
another. -/
theorem eq_flatMap_of_pieces {bytes : Bytes} {cs : List Char}
    (h : pieces none bytes = cs.map some) : bytes = cs.flatMap String.utf8EncodeChar := by
  -- every character takes its bytes away, so the induction goes over the characters
  induction cs generalizing bytes with
  | nil =>
    cases bytes with
    | nil => rfl
    | cons a bytes =>
      obtain ⟨_, _, _, hcs, -⟩ := encodeChar_of_pieces h
      cases hcs
  | cons c cs ih =>
    cases bytes with
    | nil => cases h
    | cons a bytes =>
      obtain ⟨c', cs', rest, hcs, hbytes, hrest⟩ := encodeChar_of_pieces h
      obtain ⟨rfl, rfl⟩ := List.cons.inj hcs
      rw [hbytes, ih hrest, List.flatMap_cons]

theorem mapM_id_eq_some_iff {l : List (Option Char)} {cs : List Char} :
    l.mapM id = some cs ↔ l = cs.map some := by
  constructor
  · intro h
    induction l generalizing cs with
    | nil =>
      obtain rfl : [] = cs := by simpa using h
      rfl
    | cons x l ih =>
      simp only [List.mapM_cons, id_eq, Option.bind_eq_bind, Option.bind_eq_some_iff,
        Option.pure_def, Option.some.injEq] at h
      obtain ⟨c, rfl, cs', hl, rfl⟩ := h
      rw [ih hl, List.map_cons]
  · rintro rfl
    exact mapM_id_map_some cs

/-- Bytes are read as a text exactly when they are the bytes of that text. -/
theorem decode?_eq_some_iff {bytes : Bytes} {text : String} :
    decode? bytes = some text ↔ bytes = encode text := by
  constructor
  · intro h
    obtain ⟨cs, hcs, rfl⟩ := Option.map_eq_some_iff.1 h
    rw [encode, String.toList_ofList]
    exact eq_flatMap_of_pieces (mapM_id_eq_some_iff.1 hcs)
  · rintro rfl
    exact decode?_encode text

end CallLog.Text.Utf8
