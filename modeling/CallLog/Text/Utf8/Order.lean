import CallLog.Text.Utf8.RoundTrip

/-!
# UTF-8 keeps the order of texts

Texts are ordered by their code points and byte strings by their bytes. `encode_lt_encode`: of two
texts, the lesser one has the lesser bytes. A greater character has a first byte that is not less,
whatever the lengths of the two, and where the first bytes agree so do the lengths.
-/

namespace CallLog.Text.Utf8

theorem cons_lt_of_lt {a b : Nat} (hb : b < 256) (h : a < b) (xs ys : Bytes) :
    UInt8.ofNat a :: xs < UInt8.ofNat b :: ys := by
  refine List.cons_lt_cons_iff.2 (.inl ?_)
  rw [UInt8.lt_iff_toNat_lt, toNat_ofNat_of_lt hb, toNat_ofNat_of_lt (Nat.lt_trans h hb)]
  exact h

theorem cons_lt_of_eq {a b : Nat} (h : a = b) {xs ys : Bytes} (hrest : xs < ys) :
    UInt8.ofNat a :: xs < UInt8.ofNat b :: ys :=
  List.cons_lt_cons_iff.2 (.inr ⟨congrArg UInt8.ofNat h, hrest⟩)

/-- The bytes of a lesser character come first, whatever follows. -/
theorem encodeChar_append_lt {c d : Char} (h : c < d) (xs ys : Bytes) :
    String.utf8EncodeChar c ++ xs < String.utf8EncodeChar d ++ ys := by
  have hlt : c.val.toNat < d.val.toNat := h
  have hd : d.val.toNat < 0x110000 := by
    have hvalid := d.valid
    simp only [UInt32.isValidChar, Nat.isValidChar] at hvalid
    omega
  unfold String.utf8EncodeChar
  generalize c.val.toNat = m at hlt ⊢
  generalize d.val.toNat = n at hlt hd ⊢
  dsimp only
  -- a longer form has the greater first byte; of two forms of one length the first bytes that differ
  -- decide
  split
  · split
    · exact cons_lt_of_lt (by omega) (by omega) _ _
    split
    · exact cons_lt_of_lt (by omega) (by omega) _ _
    split <;> exact cons_lt_of_lt (by omega) (by omega) _ _
  rw [if_neg (show ¬n ≤ 127 by omega)]
  split
  · split
    · by_cases h₁ : m / 64 = n / 64
      · exact cons_lt_of_eq (by omega) (cons_lt_of_lt (by omega) (by omega) _ _)
      · exact cons_lt_of_lt (by omega) (by omega) _ _
    split <;> exact cons_lt_of_lt (by omega) (by omega) _ _
  rw [if_neg (show ¬n ≤ 2047 by omega)]
  split
  · split
    · by_cases h₁ : m / 4096 = n / 4096
      · refine cons_lt_of_eq (by omega) ?_
        by_cases h₂ : m / 64 = n / 64
        · exact cons_lt_of_eq (by omega) (cons_lt_of_lt (by omega) (by omega) _ _)
        · exact cons_lt_of_lt (by omega) (by omega) _ _
      · exact cons_lt_of_lt (by omega) (by omega) _ _
    · exact cons_lt_of_lt (by omega) (by omega) _ _
  rw [if_neg (show ¬n ≤ 65535 by omega)]
  by_cases h₁ : m / 262144 = n / 262144
  · refine cons_lt_of_eq (by omega) ?_
    by_cases h₂ : m / 4096 = n / 4096
    · refine cons_lt_of_eq (by omega) ?_
      by_cases h₃ : m / 64 = n / 64
      · exact cons_lt_of_eq (by omega) (cons_lt_of_lt (by omega) (by omega) _ _)
      · exact cons_lt_of_lt (by omega) (by omega) _ _
    · exact cons_lt_of_lt (by omega) (by omega) _ _
  · exact cons_lt_of_lt (by omega) (by omega) _ _

theorem flatMap_encodeChar_lt {cs ds : List Char} (h : cs < ds) :
    cs.flatMap String.utf8EncodeChar < ds.flatMap String.utf8EncodeChar := by
  induction cs generalizing ds with
  | nil =>
    cases ds with
    | nil => exact absurd h (List.not_lt_nil _)
    | cons d ds =>
      obtain ⟨b, bs, hb⟩ := List.exists_cons_of_ne_nil (String.utf8EncodeChar_ne_nil (c := d))
      rw [List.flatMap_cons, hb]
      exact List.nil_lt_cons _ _
  | cons c cs ih =>
    cases ds with
    | nil => exact absurd h (List.not_lt_nil _)
    | cons d ds =>
      rw [List.flatMap_cons, List.flatMap_cons]
      obtain hcd | ⟨rfl, hrest⟩ := List.cons_lt_cons_iff.1 h
      · exact encodeChar_append_lt hcd _ _
      · exact List.append_left_lt (ih hrest)

theorem encode_lt_encode {s t : String} (h : s < t) : encode s < encode t :=
  flatMap_encodeChar_lt (String.lt_iff.1 h)

end CallLog.Text.Utf8
