import CallLog.Proofs.GreedySelection

/-!
# Headers as a stream

What is embedded of headers is decided as they come: those that follow have no say in it, and all that
they see of those before is how many bytes are left under the ceiling (`roomLeft`). `embed_append`: cut
anywhere, headers are embedded as the first part under the ceiling and the second under what the first
has left of it, with the sizes added and the truncation marks joined. The recursion carries the bytes
taken so far, so the law is shown first for a recursion that goes on from there (`embedAfter_append`);
then bytes that are taken come to the same as a ceiling lowered by them (`embedAfter_add`).
`embeds_as_stream` adds that embedding headers again changes nothing.
-/

namespace CallLog.Metadata

/-! ## Bytes taken and bytes left -/

/-- The ceiling on what follows when `used` bytes are taken. -/
def roomLeft (ceiling : Option Nat) (used : Nat) : Option Nat := ceiling.map (· - used)

variable {ceiling : Option Nat} {used : Nat}

/-- On top of bytes within the ceiling, more are within it if they are within what is left. -/
theorem within_add_iff (h : Within ceiling used) (size : Nat) :
    Within ceiling (used + size) ↔ Within (roomLeft ceiling used) size := by
  cases ceiling with
  | none => simp [roomLeft]
  | some limit =>
    have hle := (within_some limit used).1 h
    simp only [roomLeft, Option.map_some, within_some]
    omega

/-- Headers that come when bytes are taken are embedded under what these have left. -/
theorem embedAfter_add (h : Within ceiling used) (more : Nat) (metadata : Metadata) :
    let rest := embedAfter (roomLeft ceiling used) more metadata
    embedAfter ceiling (used + more) metadata
      = ⟨rest.content, used + rest.size, rest.truncated⟩ := by
  induction metadata generalizing more with
  | nil => rfl
  | cons header rest ih =>
    simp only [embedAfter, Nat.add_assoc, within_add_iff h]
    split
    · rw [ih]
    · rw [ih]

/-- Headers that follow others go on from the bytes that those have taken. -/
theorem embedAfter_append (ceiling : Option Nat) (used : Nat) (xs ys : Metadata) :
    let front := embedAfter ceiling used xs
    let back := embedAfter ceiling front.size ys
    embedAfter ceiling used (xs ++ ys)
      = ⟨front.content ++ back.content, back.size, front.truncated || back.truncated⟩ := by
  induction xs generalizing used with
  | nil => rfl
  | cons header rest ih =>
    simp only [List.cons_append, embedAfter]
    split
    · rw [ih]
      rfl
    · rw [ih]
      rfl

/-! ## The law -/

/-- Two lists of headers, one after the other, are embedded as the first, and then the second under
what the first has left of the ceiling. -/
theorem embed_append (ceiling : Option Nat) (xs ys : Metadata) :
    let front := xs.embed ceiling
    let back := ys.embed (roomLeft ceiling front.size)
    (xs ++ ys).embed ceiling
      = ⟨front.content ++ back.content, front.size + back.size,
          front.truncated || back.truncated⟩ := by
  intro front back
  have hback : embedAfter ceiling front.size ys
      = ⟨back.content, front.size + back.size, back.truncated⟩ :=
    embedAfter_add (xs.accounts_embed ceiling).within 0 ys
  calc
    (xs ++ ys).embed ceiling
      = ⟨front.content ++ (embedAfter ceiling front.size ys).content,
          (embedAfter ceiling front.size ys).size,
          front.truncated || (embedAfter ceiling front.size ys).truncated⟩ :=
        embedAfter_append ceiling 0 xs ys
    _ = ⟨front.content ++ back.content, front.size + back.size,
          front.truncated || back.truncated⟩ := by rw [hback]

/-- What was embedded once is embedded again as a whole wherever its size is allowed. -/
theorem embed_embed (ceiling : Option Nat) (metadata : Metadata) {other : Option Nat}
    (h : Within other (metadata.embed ceiling).size) :
    (metadata.embed ceiling).content.embed other
      = ⟨(metadata.embed ceiling).content, (metadata.embed ceiling).size, false⟩ := by
  rw [(metadata.accounts_embed ceiling).size] at h ⊢
  exact embed_of_within h

/-- **Headers are embedded as a stream.** What is embedded of two lists of headers, one after the
other, is what is embedded of the first, and then what is embedded of the second under what the first
has left of the ceiling, which the first never overdraws. The sizes add up, also as 64-bit numbers, and
headers are truncated if either list is. So headers that were embedded once are embedded again, unchanged
and without truncation, under any ceiling that their size is within. -/
theorem embeds_as_stream (ceiling : Option Nat) {xs ys : Metadata}
    (hfits : (xs ++ ys).size < 2 ^ 64) :
    let front := xs.embed ceiling
    let back := ys.embed (roomLeft ceiling front.size)
    (xs ++ ys).embed ceiling
        = ⟨front.content ++ back.content, front.size + back.size,
            front.truncated || back.truncated⟩
      ∧ (∀ limit ∈ ceiling, front.size ≤ limit)
      ∧ (UInt64.ofNat ((xs ++ ys).embed ceiling).size).toNat
          = (UInt64.ofNat front.size).toNat + (UInt64.ofNat back.size).toNat
      ∧ ∀ other, Within other front.size →
          front.content.embed other = ⟨front.content, front.size, false⟩ := by
  intro front back
  have hstream := embed_append ceiling xs ys
  obtain ⟨hxs, hys⟩ : xs.size < 2 ^ 64 ∧ ys.size < 2 ^ 64 := by
    rw [size_append] at hfits
    omega
  refine ⟨hstream, (xs.accounts_embed ceiling).within, ?_, fun _ => embed_embed ceiling xs⟩
  rw [toNat_size_embed ceiling hfits, toNat_size_embed ceiling hxs, toNat_size_embed _ hys, hstream]

/-- Cut behind a header that does not fit under twelve bytes, the second part has two bytes left. -/
theorem embeds_as_stream_after_gap :
    let xs : Metadata := [⟨"a", List.replicate 9 1⟩, ⟨"b", List.replicate 9 2⟩]
    let ys : Metadata := [⟨"c", [3, 3]⟩, ⟨"d", [4]⟩]
    (xs ++ ys).size < 2 ^ 64
      ∧ (xs ++ ys).embed (some 12) = ⟨[⟨"a", List.replicate 9 1⟩] ++ [⟨"d", [4]⟩], 10 + 2, true⟩
      ∧ Metadata.embed (some 10) [⟨"a", List.replicate 9 1⟩]
          = ⟨[⟨"a", List.replicate 9 1⟩], 10, false⟩ := by
  intro xs ys
  have hfits : (xs ++ ys).size < 2 ^ 64 := by decide
  have hfront : xs.embed (some 12) = ⟨[⟨"a", List.replicate 9 1⟩], 10, true⟩ := by decide
  have hback : ys.embed (roomLeft (some 12) 10) = ⟨[⟨"d", [4]⟩], 2, true⟩ := by decide
  obtain ⟨hstream, -, -, hagain⟩ := embeds_as_stream (some 12) hfits
  rw [hfront, hback] at hstream
  rw [hfront] at hagain
  exact ⟨hfits, hstream, hagain (some 10) (by decide)⟩

end CallLog.Metadata
