import CallLog.Proofs.GreedySelection

/-!
# Raising a ceiling

`AtMost low high`: the ceiling `low` is no higher than the ceiling `high`, where no ceiling at all is
the highest. Two selections of headers, one under each, go together until a header fits under `high`
only. From there on they have nothing to do with each other, but by then `high` has embedded more than
`low` allows (`content_eq_or_exceeds`), and this is all that is needed: headers are embedded with no
smaller size and marked as truncated under `high` only if under `low` (`noMoreThan_embed`), although
the headers themselves may be others (`exists_embed_not_subset`). Messages are simpler, since the
beginnings of one message are ordered by their lengths. `AtMost.embeds_no_less` has both.
-/

namespace CallLog

/-! ## Ceilings in order -/

/-- A ceiling is no higher than another; no ceiling at all is the highest. -/
def AtMost : Option Nat → Option Nat → Prop
  | _, none => True
  | none, some _ => False
  | some low, some high => low ≤ high

instance (low high : Option Nat) : Decidable (AtMost low high) :=
  match low, high with
  | _, none => inferInstanceAs (Decidable True)
  | none, some _ => inferInstanceAs (Decidable False)
  | some low, some high => inferInstanceAs (Decidable (low ≤ high))

variable {low high : Option Nat}

/-- What is within a ceiling is within all higher ones. -/
theorem AtMost.within (h : AtMost low high) {size : Nat} (hsize : Within low size) :
    Within high size := by
  match low, high, h with
  | _, none, _ => exact within_none size
  | some low, some high, h => exact (within_some ..).2 (Nat.le_trans ((within_some ..).1 hsize) h)

/-- A size that a ceiling allows is smaller than one that it does not. -/
theorem Within.lt_of_not {ceiling : Option Nat} {m n : Nat} (hm : Within ceiling m)
    (hn : ¬Within ceiling n) : m < n :=
  Nat.lt_of_not_le fun hle => hn (hm.of_le hle)

theorem not_within_iff {ceiling : Option Nat} {size : Nat} :
    ¬Within ceiling size ↔ ∃ limit ∈ ceiling, limit < size := by
  simp [Within]

/-- What is embedded is no more than what is embedded otherwise: not larger, and marked as truncated
wherever the other is. -/
structure Embedded.NoMoreThan {α : Type} (few many : Embedded α) : Prop where
  size : few.size ≤ many.size
  truncated : many.truncated = true → few.truncated = true

/-- What is marked as truncated under a higher ceiling is so under a lower one too, where the books are
kept on one whole. -/
theorem Embedded.Accounts.truncated_of_atMost {α : Type} {measure : α → Nat} {whole : α}
    {few many : Embedded α} (hfew : few.Accounts measure low whole)
    (hmany : many.Accounts measure high whole) (h : AtMost low high) (hmark : many.truncated = true) :
    few.truncated = true :=
  hfew.truncated.2 fun hwhole => hmany.truncated.1 hmark (h.within hwhole)

/-! ## Metadata -/

namespace Metadata

/-- **Under two ceilings the same headers are embedded, or under the higher one more than the lower
one allows.** The first header that fits under the higher one only takes the total past the lower one,
and the total never shrinks again. -/
theorem content_eq_or_exceeds (h : AtMost low high) (used : Nat) (metadata : Metadata) :
    (embedAfter low used metadata).content = (embedAfter high used metadata).content
      ∨ ¬Within low (embedAfter high used metadata).size := by
  induction metadata generalizing used with
  | nil => exact .inl rfl
  | cons header rest ih =>
    unfold embedAfter
    by_cases hlow : Within low (used + header.size)
    · rw [if_pos hlow, if_pos (h.within hlow)]
      exact (ih (used + header.size)).imp_left (congrArg (header :: ·))
    · rw [if_neg hlow]
      -- here the selections part, unless the header is too large for both
      by_cases hhigh : Within high (used + header.size)
      · rw [if_pos hhigh]
        have hgrows := le_size_embedAfter high (used + header.size) rest
        exact .inr fun hwithin => hlow (hwithin.of_le hgrows)
      · rw [if_neg hhigh]
        exact ih used

theorem embed_content_eq_or_exceeds (h : AtMost low high) (metadata : Metadata) :
    (metadata.embed low).content = (metadata.embed high).content
      ∨ ¬Within low (metadata.embed high).size :=
  content_eq_or_exceeds h 0 metadata

theorem noMoreThan_embed (h : AtMost low high) (metadata : Metadata) :
    (metadata.embed low).NoMoreThan (metadata.embed high) := by
  have hlow := metadata.accounts_embed low
  have hhigh := metadata.accounts_embed high
  refine ⟨?_, hlow.truncated_of_atMost hhigh h⟩
  rcases embed_content_eq_or_exceeds h metadata with heq | hexceeds
  · have hsize : (metadata.embed low).size = (metadata.embed high).size := by
      rw [hlow.size, hhigh.size, heq]
    exact Nat.le_of_eq hsize
  · exact Nat.le_of_lt (hlow.within.lt_of_not hexceeds)

/-- A higher ceiling may let in a large header and then have no room for a smaller one. -/
theorem exists_embed_not_subset :
    ∃ (low high : Option Nat) (metadata : Metadata), AtMost low high
      ∧ ¬(metadata.embed low).content ⊆ (metadata.embed high).content :=
  ⟨some 2, some 3, [⟨"a", [1, 1]⟩, ⟨"b", [2]⟩], by decide, by decide⟩

end Metadata

/-! ## Messages -/

namespace Message

@[simp] theorem content_embed_none (message : Bytes) : (embed none message).content = message := by
  rw [embed_of_within (within_none _)]

@[simp] theorem content_embed_some (limit : Nat) (message : Bytes) :
    (embed (some limit) message).content = message.take limit := by
  unfold embed
  split
  · rename_i hwithin
    exact (List.take_of_length_le ((within_some ..).1 hwithin)).symm
  · rfl

theorem prefix_embed_of_atMost (h : AtMost low high) (message : Bytes) :
    (embed low message).content <+: (embed high message).content := by
  match low, high, h with
  | low, none, _ =>
    rw [content_embed_none]
    exact prefix_embed low message
  | some low, some high, h =>
    rw [content_embed_some, content_embed_some]
    exact List.take_prefix_take_left h

/-- Cutting at the higher ceiling first makes no difference. -/
theorem content_embed_embed (h : AtMost low high) (message : Bytes) :
    (embed low (embed high message).content).content = (embed low message).content := by
  match low, high, h with
  | low, none, _ => rw [content_embed_none]
  | some low, some high, h =>
    rw [content_embed_some, content_embed_some, content_embed_some, List.take_take,
      Nat.min_eq_left h]

theorem noMoreThan_embed (h : AtMost low high) (message : Bytes) :
    (embed low message).NoMoreThan (embed high message) := by
  refine ⟨?_, (accounts_embed low message).truncated_of_atMost (accounts_embed high message) h⟩
  rw [size_embed, size_embed]
  exact (prefix_embed_of_atMost h message).length_le

end Message

/-! ## Both -/

/-- **Raising a ceiling never embeds fewer bytes.** Of any headers, the size under a higher ceiling is
no smaller, also as a 64-bit number, and they are truncated under it only if under a lower one too. If
other headers are embedded under it, their size is more than the lower ceiling; a header that is embedded
under the lower one may be missing among them. Messages are no smaller under a higher ceiling either,
and truncated only if under a lower one too. What is embedded of them under the lower ceiling is a
beginning of what is embedded under the higher one, and cutting that gives the same. -/
theorem AtMost.embeds_no_less (h : AtMost low high) {metadata : Metadata}
    (hfits : metadata.size < 2 ^ 64) (message : Bytes) :
    (metadata.embed low).NoMoreThan (metadata.embed high)
      ∧ UInt64.ofNat (metadata.embed low).size ≤ UInt64.ofNat (metadata.embed high).size
      ∧ ((metadata.embed low).content ≠ (metadata.embed high).content →
          ∃ limit ∈ low, limit < (metadata.embed high).size)
      ∧ (∃ (low high : Option Nat) (metadata : Metadata), AtMost low high
          ∧ ¬(metadata.embed low).content ⊆ (metadata.embed high).content)
      ∧ (Message.embed low message).NoMoreThan (Message.embed high message)
      ∧ (Message.embed low message).content <+: (Message.embed high message).content
      ∧ (Message.embed low (Message.embed high message).content).content
          = (Message.embed low message).content := by
  have hheaders := Metadata.noMoreThan_embed h metadata
  refine ⟨hheaders, ?_, fun hne => ?_, Metadata.exists_embed_not_subset,
    Message.noMoreThan_embed h message, Message.prefix_embed_of_atMost h message,
    Message.content_embed_embed h message⟩
  · rw [UInt64.le_iff_toNat_le, Metadata.toNat_size_embed low hfits,
      Metadata.toNat_size_embed high hfits]
    exact hheaders.size
  · rcases Metadata.embed_content_eq_or_exceeds h metadata with heq | hexceeds
    · exact absurd heq hne
    · exact not_within_iff.1 hexceeds

/-- With four bytes allowed two small headers are embedded, with five the large one before them. -/
theorem AtMost.embeds_no_less_past_divergence :
    let metadata : Metadata := [⟨"large", []⟩, ⟨"a", [1]⟩, ⟨"b", [2]⟩]
    AtMost (some 4) (some 5) ∧ metadata.size < 2 ^ 64
      ∧ (metadata.embed (some 4)).content = [⟨"a", [1]⟩, ⟨"b", [2]⟩]
      ∧ (metadata.embed (some 5)).content = [⟨"large", []⟩]
      ∧ ∃ limit ∈ some 4, limit < (metadata.embed (some 5)).size := by
  intro metadata
  have hle : AtMost (some 4) (some 5) := by decide
  have hfits : metadata.size < 2 ^ 64 := by decide
  have hlow : (metadata.embed (some 4)).content = [⟨"a", [1]⟩, ⟨"b", [2]⟩] := by decide
  have hhigh : (metadata.embed (some 5)).content = [⟨"large", []⟩] := by decide
  obtain ⟨-, -, hexceeds, -⟩ := hle.embeds_no_less hfits []
  exact ⟨hle, hfits, hlow, hhigh, hexceeds (by rw [hlow, hhigh]; decide)⟩

end CallLog
