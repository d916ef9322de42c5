import CallLog.Call.Ceiling
import Mathlib.Algebra.Group.Nat.Defs

/-!
# The headers that fit under a ceiling

Headers are taken one by one, and each is kept or left out (`Divided`). The ones left out are
`leftOutAfter`, by the same recursion that keeps the others: nothing but them is missing from what is
embedded (`divided_embedAfter`), something is marked as missing just if there are any
(`truncated_embedAfter_iff_leftOut`), and none of them fits once all headers have been looked at, since
the total only grows (`not_within_of_mem_leftOutAfter`). `embed_keeps_what_fits`: what is embedded under
a ceiling is within it, is the whole where the whole is within it, and cannot be made larger by any
header left out.
-/

namespace CallLog.Metadata

/-! ## Kept and left out -/

/-- Headers are divided, in order, into those kept and those left out; of two equal headers one may be
kept and the other left out. -/
inductive Divided : Metadata → Metadata → Metadata → Prop
  | nil : Divided [] [] []
  | keep {metadata kept leftOut : Metadata} (header : Header) (h : Divided metadata kept leftOut) :
    Divided (header :: metadata) (header :: kept) leftOut
  | leave {metadata kept leftOut : Metadata} (header : Header) (h : Divided metadata kept leftOut) :
    Divided (header :: metadata) kept (header :: leftOut)

namespace Divided

variable {metadata kept leftOut : Metadata}

theorem sublist_kept (h : Divided metadata kept leftOut) : kept.Sublist metadata := by
  induction h with
  | nil => exact .slnil
  | keep header _ ih => exact ih.cons_cons header
  | leave header _ ih => exact ih.cons header

theorem eq_kept (h : Divided metadata kept []) : kept = metadata := by
  generalize hnil : ([] : Metadata) = leftOut at h
  induction h with
  | nil => rfl
  | keep header _ ih => rw [ih hnil]
  | leave => cases hnil

end Divided

/-- The headers that do not fit when `used` bytes are taken already. -/
def leftOutAfter (ceiling : Option Nat) (used : Nat) : Metadata → Metadata
  | [] => []
  | header :: rest =>
    if Within ceiling (used + header.size) then leftOutAfter ceiling (used + header.size) rest
    else header :: leftOutAfter ceiling used rest

variable (ceiling : Option Nat) (used : Nat) (metadata : Metadata)

theorem divided_embedAfter :
    Divided metadata (embedAfter ceiling used metadata).content
      (leftOutAfter ceiling used metadata) := by
  induction metadata generalizing used with
  | nil => exact .nil
  | cons header rest ih =>
    simp only [embedAfter, leftOutAfter]
    split
    · exact .keep header (ih _)
    · exact .leave header (ih used)

theorem truncated_embedAfter_iff_leftOut :
    (embedAfter ceiling used metadata).truncated = true
      ↔ leftOutAfter ceiling used metadata ≠ [] := by
  induction metadata generalizing used with
  | nil => simp [embedAfter, leftOutAfter]
  | cons header rest ih =>
    simp only [embedAfter, leftOutAfter]
    split
    · exact ih _
    · simp

theorem le_size_embedAfter : used ≤ (embedAfter ceiling used metadata).size := by
  rw [size_embedAfter]
  exact Nat.le_add_right _ _

/-- A header is left out at a total that it does not fit on top of, and the total at the end is no
smaller. -/
theorem not_within_of_mem_leftOutAfter {header : Header}
    (h : header ∈ leftOutAfter ceiling used metadata) :
    ¬Within ceiling ((embedAfter ceiling used metadata).size + header.size) := by
  induction metadata generalizing used with
  | nil => cases h
  | cons first rest ih =>
    simp only [embedAfter, leftOutAfter] at h ⊢
    split at h
    next hfits =>
      rw [if_pos hfits]
      exact ih _ h
    next hfits =>
      rw [if_neg hfits]
      obtain rfl | h := List.mem_cons.1 h
      · have hgrows := le_size_embedAfter ceiling used rest
        exact fun hlater => hfits (hlater.of_le (Nat.add_le_add_right hgrows _))
      · exact ih used h

/-! ## Selections -/

/-- What is embedded of headers under a ceiling, when others are left out: it is exact about its size
and its gaps, it is within the ceiling, and nothing that was left out would be. -/
structure Selection (embedded : Embedded Metadata) (leftOut : Metadata) : Prop where
  divided : Divided metadata embedded.content leftOut
  size : embedded.size = Metadata.size embedded.content
  within : Within ceiling embedded.size
  truncated : embedded.truncated = true ↔ leftOut ≠ []
  maximal : ∀ header ∈ leftOut, ¬Within ceiling (embedded.size + header.size)

theorem selection_embed :
    Selection ceiling metadata (metadata.embed ceiling) (leftOutAfter ceiling 0 metadata) := by
  obtain ⟨hsize, hwithin, -⟩ := metadata.accounts_embed ceiling
  exact ⟨divided_embedAfter ceiling 0 metadata, hsize, hwithin,
    truncated_embedAfter_iff_leftOut ceiling 0 metadata,
    fun _ => not_within_of_mem_leftOutAfter ceiling 0 metadata⟩

/-- Nothing is left out of what is within the ceiling. -/
theorem embed_of_within {ceiling : Option Nat} {metadata : Metadata}
    (h : Within ceiling metadata.size) :
    metadata.embed ceiling = ⟨metadata, metadata.size, false⟩ := by
  obtain ⟨hdivided, hsize, -, hleftOut, -⟩ := selection_embed ceiling metadata
  obtain ⟨-, -, htruncated⟩ := metadata.accounts_embed ceiling
  have hwhole : ¬(metadata.embed ceiling).truncated = true := fun hmark => htruncated.1 hmark h
  have hnil : leftOutAfter ceiling 0 metadata = [] :=
    Decidable.not_not.1 fun hne => hwhole (hleftOut.2 hne)
  rw [hnil] at hdivided
  have hcontent := hdivided.eq_kept
  rw [hcontent] at hsize
  calc
    metadata.embed ceiling
      = ⟨(metadata.embed ceiling).content, (metadata.embed ceiling).size,
          (metadata.embed ceiling).truncated⟩ := rfl
    _ = ⟨metadata, metadata.size, false⟩ := by rw [hcontent, hsize, Bool.eq_false_iff.2 hwhole]

/-- The size of embedded headers is exact as a 64-bit number where the size of all headers is one. -/
theorem toNat_size_embed (ceiling : Option Nat) {metadata : Metadata} (h : metadata.size < 2 ^ 64) :
    (UInt64.ofNat (metadata.embed ceiling).size).toNat = (metadata.embed ceiling).size := by
  have hle := size_le_of_sublist (metadata.sublist_embed ceiling)
  rw [← (metadata.accounts_embed ceiling).size] at hle
  exact UInt64.toNat_ofNat_of_lt' (Nat.lt_of_le_of_lt hle h)

/-- **What is embedded under a ceiling is all that fits.** The headers are divided into the embedded
ones, in order, and those left out. The size is exactly that of the embedded headers, also as a 64-bit
number, and within the ceiling. The truncation mark is set just if a header was left out, which is just
if all headers together are over the ceiling; otherwise the same is embedded as without a ceiling,
namely everything. No header that was left out would fit on top of the size. -/
theorem embed_keeps_what_fits (ceiling : Option Nat) (metadata : Metadata)
    (hfits : metadata.size < 2 ^ 64) :
    let embedded := metadata.embed ceiling
    ∃ leftOut, Selection ceiling metadata embedded leftOut
      ∧ embedded.content.Sublist metadata
      ∧ (UInt64.ofNat embedded.size).toNat = Metadata.size embedded.content
      ∧ (embedded.truncated = true ↔ ¬Within ceiling metadata.size)
      ∧ (Within ceiling metadata.size →
          embedded = metadata.embed none ∧ embedded.content = metadata) := by
  intro embedded
  have hselection := selection_embed ceiling metadata
  have hsublist := hselection.divided.sublist_kept
  have hsmall := Nat.lt_of_le_of_lt (size_le_of_sublist hsublist) hfits
  refine ⟨_, hselection, hsublist, ?_, (metadata.accounts_embed ceiling).truncated, fun h => ?_⟩
  · rw [hselection.size]
    exact UInt64.toNat_ofNat_of_lt' hsmall
  · have hwhole : embedded = ⟨metadata, metadata.size, false⟩ := embed_of_within h
    rw [hwhole, embed_of_within (within_none _)]
    exact ⟨rfl, rfl⟩

/-- Under a ceiling of 22 bytes the second of two equal headers is left out, and smaller ones after it,
also one without any bytes, still fill the ceiling exactly. -/
theorem embed_keeps_what_fits_after_gap :
    let tenBytes : Header := ⟨"b", List.replicate 9 2⟩
    let metadata : Metadata :=
      [⟨"a", List.replicate 9 1⟩, tenBytes, tenBytes, ⟨"", []⟩, ⟨"c", [3]⟩]
    let kept : Metadata := [⟨"a", List.replicate 9 1⟩, tenBytes, ⟨"", []⟩, ⟨"c", [3]⟩]
    metadata.size < 2 ^ 64
      ∧ ∃ leftOut, Selection (some 22) metadata ⟨kept, 22, true⟩ leftOut ∧ leftOut ≠ [] := by
  intro tenBytes metadata kept
  have hfits : metadata.size < 2 ^ 64 := by decide
  have hembed : metadata.embed (some 22) = ⟨kept, 22, true⟩ := by decide
  obtain ⟨leftOut, hselection, -⟩ := embed_keeps_what_fits (some 22) metadata hfits
  rw [hembed] at hselection
  exact ⟨hfits, leftOut, hselection, hselection.truncated.1 rfl⟩

end CallLog.Metadata
