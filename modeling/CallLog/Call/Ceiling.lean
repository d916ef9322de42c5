import CallLog.Call.Metadata

/-!
# Ceilings

How much of a payload a record embeds. Each kind of payload may have a ceiling in bytes. A message
is cut at its ceiling. A header that would push the total past the ceiling is left out, and a later,
smaller one may still fit. What is embedded comes with its exact size and with whether something was
left out.
-/

namespace CallLog

/-- The ceilings on embedded bytes; none means no limit. -/
structure Ceilings where
  metadata : Option Nat
  message : Option Nat
  deriving DecidableEq, Repr

/-- No ceiling on anything. -/
def Ceilings.unlimited : Ceilings := ⟨none, none⟩

/-- The part of a payload that is embedded, its size, and whether something was left out. -/
structure Embedded (α : Type) where
  content : α
  size : Nat
  truncated : Bool
  deriving DecidableEq, Repr

/-- A size is within a ceiling. -/
def Within (ceiling : Option Nat) (size : Nat) : Prop := ∀ limit ∈ ceiling, size ≤ limit

instance (ceiling : Option Nat) (size : Nat) : Decidable (Within ceiling size) := by
  cases ceiling with
  | none => exact isTrue (by simp [Within])
  | some limit => exact decidable_of_iff (size ≤ limit) (by simp [Within])

@[simp] theorem within_none (size : Nat) : Within none size := by simp [Within]

@[simp] theorem within_some (limit size : Nat) : Within (some limit) size ↔ size ≤ limit := by
  simp [Within]

theorem Within.of_le {ceiling : Option Nat} {m n : Nat} (h : Within ceiling n) (hle : m ≤ n) :
    Within ceiling m := fun limit hlimit => Nat.le_trans hle (h limit hlimit)

/-- What is embedded under a ceiling keeps the books on the whole: its size is exact and within the
ceiling, and the truncation mark is set exactly when the whole is not. -/
structure Embedded.Accounts {α : Type} (measure : α → Nat) (ceiling : Option Nat) (whole : α)
    (embedded : Embedded α) : Prop where
  size : embedded.size = measure embedded.content
  within : Within ceiling embedded.size
  truncated : embedded.truncated = true ↔ ¬Within ceiling (measure whole)

/-! ## Metadata -/

namespace Metadata

/-- The headers that fit when `used` bytes are taken already; the size counts those too. -/
def embedAfter (ceiling : Option Nat) (used : Nat) : Metadata → Embedded Metadata
  | [] => ⟨[], used, false⟩
  | header :: rest =>
    if Within ceiling (used + header.size) then
      let kept := embedAfter ceiling (used + header.size) rest
      ⟨header :: kept.content, kept.size, kept.truncated⟩
    else
      let kept := embedAfter ceiling used rest
      ⟨kept.content, kept.size, true⟩

/-- The headers that fit under a ceiling, taken greedily in order. -/
def embed (ceiling : Option Nat) (metadata : Metadata) : Embedded Metadata :=
  embedAfter ceiling 0 metadata

/-- The size is the bytes taken before and those of the embedded headers. -/
theorem size_embedAfter (ceiling : Option Nat) (used : Nat) (metadata : Metadata) :
    (embedAfter ceiling used metadata).size
      = used + size (embedAfter ceiling used metadata).content := by
  induction metadata generalizing used with
  | nil => simp [embedAfter]
  | cons header rest ih =>
    simp only [embedAfter]
    split
    · simp only [ih, size_cons]; omega
    · exact ih used

theorem sublist_embedAfter (ceiling : Option Nat) (used : Nat) (metadata : Metadata) :
    (embedAfter ceiling used metadata).content.Sublist metadata := by
  induction metadata generalizing used with
  | nil => simp [embedAfter]
  | cons header rest ih =>
    simp only [embedAfter]
    split
    · exact (ih _).cons_cons _
    · exact (ih _).cons _

/-- A header is taken only where it fits, so the size never passes the ceiling. -/
theorem within_embedAfter {ceiling : Option Nat} {used : Nat} (h : Within ceiling used)
    (metadata : Metadata) : Within ceiling (embedAfter ceiling used metadata).size := by
  induction metadata generalizing used with
  | nil => exact h
  | cons header rest ih =>
    simp only [embedAfter]
    split
    · exact ih ‹_›
    · exact ih h

/-- A header that does not fit by itself does not fit with what follows it either. -/
theorem truncated_embedAfter_iff {ceiling : Option Nat} {used : Nat} (h : Within ceiling used)
    (metadata : Metadata) :
    (embedAfter ceiling used metadata).truncated = true
      ↔ ¬Within ceiling (used + size metadata) := by
  induction metadata generalizing used with
  | nil => simp [embedAfter, h]
  | cons header rest ih =>
    rw [size_cons, ← Nat.add_assoc]
    simp only [embedAfter]
    split
    next hfits => exact ih hfits
    next hfits =>
      have hwhole : ¬Within ceiling (used + header.size + size rest) := fun hwhole =>
        hfits (hwhole.of_le (Nat.le_add_right _ _))
      exact iff_of_true rfl hwhole

theorem sublist_embed (ceiling : Option Nat) (metadata : Metadata) :
    (metadata.embed ceiling).content.Sublist metadata := sublist_embedAfter ceiling 0 metadata

theorem accounts_embed (ceiling : Option Nat) (metadata : Metadata) :
    (metadata.embed ceiling).Accounts size ceiling metadata := by
  have hstart : Within ceiling 0 := fun limit _ => Nat.zero_le limit
  have hsize := size_embedAfter ceiling 0 metadata
  have htruncated := truncated_embedAfter_iff hstart metadata
  rw [Nat.zero_add] at hsize htruncated
  exact ⟨hsize, within_embedAfter hstart metadata, htruncated⟩

end Metadata

/-! ## Messages -/

namespace Message

/-- The leading bytes of a message up to its ceiling. -/
def embed (ceiling : Option Nat) (message : Bytes) : Embedded Bytes :=
  if Within ceiling message.length then ⟨message, message.length, false⟩
  else
    let kept := message.take (ceiling.getD 0)
    ⟨kept, kept.length, true⟩

/-- A message within its ceiling is embedded whole. -/
theorem embed_of_within {ceiling : Option Nat} {message : Bytes}
    (h : Within ceiling message.length) : embed ceiling message = ⟨message, message.length, false⟩ := by
  rw [embed, if_pos h]

theorem size_embed (ceiling : Option Nat) (message : Bytes) :
    (embed ceiling message).size = (embed ceiling message).content.length := by
  simp only [embed]; split <;> rfl

theorem prefix_embed (ceiling : Option Nat) (message : Bytes) :
    (embed ceiling message).content <+: message := by
  simp only [embed]
  split
  · exact List.prefix_refl _
  · exact List.take_prefix _ _

theorem accounts_embed (ceiling : Option Nat) (message : Bytes) :
    (embed ceiling message).Accounts List.length ceiling message := by
  refine ⟨size_embed ceiling message, ?_, ?_⟩
  · simp only [embed]
    split
    · assumption
    · cases ceiling with
      | none => simp
      | some limit => exact (within_some _ _).2 (List.length_take_le limit message)
  · simp only [embed]
    split <;> simp [*]

end Message
end CallLog
