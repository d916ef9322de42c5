/-!
# Splitting at a separator

A text is cut at every occurrence of a separator; there is always one part more than separators.
Joining parts that do not hold the separator and splitting the result gives the parts back.
-/

namespace CallLog.Text

/-- The parts of a text between separators. -/
def split (separator : Char) : List Char → List (List Char)
  | [] => [[]]
  | c :: cs =>
    if c = separator then [] :: split separator cs
    else
      match split separator cs with
      | [] => [[c]]
      | part :: parts => (c :: part) :: parts

theorem split_of_not_mem {separator : Char} {cs : List Char} (h : separator ∉ cs) :
    split separator cs = [cs] := by
  induction cs with
  | nil => rfl
  | cons c cs ih =>
    rw [List.mem_cons, not_or] at h
    simp [split, Ne.symm h.1, ih h.2]

theorem split_append_separator {separator : Char} {cs : List Char} (h : separator ∉ cs)
    (rest : List Char) :
    split separator (cs ++ separator :: rest) = cs :: split separator rest := by
  induction cs with
  | nil => simp [split]
  | cons c cs ih =>
    rw [List.mem_cons, not_or] at h
    simp [split, Ne.symm h.1, ih h.2]

/-- Parts that do not hold the separator are found again after joining. -/
theorem split_intercalate {separator : Char} {parts : List (List Char)} (hne : parts ≠ [])
    (h : ∀ part ∈ parts, separator ∉ part) :
    split separator ([separator].intercalate parts) = parts := by
  induction parts with
  | nil => exact absurd rfl hne
  | cons part parts ih =>
    have hpart := h part (by simp)
    cases parts with
    | nil => simpa [List.intercalate] using split_of_not_mem hpart
    | cons next parts =>
      have hrest := ih (by simp) fun p hp => h p (by simp [hp])
      have hsplit := split_append_separator hpart ([separator].intercalate (next :: parts))
      rw [hrest] at hsplit
      simpa [List.intercalate] using hsplit

end CallLog.Text
