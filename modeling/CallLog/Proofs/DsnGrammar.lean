import CallLog.Proofs.Configuration
import Mathlib.Data.List.Forall2

/-!
# The grammar of data source names

A DSN opens with a scheme whatever the case of its ASCII letters (`Dsn.Opens`), which at most one kind
of sink has (`kind_unique`), so that the schemes decide which texts are accepted and as what
(`parse?_eq_some_iff`). The project is what stands from a byte of the text on up to a slash
(`Dsn.IsSegment`), if that byte begins a character. Where a text opens with the scheme of the cloud
sink the byte is the one behind it, since letters of either case take one byte each
(`utf8ByteSize_of_ignoringCase`). `Dsn.parse?_and_project?` puts both together.
-/

namespace CallLog.Dsn

/-! ## Letter case -/

/-- Two characters are equal, or they are one ASCII letter in its two cases. -/
def SameLetter (c d : Char) : Prop :=
  c = d ∨ c.isUpper ∧ c.toNat + 32 = d.toNat ∨ d.isUpper ∧ d.toNat + 32 = c.toNat

/-- Two texts are equal up to the case of ASCII letters. -/
def IgnoringCase (a b : String) : Prop := List.Forall₂ SameLetter a.toList b.toList

theorem sameLetter_iff {c d : Char} : SameLetter c d ↔ c.toLower = d.toLower := by
  rw [← Char.toNat_inj, toNat_toLower, toNat_toLower, SameLetter, ← Char.toNat_inj (c := c)]
  simp only [isUpper_iff]
  split <;> split <;> omega

theorem ignoringCase_iff {a b : String} :
    IgnoringCase a b ↔ a.toList.map Char.toLower = b.toList.map Char.toLower := by
  have hrel : SameLetter = fun c d => c.toLower = d.toLower := by
    funext c d
    exact propext sameLetter_iff
  rw [← List.forall₂_eq_eq_eq, List.forall₂_map_left_iff, List.forall₂_map_right_iff, IgnoringCase,
    hrel]

/-! ## Schemes -/

/-- The schemes and the kinds of sink that they select. -/
def schemes : List (SinkKind × String) :=
  [(.cloud, "cloudlogging://"), (.discard, "noop://"), (.memory, "memory://")]

/-- A text begins with a scheme, whatever the case of its ASCII letters. -/
def Opens (scheme text : String) : Prop :=
  ∃ front rest, text = front ++ rest ∧ IgnoringCase front scheme

theorem mem_schemes_iff {kind : SinkKind} {scheme : String} :
    (kind, scheme) ∈ schemes ↔ scheme = kind.scheme := by
  cases kind <;> simp [schemes, SinkKind.scheme]

theorem ignoringCase_scheme_iff (kind : SinkKind) {front : String} :
    IgnoringCase front kind.scheme ↔ front.toList.map Char.toLower = kind.scheme.toList := by
  have hlower : kind.scheme.toList.map Char.toLower = kind.scheme.toList := by
    cases kind <;> decide
  rw [ignoringCase_iff, hlower]

theorem opens_scheme_iff {kind : SinkKind} {text : String} :
    Opens kind.scheme text ↔ HasScheme kind.scheme.toList text.toList := by
  simp only [hasScheme_iff, BeginsWith, Opens, ignoringCase_scheme_iff]

/-- The first letters of the schemes differ. -/
theorem kind_unique {text : String} {kind kind' : SinkKind} (h : Opens kind.scheme text)
    (h' : Opens kind'.scheme text) : kind = kind' := by
  have hfirst {kind : SinkKind} (h : Opens kind.scheme text) :
      text.toList.head?.map Char.toLower = kind.scheme.toList.head? := by
    obtain ⟨front, rest, rfl, hfront⟩ := h
    rw [ignoringCase_scheme_iff] at hfront
    rw [← hfront, String.toList_append]
    cases hlist : front.toList with
    | nil =>
      rw [hlist] at hfront
      cases kind <;> cases hfront
    | cons c cs => rfl
  have hsame := (hfirst h).symm.trans (hfirst h')
  cases kind <;> cases kind' <;> first | rfl | exact absurd hsame (by decide)

theorem parse?_eq_some_iff {text : String} {dsn : Dsn} :
    parse? text = some dsn ↔ dsn.text = text ∧ Opens dsn.kind.scheme text := by
  rw [parse?, Option.map_eq_some_iff]
  constructor
  · rintro ⟨kind, hfind, rfl⟩
    have hscheme := List.find?_some hfind
    exact ⟨rfl, opens_scheme_iff.2 (of_decide_eq_true hscheme)⟩
  · rintro ⟨rfl, hopens⟩
    cases hfind : SinkKind.all.find? fun kind => HasScheme kind.scheme.toList dsn.text.toList with
    | none =>
      have hmem : dsn.kind ∈ SinkKind.all := by cases dsn.kind <;> decide
      have hnone := List.find?_eq_none.1 hfind dsn.kind hmem
      exact absurd (decide_eq_true (opens_scheme_iff.1 hopens)) hnone
    | some kind =>
      have hscheme := List.find?_some hfind
      rw [kind_unique (opens_scheme_iff.2 (of_decide_eq_true hscheme)) hopens]
      exact ⟨_, rfl, rfl⟩

/-! ## Segments -/

/-- The longest beginning of a text that has no slash. -/
structure IsSegment (text segment : String) : Prop where
  isBeginning : segment.toList <+: text.toList
  noSlash : '/' ∉ segment.toList
  longest : ∀ other : String, other.toList <+: text.toList → '/' ∉ other.toList →
    other.toList <+: segment.toList

/-- What stands before the first slash, or the end, is the segment. -/
theorem isSegment_append {segment tail : String} (hslash : '/' ∉ segment.toList)
    (htail : ∀ c ∈ tail.toList.head?, c = '/') : IsSegment (segment ++ tail) segment := by
  refine ⟨by simp, hslash, fun other hother hother' => ?_⟩
  rw [String.toList_append] at hother
  rcases List.prefix_or_prefix_of_prefix hother (List.prefix_append _ _) with hle | ⟨more, hmore⟩
  · exact hle
  · -- a longer beginning would have the first character of the tail
    rw [← hmore] at hother hother' ⊢
    rw [List.prefix_append_right_inj] at hother
    cases more with
    | nil => simp
    | cons c more =>
      obtain ⟨rest, hrest⟩ := hother
      have hc : c = '/' := htail c (by rw [← hrest]; rfl)
      simp [hc] at hother'

/-! ## Boundaries -/

/-- A byte begins a character, or is the end of the text, where some characters end. -/
theorem isValid_iff {text : String} {n : Nat} :
    String.Pos.Raw.IsValid text ⟨n⟩ ↔ ∃ front rest, text = front ++ rest ∧ front.utf8ByteSize = n := by
  rw [String.Pos.Raw.isValid_iff_exists_append]
  simp only [String.Pos.Raw.ext_iff, String.byteIdx_rawEndPos, eq_comm]

theorem segment?_eq_none {text : String} (h : ¬String.Pos.Raw.IsValid text ⟨15⟩) :
    segment? text = none := by
  have hafter : afterBytes? SinkKind.cloud.scheme.utf8ByteSize text.toList = none := by
    rw [Option.eq_none_iff_forall_ne_some]
    intro rest hrest
    obtain ⟨front, htext, hsize⟩ := afterBytes?_eq_some_iff.1 hrest
    refine h (isValid_iff.2 ⟨.ofList front, .ofList rest, ?_, hsize⟩)
    rw [← String.ofList_append, ← htext, String.ofList_toList]
  rw [segment?, hafter]

/-- What follows some characters are the bytes from their end on. -/
theorem toByteArray_rest (front rest : String) :
    rest.toByteArray = (front ++ rest).toByteArray.extract front.utf8ByteSize
      (front ++ rest).utf8ByteSize := by
  rw [String.toByteArray_append, ByteArray.extract_append_eq_right String.size_toByteArray.symm]
  rw [String.utf8ByteSize_append, String.size_toByteArray, String.size_toByteArray]

/-- Behind as many bytes as the cloud scheme has, the project is the segment of what follows. -/
theorem exists_segment?_append {front : String} (hsize : front.utf8ByteSize = 15) (rest : String) :
    ∃ segment, IsSegment rest segment
      ∧ segment? (front ++ rest) = if segment = "" then none else some segment := by
  obtain ⟨segment, tail, rfl, hslash, htail⟩ := exists_segment rest
  refine ⟨segment, isSegment_append hslash htail, ?_⟩
  rw [← String.append_assoc, segment?_append hsize hslash htail]

/-- Letters of either case take one byte. -/
theorem utf8ByteSize_of_ignoringCase {front : String} (h : IgnoringCase front "cloudlogging://") :
    front.utf8ByteSize = 15 :=
  utf8ByteSize_of_map_toLower ((ignoringCase_scheme_iff .cloud).1 h)

/-! ## Projects -/

/-- An accepted DSN of the cloud sink has its project behind the scheme. -/
theorem exists_project?_of_parse? {text : String} {dsn : Dsn} (h : parse? text = some dsn)
    (hkind : dsn.kind = .cloud) :
    String.Pos.Raw.IsValid text ⟨15⟩ ∧ ∃ front rest segment, text = front ++ rest
      ∧ IgnoringCase front "cloudlogging://" ∧ front.utf8ByteSize = 15 ∧ IsSegment rest segment
      ∧ dsn.project? = if segment = "" then none else some segment := by
  obtain ⟨rfl, hopens⟩ := parse?_eq_some_iff.1 h
  rw [hkind] at hopens
  obtain ⟨front, rest, htext, hfront⟩ := hopens
  have hsize := utf8ByteSize_of_ignoringCase hfront
  obtain ⟨segment, hsegment, hproject⟩ := exists_segment?_append hsize rest
  refine ⟨isValid_iff.2 ⟨front, rest, htext, hsize⟩, front, rest, segment, htext, hfront, hsize,
    hsegment, ?_⟩
  rw [project?, if_pos hkind, htext, hproject]

/-- Whether or not a DSN was accepted, it has a project only in the bytes from 15 on. -/
theorem project?_cases (dsn : Dsn) :
    ¬(dsn.kind = .cloud ∧ String.Pos.Raw.IsValid dsn.text ⟨15⟩) ∧ dsn.project? = none
      ∨ dsn.kind = .cloud ∧ String.Pos.Raw.IsValid dsn.text ⟨15⟩
        ∧ ∃ rest segment : String,
          rest.toByteArray = dsn.text.toByteArray.extract 15 dsn.text.utf8ByteSize
          ∧ IsSegment rest segment
          ∧ dsn.project? = if segment = "" then none else some segment := by
  by_cases hkind : dsn.kind = .cloud
  · by_cases hvalid : String.Pos.Raw.IsValid dsn.text ⟨15⟩
    · obtain ⟨front, rest, htext, hsize⟩ := isValid_iff.1 hvalid
      obtain ⟨segment, hsegment, hproject⟩ := exists_segment?_append hsize rest
      refine .inr ⟨hkind, hvalid, rest, segment, ?_, hsegment, ?_⟩
      · rw [htext, ← hsize]
        exact toByteArray_rest front rest
      · rw [project?, if_pos hkind, htext, hproject]
    · refine .inl ⟨fun h => hvalid h.2, ?_⟩
      rw [project?, if_pos hkind, segment?_eq_none hvalid]
  · exact .inl ⟨fun h => hkind h.1, if_neg hkind⟩

/-- A project behind the scheme is found as it stands. -/
theorem bind_project?_append {front project tail : String}
    (hfront : IgnoringCase front "cloudlogging://") (hne : project ≠ "")
    (hslash : '/' ∉ project.toList) (htail : ∀ c ∈ tail.toList.head?, c = '/') :
    (parse? (front ++ project ++ tail)).bind Dsn.project? = some project := by
  have hopens : Opens SinkKind.cloud.scheme (front ++ project ++ tail) :=
    ⟨front, project ++ tail, String.append_assoc, hfront⟩
  have haccepted : parse? (front ++ project ++ tail) = some ⟨.cloud, front ++ project ++ tail⟩ :=
    parse?_eq_some_iff.2 ⟨rfl, hopens⟩
  rw [haccepted, Option.bind_some, project?, if_pos rfl,
    segment?_append (utf8ByteSize_of_ignoringCase hfront) hslash htail, if_neg hne]

/-- **What a DSN selects and names.** A text is accepted exactly if it opens with a scheme, as the one
kind that the scheme selects, and is kept unchanged. If that is the cloud sink, byte 15 begins a
character or is the end, and the project is the segment behind the scheme unless that is empty. For any
kind and any text there is no project unless the kind is the cloud sink and byte 15 begins a character
or is the end; then it is the segment of the bytes from there on. So a project behind the scheme in any
case, with a slash or nothing after it, is found as it stands. -/
theorem parse?_and_project? :
    (∀ (text : String) (dsn : Dsn), parse? text = some dsn
        ↔ dsn.text = text ∧ ∃ scheme, (dsn.kind, scheme) ∈ schemes ∧ Opens scheme text)
      ∧ (∀ (text : String) (kind kind' : SinkKind) (scheme scheme' : String),
          (kind, scheme) ∈ schemes → (kind', scheme') ∈ schemes → Opens scheme text →
          Opens scheme' text → kind = kind')
      ∧ (∀ (text : String) (dsn : Dsn), parse? text = some dsn → dsn.kind = .cloud →
          String.Pos.Raw.IsValid text ⟨15⟩ ∧ ∃ front rest segment, text = front ++ rest
            ∧ IgnoringCase front "cloudlogging://" ∧ front.utf8ByteSize = 15
            ∧ IsSegment rest segment
            ∧ dsn.project? = if segment = "" then none else some segment)
      ∧ (∀ dsn : Dsn,
          ¬(dsn.kind = .cloud ∧ String.Pos.Raw.IsValid dsn.text ⟨15⟩) ∧ dsn.project? = none
            ∨ dsn.kind = .cloud ∧ String.Pos.Raw.IsValid dsn.text ⟨15⟩
              ∧ ∃ rest segment : String,
                rest.toByteArray = dsn.text.toByteArray.extract 15 dsn.text.utf8ByteSize
                ∧ IsSegment rest segment
                ∧ dsn.project? = if segment = "" then none else some segment)
      ∧ ∀ front project tail : String, IgnoringCase front "cloudlogging://" → project ≠ "" →
          '/' ∉ project.toList → (tail = "" ∨ ∃ rest, tail = "/" ++ rest) →
          (parse? (front ++ project ++ tail)).bind Dsn.project? = some project := by
  refine ⟨fun text dsn => ?_, ?_, fun text dsn => exists_project?_of_parse?, project?_cases, ?_⟩
  · simp only [parse?_eq_some_iff, mem_schemes_iff, exists_eq_left]
  · intro text kind kind' scheme scheme' hmem hmem' hopens hopens'
    rw [mem_schemes_iff.1 hmem] at hopens
    rw [mem_schemes_iff.1 hmem'] at hopens'
    exact kind_unique hopens hopens'
  · intro front project tail hfront hne hslash htail
    refine bind_project?_append hfront hne hslash ?_
    rcases htail with rfl | ⟨rest, rfl⟩
    · simp
    · intro c hc
      simpa [eq_comm] using hc

/-- The letters of a project keep their case, one of its characters may take several bytes, and a text
that was not accepted may have such a character where the project would begin. -/
example :
    (parse? "CloudLogging://Größe/logs").bind project? = some "Größe"
      ∧ project? ⟨.cloud, "cloudlogging:/éproject"⟩ = none
      ∧ project? ⟨.cloud, "cloudloggin:é/project"⟩ = some "project" := by
  decide

end CallLog.Dsn
