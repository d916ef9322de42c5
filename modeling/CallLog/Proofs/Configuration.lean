import CallLog.Config.Setup
import CallLog.Text.Utf8.Strict

/-!
# What a configuration selects

The texts that variables are set to (`Environment.Sets`, `Environment.Gives`, `Environment.Lacks`), the
schemes that a DSN begins with (`Dsn.BeginsWith`), the project segment of a DSN (`Dsn.HasSegment`) and
the project that is chosen among them (`Environment.Chooses`), each said without the functions that read
them. What these functions find is then what there is to find: `Environment.get?_eq_some_iff`,
`Dsn.parse?_eq_none_iff`, `Dsn.segment?_of_hasSegment` and `resolveProject_of_hasSegment`.
-/

namespace CallLog

/-! ## Variables -/

namespace Environment

/-- A variable is set to a text: its value is the bytes of that text. -/
def Sets (env : Environment) (name text : String) : Prop :=
  env.bindings.lookup name = some (Text.Utf8.encode text)

/-- A variable is set to no text but the empty one: it is empty, unset, or no text at all. -/
def Lacks (env : Environment) (name : String) : Prop := ∀ text, env.Sets name text → text = ""

/-- A variable gives a text: that which it is set to, or a default if it is set to none. -/
def Gives (env : Environment) (name default text : String) : Prop :=
  env.Sets name text ∨ (∀ other, ¬env.Sets name other) ∧ text = default

instance (env : Environment) (name text : String) : Decidable (env.Sets name text) :=
  inferInstanceAs (Decidable (_ = _))

variable {env : Environment} {name text : String}

theorem Sets.unique {a b : String} (ha : env.Sets name a) (hb : env.Sets name b) : a = b := by
  have hbytes := Option.some.inj (ha.symm.trans hb)
  have hread := congrArg Text.Utf8.decode? hbytes
  rw [Text.Utf8.decode?_encode, Text.Utf8.decode?_encode] at hread
  exact Option.some.inj hread

theorem get?_eq_some_iff (h : '=' ∉ name.toList) : env.get? name = some text ↔ env.Sets name text := by
  rw [get?, bytes?_of_not_mem h, Option.bind_eq_some_iff, Sets]
  constructor
  · rintro ⟨bytes, hbytes, hread⟩
    rw [hbytes, Text.Utf8.decode?_eq_some_iff.1 hread]
  · intro hset
    exact ⟨_, hset, Text.Utf8.decode?_encode text⟩

theorem get?_eq_none_iff (h : '=' ∉ name.toList) :
    env.get? name = none ↔ ∀ text, ¬env.Sets name text := by
  simp only [Option.eq_none_iff_forall_ne_some, ne_eq, get?_eq_some_iff h]

theorem getD_eq_iff (h : '=' ∉ name.toList) {default : String} :
    env.getD name default = text ↔ env.Gives name default text := by
  rw [getD, Gives, ← get?_eq_some_iff h, ← get?_eq_none_iff h]
  cases env.get? name <;> simp [eq_comm]

theorem nonempty?_eq_some_iff (h : '=' ∉ name.toList) :
    env.nonempty? name = some text ↔ env.Sets name text ∧ text ≠ "" := by
  rw [nonempty?, Option.filter_eq_some_iff, get?_eq_some_iff h, decide_eq_true_eq]

theorem nonempty?_eq_none_iff (h : '=' ∉ name.toList) :
    env.nonempty? name = none ↔ env.Lacks name := by
  simp only [Option.eq_none_iff_forall_ne_some, ne_eq, nonempty?_eq_some_iff h, not_and,
    Decidable.not_not, Lacks]

end Environment

/-! ## Schemes -/

namespace Dsn

/-- A text begins with a scheme, where an ASCII letter may be in either case. -/
def BeginsWith (scheme text : String) : Prop :=
  ∃ front rest, text = front ++ rest ∧ front.toList.map Char.toLower = scheme.toList

theorem hasScheme_iff {scheme text : String} :
    HasScheme scheme.toList text.toList ↔ BeginsWith scheme text := by
  unfold HasScheme
  constructor
  · intro h
    refine ⟨.ofList (text.toList.take scheme.toList.length),
      .ofList (text.toList.drop scheme.toList.length), ?_, by rw [String.toList_ofList, h]⟩
    rw [← String.ofList_append, List.take_append_drop, String.ofList_toList]
  · rintro ⟨front, rest, rfl, hfront⟩
    have hlength : scheme.toList.length = front.toList.length := by
      rw [← hfront, List.length_map]
    rw [String.toList_append, hlength, List.take_left, hfront]

theorem parse?_eq_none_iff {text : String} :
    parse? text = none
      ↔ ∀ scheme ∈ ["cloudlogging://", "noop://", "memory://"], ¬BeginsWith scheme text := by
  rw [parse?, Option.map_eq_none_iff, List.find?_eq_none]
  simp only [decide_eq_true_eq, hasScheme_iff]
  -- the schemes of the kinds are the three of the list
  have hschemes : SinkKind.all.map SinkKind.scheme = ["cloudlogging://", "noop://", "memory://"] := rfl
  rw [← hschemes, List.forall_mem_map]

/-- The cloud scheme is tried first. -/
theorem kind_eq_cloud_iff {text : String} {dsn : Dsn} (h : parse? text = some dsn) :
    dsn.kind = .cloud ↔ BeginsWith "cloudlogging://" text := by
  obtain ⟨kind, hfind, rfl⟩ := Option.map_eq_some_iff.1 h
  constructor
  · rintro rfl
    have hscheme := List.find?_some hfind
    exact hasScheme_iff.1 (of_decide_eq_true hscheme)
  · intro hbegins
    have hcloud : HasScheme SinkKind.cloud.scheme.toList text.toList := hasScheme_iff.2 hbegins
    rw [SinkKind.all, List.find?_cons, decide_eq_true hcloud] at hfind
    exact (Option.some.inj hfind).symm

/-! ## Project segments -/

/-- What stands between the cloud scheme and the next slash, or the end. -/
def HasSegment (text segment : String) : Prop :=
  ∃ front tail, text = front ++ segment ++ tail
    ∧ front.toList.map Char.toLower = "cloudlogging://".toList
    ∧ '/' ∉ segment.toList ∧ ∀ c ∈ tail.toList.head?, c = '/'

/-- Every text is cut at its first slash, or at its end. -/
theorem exists_segment (text : String) :
    ∃ segment tail, text = segment ++ tail ∧ '/' ∉ segment.toList
      ∧ ∀ c ∈ tail.toList.head?, c = '/' := by
  refine ⟨.ofList (text.toList.takeWhile (· ≠ '/')), .ofList (text.toList.dropWhile (· ≠ '/')), ?_,
    ?_, ?_⟩
  · rw [← String.ofList_append, List.takeWhile_append_dropWhile, String.ofList_toList]
  · intro hmem
    rw [String.toList_ofList] at hmem
    have hall := List.all_eq_true.1 (List.all_takeWhile (p := (· ≠ '/')) (l := text.toList)) _ hmem
    simp at hall
  · intro c hc
    rw [String.toList_ofList] at hc
    have hdrop := List.head?_dropWhile_not (· ≠ '/') text.toList
    rw [hc] at hdrop
    simpa using hdrop

theorem BeginsWith.exists_hasSegment {text : String} (h : BeginsWith "cloudlogging://" text) :
    ∃ segment, HasSegment text segment := by
  obtain ⟨front, rest, rfl, hfront⟩ := h
  obtain ⟨segment, tail, rfl, hslash, htail⟩ := exists_segment rest
  exact ⟨segment, front, tail, (String.append_assoc).symm, hfront, hslash, htail⟩

theorem HasSegment.beginsWith {text segment : String} (h : HasSegment text segment) :
    BeginsWith "cloudlogging://" text := by
  obtain ⟨front, tail, rfl, hfront, -, -⟩ := h
  exact ⟨front, segment ++ tail, String.append_assoc, hfront⟩

theorem isUpper_iff {c : Char} : c.isUpper ↔ 65 ≤ c.toNat ∧ c.toNat ≤ 90 :=
  ⟨fun hupper => of_decide_eq_true hupper, fun hrange => decide_eq_true hrange⟩

/-- Only the capitals of ASCII have a lower case. -/
theorem toNat_toLower (c : Char) :
    c.toLower.toNat = if c.isUpper then c.toNat + 32 else c.toNat := by
  unfold Char.toLower
  split
  next h =>
    have hv : 65 ≤ c.val.toNat ∧ c.val.toNat ≤ 90 := h
    have hgap : ('a'.val - 'A'.val).toNat = 32 := rfl
    rw [if_pos (isUpper_iff.2 hv)]
    simp only [← Char.toNat_val, UInt32.toNat_add]
    omega
  next h =>
    have hupper : ¬c.isUpper := fun hupper => h (of_decide_eq_true hupper)
    rw [if_neg hupper]

theorem utf8Size_toLower (c : Char) : c.toLower.utf8Size = c.utf8Size := by
  by_cases hupper : c.isUpper
  · have hv := isUpper_iff.1 hupper
    have hlower := toNat_toLower c
    rw [if_pos hupper] at hlower
    rw [Char.utf8Size_eq_one_iff.2 (UInt32.le_iff_toNat_le.2 (Nat.le_trans hv.2 (by decide))),
      Char.utf8Size_eq_one_iff]
    refine UInt32.le_iff_toNat_le.2 ?_
    rw [Char.toNat_val, hlower]
    exact Nat.le_trans (Nat.add_le_add_right hv.2 32) (by decide)
  · have hlower := toNat_toLower c
    rw [if_neg hupper] at hlower
    rw [Char.toNat_inj.1 hlower]

theorem utf8ByteSize_map_toLower (cs : List Char) :
    (String.ofList (cs.map Char.toLower)).utf8ByteSize = (String.ofList cs).utf8ByteSize := by
  induction cs with
  | nil => rfl
  | cons c cs ih => rw [List.map_cons, utf8ByteSize_cons, utf8ByteSize_cons, ih, utf8Size_toLower]

theorem utf8ByteSize_of_map_toLower {a b : String} (h : a.toList.map Char.toLower = b.toList) :
    a.utf8ByteSize = b.utf8ByteSize := by
  have hmap := utf8ByteSize_map_toLower a.toList
  rw [h, String.ofList_toList, String.ofList_toList] at hmap
  exact hmap.symm

/-- As many bytes are cut off as the cloud scheme has. -/
theorem segment?_append {front segment tail : String}
    (hsize : front.utf8ByteSize = SinkKind.cloud.scheme.utf8ByteSize) (hslash : '/' ∉ segment.toList)
    (htail : ∀ c ∈ tail.toList.head?, c = '/') :
    segment? (front ++ segment ++ tail) = if segment = "" then none else some segment := by
  have hafter : afterBytes? SinkKind.cloud.scheme.utf8ByteSize (front ++ segment ++ tail).toList
      = some (segment.toList ++ tail.toList) := by
    refine afterBytes?_eq_some_iff.2 ⟨front.toList, by simp, ?_⟩
    rw [String.ofList_toList, hsize]
  have hends : tail.toList.takeWhile (· ≠ '/') = [] := by
    cases htailList : tail.toList with
    | nil => rfl
    | cons c cs =>
      obtain rfl := htail c (by rw [htailList]; rfl)
      rfl
  have hsegment : (segment.toList ++ tail.toList).takeWhile (· ≠ '/') = segment.toList := by
    rw [List.takeWhile_append_of_pos, hends, List.append_nil]
    intro c hc
    exact decide_eq_true fun hslash' => hslash (hslash' ▸ hc)
  rw [segment?, hafter]
  simp only [hsegment, String.toList_eq_nil_iff, String.ofList_toList]

/-- The bytes of the cloud scheme are cut off where the scheme ends, in either case. -/
theorem segment?_of_hasSegment {text segment : String} (h : HasSegment text segment) :
    segment? text = if segment = "" then none else some segment := by
  obtain ⟨front, tail, rfl, hfront, hslash, htail⟩ := h
  exact segment?_append (utf8ByteSize_of_map_toLower hfront) hslash htail

theorem HasSegment.unique {text a b : String} (ha : HasSegment text a) (hb : HasSegment text b) :
    a = b := by
  have hsame := (segment?_of_hasSegment ha).symm.trans (segment?_of_hasSegment hb)
  by_cases hempty : a = "" <;> by_cases hempty' : b = "" <;> simp_all

end Dsn

/-! ## Projects -/

namespace Environment

/-- The project of a segment and the variables: the first of them that is not empty. -/
def Chooses (env : Environment) (segment project : String) : Prop :=
  project ≠ "" ∧
    (segment = project ∨ segment = "" ∧
      (env.Sets "GOOGLE_CLOUD_PROJECT" project ∨ env.Lacks "GOOGLE_CLOUD_PROJECT" ∧
        env.Sets "GCLOUD_PROJECT" project))

/-- Neither a segment nor the variables give a project. -/
def ChoosesNone (env : Environment) (segment : String) : Prop :=
  segment = "" ∧ env.Lacks "GOOGLE_CLOUD_PROJECT" ∧ env.Lacks "GCLOUD_PROJECT"

end Environment

variable {env : Environment} {text segment : String}

/-- The first text that is not empty of a segment and the two variables. -/
def Environment.project? (env : Environment) (segment : String) : Option String :=
  (if segment = "" then none else some segment).or
    ((env.nonempty? "GOOGLE_CLOUD_PROJECT").or (env.nonempty? "GCLOUD_PROJECT"))

theorem Environment.project?_eq_some_iff {project : String} :
    env.project? segment = some project ↔ env.Chooses segment project := by
  rw [project?, Option.or_eq_some_iff, Option.or_eq_some_iff, nonempty?_eq_some_iff (by decide),
    nonempty?_eq_some_iff (by decide), nonempty?_eq_none_iff (by decide), Chooses]
  by_cases hempty : segment = ""
  · rw [if_pos hempty]
    constructor
    · rintro (hnone | ⟨-, ⟨hset, hne⟩ | ⟨hlacks, hset, hne⟩⟩)
      · cases hnone
      · exact ⟨hne, .inr ⟨hempty, .inl hset⟩⟩
      · exact ⟨hne, .inr ⟨hempty, .inr ⟨hlacks, hset⟩⟩⟩
    · rintro ⟨hne, heq | ⟨-, hset | ⟨hlacks, hset⟩⟩⟩
      · exact absurd (heq.symm.trans hempty) hne
      · exact .inr ⟨rfl, .inl ⟨hset, hne⟩⟩
      · exact .inr ⟨rfl, .inr ⟨hlacks, hset, hne⟩⟩
  · rw [if_neg hempty]
    constructor
    · rintro (hsome | ⟨hnone, -⟩)
      · obtain rfl := Option.some.inj hsome
        exact ⟨hempty, .inl rfl⟩
      · cases hnone
    · rintro ⟨-, rfl | ⟨heq, -⟩⟩
      · exact .inl rfl
      · exact absurd heq hempty

theorem Environment.project?_eq_none_iff :
    env.project? segment = none ↔ env.ChoosesNone segment := by
  rw [project?, Option.or_eq_none_iff, Option.or_eq_none_iff, nonempty?_eq_none_iff (by decide),
    nonempty?_eq_none_iff (by decide), ChoosesNone]
  by_cases hempty : segment = "" <;> simp [hempty]

/-- The project that is logged to depends on the segment of a DSN and the variables. -/
theorem resolveProject_of_hasSegment (h : Dsn.HasSegment text segment) :
    resolveProject env (Dsn.segment? text)
      = (env.project? segment).elim (.error .missingProject) .ok := by
  have hgiven : (Dsn.segment? text).filter (· ≠ "")
      = if segment = "" then none else some segment := by
    rw [Dsn.segment?_of_hasSegment h]
    by_cases hempty : segment = ""
    · rw [if_pos hempty, Option.filter_none]
    · rw [if_neg hempty, Option.filter_some, if_pos (decide_eq_true hempty)]
  have hor (a b : Option String) : (a <|> b) = a.or b := by cases a <;> rfl
  rw [resolveProject, hgiven, hor, hor, Environment.project?, Environment.projectVariable,
    Environment.legacyProjectVariable]
  split
  next project hsome => rw [hsome, Option.elim_some]
  next hnone => rw [hnone, Option.elim_none]

end CallLog
