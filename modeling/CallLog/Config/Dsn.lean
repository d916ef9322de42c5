/-!
# Data source names

A DSN selects a sink: a scheme in any letter case, `://`, and for the cloud sink perhaps a project.
The text of a DSN is kept as it was given. A `Dsn` need not come from `parse?`; its project is
defined for every kind and text.
-/

namespace CallLog

/-- The sinks that a configuration can select. -/
inductive SinkKind where
  | cloud
  | discard
  | memory
  deriving DecidableEq, Repr

namespace SinkKind

/-- The kinds in the order in which their schemes are tried. -/
def all : List SinkKind := [cloud, discard, memory]

/-- The name of a kind in diagnostics. -/
def name : SinkKind → String
  | cloud => "CloudLogging"
  | discard => "Noop"
  | memory => "Memory"

/-- What a DSN of a kind begins with. -/
def scheme : SinkKind → String
  | cloud => "cloudlogging://"
  | discard => "noop://"
  | memory => "memory://"

end SinkKind

/-- A selected sink and the text that selected it. -/
structure Dsn where
  kind : SinkKind
  text : String
  deriving DecidableEq, Repr

namespace Dsn

/-! ## Schemes -/

/-- A text begins with a scheme, where an ASCII letter may be in either case. -/
def HasScheme (scheme text : List Char) : Prop :=
  (text.take scheme.length).map Char.toLower = scheme

instance (scheme text : List Char) : Decidable (HasScheme scheme text) := by
  unfold HasScheme; infer_instance

/-- The DSN of a text, if it begins with a known scheme. -/
def parse? (text : String) : Option Dsn :=
  (SinkKind.all.find? fun kind => HasScheme kind.scheme.toList text.toList).map (⟨·, text⟩)

@[simp] theorem text_of_parse? {text : String} {dsn : Dsn} (h : parse? text = some dsn) :
    dsn.text = text := by
  simp only [parse?, Option.map_eq_some_iff] at h
  obtain ⟨_, _, rfl⟩ := h
  rfl

/-! ## Projects -/

/-- What follows the first `n` bytes of the UTF-8 form, if these are whole characters. -/
def afterBytes? : Nat → List Char → Option (List Char)
  | 0, cs => some cs
  | _ + 1, [] => none
  | n + 1, c :: cs => if c.utf8Size ≤ n + 1 then afterBytes? (n + 1 - c.utf8Size) cs else none

theorem utf8ByteSize_cons (c : Char) (cs : List Char) :
    (String.ofList (c :: cs)).utf8ByteSize = c.utf8Size + (String.ofList cs).utf8ByteSize := by
  rw [String.ofList_cons, String.utf8ByteSize_append, String.utf8ByteSize_singleton]

/-- The first `n` bytes are whole characters exactly when some characters in front take `n`
bytes. -/
theorem afterBytes?_eq_some_iff {n : Nat} {cs rest : List Char} :
    afterBytes? n cs = some rest
      ↔ ∃ front, cs = front ++ rest ∧ (String.ofList front).utf8ByteSize = n := by
  induction cs generalizing n with
  | nil =>
    cases n with
    | zero =>
      simp only [afterBytes?, Option.some.injEq, List.nil_eq, List.append_eq_nil_iff]
      exact ⟨fun h => ⟨[], ⟨rfl, h⟩, rfl⟩, fun ⟨_, h, _⟩ => h.2⟩
    | succ n =>
      simp only [afterBytes?, reduceCtorEq, false_iff]
      rintro ⟨front, hnil, hsum⟩
      simp [(List.nil_eq_append_iff.1 hnil).1] at hsum
  | cons c cs ih =>
    have hpos := c.utf8Size_pos
    cases n with
    | zero =>
      simp only [afterBytes?, Option.some.injEq]
      refine ⟨fun h => ⟨[], h, rfl⟩, ?_⟩
      rintro ⟨front, happend, hsum⟩
      cases front with
      | nil => exact happend
      | cons d front =>
        have := d.utf8Size_pos
        rw [utf8ByteSize_cons] at hsum
        omega
    | succ n =>
      simp only [afterBytes?]
      split
      next hle =>
        rw [ih]
        constructor
        · rintro ⟨front, rfl, hsum⟩
          exact ⟨c :: front, rfl, by rw [utf8ByteSize_cons]; omega⟩
        · rintro ⟨front, happend, hsum⟩
          cases front with
          | nil => simp at hsum
          | cons d front =>
            obtain ⟨rfl, rfl⟩ := List.cons.inj happend
            rw [utf8ByteSize_cons] at hsum
            exact ⟨front, rfl, by omega⟩
      next hle =>
        simp only [reduceCtorEq, false_iff]
        rintro ⟨front, happend, hsum⟩
        cases front with
        | nil => simp at hsum
        | cons d front =>
          obtain ⟨rfl, rfl⟩ := List.cons.inj happend
          rw [utf8ByteSize_cons] at hsum
          omega

/-- What stands between the bytes of the cloud scheme and the next slash, unless that is empty or
does not begin at a character. -/
def segment? (text : String) : Option String :=
  match afterBytes? SinkKind.cloud.scheme.utf8ByteSize text.toList with
  | none => none
  | some rest =>
    let project := rest.takeWhile (· ≠ '/')
    if project = [] then none else some (String.ofList project)

/-- The project that a DSN of the cloud sink names. -/
def project? (dsn : Dsn) : Option String :=
  if dsn.kind = .cloud then segment? dsn.text else none

end Dsn
end CallLog
