import CallLog.Proofs.Endpoints

/-!
# URLs written out in full

What `HttpUrl.parse?` reads are a scheme, an authority and a rest (`HttpUrl.IsFull`), and these parts are
what it finds (`HttpUrl.IsFull.parse?`, `HttpUrl.exists_isFull`). A slash in such a URL stands behind the
authority or is one of the two before it (`HttpUrl.IsFull.cut`). So a library that reads URLs like this
keeps the rules on paths (`HttpLibrary.readsPaths_of_parse?`); `HttpLibrary.naming` is one.
-/

namespace CallLog

namespace HttpUrl

/-! ## The form of a URL -/

/-- A URL written out in full: a scheme of HTTP in any letter case, an authority, and nothing or
something that ends the authority. -/
structure IsFull (text scheme authority rest : List Char) : Prop where
  parts : ∃ letters, text = letters ++ ':' :: '/' :: '/' :: (authority ++ rest)
    ∧ letters.map Char.toLower = scheme
  scheme : scheme ∈ schemes
  nonempty : authority ≠ []
  authority : ∀ c ∈ authority, endsAuthority c = false
  rest : ∀ c ∈ rest.head?, endsAuthority c = true

namespace IsFull

variable {text scheme authority rest : List Char}

theorem takeWhile_authority (h : IsFull text scheme authority rest) :
    (authority ++ rest).takeWhile (!endsAuthority ·) = authority
      ∧ (authority ++ rest).dropWhile (!endsAuthority ·) = rest := by
  have hends : ∀ c ∈ authority, (!endsAuthority c) = true := fun c hc => by
    rw [h.authority c hc]
    rfl
  rw [List.takeWhile_append_of_pos hends, List.dropWhile_append_of_pos hends]
  have hrest := h.rest
  cases rest with
  | nil => exact ⟨List.append_nil _, rfl⟩
  | cons c rest =>
    have hstop : endsAuthority c = true := hrest c rfl
    simp [hstop]

/-- The letters of a scheme hold nothing that sets a scheme off. -/
theorem not_mem_letters {letters : List Char} (h : letters.map Char.toLower ∈ schemes) {c : Char}
    (hc : c ∈ [':', '/']) : c ∉ letters := by
  have hschemes : schemes.all (fun scheme => [':', '/'].all (!scheme.contains ·.toLower)) := rfl
  have hlower := List.all_eq_true.1 (List.all_eq_true.1 hschemes _ h) c hc
  rw [Bool.not_eq_true', List.contains_eq_mem, decide_eq_false_iff_not] at hlower
  exact fun hmem => hlower (List.mem_map_of_mem hmem)

end IsFull

/-- The origin of a scheme and an authority. -/
def originOf (scheme authority : List Char) : String :=
  String.ofList (scheme ++ ':' :: '/' :: '/' :: authority)

theorem IsFull.parse? {text : String} {scheme authority rest : List Char}
    (h : IsFull text.toList scheme authority rest) :
    HttpUrl.parse? text = some ⟨originOf scheme authority, String.ofList (targetOf rest)⟩ := by
  obtain ⟨letters, htext, hletters⟩ := h.parts
  have hcolon : ∀ c ∈ letters, decide (c ≠ ':') = true := fun c hc => decide_eq_true fun heq =>
    not_mem_letters (hletters ▸ h.scheme) (c := ':') (by decide) (heq ▸ hc)
  have hbefore : text.toList.takeWhile (· ≠ ':') = letters := by
    rw [htext, List.takeWhile_append_of_pos hcolon]
    exact List.append_nil _
  have hafter : text.toList.dropWhile (· ≠ ':') = ':' :: '/' :: '/' :: (authority ++ rest) := by
    rw [htext, List.dropWhile_append_of_pos hcolon]
    rfl
  obtain ⟨htake, hdrop⟩ := h.takeWhile_authority
  simp only [HttpUrl.parse?, hbefore, hafter, hletters, htake, hdrop, h.scheme, ne_eq, h.nonempty,
    not_false_eq_true, and_self, if_true, originOf]

theorem exists_isFull {text : String} {url : HttpUrl} (h : HttpUrl.parse? text = some url) :
    ∃ scheme authority rest, IsFull text.toList scheme authority rest
      ∧ url = ⟨originOf scheme authority, String.ofList (targetOf rest)⟩ := by
  unfold HttpUrl.parse? at h
  dsimp only at h
  split at h
  next after hafter =>
    obtain ⟨⟨hscheme, hne⟩, hurl⟩ := Option.ite_none_right_eq_some.1 h
    refine ⟨_, _, after.dropWhile (!endsAuthority ·),
      ⟨⟨text.toList.takeWhile (· ≠ ':'), ?_, rfl⟩, hscheme, hne, fun c hc => ?_, fun c hc => ?_⟩,
      (Option.some.inj hurl).symm⟩
    · rw [List.takeWhile_append_dropWhile, ← hafter, List.takeWhile_append_dropWhile]
    · have hstays := List.mem_takeWhile_imp hc
      simpa using hstays
    · have hdrop := List.head?_dropWhile_not (!endsAuthority ·) after
      rw [hc] at hdrop
      simpa using hdrop
  next => cases h

namespace IsFull

variable {text scheme authority rest : List Char}

/-- A slash and whatever follows it go with the rest. -/
theorem append (h : IsFull text scheme authority rest) (more : List Char) :
    IsFull (text ++ '/' :: more) scheme authority (rest ++ '/' :: more) := by
  obtain ⟨⟨letters, rfl, hletters⟩, hscheme, hne, hauthority, hrest⟩ := h
  refine ⟨⟨letters, by simp, hletters⟩, hscheme, hne, hauthority, ?_⟩
  cases rest with
  | nil => simp [endsAuthority]
  | cons c rest => exact hrest

/-- A slash in a URL stands behind the authority, or it is one of the two before it. -/
theorem cut {front back : List Char} (h : IsFull (front ++ '/' :: back) scheme authority rest) :
    (∃ middle, IsFull front scheme authority middle)
      ∨ back.head? = some '/' ∨ back = authority ++ rest := by
  obtain ⟨⟨letters, htext, hletters⟩, hscheme, hne, hauthority, hrest⟩ := h
  have hslash : '/' ∉ letters := not_mem_letters (hletters ▸ hscheme) (by decide)
  have hslash' : '/' ∉ authority := fun hmem => absurd (hauthority _ hmem) (by decide)
  rcases List.append_eq_append_iff.1 htext with ⟨within, rfl, hback⟩ | ⟨after, rfl, hafter⟩
  · rcases within with _ | ⟨c, within⟩
    · cases (List.cons.inj hback).1
    · obtain ⟨rfl, -⟩ := List.cons.inj hback
      exact absurd (List.mem_append_right _ (List.mem_cons_self ..)) hslash
  -- the slash is the first or the second one before the authority, or comes later
  rcases after with _ | ⟨_, _ | ⟨_, _ | ⟨_, after⟩⟩⟩
  · cases (List.cons.inj hafter).1
  · obtain ⟨-, hback⟩ := List.cons.inj (List.cons.inj hafter).2
    exact .inr (.inl (by rw [← hback]; rfl))
  · obtain ⟨-, hback⟩ := List.cons.inj (List.cons.inj (List.cons.inj hafter).2).2
    exact .inr (.inr hback.symm)
  · simp only [List.cons_append, List.cons.injEq] at hafter
    obtain ⟨rfl, rfl, rfl, hafter⟩ := hafter
    rcases List.append_eq_append_iff.1 hafter with ⟨middle, rfl, rfl⟩ | ⟨within, rfl, hback⟩
    · refine .inl ⟨middle, ⟨letters, rfl, hletters⟩, hscheme, hne, hauthority, ?_⟩
      cases middle with
      | nil => exact nofun
      | cons c middle => exact hrest
    · rcases within with _ | ⟨c, within⟩
      · rw [List.append_nil] at hne hauthority ⊢
        exact .inl ⟨[], ⟨letters, by rw [List.append_nil], hletters⟩, hscheme, hne, hauthority, nofun⟩
      · obtain ⟨rfl, -⟩ := List.cons.inj hback
        exact absurd (List.mem_append_right _ (List.mem_cons_self ..)) hslash'

/-- Without the slash at its end a URL is one of the same authority. -/
theorem of_slash (h : IsFull (text ++ ['/']) scheme authority rest) :
    ∃ middle, IsFull text scheme authority middle := by
  obtain hmiddle | hback | hback := h.cut
  · exact hmiddle
  · cases hback
  · exact absurd (List.append_eq_nil_iff.1 hback.symm).1 h.nonempty

/-- A URL with `http` for its scheme and a path. -/
theorem http {authority : String} (hne : authority.toList ≠ [])
    (hauthority : StaysInAuthority authority) (path : List Char) :
    IsFull ("http://".toList ++ authority.toList ++ '/' :: path) "http".toList authority.toList
      ('/' :: path) := by
  refine ⟨⟨"http".toList, by simp, by decide⟩, by decide, hne, fun c hc => ?_,
    by simp [endsAuthority]⟩
  have hplain := hauthority c hc
  simp only [List.mem_cons, List.not_mem_nil, or_false, not_or] at hplain
  obtain ⟨hslash, -, hquery, hfragment⟩ := hplain
  simp [endsAuthority, hslash, hquery, hfragment]

end IsFull

end HttpUrl

/-! ## Libraries that read this form -/

namespace HttpLibrary

open HttpUrl

variable {library : HttpLibrary} (h : library.url? = HttpUrl.parse?)
include h

theorem origin?_of_isFull {text : String} {scheme authority rest : List Char}
    (hfull : IsFull text.toList scheme authority rest) :
    library.origin? text = some (originOf scheme authority) := by
  rw [origin?, h, hfull.parse?]
  rfl

theorem exists_isFull_of_origin? {text origin : String} (horigin : library.origin? text = some origin) :
    ∃ scheme authority rest, IsFull text.toList scheme authority rest
      ∧ originOf scheme authority = origin := by
  rw [origin?, h, Option.map_eq_some_iff] at horigin
  obtain ⟨url, hurl, rfl⟩ := horigin
  obtain ⟨scheme, authority, rest, hfull, rfl⟩ := exists_isFull hurl
  exact ⟨scheme, authority, rest, hfull, rfl⟩

/-- **Reading URLs that are written out in full keeps the rules.** -/
theorem readsPaths_of_parse? : library.ReadsPaths where
  slash {text origin} horigin := by
    obtain ⟨scheme, authority, rest, hfull, rfl⟩ := exists_isFull_of_origin? h horigin
    rw [String.toList_append] at hfull
    obtain ⟨middle, hfull⟩ := IsFull.of_slash hfull
    exact origin?_of_isFull h hfull
  path {text origin} horigin more := by
    obtain ⟨scheme, authority, rest, hfull, rfl⟩ := exists_isFull_of_origin? h horigin
    rw [String.toList_append] at hfull
    obtain ⟨middle, hfull⟩ := IsFull.of_slash hfull
    have hmore : IsFull (text ++ "/" ++ more).toList scheme authority
        (middle ++ '/' :: more.toList) := by
      simpa using hfull.append more.toList
    exact origin?_of_isFull h hmore
  noHost {text origin} hnone horigin := by
    obtain ⟨scheme, authority, rest, hfull, rfl⟩ := exists_isFull_of_origin? h horigin
    rw [String.toList_append] at hfull
    rcases hfull.cut with ⟨middle, hmiddle⟩ | hback | hback
    · have hslash : IsFull (text ++ "/").toList scheme authority (middle ++ ['/']) := by
        simpa using hmiddle.append []
      cases hnone.symm.trans (origin?_of_isFull h hslash)
    · exact absurd hback (by decide)
    · obtain ⟨hauthority, -⟩ := hfull.takeWhile_authority
      rw [← hback] at hauthority
      obtain rfl : ['v', '2'] = authority := hauthority
      have horigins : ∀ scheme ∈ schemes,
          originOf scheme ['v', '2'] ∈ ["http://v2", "https://v2"] := by decide
      exact horigins scheme hfull.scheme
  target {authority origin} hplain horigin := by
    have hne : authority.toList ≠ [] := by
      intro hnil
      obtain rfl := String.toList_eq_nil_iff.1 hnil
      have hnone : HttpUrl.parse? ("http://" ++ "" ++ "/") = none := by decide
      rw [origin?, h, hnone] at horigin
      cases horigin
    have hfull {path : String} {more : List Char} (hpath : path.toList = '/' :: more) :
        IsFull ("http://" ++ authority ++ path).toList "http".toList authority.toList
          ('/' :: more) := by
      rw [String.toList_append, String.toList_append, hpath]
      exact IsFull.http hne hplain more
    have hslash : "/".toList = '/' :: [] := rfl
    have hmethod : "/v2/entries:write".toList = '/' :: "v2/entries:write".toList := rfl
    rw [origin?_of_isFull h (hfull hslash)] at horigin
    obtain rfl := Option.some.inj horigin
    rw [h, (hfull hmethod).parse?]
    rfl

omit h in
/-- A library that reads URLs written out in full, and names the URL and the cause in what it says of
failures. -/
def naming : HttpLibrary where
  url? := HttpUrl.parse?
  reason url _ failure :=
    let sending (cause : String) : String :=
      "error sending request for url (" ++ url ++ "): " ++ cause
    match failure with
    | .noUrl => "builder error: relative URL without a base"
    | .noHeader => "builder error: failed to parse header value"
    | .noConnection => sending "error trying to connect"
    | .dropped => sending "connection closed before message completed"
    | .silent => sending "operation timed out"

end HttpLibrary
end CallLog
