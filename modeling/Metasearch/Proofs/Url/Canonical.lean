import Metasearch.Proofs.Encoding.Form
import Metasearch.Proofs.Url.Web
import Metasearch.Url.Canonical

/-!
# The canonical form is a normal form

Each rewriting of a URL leaves a fixed point of itself and touches no component of another, so one
round is enough. That the text of the result is read as that very URL is what carries this over to
texts: the path stays one of segments, and the query, written anew, has only characters that stand
for themselves.

## Main definitions

* `Url.IsNormal`: no fragment, no tracking parameter, no slash at the end of the path.

## Main results

* `canonicalize_canonicalize`, `isNormal_canonicalize`.
* `canonicalHref?_canonicalHref?`, `canonicalHref?_isNormal`.
-/

namespace Metasearch.Url

open Metasearch.Text Metasearch.Number Metasearch.Encoding

variable {parts : List (List Char)} {q : Option (List Char)} {p : Path} {u : Url} {c : Char}
  {text : List Char}

/-! ### Paths -/

theorem stripSlashes_cases (parts : List (List Char)) :
    stripSlashes parts = [[]] ∨
      stripSlashes parts <+: parts ∧ ∃ (front : List (List Char)) (s : List Char),
        s ≠ [] ∧ stripSlashes parts = front ++ [s] := by
  rw [stripSlashes]
  split
  · exact Or.inl rfl
  · rename_i hne
    right
    rw [dropTailWhile_eq_rdropWhile] at hne ⊢
    refine ⟨List.rdropWhile_prefix _ _, _, _, ?_, (List.dropLast_append_getLast hne).symm⟩
    have hlast := List.rdropWhile_last_not List.isEmpty parts hne
    exact fun hnil => hlast (List.isEmpty_iff.mpr hnil)

theorem stripSlashes_stripSlashes (parts : List (List Char)) :
    stripSlashes (stripSlashes parts) = stripSlashes parts := by
  rcases stripSlashes_cases parts with h | ⟨-, front, s, hs, h⟩
  · rw [h]
    rfl
  · have hself : dropTailWhile List.isEmpty (front ++ [s]) = front ++ [s] := by
      rw [dropTailWhile_eq_rdropWhile, List.rdropWhile_concat_neg]
      rwa [List.isEmpty_iff]
    rw [h, stripSlashes, hself]
    split
    · rename_i hnil
      exact absurd hnil (List.append_ne_nil_of_right_ne_nil _ (List.cons_ne_nil _ _))
    · rfl

theorem Path.stripped_stripped (p : Path) : p.stripped.stripped = p.stripped := by
  cases p with
  | segments parts => exact congrArg Path.segments (stripSlashes_stripSlashes parts)
  | plain text => rfl

theorem Path.IsProper.stripped (h : p.IsProper) : p.stripped.IsProper := by
  cases p with
  | plain text => exact absurd h not_false
  | segments parts =>
    rcases stripSlashes_cases parts with hs | ⟨hinit, front, s, -, hs⟩
    · rw [Path.stripped, hs]
      refine ⟨List.cons_ne_nil _ _, fun t ht => ?_⟩
      rw [List.mem_singleton.mp ht]
      exact isSegment_nil
    · refine ⟨?_, fun t ht => h.2 t (hinit.subset ht)⟩
      rw [hs]
      exact List.append_ne_nil_of_right_ne_nil _ (List.cons_ne_nil _ _)

/-- The last segment is not empty, and no segment has a slash. -/
theorem toText_stripped (h : p.IsProper) :
    p.stripped.toText = ['/'] ∨ p.stripped.toText.getLast? ≠ some '/' := by
  cases p with
  | plain text => exact absurd h not_false
  | segments parts =>
    rcases stripSlashes_cases parts with hs | ⟨hinit, front, s, hne, hs⟩
    · left
      rw [Path.stripped, hs]
      rfl
    · right
      have hmem : s ∈ parts := hinit.subset (hs ▸ List.mem_append_right _ List.mem_cons_self)
      have htext : (Path.segments parts).stripped.toText = (segmentsText front ++ ['/']) ++ s := by
        rw [Path.stripped, hs, Path.toText, segmentsText, List.flatMap_append,
          List.flatMap_singleton, List.append_assoc]
        rfl
      rw [htext, List.getLast?_append_of_ne_nil _ hne]
      intro hlast
      have hslash := (h.2 s hmem).slash '/' (List.mem_of_getLast? hlast)
      exact absurd hslash (by decide)

/-! ### Queries -/

theorem decode_cleanQuery (q : Option (List Char)) :
    Form.decode ((cleanQuery q).getD []) =
      (Form.decode (q.getD [])).filter fun pair => !isTracking pair.1 := by
  rw [cleanQuery]
  split
  · rename_i hnil
    rw [hnil]
    rfl
  · exact Form.decode_encode _

theorem cleanQuery_cleanQuery (q : Option (List Char)) :
    cleanQuery (cleanQuery q) = cleanQuery q := by
  rw [cleanQuery, decode_cleanQuery, List.filter_filter]
  simp only [Bool.and_self]
  rfl

theorem cleanQuery_ne_empty (q : Option (List Char)) : cleanQuery q ≠ some [] := by
  rw [cleanQuery]
  split
  · exact (Option.some_ne_none _).symm
  · rename_i hne
    exact fun h => Form.encode_ne_nil hne (Option.some.inj h)

theorem keepInQuery_of_isKept (h : Form.isKept c = true) : keepInQuery true c = true :=
  imp_of_ascii (by decide) (Form.isKept_toNat_lt h) h

theorem keepInQuery_of_mem_encode {pairs : List (List Char × List Char)}
    (hc : c ∈ Form.encode pairs) : keepInQuery true c = true := by
  have hmarks : (['+', '%', '=', '&'].all (keepInQuery true)) = true := by decide
  exact Form.forall_mem_encode (fun _ => keepInQuery_of_isKept) (List.all_eq_true.mp hmarks)
    (fun _ => keepInQuery_of_hex) pairs c hc

theorem keepInQuery_of_mem_cleanQuery (hq : text ∈ cleanQuery q) (hc : c ∈ text) :
    keepInQuery true c = true := by
  rw [cleanQuery] at hq
  split at hq
  · cases hq
  · obtain rfl := Option.some.inj hq
    exact keepInQuery_of_mem_encode hc

/-! ### The canonical form -/

theorem canonicalize_canonicalize (u : Url) : u.canonicalize.canonicalize = u.canonicalize := by
  rw [canonicalize, canonicalize]
  simp only [Path.stripped_stripped, cleanQuery_cleanQuery]

theorem IsWebForm.canonicalize (h : u.IsWebForm) : u.canonicalize.IsWebForm where
  scheme := h.scheme
  authority := h.authority
  path := h.path.stripped
  query _ hq _ hc := keepInQuery_of_mem_cleanQuery hq hc
  fragment f hf := absurd hf (Option.not_mem_none f)

/-- A web URL without what canonical forms leave out. -/
structure IsNormal (u : Url) : Prop where
  /-- The scheme is one of the two of the web. -/
  scheme : u.scheme = "http".toList ∨ u.scheme = "https".toList
  /-- There is a host. -/
  host : u.hostText?.isSome = true
  /-- There is no fragment. -/
  fragment : u.fragment = none
  /-- The query is none rather than empty. -/
  query : u.query ≠ some []
  /-- No name in the query, in either case, is that of a tracking parameter. -/
  names : ∀ pair ∈ u.queryPairs,
    ¬"utm_".toList <+: lower pair.1 ∧ String.ofList (lower pair.1) ∉ trackingNames
  /-- The path is the root, or it does not end in a slash. -/
  path : u.path.toText = ['/'] ∨ u.path.toText.getLast? ≠ some '/'

theorem isTracking_eq_false {name : List Char} (h : isTracking name = false) :
    ¬"utm_".toList <+: lower name ∧ String.ofList (lower name) ∉ trackingNames := by
  rw [isTracking, Bool.or_eq_false_iff] at h
  refine ⟨fun hstart => ?_, fun hmem => ?_⟩
  · exact absurd (List.isPrefixOf_iff_prefix.mpr hstart) (by rw [h.1]; exact Bool.false_ne_true)
  · exact absurd (List.contains_iff_mem.mpr hmem) (by rw [h.2]; exact Bool.false_ne_true)

theorem isNormal_canonicalize (h : u.IsWebForm) (hhost : u.hostText?.isSome = true) :
    u.canonicalize.IsNormal where
  scheme := eq_of_isWeb h.scheme
  host := hhost
  fragment := rfl
  query := cleanQuery_ne_empty u.query
  names pair hpair := by
    rw [queryPairs, canonicalize, decode_cleanQuery] at hpair
    have hname := (List.mem_filter.mp hpair).2
    rw [Bool.not_eq_true'] at hname
    exact isTracking_eq_false hname
  path := toText_stripped h.path

/-! ### Texts -/

theorem trim_toText (h : u.IsWebForm) : trim u.toText = u.toText :=
  trimWhere_eq_self fun _ hc => (not_isMargin_of_isVisible (isVisible_of_mem_toText h hc)).2.2

theorem parseWeb?_eq_some (h : parseWeb? text = some u) :
    u.IsWebForm ∧ u.hostText?.isSome = true := by
  rw [parseWeb?] at h
  split at h
  · rename_i v hparse
    obtain ⟨hv, heq⟩ := Option.ite_none_right_eq_some.mp h
    obtain rfl := Option.some.inj heq
    rw [Bool.and_eq_true] at hv
    exact ⟨isWebForm_of_parse hparse hv.1, hv.2⟩
  · cases h

theorem parseWeb?_toText (h : u.IsWebForm) (hhost : u.hostText?.isSome = true) :
    parseWeb? u.toText = some u := by
  rw [parseWeb?, trim_toText h, parse_toText h]
  simp only [h.scheme, hhost, Bool.and_self, if_true]

/-- A canonical text is that of the canonical form of a web URL. -/
theorem exists_of_canonicalHref? {raw href : String} (h : canonicalHref? raw = some href) :
    ∃ u : Url, u.IsWebForm ∧ u.hostText?.isSome = true ∧ href.toList = u.canonicalize.toText := by
  rw [canonicalHref?, canonical?, Option.map_map, Option.map_eq_some_iff] at h
  obtain ⟨u, hu, rfl⟩ := h
  obtain ⟨hform, hhost⟩ := parseWeb?_eq_some hu
  exact ⟨u, hform, hhost, String.toList_ofList⟩

/-- **A canonical text is its own canonical form.** -/
theorem canonicalHref?_canonicalHref? {raw href : String} (h : canonicalHref? raw = some href) :
    canonicalHref? href = some href := by
  obtain ⟨u, hform, hhost, htext⟩ := exists_of_canonicalHref? h
  rw [canonicalHref?, canonical?, htext, parseWeb?_toText hform.canonicalize hhost, Option.map_some,
    canonicalize_canonicalize, Option.map_some, ← htext, String.ofList_toList]

/-- **The canonical form is a normal form.** What `canonicalHref?` gives it gives again, and it is
the text of a URL without fragment, tracking parameters and slashes at the end of its path. -/
theorem canonicalHref?_isNormal {raw href : String} (h : canonicalHref? raw = some href) :
    canonicalHref? href = some href ∧
      ∃ u : Url, parse href.toList = .ok u ∧ u.toText = href.toList ∧ u.IsNormal := by
  obtain ⟨u, hform, hhost, htext⟩ := exists_of_canonicalHref? h
  refine ⟨canonicalHref?_canonicalHref? h, u.canonicalize, ?_, htext.symm,
    isNormal_canonicalize hform hhost⟩
  rw [htext, parse_toText hform.canonicalize]

theorem canonicalHref?_isNormal_address :
    canonicalHref? " HTTP://010.1:80/a/./b%2f//?UTM_x=1&&q=%41+b=c&Ref_src#f " =
        some "http://8.0.0.1/a/b%2f?q=A+b%3Dc" ∧
      canonicalHref? "http://8.0.0.1/a/b%2f?q=A+b%3Dc" = some "http://8.0.0.1/a/b%2f?q=A+b%3Dc" ∧
        ∃ u : Url, parse "http://8.0.0.1/a/b%2f?q=A+b%3Dc".toList = .ok u ∧
          u.toText = "http://8.0.0.1/a/b%2f?q=A+b%3Dc".toList ∧ u.IsNormal := by
  have h : canonicalHref? " HTTP://010.1:80/a/./b%2f//?UTM_x=1&&q=%41+b=c&Ref_src#f " =
      some "http://8.0.0.1/a/b%2f?q=A+b%3Dc" := by decide +kernel
  exact ⟨h, canonicalHref?_isNormal h⟩

end Metasearch.Url
