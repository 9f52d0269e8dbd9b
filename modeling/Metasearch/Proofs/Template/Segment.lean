import Mathlib.Data.Bool.AllAny
import Metasearch.Proofs.Template.Substitution
import Metasearch.Proofs.Url.Gap

/-!
# Search terms as a segment of a path

In a template the placeholder of the terms may stand as one whole segment of the path. Encoded terms
hold no mark of a URL, so they fill that gap, and the URL around them is read as it is in the
template. Percent encoding leaves a dot as it is, though, and a dot or two are no segment of a path:
such terms are taken for a way through the path, and another place is asked.

## Main definitions

* `Template.IsRoute`: the terms are one segment of the template's path, and stand nowhere else.

## Main results

* `Url.isDots_encodeTerm_iff`: the terms that make no segment.
* `Template.render_segment`: what becomes of the terms.
-/

namespace Metasearch

open Metasearch.Text Metasearch.Number Metasearch.Encoding

variable {c : Char} {s r : List Char} {g : Url.Gap} {t : Template} {q : Query} {u : Url}

/-! ### Encoded terms -/

namespace Url

/-- What stands for itself within a segment. -/
def isInSegment (c : Char) : Bool :=
  isVisible c && !isPlaceEnd c && keepInPath c

theorem isInSegment_of_mem_encodeTerm (h : c ∈ Percent.encodeTerm s) : isInSegment c = true := by
  rcases Percent.mem_encode h with ⟨-, hc⟩ | rfl | hc
  · refine imp_of_ascii (p := Percent.isUnreserved) (by decide) ?_ hc
    simp only [Percent.isUnreserved, Bool.or_eq_true, beq_iff_eq] at hc
    rcases hc with (((hc | rfl) | rfl) | rfl) | rfl
    · exact toNat_lt_of_isAlphanum hc
    all_goals decide
  · decide
  · exact Percent.of_isSome_hexValue? (by decide) hc

theorem isFilling_encodeTerm (h : s ≠ []) : IsFilling (Percent.encodeTerm s) where
  ne_nil := by
    intro hnil
    have hs := Percent.decode_encodeTerm s
    rw [hnil] at hs
    exact h (Utf8.encode_inj.mp hs.symm)
  marks := by
    intro c hc
    have hin := isInSegment_of_mem_encodeTerm hc
    simp only [isInSegment, Bool.and_eq_true, Bool.not_eq_true'] at hin
    exact hin.1

theorem encode_encodeTerm (s : List Char) :
    Percent.encode keepInPath (Percent.encodeTerm s) = Percent.encodeTerm s := by
  refine Percent.encode_eq_self fun c hc => ?_
  have hin := isInSegment_of_mem_encodeTerm hc
  simp only [isInSegment, Bool.and_eq_true] at hin
  exact hin.2

theorem isSegment_of_mem_parts {p : Path} (h : p.IsProper) (hs : s ∈ p.parts) : IsSegment s := by
  cases p with
  | plain text => exact absurd h not_false
  | segments parts => exact h.2 s hs

/-- **A dot, or two, are the only terms that make no segment.** -/
theorem isDots_encodeTerm_iff : IsDots (Percent.encodeTerm s) ↔ s = ['.', '.'] ∨ s = ['.'] := by
  rw [IsDots, isDoubleDot_iff, isSingleDot_iff, Percent.decode_encodeTerm,
    ← Utf8.encode_inj, ← Utf8.encode_inj]
  exact Iff.rfl

end Url

/-! ### Routes -/

namespace Template

/-- The URL asks for the terms, and nothing else, with one whole segment of its path. -/
structure IsRoute (t : Template) (g : Url.Gap) : Prop where
  /-- All is in the URL. -/
  params_eq_nil : t.params = []
  /-- The gap is where the terms go, and no placeholder stands around it. -/
  exists_url : ∃ s r, t.url.toList = s ++ (terms.toList ++ r) ∧ g.IsAround s r ∧
    ∀ name ∈ placeholderNames, ¬('\x7b' :: name ++ ['\x7d'] <:+: s) ∧
      ¬('\x7b' :: name ++ ['\x7d'] <:+: r)
  /-- No segment of the path is made of dots. -/
  isPlain : g.IsPlain

theorem isFilling_terms : Url.IsFilling terms.toList :=
  ⟨List.cons_ne_nil '\x7b' "query\x7d".toList, List.all_iff_forall_prop.mp rfl⟩

theorem not_isDots_terms : ¬Url.IsDots terms.toList := by
  decide

/-- Terms go into the URL, and all around them stays. -/
theorem fill_append_terms {v : List Char}
    (h : ∀ name ∈ placeholderNames, ¬('\x7b' :: name ++ ['\x7d'] <:+: s) ∧
      ¬('\x7b' :: name ++ ['\x7d'] <:+: r)) :
    fill (placeholder q v) (s ++ (terms.toList ++ r)) = s ++ (v ++ r) := by
  have hopen : ∀ name, '\x7b' ∈ name → placeholder q v name = none := fun _ =>
    placeholder_eq_none_of_mem (by decide)
  have hfree : ∀ {s : List Char},
      (∀ name ∈ placeholderNames, ¬('\x7b' :: name ++ ['\x7d'] <:+: s)) →
        fill (placeholder q v) s = s := by
    intro s hs
    refine fill_eq_self ?_
    rintro ⟨name, hname, hin⟩
    exact hs name (mem_placeholderNames hname) hin
  have hterms : s ++ (terms.toList ++ r) = s ++ ('\x7b' :: "query".toList ++ ['\x7d']) ++ r :=
    (List.append_assoc s _ r).symm
  have hvalue : placeholder q v "query".toList = some v := rfl
  rw [hterms, fill_append_placeholder hopen (by decide) hvalue,
    hfree fun name hname => (h name hname).1, hfree fun name hname => (h name hname).2,
    List.append_assoc]

/-- **What becomes of search terms within a path.** The URL is that of the template, read as a URL,
but for its path. Terms that are no dots stand there in the place of the placeholder, a segment that
denotes them, and the other segments are those of the template. Dots are no segment of the path. -/
theorem render_segment (ht : t.IsRoute g) (hu : Url.parse t.url.toList = .ok u)
    (hq : q.terms ≠ "") :
    ∃ v, t.render q = .ok v ∧ v = { u with path := v.path } ∧
      (q.terms ≠ ".." ∧ q.terms ≠ "." → ∃ before placed segment after,
        u.path = .segments (before ++ placed :: after) ∧ before.length = g.before.length ∧
        Percent.decode placed = Utf8.encode terms.toList ∧
        v.path = .segments (before ++ segment :: after) ∧
        Percent.decode segment = Utf8.encode q.terms.toList) ∧
      (q.terms = ".." ∨ q.terms = "." → ∀ segment ∈ v.path.parts,
        Percent.decode segment ≠ Utf8.encode q.terms.toList) := by
  obtain ⟨s, r, hurl, haround, hfree⟩ := ht.exists_url
  have hne : q.terms.toList ≠ [] := fun h => hq (String.toList_eq_nil_iff.mp h)
  have hfilling := Url.isFilling_encodeTerm hne
  have hfilled : t.filledUrl q = s ++ (Percent.encodeTerm q.terms.toList ++ r) := by
    rw [filledUrl, hurl, fill_append_terms hfree]
  have hparams : t.filledParams q = [] := by
    rw [filledParams, ht.params_eq_nil, List.map_nil]
  rw [hurl, Url.Gap.parse_around isFilling_terms haround] at hu
  cases hplace : Url.Authority.parse (lower g.scheme) g.place true with
  | error e =>
    rw [hplace] at hu
    cases hu
  | ok parts =>
    rw [hplace] at hu
    obtain rfl := Except.ok.inj hu
    refine ⟨g.urlOf parts.1 (Percent.encodeTerm q.terms.toList), ?_, rfl, ?_, ?_⟩
    · refine render_eq_ok_iff.mpr ⟨g.urlOf parts.1 (Percent.encodeTerm q.terms.toList), ?_, ?_⟩
      · rw [hfilled, Url.Gap.parse_around hfilling haround, hplace]
        rfl
      · rw [hparams]
        rfl
    · rintro ⟨htwo, hone⟩
      have hdots : ¬Url.IsDots (Percent.encodeTerm q.terms.toList) := by
        rw [Url.isDots_encodeTerm_iff, not_or]
        exact ⟨fun h => htwo (String.toList_inj.mp h), fun h => hone (String.toList_inj.mp h)⟩
      have hpath := Url.Gap.pathOf_eq ht.isPlain hfilling hdots
      rw [Url.encode_encodeTerm] at hpath
      exact ⟨_, _, _, _, Url.Gap.pathOf_eq ht.isPlain isFilling_terms not_isDots_terms,
        List.length_map _, by decide, hpath, Percent.decode_encodeTerm q.terms.toList⟩
    · rintro hdots segment hmem hdecode
      have hsegment := Url.isSegment_of_mem_parts (Url.isProper_pathAfterAuthority _) hmem
      rcases hdots with hdots | hdots
      · rw [hdots] at hdecode
        exact absurd (Url.isDoubleDot_iff.mpr hdecode) (by simp [hsegment.parent])
      · rw [hdots] at hdecode
        exact absurd (Url.isSingleDot_iff.mpr hdecode) (by simp [hsegment.place])

/-- A template that is routed by its terms. -/
def searchTemplate : Template :=
  ofUrl "https://host.example/r/\x7bquery\x7d/search.json"

/-- What stands around the terms there. -/
def searchGap : Url.Gap where
  scheme := "https".toList
  slashes := "//".toList
  place := "host.example".toList
  way := "/r/".toList
  before := ["r".toList]
  rest := "/search.json".toList
  after := ["search.json".toList]
  isWeb_scheme := by decide +kernel
  isSlash_slashes := List.all_iff_forall_prop.mp rfl
  place_ne_nil := List.cons_ne_nil 'h' "ost.example".toList
  place_marks := List.all_iff_forall_prop.mp rfl
  way_marks := List.all_iff_forall_prop.mp rfl
  split_way := rfl
  split_rest := rfl

theorem isRoute_searchTemplate : searchTemplate.IsRoute searchGap where
  params_eq_nil := rfl
  exists_url := ⟨"https://host.example/r/".toList, "/search.json".toList, by decide +kernel,
    ⟨by decide +kernel, by decide +kernel⟩, by decide +kernel⟩
  isPlain := by
    rw [Url.Gap.IsPlain]
    decide +kernel

/-- Terms with slashes, dots and signs of percent encoding are one segment. -/
theorem render_segment_marks :
    searchTemplate.IsRoute searchGap ∧ (∃ u, Url.parse searchTemplate.url.toList = .ok u) ∧
      "../a%2F ä" ≠ "" ∧ ∃ v before segment after,
        searchTemplate.render (Query.ofTerms "../a%2F ä") = .ok v ∧
        v.path = .segments (before ++ segment :: after) ∧ before.length = 1 ∧
        Percent.decode segment = Utf8.encode "../a%2F ä".toList := by
  have hread : (Url.parse searchTemplate.url.toList).toOption.isSome = true := by decide +kernel
  cases hu : Url.parse searchTemplate.url.toList with
  | error e =>
    rw [hu] at hread
    exact absurd hread Bool.false_ne_true
  | ok u =>
    obtain ⟨v, hv, -, hkept, -⟩ := render_segment (q := Query.ofTerms "../a%2F ä")
      isRoute_searchTemplate hu (by decide)
    obtain ⟨before, placed, segment, after, -, hlength, -, hpath, hdecode⟩ :=
      hkept ⟨by decide, by decide⟩
    exact ⟨isRoute_searchTemplate, ⟨u, rfl⟩, by decide, v, before, segment, after, hv, hpath,
      hlength, hdecode⟩

/-- Of two dots nothing is left, nor of the segment before them. -/
theorem render_searchTemplate_dots :
    searchTemplate.IsRoute searchGap ∧
      (Url.parse searchTemplate.url.toList).toOption.map Url.path =
        some (.segments ["r".toList, "%7Bquery%7D".toList, "search.json".toList]) ∧
      (searchTemplate.render (Query.ofTerms "..")).toOption.map Url.path =
        some (.segments ["search.json".toList]) :=
  ⟨isRoute_searchTemplate, by decide +kernel, by decide +kernel⟩

end Template
end Metasearch
