import Metasearch.Answer.Results
import Metasearch.Proofs.Template
import Metasearch.Proofs.Url.Query
import Metasearch.Source.Catalog

/-!
# Links through a search engine

A search engine wraps the link to a result in one to itself, with the target in the query.
Unwrapping gives the target back whatever it is, also one that is a wrapped link again or has the
marks of a query in it: no mark is left in what is wrapped, and it is decoded once.

What is a link through DuckDuckGo is told by a text that stands somewhere in it. The host of the
link has no say, so links to other sites are unwrapped too if they hold that text and a pair of the
right name. No other link is: a result is emitted with the link that stands on the page.

## Main definitions

* `absolute`: a link with a scheme.
* `IsDuckResult`: a block of a page of DuckDuckGo that is emitted, with its link.

## Main results

* `unwrap_wrapped`: unwrapping undoes wrapping.
* `unwrapDuckDuckGo?_eq_none_iff`, `duckMark_infix_iff`: which links are left as they are.
* `mem_readBlocks_iff`, `readDuckDuckGo_link`: and what becomes of them.
-/

namespace Metasearch.Answer

open Metasearch.Text Metasearch.Number Metasearch.Encoding Metasearch.Html Metasearch.Css

variable {t href rest : List Char} {params : List (List Char × List Char)} {u : Url}

/-! ### Unwrapping what is wrapped -/

/-- What follows the target of a wrapped link starts with a mark, and the target has none. -/
theorem unwrapGoogle?_wrapped (hrest : rest = [] ∨ rest.head? = some '&') :
    unwrapGoogle? ("/url?q=".toList ++ Percent.encodeTerm t ++ rest) = some t := by
  have hfree : ∀ c ∈ Percent.encodeTerm t, (c == '&') = false := by
    intro c hc
    refine beq_false_of_ne ?_
    rintro rfl
    rcases Percent.mem_encode hc with ⟨-, hkept⟩ | hpercent | hdigit
    · exact absurd hkept (by decide)
    · exact absurd hpercent (by decide)
    · exact absurd hdigit (by decide)
  have htarget : beforeFirst (· == '&') (Percent.encodeTerm t ++ rest) = Percent.encodeTerm t := by
    refine beforeFirst_append_of hfree fun c hc => ?_
    rcases hrest with rfl | hrest
    · cases hc
    · exact beq_iff_eq.mpr (Option.some.inj (hc.symm.trans hrest))
  have hstrip : stripStart googleMark ("/url?q=".toList ++ (Percent.encodeTerm t ++ rest)) =
      some (Percent.encodeTerm t ++ rest) := stripStart_append googleMark _
  rw [unwrapGoogle?, List.append_assoc, hstrip]
  simp only [htarget, Percent.decodeTerm?_encodeTerm, Option.getD_some]

/-- A link with a scheme: that of the web, if the link starts with an authority. -/
def absolute (href : List Char) : List Char :=
  if "//".toList.isPrefixOf href then "https:".toList ++ href else href

theorem unwrapDuckDuckGo?_of_parse (hmark : duckMark <:+: href)
    (hu : Url.parse (absolute href) = .ok u) :
    unwrapDuckDuckGo? href = (u.queryPairs.find? fun p => p.1 == "uddg".toList).map (·.2) := by
  rw [absolute] at hu
  rw [unwrapDuckDuckGo?, if_pos (occursIn_iff.mpr hmark)]
  simp only [hu]

/-- The page that links through DuckDuckGo lead to, in front of its query. -/
def duckPage : Url where
  scheme := "https".toList
  authority := some ⟨[], [], .domain "duckduckgo.com".toList, none⟩
  path := .segments ["l".toList, []]
  query := none
  fragment := none

theorem isWebForm_duckPage : duckPage.IsWebForm := by
  have hread : Url.parse "https://duckduckgo.com/l/".toList = .ok duckPage := by decide +kernel
  exact Url.isWebForm_of_parse hread rfl

theorem toText_duckPage_appendPairs (h : params ≠ []) : (duckPage.appendPairs params).toText =
    "https://duckduckgo.com/l/?".toList ++ Form.encode params := by
  cases params with
  | nil => exact absurd rfl h
  | cons pair more =>
    have hquery : (duckPage.appendPairs (pair :: more)).query =
        some (Form.encode (pair :: more)) := rfl
    rw [Url.toText, hquery]
    exact List.append_nil _

theorem unwrapDuckDuckGo?_wrapped {start : List Char}
    (hstart : start ∈ ["//".toList, "https://".toList])
    (hparams : (params.find? fun p => p.1 == "uddg".toList).map (·.2) = some t) :
    unwrapDuckDuckGo? (start ++ "duckduckgo.com/l/?".toList ++ Form.encode params) = some t := by
  have hne : params ≠ [] := by
    rintro rfl
    cases hparams
  have habsolute : absolute (start ++ "duckduckgo.com/l/?".toList ++ Form.encode params) =
      "https://duckduckgo.com/l/?".toList ++ Form.encode params := by
    simp only [List.mem_cons, List.not_mem_nil, or_false] at hstart
    rcases hstart with rfl | rfl <;> rfl
  have hread := Url.parse_toText (isWebForm_duckPage.appendPairs params)
  rw [toText_duckPage_appendPairs hne, ← habsolute] at hread
  have hmark : duckMark <:+: start ++ "duckduckgo.com/l/?".toList ++ Form.encode params :=
    ⟨start, '?' :: Form.encode params, by rw [List.append_assoc, List.append_assoc]; rfl⟩
  rw [unwrapDuckDuckGo?_of_parse hmark hread, Url.queryPairs_appendPairs]
  exact hparams

/-- **Unwrapping undoes wrapping.** -/
theorem unwrap_wrapped (t : List Char) :
    (∀ rest, rest = [] ∨ rest.head? = some '&' →
      unwrapGoogle? ("/url?q=".toList ++ Percent.encodeTerm t ++ rest) = some t) ∧
    ∀ start ∈ ["//".toList, "https://".toList], ∀ params : List (List Char × List Char),
      (params.find? fun p => p.1 == "uddg".toList).map (·.2) = some t →
        unwrapDuckDuckGo? (start ++ "duckduckgo.com/l/?".toList ++ Form.encode params) = some t :=
  ⟨fun _ => unwrapGoogle?_wrapped, fun _ hstart _ => unwrapDuckDuckGo?_wrapped hstart⟩

/-- A target with all marks in it, wrapped itself. -/
theorem unwrap_wrapped_nested :
    let target := "//duckduckgo.com/l/?uddg=%2526&q=a b+c#é&rest".toList
    unwrapGoogle? ("/url?q=".toList ++ Percent.encodeTerm target ++ "&sa=U&q=x".toList) =
        some target ∧
      unwrapDuckDuckGo? ("//".toList ++ "duckduckgo.com/l/?".toList ++ Form.encode
        [("x".toList, "1".toList), ("uddg".toList, target), ("uddg".toList, "2".toList)]) =
          some target := by
  intro target
  exact ⟨(unwrap_wrapped target).1 "&sa=U&q=x".toList (Or.inr rfl),
    (unwrap_wrapped target).2 "//".toList List.mem_cons_self
      [("x".toList, "1".toList), ("uddg".toList, target), ("uddg".toList, "2".toList)] rfl⟩

/-! ### Links that are left as they are -/

/-- A link is left as it is if the text that tells a wrapped one is not in it, or if there is no
target in its query. -/
theorem unwrapDuckDuckGo?_eq_none_iff (hu : Url.parse (absolute href) = .ok u) :
    unwrapDuckDuckGo? href = none ↔
      ¬duckMark <:+: href ∨ ∀ pair ∈ u.queryPairs, pair.1 ≠ "uddg".toList := by
  by_cases hmark : duckMark <:+: href
  · rw [unwrapDuckDuckGo?_of_parse hmark hu, Option.map_eq_none_iff, List.find?_eq_none]
    simp only [beq_iff_eq, hmark, not_true_eq_false, false_or]
  · rw [unwrapDuckDuckGo?, if_neg (mt occursIn_iff.mp hmark)]
    simp only [hmark, not_false_eq_true, true_or]

/-- The text does not start in what is in front of an authority. -/
theorem duckMark_infix_of_front {scheme more : List Char}
    (hscheme : scheme ∈ ["".toList, "http:".toList, "https:".toList])
    (h : duckMark <:+: scheme ++ "//".toList ++ more) : duckMark <:+: more := by
  have hlength : (scheme ++ "//".toList).length ≤ 8 :=
    (by decide : ∀ s ∈ ["".toList, "http:".toList, "https:".toList],
      (s ++ "//".toList).length ≤ 8) scheme hscheme
  rcases List.infix_append_iff.mp h with hfront | hmore | ⟨p, q, hpq, hp, hq⟩
  · exact absurd (hfront.length_le.trans hlength) (by decide)
  · exact hmore
  · by_cases hnil : p = []
    · rw [hpq, hnil]
      exact hq.isInfix
    -- what is in front ends in a slash, and the text has none so early
    · obtain ⟨r, hr⟩ := hp
      have hlast := List.getLast?_append_of_ne_nil r hnil
      rw [hr, List.getLast?_append_of_ne_nil scheme (by decide)] at hlast
      have hslash : '/' ∈ p := List.mem_of_getLast? hlast.symm
      have hshort : p.length ≤ 8 := (List.IsSuffix.length_le ⟨r, hr⟩).trans hlength
      have htake : p = duckMark.take p.length := by rw [hpq, List.take_left]
      exact absurd (htake ▸ hslash) ((by decide : ∀ n ≤ 8, '/' ∉ duckMark.take n) _ hshort)

/-- **The text stands behind the authority**, unless it starts there: then the authority ends in the
name of DuckDuckGo. -/
theorem duckMark_infix_iff {scheme place tail : List Char}
    (hscheme : scheme ∈ ["".toList, "http:".toList, "https:".toList]) (hplace : '/' ∉ place)
    (hend : ¬"duckduckgo.com".toList <:+ place)
    (htail : tail.head? ∈ [none, some '/', some '?', some '#']) :
    duckMark <:+: scheme ++ "//".toList ++ place ++ tail ↔ duckMark <:+: tail := by
  refine ⟨fun h => ?_, fun h => h.trans (List.suffix_append _ tail).isInfix⟩
  rw [List.append_assoc] at h
  rcases List.infix_append_iff.mp (duckMark_infix_of_front hscheme h) with
    hin | htail | ⟨p, q, hpq, hp, hq⟩
  · exact absurd (hin.subset (by decide)) hplace
  · exact htail
  · -- the text is cut at its first slash, so that what is in front is the name
    have hfree : '/' ∉ p := fun hslash => hplace (hp.subset hslash)
    have hlength : p.length ≤ duckMark.length := hpq ▸ (List.length_append ▸ Nat.le_add_right _ _)
    have htake : p = duckMark.take p.length := by rw [hpq, List.take_left]
    have hdrop : q = duckMark.drop p.length := by rw [hpq, List.drop_left]
    have hhead : q.head? ∈ [none, some '/', some '?', some '#'] := by
      obtain ⟨r, rfl⟩ := hq
      cases q with
      | nil => exact List.mem_cons_self
      | cons c q => exact htail
    have hcut : ∀ n ≤ duckMark.length, '/' ∉ duckMark.take n →
        (duckMark.drop n).head? ∈ [none, some '/', some '?', some '#'] →
          duckMark.take n = "duckduckgo.com".toList := by decide
    refine absurd ?_ hend
    rw [← hcut p.length hlength (htake ▸ hfree) (hdrop ▸ hhead), ← htake]
    exact hp

/-! ### Results on a page -/

section Blocks

variable {s : Source} {blocks : List Selector} {read : Document → NodeId → Option Found}
  {body : String} {r : Record} {d : Document} {n m : NodeId} {url : List Char}

theorem Found.url_record (f : Found) (source : String) :
    (f.record source).url = trimmed (String.ofList f.url) := rfl

theorem Found.title_record (f : Found) (source : String) :
    (f.record source).title = cleaned (String.ofList f.title) := rfl

theorem mem_readBlocks_iff : r ∈ readBlocks s blocks read body ↔
    ∃ n ∈ selectAll (Document.ofText body.toList) blocks,
      ∃ f, read (Document.ofText body.toList) n = some f ∧ f.isComplete = true ∧
        f.record s.id = r := by
  rw [readBlocks, List.mem_map]
  constructor
  · rintro ⟨f, hf, hr⟩
    obtain ⟨hfound, hcomplete⟩ := List.mem_filter.mp hf
    obtain ⟨n, hn, hread⟩ := List.mem_filterMap.mp hfound
    exact ⟨n, hn, f, hread, hcomplete, hr⟩
  · rintro ⟨n, hn, f, hread, hcomplete, hr⟩
    exact ⟨f, List.mem_filter.mpr ⟨List.mem_filterMap.mpr ⟨n, hn, hread⟩, hcomplete⟩, hr⟩

/-- A result on a page of DuckDuckGo, with the link of its title. -/
structure IsDuckResult (d : Document) (n m : NodeId) : Prop where
  /-- It is a block of the page. -/
  block : n ∈ selectAll d (alternatives ".result, .results_links")
  /-- It is no advertisement. -/
  unpaid : isMeant d n (alternatives ".result--ad") = false
  /-- The link of its title is the first one. -/
  link : firstIn? d n (alternatives "a.result__a, .result__title a") = some m
  /-- The title is not empty. -/
  title : textIn d m ≠ []

instance : Decidable (IsDuckResult d n m) :=
  decidable_of_iff (n ∈ selectAll d (alternatives ".result, .results_links") ∧
      isMeant d n (alternatives ".result--ad") = false ∧
      firstIn? d n (alternatives "a.result__a, .result__title a") = some m ∧ textIn d m ≠ [])
    ⟨fun ⟨hblock, hunpaid, hlink, htitle⟩ => ⟨hblock, hunpaid, hlink, htitle⟩,
      fun h => ⟨h.block, h.unpaid, h.link, h.title⟩⟩

theorem IsDuckResult.exists_block (h : IsDuckResult d n m) : ∃ content, duckDuckGoBlock d n =
    some ⟨(unwrapDuckDuckGo? (linkOf d m)).getD (linkOf d m), textIn d m, content⟩ := by
  rw [duckDuckGoBlock, h.unpaid, h.link]
  exact ⟨_, rfl⟩

/-- A result is emitted with where its link leads in the end. -/
theorem IsDuckResult.exists_record (hd : Document.ofText body.toList = d) (h : IsDuckResult d n m)
    (hurl : (unwrapDuckDuckGo? (linkOf d m)).getD (linkOf d m) = url) (hne : url ≠ [])
    (s : Source) : ∃ records r, readDuckDuckGo s body = .ok records ∧ r ∈ records ∧
      r.url = trimmed (String.ofList url) ∧ r.title = cleaned (String.ofList (textIn d m)) := by
  obtain ⟨content, hread⟩ := h.exists_block
  rw [hurl] at hread
  have hcomplete : Found.isComplete ⟨url, textIn d m, content⟩ = true := by
    rw [Found.isComplete, List.isEmpty_eq_false_iff.mpr hne,
      List.isEmpty_eq_false_iff.mpr h.title]
    rfl
  subst hd
  have hmem := mem_readBlocks_iff (s := s) |>.mpr ⟨n, h.block, _, hread, hcomplete, rfl⟩
  exact ⟨_, _, rfl, hmem, Found.url_record _ _, Found.title_record _ _⟩

end Blocks

/-- **A link is left as it is unless it looks like a wrapped one**, whatever its host. It looks like
one if the text that tells wrapped links is in it and a target is in its query; if the authority does
not end in the name of DuckDuckGo, then that text is in what follows the authority. The result of a
link that is left as it is has this link as its URL. -/
theorem readDuckDuckGo_link (hu : Url.parse (absolute href) = .ok u) :
    (unwrapDuckDuckGo? href = none ↔
      ¬duckMark <:+: href ∨ ∀ pair ∈ u.queryPairs, pair.1 ≠ "uddg".toList) ∧
    (∀ scheme place tail, href = scheme ++ "//".toList ++ place ++ tail →
      scheme ∈ ["".toList, "http:".toList, "https:".toList] → '/' ∉ place →
        tail.head? ∈ [none, some '/', some '?', some '#'] →
          ¬"duckduckgo.com".toList <:+ place → (duckMark <:+: href ↔ duckMark <:+: tail)) ∧
    (unwrapDuckDuckGo? href = none → ∀ (s : Source) (body : String) (n m : NodeId),
      IsDuckResult (Document.ofText body.toList) n m →
        linkOf (Document.ofText body.toList) m = href →
          ∃ records r, readDuckDuckGo s body = .ok records ∧ r ∈ records ∧
            r.url = trimmed (String.ofList href) ∧
            r.title = cleaned (String.ofList (textIn (Document.ofText body.toList) m))) := by
  refine ⟨unwrapDuckDuckGo?_eq_none_iff hu, ?_, fun hnone s body n m hresult hlink => ?_⟩
  · rintro scheme place tail rfl hscheme hplace htail hend
    exact duckMark_infix_iff hscheme hplace hend htail
  · have hne : href ≠ [] := by
      rintro rfl
      cases hu
    exact hresult.exists_record rfl (by rw [hlink, hnone, Option.getD_none]) hne s

/-- A link with a target in its query, and with the name of DuckDuckGo for it. -/
theorem readDuckDuckGo_link_direct :
    let href := "//h.org/?uddg=duckduckgo.com".toList
    let body := "<p class=result><a class=result__a href='//h.org/?uddg=duckduckgo.com'>A b</a>"
    unwrapDuckDuckGo? href = none ∧
      (duckMark <:+: href ↔ duckMark <:+: "/?uddg=duckduckgo.com".toList) ∧
      ∃ records r, readDuckDuckGo Catalog.duckduckgo body = .ok records ∧ r ∈ records ∧
        r.url = trimmed (String.ofList href) ∧
        r.title = cleaned (String.ofList (textIn (Document.ofText body.toList) 5)) := by
  intro href body
  have hread : (Url.parse (absolute href)).toOption.isSome = true := by decide +kernel
  cases hu : Url.parse (absolute href) with
  | error e =>
    rw [hu] at hread
    cases hread
  | ok u =>
    obtain ⟨hiff, hplace, hrecord⟩ := readDuckDuckGo_link hu
    have hnone : unwrapDuckDuckGo? href = none := hiff.mpr (Or.inl (by decide +kernel))
    have hresult : IsDuckResult (Document.ofText body.toList) 4 5 := by decide +kernel
    have hlink : linkOf (Document.ofText body.toList) 5 = href := by decide +kernel
    exact ⟨hnone, hplace "".toList "h.org".toList "/?uddg=duckduckgo.com".toList
      (by decide +kernel) (by decide +kernel) (by decide +kernel) (by decide +kernel)
      (by decide +kernel), hrecord hnone Catalog.duckduckgo body 4 5 hresult hlink⟩

/-- An archived page is not where its result leads: its link holds one through DuckDuckGo. -/
theorem readDuckDuckGo_archived :
    let href := "https://web.archive.org/https://duckduckgo.com/l/?uddg=https%3A%2F%2Fexample.com"
    let body := "<p class=result><a class=result__a href=" ++ href ++ ">T</a>"
    (Url.parse (absolute href.toList)).toOption.bind Url.hostText? =
        some "web.archive.org".toList ∧
      unwrapDuckDuckGo? href.toList = some "https://example.com".toList ∧
      (readDuckDuckGo Catalog.duckduckgo body).toOption.map (fun records => records.map (·.url)) =
        some ["https://example.com"] :=
  ⟨by decide +kernel, by decide +kernel, by decide +kernel⟩

end Metasearch.Answer
