import Mathlib.Data.Nat.ModEq
import Metasearch.Proofs.Request
import Metasearch.Proofs.Template.Dependence

/-!
# Pages

A query for another page is the same request with other numbers in it. Seven engines are told the
page, each in its own way and only if the source has more than one; the pairs that tell it stand at
one place among those of the engine. They keep two requests apart whatever else is in the URL: a
template may hold the page too, and have parameters of the same names, but filling in other numerals
makes no more pairs and no fewer, so those of the engine are at the same places in both requests.

Google, Bing and DuckDuckGo are told how many results stand before the page. That number has 32
bits, so it tells two pages apart as long as it does not start again from zero in front of them.

## Main definitions

* `Engine.pageCounts`, `Source.pagePairs`: how an engine is told the page.
* `Engine.CountsTo`: the pages up to which an engine counts results.
* `Source.HasPages`: a source that is told it.

## Main results

* `Source.ownPairs_withPage`: where the page stands among the pairs of an engine.
* `Source.pagePairs_injective`: the page can be read from its pairs.
* `Source.requestFor_withPage`: two requests for pages of one query.
-/

namespace Metasearch

open Metasearch.Text Metasearch.Number

/-- The numbers by which an engine is told the page, with their names. -/
def Engine.pageCounts (p : Nat) : Engine → List (String × Nat)
  | .google => [("start", (p - 1) * 10 % count32)]
  | .brave => [("offset", p - 1)]
  | .duckduckgo =>
    [("s", (p - 1) * 30 % count32), ("dc", ((p - 1) * 30 % count32 + 1) % count32)]
  | .bing => [("first", ((p - 1) * 10 % count32 + 1) % count32)]
  | .searx => [("pageno", max p 1)]
  | .githubReleases | .githubIssues => [("page", p)]
  | .feed | .reddit | .customPage => []

/-- How many results a page holds for an engine that is told how many stand before it. -/
def Engine.perPage? : Engine → Option Nat
  | .google | .bing => some 10
  | .duckduckgo => some 30
  | _ => none

/-- Holds of pages in front of which stand no more results than 32 bits can count, if the engine is
told how many. -/
def Engine.CountsTo (e : Engine) (p : Nat) : Prop :=
  ∀ n ∈ e.perPage?, (p - 1) * n < count32

instance (e : Engine) (p : Nat) : Decidable (e.CountsTo p) :=
  inferInstanceAs (Decidable (∀ n ∈ e.perPage?, (p - 1) * n < count32))

/-- A page up to which results are counted can be told from how many stand before it. -/
theorem Engine.eq_of_count_eq {e : Engine} {p p' n : Nat} (hn : n ∈ e.perPage?) (hpos : 0 < n)
    (hp : 1 ≤ p) (hp' : 1 ≤ p') (hcounts : e.CountsTo p) (hcounts' : e.CountsTo p')
    (h : (p - 1) * n % count32 = (p' - 1) * n % count32) : p = p' := by
  rw [Nat.mod_eq_of_lt (hcounts n hn), Nat.mod_eq_of_lt (hcounts' n hn)] at h
  have heq := Nat.eq_of_mul_eq_mul_right hpos h
  omega

/-- A page that is counted can be told from its numbers. -/
theorem Engine.pageCounts_injective {e : Engine} {p p' : Nat}
    (he : e ∉ [.feed, .reddit, .customPage]) (hp : 1 ≤ p) (hp' : 1 ≤ p')
    (hcounts : e.CountsTo p) (hcounts' : e.CountsTo p')
    (h : e.pageCounts p = e.pageCounts p') : p = p' := by
  cases e with
  | feed | reddit | customPage => exact absurd (by simp) he
  | google | duckduckgo =>
    have hcount := (Prod.mk.inj (List.cons.inj h).1).2
    exact eq_of_count_eq rfl (by decide) hp hp' hcounts hcounts' hcount
  | bing =>
    -- one more on both sides makes no difference, even if the numbers start again there
    have hcount : _ ≡ _ [MOD count32] :=
      Nat.ModEq.add_right_cancel' 1 (Prod.mk.inj (List.cons.inj h).1).2
    rw [Nat.ModEq, Nat.mod_mod, Nat.mod_mod] at hcount
    exact eq_of_count_eq rfl (by decide) hp hp' hcounts hcounts' hcount
  | brave | searx | githubReleases | githubIssues =>
    simp only [pageCounts, List.cons.injEq, Prod.mk.injEq] at h
    omega

/-- Beyond 32 bits the numbers start again. -/
example : Engine.pageCounts 2147483650 .google = Engine.pageCounts 2 .google := by decide

theorem Engine.pageCounts_ne_nil {e : Engine} (he : e ∉ [.feed, .reddit, .customPage]) (p : Nat) :
    e.pageCounts p ≠ [] := by
  cases e with
  | feed | reddit | customPage => exact absurd (by simp) he
  | _ => exact List.cons_ne_nil _ _

namespace Source

variable {s : Source} {q : Query} {p p' : Nat} {r r' : Request}

/-- Holds of sources that are told the page. -/
def HasPages (s : Source) : Prop :=
  s.paging = true ∧ s.engine ∉ [.feed, .reddit, .customPage]

instance : DecidablePred HasPages :=
  fun s => inferInstanceAs (Decidable (s.paging = true ∧ s.engine ∉ [.feed, .reddit, .customPage]))

/-- The pairs by which the engine is told the page. Only SearXNG is told that it is the first. -/
def pagePairs (s : Source) (p : Nat) : List (List Char × List Char) :=
  if s.paging && (1 < p || s.engine == .searx) then
    (s.engine.pageCounts p).map fun count => countPair count.1 count.2
  else []

/-! ### The page among the pairs of an engine -/

theorem pagePairs_eq_nil (h : ¬s.HasPages) : s.pagePairs p = [] := by
  rw [pagePairs]
  split
  · rename_i hpaging
    have hkind : s.engine ∈ [.feed, .reddit, .customPage] := by
      by_contra hkind
      exact h ⟨(Bool.and_eq_true_iff.mp hpaging).1, hkind⟩
    simp only [List.mem_cons, List.not_mem_nil, or_false] at hkind
    rcases hkind with he | he | he <;> rw [he] <;> rfl
  · rfl

/-- **The page stands at one place among the pairs of the engine**, and the others do not depend on
it. -/
theorem ownPairs_withPage (s : Source) (q : Query) :
    ∃ front back, ∀ p, s.ownPairs { q with page := p } = front ++ s.pagePairs p ++ back := by
  -- every engine but SearXNG is told a later page only
  have hlater : s.engine ≠ .searx → ∀ p, s.pagePairs p = s.laterPage { q with page := p }
      ((s.engine.pageCounts p).map fun count => countPair count.1 count.2) := by
    intro hsearx p
    rw [pagePairs, laterPage, beq_false_of_ne hsearx, Bool.or_false]
  cases he : s.engine with
  | google =>
    refine ⟨[pair "hl" q.languageOrDefault],
      rangePair "tbs" (fun r => some ("qdr:" ++ rangeLetter r)) q ++
        (if q.safeSearch = .strict then [pair "safe" "active"] else []), fun p => ?_⟩
    rw [hlater (by simp [he]), ownPairs, he]
    exact congrArg (pair "hl" q.languageOrDefault :: ·) (List.append_assoc _ _ _)
  | brave =>
    refine ⟨[], rangePair "tf" (fun r => some ("p" ++ rangeLetter r)) q, fun p => ?_⟩
    rw [hlater (by simp [he]), ownPairs, he]
    rfl
  | duckduckgo =>
    refine ⟨[], ((region? q.language).elim [] fun r => [pair "kl" r]) ++
      rangePair "df" (fun r => some (rangeLetter r)) q ++ [pair "kp" (safeNumber q.safeSearch)],
      fun p => ?_⟩
    rw [hlater (by simp [he]), ownPairs, he, ← List.append_assoc, ← List.append_assoc]
    rfl
  | bing =>
    refine ⟨[], languagePair "setlang" q ++ rangePair "filters" freshness? q ++
      [pair "adlt" q.safeSearch.name], fun p => ?_⟩
    rw [hlater (by simp [he]), ownPairs, he, ← List.append_assoc, ← List.append_assoc]
    rfl
  | searx =>
    refine ⟨[], languagePair "language" q ++ [countPair "safesearch" q.safeSearch.level] ++
      rangePair "time_range" (fun r => some r.name) q, fun p => ?_⟩
    have hpage : s.pagePairs p = if s.paging then [countPair "pageno" (max p 1)] else [] := by
      rw [pagePairs, he, beq_self_eq_true, Bool.or_true, Bool.and_true]
      rfl
    rw [hpage, ownPairs, he, ← List.append_assoc, ← List.append_assoc]
    rfl
  | githubReleases | githubIssues =>
    refine ⟨[], [], fun p => ?_⟩
    rw [hlater (by simp [he]), ownPairs, he, List.append_nil]
    rfl
  | feed | reddit | customPage =>
    refine ⟨[], [], fun p => ?_⟩
    rw [pagePairs_eq_nil fun h => h.2 (by simp [he]), ownPairs, he]
    rfl

/-- **The page can be read from its pairs**, if it is one up to which the engine counts. -/
theorem pagePairs_injective (hs : s.HasPages) (hp : 1 ≤ p) (hp' : 1 ≤ p')
    (hcounts : s.engine.CountsTo p) (hcounts' : s.engine.CountsTo p')
    (h : s.pagePairs p = s.pagePairs p') : p = p' := by
  have hcount : Function.Injective fun count : String × Nat => countPair count.1 count.2 := by
    intro count count' heq
    obtain ⟨hname, hnumeral⟩ := Prod.mk.inj heq
    exact Prod.ext (String.toList_injective hname) (numeral_injective hnumeral)
  have htold : ∀ {p}, s.pagePairs p = [] → 1 ≤ p → p = 1 := by
    intro p hnil hp
    by_contra hfirst
    rw [pagePairs, hs.1, decide_eq_true (by omega : 1 < p)] at hnil
    exact Engine.pageCounts_ne_nil hs.2 p (List.map_eq_nil_iff.mp hnil)
  have hpairs : ∀ {p}, s.pagePairs p ≠ [] → s.pagePairs p =
      (s.engine.pageCounts p).map fun count => countPair count.1 count.2 := by
    intro p hnil
    rw [pagePairs] at hnil ⊢
    exact if_pos (by_contra fun h => hnil (if_neg h))
  by_cases hnil : s.pagePairs p = []
  · rw [htold hnil hp, htold (h ▸ hnil) hp']
  · have hnil' : s.pagePairs p' ≠ [] := h ▸ hnil
    rw [hpairs hnil, hpairs hnil'] at h
    exact Engine.pageCounts_injective hs.2 hp hp' hcounts hcounts'
      (List.map_injective_iff.mpr hcount h)

/-! ### Requests for two pages -/

/-- The request for a page: the page stands at one place in it. -/
theorem requestFor_withPage_of_isPageless (h : s.request.IsPageless) (q : Query) :
    ∃ front back, ∀ p, s.requestFor { q with page := p } = (s.request.render q).map fun u =>
      ⟨u.appendPairs (front ++ s.pagePairs p ++ back), s.headers q⟩ := by
  obtain ⟨front, back, hown⟩ := s.ownPairs_withPage q
  refine ⟨front, back, fun p => ?_⟩
  rw [requestFor, Template.render_withPage h, hown]
  cases s.request.render q <;> rfl

/-- The text of the URL tells the page, whatever the template makes of it. -/
theorem toText_ne_of_withPage (hs : s.HasPages) (hp : 1 ≤ p) (hp' : 1 ≤ p') (hne : p ≠ p')
    (hcounts : s.engine.CountsTo p) (hcounts' : s.engine.CountsTo p')
    (hr : s.requestFor { q with page := p } = .ok r)
    (hr' : s.requestFor { q with page := p' } = .ok r') : r.url.toText ≠ r'.url.toText := by
  intro htext
  have hpairs := (isMarked_of_requestFor hr).queryPairs_eq_of_toText
    (isMarked_of_requestFor hr') htext
  obtain ⟨v, hv, rfl⟩ := requestFor_eq_ok_iff.mp hr
  obtain ⟨u, hu, rfl⟩ := Template.render_eq_ok_iff.mp hv
  obtain ⟨v', hv', rfl⟩ := requestFor_eq_ok_iff.mp hr'
  obtain ⟨u', hu', rfl⟩ := Template.render_eq_ok_iff.mp hv'
  obtain ⟨front, back, hown⟩ := s.ownPairs_withPage q
  simp only [Url.queryPairs_appendPairs] at hpairs
  -- in front of the pairs of the engine there are as many in both URLs
  have hlength := Url.length_queryPairs_eq (s.request.renumbered_filledUrl q p p') hu hu'
  obtain ⟨-, hpairs⟩ := List.append_inj hpairs (by simp [Template.filledParams, hlength])
  rw [hown, hown, List.append_assoc, List.append_assoc] at hpairs
  exact hne (pagePairs_injective hs hp hp' hcounts hcounts'
    (List.append_cancel_right (List.append_cancel_left hpairs)))

/-- **A query for another page changes what tells the page, and nothing else.** A source that is
told no page is sent the same request for every page, if its template does not look at the page
either. Any other source is sent another URL for every page up to which its engine counts, whatever
the template, and the same headers. If the template does not look at the page, then the URLs for all
pages are one URL with pairs appended, of which those between `front` and `back` tell the page. -/
theorem requestFor_withPage (s : Source) (q : Query) :
    (¬s.HasPages → s.request.IsPageless → ∀ p p',
      s.requestFor { q with page := p } = s.requestFor { q with page := p' }) ∧
    (s.HasPages → ∀ p p', 1 ≤ p → 1 ≤ p' → p ≠ p' → s.engine.CountsTo p → s.engine.CountsTo p' →
      ∀ r r', s.requestFor { q with page := p } = .ok r →
        s.requestFor { q with page := p' } = .ok r' →
          r.url.toText ≠ r'.url.toText ∧ r.headers = r'.headers) ∧
    (s.HasPages → s.request.IsPageless →
      ∃ front back, ∀ p, s.requestFor { q with page := p } = (s.request.render q).map fun u =>
        ⟨u.appendPairs (front ++ s.pagePairs p ++ back), s.headers q⟩) := by
  refine ⟨fun hs h p p' => ?_, fun hs p p' hp hp' hne hcounts hcounts' r r' hr hr' => ⟨?_, ?_⟩,
    fun _ h => ?_⟩
  · obtain ⟨front, back, hrequest⟩ := requestFor_withPage_of_isPageless h q
    rw [hrequest, hrequest, pagePairs_eq_nil hs, pagePairs_eq_nil hs]
  · exact toText_ne_of_withPage hs hp hp' hne hcounts hcounts' hr hr'
  · obtain ⟨v, -, rfl⟩ := requestFor_eq_ok_iff.mp hr
    obtain ⟨v', -, rfl⟩ := requestFor_eq_ok_iff.mp hr'
    rfl
  · exact requestFor_withPage_of_isPageless h q

/-- A feed; a page that the template tells in the path and by a parameter named like that of the
engine; and a template that looks at no page. -/
theorem requestFor_withPage_start :
    let feed := Source.make "f" .feed (Template.ofUrl "https://h.org/feed")
    let told := { Source.make "t" .google ((Template.ofUrl
      "https://h.org/\x7bpage\x7d?start=10").withParams [("start", "\x7boffset\x7d")]) with
        paging := true }
    let plain := { Source.make "p" .duckduckgo ((Template.ofUrl
      "https://h.org/").withParams [("s", "\x7bquery\x7d")]) with paging := true }
    let q := Query.ofTerms "x"
    feed.requestFor { q with page := 1 } = feed.requestFor { q with page := 7 } ∧
      (∃ r r', told.requestFor { q with page := 1 } = .ok r ∧
        told.requestFor { q with page := 2 } = .ok r' ∧
          r.url.toText ≠ r'.url.toText ∧ r.headers = r'.headers) ∧
      ∃ front back, ∀ p, plain.requestFor { q with page := p } =
        (plain.request.render q).map fun u =>
          ⟨u.appendPairs (front ++ plain.pagePairs p ++ back), plain.headers q⟩ := by
  intro feed told plain q
  obtain ⟨r, hr⟩ : ∃ r, told.requestFor { q with page := 1 } = .ok r :=
    exists_of_isSome_requestFor (by decide +kernel)
  obtain ⟨r', hr'⟩ : ∃ r, told.requestFor { q with page := 2 } = .ok r :=
    exists_of_isSome_requestFor (by decide +kernel)
  refine ⟨(requestFor_withPage feed q).1 (by decide) (by decide +kernel) 1 7,
    ⟨r, r', hr, hr', ?_⟩, (requestFor_withPage plain q).2.2 (by decide) (by decide +kernel)⟩
  exact (requestFor_withPage told q).2.1 (by decide) 1 2 (by decide) (by decide) (by decide)
    (by decide) (by decide) r r' hr hr'

end Source
end Metasearch
