import Metasearch.Proofs.Request
import Metasearch.Proofs.Template.Dependence
import Metasearch.Source.Catalog

/-!
# A blank language

A language that is blank counts as none wherever the default takes its place: in a template, in the
pairs of most engines, and where a region is made of it. SearXNG and Bing are told the language as
it was given. They are told a blank one too, in one pair more than without a language.

## Main definitions

* `Engine.languageName?`: where the language goes as it was given.

## Main results

* `Query.languageOrDefault_of_isBlank`, `Source.region?_of_isBlank`.
* `Source.requestFor_of_isBlank`: what a blank language changes in a request.
-/

namespace Metasearch

open Metasearch.Text Metasearch.Number

/-- The parameter by which an engine is told the language as it was given, if there is one. -/
def Engine.languageName? : Engine → Option String
  | .bing => some "setlang"
  | .searx => some "language"
  | _ => none

variable {s : Source} {q : Query} {l : String}

theorem Text.trimmed_of_isBlank (hl : isBlank l.toList = true) : trimmed l = "" := by
  rw [trimmed, trim, trimWhere,
    List.dropWhile_eq_nil_iff.mpr fun c hc => List.all_eq_true.mp hl c hc]
  rfl

theorem Query.languageOrDefault_of_isBlank (hl : isBlank l.toList = true) :
    ({ q with language := some l } : Query).languageOrDefault =
      ({ q with language := none } : Query).languageOrDefault := by
  rw [languageOrDefault, languageOrDefault, languageOr, languageOr, Option.map_some,
    trimmed_of_isBlank hl]
  rfl

theorem Template.render_of_isBlank (t : Template) (hl : isBlank l.toList = true) :
    t.render { q with language := some l } = t.render { q with language := none } :=
  render_congr rfl fun terms name _ => by
    rw [placeholder, placeholder, Query.languageOrDefault_of_isBlank hl]
    rfl

namespace Source

/-- No region is made of a blank language: neither of the marks before a country is white space. -/
theorem region?_of_isBlank (hl : isBlank l.toList = true) : region? (some l) = none := by
  have hmark : ∀ c ∈ l.toList, (c == '-' || c == '_') = false := by
    intro c hc
    have hspace := List.all_eq_true.mp hl c hc
    by_contra hmark
    rw [Bool.not_eq_false, Bool.or_eq_true, beq_iff_eq, beq_iff_eq] at hmark
    rcases hmark with rfl | rfl <;> exact absurd hspace (by decide)
  have hnone := afterFirst_eq_none hmark
  simp only [region?, Option.bind_eq_bind, Option.bind_some, hnone, Option.bind_none]

/-- **A blank language adds nothing but the language as it was given.** -/
theorem ownPairs_of_isBlank (s : Source) (q : Query) (hl : isBlank l.toList = true) :
    ∃ front back, s.ownPairs { q with language := none } = front ++ back ∧
      s.ownPairs { q with language := some l } =
        front ++ s.engine.languageName?.toList.map (fun name => pair name l) ++ back := by
  -- the engines that are not told the language itself make the same of it as of none
  have hsame : s.engine.languageName? = none →
      s.ownPairs { q with language := some l } = s.ownPairs { q with language := none } := by
    intro hname
    cases he : s.engine with
    | bing | searx => rw [he] at hname; cases hname
    | google => simp only [ownPairs, he, Query.languageOrDefault_of_isBlank hl]; rfl
    | duckduckgo => simp only [ownPairs, he, region?_of_isBlank hl]; rfl
    | brave | githubReleases | githubIssues => simp only [ownPairs, he]; rfl
    | feed | reddit | customPage => simp only [ownPairs, he]
  cases he : s.engine with
  | bing =>
    refine ⟨s.laterPage q [countPair "first" (q.firstNumber 10)],
      rangePair "filters" freshness? q ++ [pair "adlt" q.safeSearch.name], ?_, ?_⟩
    · simp only [ownPairs, he, languagePair, List.append_nil, List.append_assoc]
      rfl
    · simp only [ownPairs, he, languagePair, List.append_assoc]
      rfl
  | searx =>
    refine ⟨if s.paging then [countPair "pageno" (max q.page 1)] else [],
      countPair "safesearch" q.safeSearch.level ::
        rangePair "time_range" (fun r => some r.name) q, ?_, ?_⟩
    · simp only [ownPairs, he, languagePair, List.append_nil, List.append_assoc]
      rfl
    · simp only [ownPairs, he, languagePair, List.append_assoc]
      rfl
  | _ =>
    refine ⟨s.ownPairs { q with language := none }, [], (List.append_nil _).symm, ?_⟩
    rw [hsame (by rw [he]; rfl)]
    simp [Engine.languageName?]

/-! ### The whole request -/

/-- The request with a blank language has at most one pair more than that without a language. -/
theorem exists_requestFor_of_isBlank (s : Source) (q : Query) (hl : isBlank l.toList = true) :
    ∃ front back,
      (s.requestFor { q with language := none } =
        (s.request.render { q with language := none }).map fun u =>
          ⟨u.appendPairs (front ++ back), s.headers q⟩) ∧
      s.requestFor { q with language := some l } =
        (s.request.render { q with language := none }).map fun u =>
          ⟨u.appendPairs (front ++ s.engine.languageName?.toList.map (fun name => pair name l) ++
            back), s.headers q⟩ := by
  obtain ⟨front, back, hnone, hblank⟩ := s.ownPairs_of_isBlank q hl
  refine ⟨front, back, ?_, ?_⟩
  · rw [requestFor, hnone]
    cases s.request.render { q with language := none } <;> rfl
  · rw [requestFor, Template.render_of_isBlank _ hl, hblank]
    cases s.request.render { q with language := none } <;> rfl

/-- **A blank language counts as none, but for two engines.** Bing and SearXNG are told the language
as it was given. The request to them is the one without a language, with one pair more for the blank
one, and that makes another URL of it. -/
theorem requestFor_of_isBlank (s : Source) (q : Query) (hl : isBlank l.toList = true) :
    (s.engine.languageName? = none →
      s.requestFor { q with language := some l } = s.requestFor { q with language := none }) ∧
    ∀ name ∈ s.engine.languageName?,
      (∃ front back,
        (s.requestFor { q with language := none } =
          (s.request.render { q with language := none }).map fun u =>
            ⟨u.appendPairs (front ++ back), s.headers q⟩) ∧
        s.requestFor { q with language := some l } =
          (s.request.render { q with language := none }).map fun u =>
            ⟨u.appendPairs (front ++ pair name l :: back), s.headers q⟩) ∧
      ∀ r r', s.requestFor { q with language := none } = .ok r →
        s.requestFor { q with language := some l } = .ok r' → r.url.toText ≠ r'.url.toText := by
  obtain ⟨front, back, hnone, hblank⟩ := s.exists_requestFor_of_isBlank q hl
  constructor
  · intro hname
    rw [hname, Option.toList_none, List.map_nil, List.append_nil] at hblank
    rw [hblank, hnone]
  · intro name hname
    rw [Option.mem_def.mp hname, Option.toList_some, List.map_singleton, List.append_assoc,
      List.singleton_append] at hblank
    refine ⟨⟨front, back, hnone, hblank⟩, fun r r' hr hr' htext => ?_⟩
    -- one pair more makes another URL
    have hpairs := (isMarked_of_requestFor hr).queryPairs_eq_of_toText
      (isMarked_of_requestFor hr') htext
    rw [hnone] at hr
    rw [hblank] at hr'
    cases hu : s.request.render { q with language := none } with
    | error f =>
      rw [hu] at hr
      cases hr
    | ok u =>
      rw [hu] at hr hr'
      obtain rfl := Except.ok.inj hr
      obtain rfl := Except.ok.inj hr'
      have hlength := congrArg List.length hpairs
      simp [Url.queryPairs_appendPairs] at hlength

/-- A line break and a space, for an engine that makes a region of the language, and for one that is
told it as it is. -/
theorem requestFor_of_isBlank_break :
    let q := { Query.ofTerms "rust" with page := 2, safeSearch := .strict }
    Catalog.duckduckgo.requestFor { q with language := some "\n\u2003" } =
        Catalog.duckduckgo.requestFor { q with language := none } ∧
      (∃ front back,
        (Catalog.searx.requestFor { q with language := none } =
          (Catalog.searx.request.render { q with language := none }).map fun u =>
            ⟨u.appendPairs (front ++ back), Catalog.searx.headers q⟩) ∧
        Catalog.searx.requestFor { q with language := some "\n\u2003" } =
          (Catalog.searx.request.render { q with language := none }).map fun u =>
            ⟨u.appendPairs (front ++ pair "language" "\n\u2003" :: back),
              Catalog.searx.headers q⟩) ∧
      ∃ r r', Catalog.searx.requestFor { q with language := none } = .ok r ∧
        Catalog.searx.requestFor { q with language := some "\n\u2003" } = .ok r' ∧
          r.url.toText ≠ r'.url.toText := by
  intro q
  have hblank : isBlank "\n\u2003".toList = true := by decide
  obtain ⟨hpair, hne⟩ :=
    (requestFor_of_isBlank Catalog.searx q hblank).2 "language" (by decide)
  obtain ⟨r, hr⟩ : ∃ r, Catalog.searx.requestFor { q with language := none } = .ok r :=
    exists_of_isSome_requestFor (by decide +kernel)
  obtain ⟨r', hr'⟩ : ∃ r, Catalog.searx.requestFor { q with language := some "\n\u2003" } = .ok r :=
    exists_of_isSome_requestFor (by decide +kernel)
  exact ⟨(requestFor_of_isBlank Catalog.duckduckgo q hblank).1 (by decide), hpair, r, r', hr, hr',
    hne r r' hr hr'⟩

/-- Bing is told an empty language. -/
theorem requestFor_bing_blank :
    let q := Query.ofTerms "rust"
    isBlank "".toList = true ∧
      (Catalog.bing.requestFor { q with language := none }).toOption.map (fun r => r.url.toText) =
        some "https://www.bing.com/search?q=rust&adlt=off".toList ∧
      (Catalog.bing.requestFor { q with language := some "" }).toOption.map
          (fun r => r.url.toText) =
        some "https://www.bing.com/search?q=rust&setlang=&adlt=off".toList :=
  ⟨by decide, by decide +kernel, by decide +kernel⟩

end Source
end Metasearch
