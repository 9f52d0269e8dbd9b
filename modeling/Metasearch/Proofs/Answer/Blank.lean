import Metasearch.Proofs.Answer.Records
import Metasearch.Proofs.Answer.Redirect
import Metasearch.Proofs.Text.Hollow

/-!
# Results without a title

A result without a title is of no use, so a result page gives no records for blocks without one,
and a scraped page none for items with neither a title nor an excerpt. What is looked at is the text
on the page. A record has the clean form of it, and of a text that is hollow nothing is left then:
such a result is emitted blank.

## Main definitions

* `Engine.titles`: where titles are on a result page.

## Main results

* `Engine.title_of_block`: the title that a block tells is the text of its first title.
* `Source.title_eq_empty_iff`: the records that are blank.
-/

namespace Metasearch

open Metasearch.Answer Metasearch.Text Metasearch.Html Metasearch.Css

variable {s : Source} {request : Request} {body : String} {records : List Record} {r : Record}
  {d : Document} {n : NodeId} {f : Found}

/-- The title, within a block of a result page. -/
def Engine.titles : Engine → List Selector
  | .google => alternatives "h3"
  | .brave => alternatives ".search-snippet-title, .title"
  | .duckduckgo => alternatives "a.result__a, .result__title a"
  | .bing => alternatives "h2 a"
  | .searx | .feed | .githubReleases | .githubIssues | .reddit | .customPage => []

/-! ### Titles on result pages -/

theorem Answer.firstText_of_firstIn? {m : NodeId} {selectors : List Selector}
    (h : firstIn? d n selectors = some m) : firstText d n selectors = textIn d m := by
  rw [firstText, h]

/-- **The title that a block tells is the text of its first title.** -/
theorem Engine.title_of_block {e : Engine} (h : e.block d n = some f) :
    f.title = firstText d n e.titles := by
  cases e <;> dsimp only [block, titles] at h ⊢
  case google =>
    obtain ⟨title, htitle, h⟩ := Option.bind_eq_some_iff.mp h
    obtain ⟨link, -, h⟩ := Option.bind_eq_some_iff.mp h
    obtain ⟨url, -, h⟩ := Option.bind_eq_some_iff.mp h
    obtain rfl := Option.some.inj h
    exact (firstText_of_firstIn? htitle).symm
  case brave =>
    obtain ⟨-, h⟩ := Option.ite_none_right_eq_some.mp h
    obtain rfl := Option.some.inj h
    rfl
  case duckduckgo =>
    obtain ⟨-, h⟩ := Option.ite_none_left_eq_some.mp h
    obtain ⟨title, htitle, h⟩ := Option.bind_eq_some_iff.mp h
    obtain rfl := Option.some.inj h
    exact (firstText_of_firstIn? htitle).symm
  case bing =>
    obtain ⟨title, htitle, h⟩ := Option.bind_eq_some_iff.mp h
    obtain ⟨-, h⟩ := Option.ite_none_right_eq_some.mp h
    obtain rfl := Option.some.inj h
    exact (firstText_of_firstIn? htitle).symm
  all_goals cases h

/-- The records of a result page are those of its blocks. -/
theorem Source.eq_readBlocks_of_answer (he : s.engine.hasResultPages = true)
    (h : s.answer request body = .ok records) :
    records = readBlocks s s.engine.blocks s.engine.block body := by
  rw [answer_eq] at h
  cases hengine : s.engine <;> rw [hengine] at h he
  case google =>
    dsimp only at h
    rw [readGoogle] at h
    split at h
    · cases h
    · exact (Except.ok.inj h).symm
  case brave | duckduckgo | bing => exact (Except.ok.inj h).symm
  all_goals cases he

/-- A result is emitted with the clean form of the title on the page, which is not empty. -/
theorem Source.exists_title_of_answer (he : s.engine.hasResultPages = true)
    (h : s.answer request body = .ok records) (hr : r ∈ records) :
    ∃ n ∈ selectAll (Document.ofText body.toList) s.engine.blocks,
      let title := firstText (Document.ofText body.toList) n s.engine.titles
      title ≠ [] ∧ r.title = cleaned (String.ofList title) := by
  rw [eq_readBlocks_of_answer he h, mem_readBlocks_iff] at hr
  obtain ⟨n, hn, f, hread, hcomplete, rfl⟩ := hr
  rw [Found.isComplete, Bool.and_eq_true, Bool.not_eq_true', Bool.not_eq_true',
    List.isEmpty_eq_false_iff, List.isEmpty_eq_false_iff] at hcomplete
  have htitle : firstText (Document.ofText body.toList) n s.engine.titles = f.title :=
    (Engine.title_of_block hread).symm
  refine ⟨n, hn, ?_⟩
  rw [htitle]
  exact ⟨hcomplete.2, rfl⟩

/-! ### Items of scraped pages -/

/-- An item is emitted with the clean forms of its title and excerpt, not both of which are
empty. -/
theorem Source.exists_texts_of_answer (he : s.engine = .customPage)
    (h : s.answer request body = .ok records) (hr : r ∈ records) :
    ∃ selectors c, s.selectors = some selectors ∧ PageLayout.ofSelectors selectors = .ok c ∧
      ∃ n ∈ selectAll (Document.ofText body.toList) c.item,
        let title := firstText (Document.ofText body.toList) n c.title
        let content := firstText (Document.ofText body.toList) n c.content
        (title ≠ [] ∨ content ≠ []) ∧ r.title = cleaned (String.ofList title) ∧
          r.content = cleaned (String.ofList content) := by
  rw [answer_eq, he] at h
  dsimp only at h
  split at h
  · cases h
  · rename_i selectors hselectors
    obtain ⟨c, hc, rfl⟩ := map_eq_ok_iff.mp h
    obtain ⟨n, hn, hrecord⟩ := List.mem_filterMap.mp hr
    rw [itemRecord?] at hrecord
    obtain ⟨hshown, hrecord⟩ := Option.ite_none_left_eq_some.mp hrecord
    obtain rfl := Option.some.inj hrecord
    refine ⟨selectors, c, hselectors, hc, n, List.mem_of_mem_take hn, ?_, rfl, rfl⟩
    rw [Bool.and_eq_true, List.isEmpty_iff, List.isEmpty_iff, not_and_or] at hshown
    exact hshown

/-! ### Blank results -/

/-- **The results that are blank are those with hollow texts.** A result page gives records for
blocks with a title on the page, and the record has none just when that title is hollow. A scraped
page gives records for items with a title or an excerpt on the page, and the record has neither just
when both are hollow. -/
theorem Source.title_eq_empty_iff (h : s.answer request body = .ok records) (hr : r ∈ records) :
    let d := Document.ofText body.toList
    (s.engine.hasResultPages = true → ∃ n ∈ selectAll d s.engine.blocks,
      let title := firstText d n s.engine.titles
      title ≠ [] ∧ r.title = cleaned (String.ofList title) ∧ (r.title = "" ↔ IsHollow title)) ∧
    (s.engine = .customPage → ∃ selectors c, s.selectors = some selectors ∧
      PageLayout.ofSelectors selectors = .ok c ∧ ∃ n ∈ selectAll d c.item,
        let title := firstText d n c.title
        let content := firstText d n c.content
        (title ≠ [] ∨ content ≠ []) ∧ r.title = cleaned (String.ofList title) ∧
          r.content = cleaned (String.ofList content) ∧
          (r.title = "" ∧ r.content = "" ↔ IsHollow title ∧ IsHollow content)) := by
  intro d
  refine ⟨fun he => ?_, fun he => ?_⟩
  · obtain ⟨n, hn, hshown, htitle⟩ := exists_title_of_answer he h hr
    refine ⟨n, hn, hshown, htitle, ?_⟩
    rw [htitle, cleaned_eq_empty_iff, String.toList_ofList]
  · obtain ⟨selectors, c, hselectors, hc, n, hn, hshown, htitle, hcontent⟩ :=
      exists_texts_of_answer he h hr
    refine ⟨selectors, c, hselectors, hc, n, hn, hshown, htitle, hcontent, ?_⟩
    rw [htitle, hcontent, cleaned_eq_empty_iff, cleaned_eq_empty_iff, String.toList_ofList,
      String.toList_ofList]

/-- A request for the first page of a search. -/
def searchRequest : Request :=
  ⟨⟨"https".toList, some ⟨[], [], .domain "www.bing.com".toList, none⟩,
    .segments ["search".toList], none, none⟩, []⟩

/-- An annotation and a name. -/
theorem title_eq_empty_iff_annotated :
    let body := "<li class=b_algo><h2><a href='https://example.com/'>[PDF] Notes</a></h2></li>"
    ∃ records r, Catalog.bing.answer searchRequest body = .ok records ∧ r ∈ records ∧
      ∃ n ∈ selectAll (Document.ofText body.toList) Engine.bing.blocks,
        let title := firstText (Document.ofText body.toList) n Engine.bing.titles
        title ≠ [] ∧ r.title = cleaned (String.ofList title) ∧ (r.title = "" ↔ IsHollow title) := by
  intro body
  have htitles : (Catalog.bing.answer searchRequest body).toOption.map
      (fun records => records.map Record.title) = some ["Notes"] := by decide +kernel
  cases h : Catalog.bing.answer searchRequest body with
  | error failure =>
    rw [h] at htitles
    cases htitles
  | ok records =>
    rw [h] at htitles
    obtain ⟨r, hr, -⟩ := List.mem_map.mp (Option.some.inj htitles ▸ List.mem_singleton_self "Notes")
    exact ⟨records, r, rfl, hr, (Source.title_eq_empty_iff h hr).1 rfl⟩

/-- A title that is an annotation counts as one, and the result has none. -/
theorem answer_annotation :
    let body := "<li class=b_algo><h2><a href='https://example.com/'>[PDF]</a></h2></li>"
    (Catalog.bing.answer searchRequest body).toOption.map
        (fun records => records.map fun r => (r.url, r.title, r.content)) =
      some [("https://example.com/", "", "")] := by
  decide +kernel

end Metasearch
