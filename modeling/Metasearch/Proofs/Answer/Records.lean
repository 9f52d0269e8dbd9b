import Metasearch.Proofs.Settings
import Metasearch.Proofs.Text.Clean

/-!
# What a source makes of an answer

Each engine has a reader of its own, and what the readers have in common is where their records come
from: every one is made by `Record.make`, and only its source, kind, time, extras and relevance are
told afterwards. So the texts of a record are clean, whatever the answer was.

## Main definitions

* `Engine.blocks`, `Engine.block`: where results are on a result page, and what they tell.
* `Source.answer`: the records of an answer.
* `Record.IsClean`: a record with clean texts.

## Main results

* `Source.isClean_of_answer`: all records of all engines are clean.
-/

namespace Metasearch

open Metasearch.Answer Metasearch.Text Metasearch.Html Metasearch.Css

/-! ### Result pages -/

/-- The blocks of a result page. -/
def Engine.blocks : Engine → List Selector
  | .google => alternatives "div.g"
  | .brave => alternatives "div.snippet[data-type=\"web\"], div.snippet[data-pos]"
  | .duckduckgo => alternatives ".result, .results_links"
  | .bing => alternatives "li.b_algo"
  | .searx | .feed | .githubReleases | .githubIssues | .reddit | .customPage => []

/-- What a block of a result page tells. -/
def Engine.block : Engine → Document → NodeId → Option Found
  | .google => googleBlock
  | .brave => braveBlock
  | .duckduckgo => duckDuckGoBlock
  | .bing => bingBlock
  | .searx | .feed | .githubReleases | .githubIssues | .reddit | .customPage => fun _ _ => none

/-- The engines that are asked for result pages. -/
def Engine.hasResultPages : Engine → Bool
  | .google | .brave | .duckduckgo | .bing => true
  | .searx | .feed | .githubReleases | .githubIssues | .reddit | .customPage => false

/-! ### Answers -/

/-- What a source makes of an answer to a request. -/
def Source.answer (s : Source) (request : Request) (body : String) :
    Except Failure (List Record) := do
  (← s.reader) request body

/-- A record with clean texts. -/
structure Record.IsClean (r : Record) : Prop where
  /-- The title is clean. -/
  title : Normal r.title.toList
  /-- The excerpt is clean. -/
  content : Normal r.content.toList

variable {s : Source} {request : Request} {body : String} {records : List Record} {r : Record}

theorem Record.isClean_of_eq {title content : String} (htitle : r.title = cleaned title)
    (hcontent : r.content = cleaned content) : r.IsClean where
  title := htitle ▸ (cleaned_isNormal title).1
  content := hcontent ▸ (cleaned_isNormal content).1

/-! ### Records of each shape -/

namespace Answer

theorem isClean_readBlocks {blocks : List Selector}
    {read : Document → NodeId → Option Found} (hr : r ∈ readBlocks s blocks read body) :
    r.IsClean := by
  obtain ⟨f, -, rfl⟩ := List.mem_map.mp hr
  exact Record.isClean_of_eq rfl rfl

theorem isClean_readPage {c : PageLayout} {page : Url} (hr : r ∈ readPage s c page body) :
    r.IsClean := by
  obtain ⟨n, -, hn⟩ := List.mem_filterMap.mp hr
  rw [itemRecord?] at hn
  obtain ⟨-, hn⟩ := Option.ite_none_left_eq_some.mp hn
  obtain rfl := Option.some.inj hn
  exact Record.isClean_of_eq rfl rfl

theorem isClean_readFeed (h : readFeed s body = .ok records) (hr : r ∈ records) : r.IsClean := by
  rw [readFeed] at h
  split at h
  · cases h
  · obtain rfl := Except.ok.inj h
    obtain ⟨e, -, rfl⟩ := List.mem_map.mp hr
    exact Record.isClean_of_eq rfl rfl

/-- The readers of JSON make their records item by item. -/
theorem isClean_of_map {α β : Type} {read : Except Failure α} {items : α → List β}
    {record : β → Record} (hrecord : ∀ b, (record b).IsClean)
    (h : (read.map fun a => (items a).map record) = .ok records) (hr : r ∈ records) :
    r.IsClean := by
  cases read with
  | error failure => cases h
  | ok a =>
    obtain rfl := Except.ok.inj h
    obtain ⟨b, -, rfl⟩ := List.mem_map.mp hr
    exact hrecord b

end Answer

/-! ### All engines -/

/-- The reader of each engine, with the layout of a scraped page read first. -/
theorem Source.answer_eq (s : Source) (request : Request) (body : String) :
    s.answer request body =
      match s.engine with
      | .google => readGoogle s body
      | .brave => readBrave s body
      | .duckduckgo => readDuckDuckGo s body
      | .bing => readBing s body
      | .searx => readHits s body
      | .feed => readFeed s body
      | .githubReleases => readReleases s body
      | .githubIssues => readIssues s body
      | .reddit => readPosts s body
      | .customPage =>
        match s.selectors with
        | none => .error (.config (.noSelectors s.id))
        | some selectors =>
          (PageLayout.ofSelectors selectors).map fun c => readPage s c request.url body := by
  rw [answer, reader]
  cases s.engine with
  | customPage =>
    cases s.selectors with
    | none => rfl
    | some selectors =>
      dsimp only
      cases PageLayout.ofSelectors selectors <;> rfl
  | _ => rfl

/-- **All records that a source makes of an answer are clean.** -/
theorem Source.isClean_of_answer (h : s.answer request body = .ok records) (hr : r ∈ records) :
    r.IsClean := by
  rw [answer_eq] at h
  cases hengine : s.engine <;> rw [hengine] at h <;> dsimp only at h
  case google =>
    rw [readGoogle] at h
    split at h
    · cases h
    · obtain rfl := Except.ok.inj h
      exact isClean_readBlocks hr
  case brave | duckduckgo | bing =>
    obtain rfl := Except.ok.inj h
    exact isClean_readBlocks hr
  case feed => exact isClean_readFeed h hr
  case searx | githubReleases | githubIssues | reddit =>
    exact isClean_of_map (fun _ => Record.isClean_of_eq rfl rfl) h hr
  case customPage =>
    split at h
    · cases h
    · obtain ⟨c, -, rfl⟩ := map_eq_ok_iff.mp h
      exact isClean_readPage hr

end Metasearch
