import Mathlib.Data.List.ReduceOption
import Metasearch.Proofs.Answer.Records
import Metasearch.Source.Catalog

/-!
# How many records are taken

A source may limit how many records are taken from one answer. An answer offers something for each
of its elements: a record, or nothing if the element is skipped. Feeds, repositories and boards
leave out what is skipped and cut then, so that a limit takes the front of all records. Scraped
pages cut first: there an item that gives no record still counts, and what is taken may stop short
of the limit with more records to come.

## Main definitions

* `Source.withMaxItems`: a source with a limit.
* `Source.offers`: what an answer offers, element by element.
* `Engine.cut`: where each engine cuts.

## Main results

* `reduceOption_take_eq_iff`: when it makes no difference where the cut is made.
* `Source.answer_withMaxItems`: an answer is cut where its engine cuts.
* `Source.answer_withMaxItems_front`: what a limit takes of all records.
-/

namespace Metasearch

open Metasearch.Answer Metasearch.Text Metasearch.Html Metasearch.Css

/-! ### Cutting and leaving out -/

section Lists

variable {α β γ : Type} {l : List (Option α)} {n : Nat}

theorem reduceOption_take_append_drop (l : List (Option α)) (n : Nat) :
    (l.take n).reduceOption ++ (l.drop n).reduceOption = l.reduceOption := by
  rw [← List.reduceOption_append, List.take_append_drop]

theorem reduceOption_take_front (l : List (Option α)) (n : Nat) :
    (l.take n).reduceOption <+: l.reduceOption.take n := by
  rw [List.prefix_take_iff, ← reduceOption_take_append_drop l n]
  exact ⟨List.prefix_append _ _, (List.reduceOption_length_le _).trans (List.length_take_le n l)⟩

/-- **The cut may come first** only if nothing is left out in front of it, or if nothing is left
behind it. -/
theorem reduceOption_take_eq_iff :
    (l.take n).reduceOption = l.reduceOption.take n ↔
      (∀ o ∈ l.take n, o.isSome = true) ∨ ∀ o ∈ l.drop n, o = none := by
  have hlength : (l.take n).reduceOption.length ≤ (l.take n).length :=
    List.reduceOption_length_le _
  have hshort : (l.take n).length ≤ n := List.length_take_le n l
  have hfull : (∀ o ∈ l.take n, o.isSome = true) ↔
      (l.take n).reduceOption.length = (l.take n).length :=
    List.reduceOption_length_eq_iff.symm
  have hnone : (∀ o ∈ l.drop n, o = none) ↔ (l.drop n).reduceOption = [] :=
    List.filterMap_eq_nil_iff.symm
  -- what is left out in front makes room for what stands behind
  have htake : (l.take n).reduceOption = l.reduceOption.take n ↔
      (l.drop n).reduceOption.take (n - (l.take n).reduceOption.length) = [] := by
    rw [← reduceOption_take_append_drop l n, List.take_append,
      List.take_of_length_le (hlength.trans hshort), List.self_eq_append_right]
  rw [htake, hfull, hnone, List.take_eq_nil_iff]
  constructor
  · rintro (hroom | hbehind)
    · left
      omega
    · exact Or.inr hbehind
  · rintro (hall | hbehind)
    · by_cases hn : n ≤ l.length
      · left
        rw [hall, List.length_take]
        omega
      · right
        rw [List.drop_of_length_le (Nat.le_of_not_le hn)]
        rfl
    · exact Or.inr hbehind

theorem reduceOption_map_filter (f : α → Option β) (keeps : β → Bool) (g : β → γ) (items : List α) :
    (items.map fun a => ((f a).filter keeps).map g).reduceOption =
      ((items.filterMap f).filter keeps).map g := by
  induction items with
  | nil => rfl
  | cons a rest ih =>
    rw [List.map_cons, List.filterMap_cons]
    cases f a with
    | none => exact ih
    | some b =>
      rw [Option.filter_some, List.filter_cons]
      split_ifs
      · rw [Option.map_some, List.reduceOption_cons_of_some, List.map_cons, ih]
      · exact ih

end Lists

/-! ### What is offered -/

/-- The source with a limit on the records that are taken from one answer. -/
def Source.withMaxItems (s : Source) (n : Nat) : Source :=
  { s with maxItems := some n }

namespace Answer

/-- The records of the items that are kept, and nothing for each of the others. -/
def offered {α : Type} (keeps : α → Bool) (record : α → Record) (items : List α) :
    List (Option Record) :=
  items.map fun a => ((some a).filter keeps).map record

/-- What the blocks of a result page offer. -/
def blockOffers (s : Source) (e : Engine) (body : String) : List (Option Record) :=
  let d := Document.ofText body.toList
  (selectAll d e.blocks).map fun n =>
    ((e.block d n).filter Found.isComplete).map (Found.record s.id)

/-- What the items of a scraped page offer. -/
def itemOffers (s : Source) (c : PageLayout) (page : Url) (body : String) : List (Option Record) :=
  let d := Document.ofText body.toList
  (selectAll d c.item).map (itemRecord? s c page d)

end Answer

/-- What an answer offers for each of its elements: the record of the element, or nothing if it is
skipped. -/
def Source.offers (s : Source) (request : Request) (body : String) :
    Except Failure (List (Option Record)) :=
  match s.engine with
  | .google =>
    if asksForPerson body then .error (.answer .captcha)
    else .ok (blockOffers s .google body)
  | .brave => .ok (blockOffers s .brave body)
  | .duckduckgo => .ok (blockOffers s .duckduckgo body)
  | .bing => .ok (blockOffers s .bing body)
  | .searx =>
    (readJson decodeHits? body).map (offered (fun h => !h.url.isEmpty) (Hit.record s.id))
  | .feed =>
    match entriesOf (Xml.read body.toList) with
    | .error fault => .error (.answer fault)
    | .ok entries => .ok (offered (fun e => !isBlank e.link) (Entry.record s) entries)
  | .githubReleases =>
    (readJson (Data.asList? Release.decode?) body).map
      (offered (fun _ => true) (Release.record s.id (repositoryOf s)))
  | .githubIssues =>
    (readJson (Data.asList? Issue.decode?) body).map
      (offered (fun i => !i.isProposal) (Issue.record s.id (repositoryOf s)))
  | .reddit =>
    (readJson decodePosts? body).map
      (offered (fun p => !p.stickied || s.includeStickied) (Post.record s.id))
  | .customPage =>
    match s.selectors with
    | none => .error (.config (.noSelectors s.id))
    | some selectors =>
      (PageLayout.ofSelectors selectors).map fun c => itemOffers s c request.url body

/-- What is taken of what is offered under a limit. Feeds, repositories and boards are cut when
what is skipped has been left out, and scraped pages before that. The others are not cut. -/
def Engine.cut (e : Engine) (n : Nat) (offers : List (Option Record)) : List Record :=
  match e with
  | .feed | .githubReleases | .githubIssues | .reddit => offers.reduceOption.take n
  | .customPage => (offers.take n).reduceOption
  | .google | .brave | .duckduckgo | .bing | .searx => offers.reduceOption

theorem Engine.cut_of_length_lt {offers : List (Option Record)} {n : Nat} (e : Engine)
    (h : offers.length < n) : e.cut n offers = offers.reduceOption := by
  have hall : offers.reduceOption.take n = offers.reduceOption :=
    List.take_of_length_le ((List.reduceOption_length_le offers).trans h.le)
  cases e with
  | feed | githubReleases | githubIssues | reddit => exact hall
  | customPage => exact congrArg List.reduceOption (List.take_of_length_le h.le)
  | google | brave | duckduckgo | bing | searx => rfl

namespace Answer

theorem readBlocks_eq (s : Source) (e : Engine) (body : String) :
    readBlocks s e.blocks e.block body = (blockOffers s e body).reduceOption := by
  rw [readBlocks, blockOffers, reduceOption_map_filter]

theorem readPage_eq (s : Source) (c : PageLayout) (page : Url) (body : String) :
    readPage s c page body =
      ((itemOffers s c page body).take (s.maxItems.getD standardItems)).reduceOption := by
  rw [readPage, itemOffers, ← List.map_take, List.reduceOption, List.filterMap_map]
  rfl

theorem reduceOption_offered {α : Type} (keeps : α → Bool) (record : α → Record) (items : List α) :
    (offered keeps record items).reduceOption = (items.filter keeps).map record := by
  rw [offered, reduceOption_map_filter, List.filterMap_some]

/-- The records of items that are left out and cut in this order. -/
theorem map_offered {α : Type} (read : Except Failure (List α)) (keeps : α → Bool)
    (record : α → Record) (n : Nat) :
    (read.map (offered keeps record)).map (fun offers => offers.reduceOption.take n) =
      read.map fun items => ((items.filter keeps).take n).map record := by
  cases read with
  | error failure => rfl
  | ok items =>
    refine congrArg Except.ok ?_
    dsimp only
    rw [reduceOption_offered, List.map_take]

end Answer

theorem Source.answer_withMaxItems (s : Source) (n : Nat) (request : Request) (body : String) :
    (s.withMaxItems n).answer request body = (s.offers request body).map (s.engine.cut n) := by
  have hengine : (s.withMaxItems n).engine = s.engine := rfl
  have hselectors : (s.withMaxItems n).selectors = s.selectors := rfl
  rw [answer_eq, hengine, hselectors, offers]
  cases s.engine <;> dsimp only [Engine.cut]
  case google =>
    rw [readGoogle]
    split
    · rfl
    · exact congrArg Except.ok (readBlocks_eq s .google body)
  case brave => exact congrArg Except.ok (readBlocks_eq s .brave body)
  case duckduckgo => exact congrArg Except.ok (readBlocks_eq s .duckduckgo body)
  case bing => exact congrArg Except.ok (readBlocks_eq s .bing body)
  case searx =>
    rw [readHits]
    cases readJson decodeHits? body with
    | error failure => rfl
    | ok hits => exact congrArg Except.ok (reduceOption_offered _ _ hits).symm
  case feed =>
    rw [readFeed]
    cases entriesOf (Xml.read body.toList) with
    | error fault => rfl
    | ok entries => exact (map_offered (.ok entries) _ _ n).symm
  case githubReleases =>
    refine Eq.trans ?_ (map_offered _ _ _ n).symm
    simp only [List.filter_true]
    rfl
  case githubIssues => exact (map_offered _ _ _ n).symm
  case reddit => exact (map_offered _ _ _ n).symm
  case customPage =>
    cases s.selectors with
    | none => rfl
    | some selectors =>
      dsimp only
      cases PageLayout.ofSelectors selectors with
      | error failure => rfl
      | ok c => exact congrArg Except.ok (readPage_eq (s.withMaxItems n) c request.url body)

/-- **What a limit takes of all records.** Whether an answer is refused has nothing to do with the
limit. If it is not, then a limit above the number of its elements takes all records. Any limit
takes the front of them from feeds, repositories and boards, whatever is skipped; from scraped pages
it takes no more than that, and as much only if no item is skipped in front of the cut or no record
comes behind it. Result pages and search backends know no limit. -/
theorem Source.answer_withMaxItems_front (s : Source) (request : Request) (body : String) :
    (∃ failure, s.offers request body = .error failure ∧
      ∀ n, (s.withMaxItems n).answer request body = .error failure) ∨
    ∃ offers, s.offers request body = .ok offers ∧ ∀ n m, offers.length < m →
      ∃ records all, (s.withMaxItems n).answer request body = .ok records ∧
        (s.withMaxItems m).answer request body = .ok all ∧
        all = offers.reduceOption ∧
        match s.engine with
        | .feed | .githubReleases | .githubIssues | .reddit => records = all.take n
        | .customPage =>
          records <+: all.take n ∧ (records = all.take n ↔
            (∀ o ∈ offers.take n, o.isSome = true) ∨ ∀ o ∈ offers.drop n, o = none)
        | .google | .brave | .duckduckgo | .bing | .searx => records = all := by
  cases hoffers : s.offers request body with
  | error failure =>
    refine Or.inl ⟨failure, rfl, fun n => ?_⟩
    rw [answer_withMaxItems, hoffers]
    rfl
  | ok offers =>
    refine Or.inr ⟨offers, rfl, fun n m hm => ?_⟩
    have hanswer : ∀ n, (s.withMaxItems n).answer request body = .ok (s.engine.cut n offers) := by
      intro n
      rw [answer_withMaxItems, hoffers]
      rfl
    refine ⟨_, _, hanswer n, hanswer m, s.engine.cut_of_length_lt hm, ?_⟩
    rw [s.engine.cut_of_length_lt hm]
    cases s.engine with
    | customPage => exact ⟨reduceOption_take_front offers n, reduceOption_take_eq_iff⟩
    | _ => rfl

/-- A feed whose first item has no link. -/
def partialFeed : String :=
  "<rss><item><title>A</title></item><item><title>B</title><link>http://1.2.3.4/b</link></item>" ++
    "<item><title>C</title><link>http://1.2.3.4/c</link></item></rss>"

/-- A request for the page of a server. -/
def pageRequest : Request :=
  ⟨⟨"http".toList, some ⟨[], [], .ipv4 16909060, none⟩, .segments [[]], none, none⟩, []⟩

/-- The item without a link does not count. -/
theorem answer_withMaxItems_front_linked :
    ∃ records all,
      (Catalog.googleNews.withMaxItems 1).answer pageRequest partialFeed = .ok records ∧
      (Catalog.googleNews.withMaxItems 4).answer pageRequest partialFeed = .ok all ∧
      all.map Record.title = ["B", "C"] ∧ records = all.take 1 := by
  have htitles : (Catalog.googleNews.offers pageRequest partialFeed).toOption.map
      (fun offers => offers.map fun o => o.map Record.title) = some [none, some "B", some "C"] := by
    decide +kernel
  rcases Source.answer_withMaxItems_front Catalog.googleNews pageRequest partialFeed with
    ⟨failure, hfailure, -⟩ | ⟨offers, hoffers, hfront⟩
  · rw [hfailure] at htitles
    cases htitles
  · rw [hoffers] at htitles
    have hoffered : offers.map (fun o => o.map Record.title) = [none, some "B", some "C"] :=
      Option.some.inj htitles
    have hlength : offers.length = 3 := by simpa using congrArg List.length hoffered
    obtain ⟨records, all, hrecords, hall, hwhole, htake⟩ := hfront 1 4 (by omega)
    refine ⟨records, all, hrecords, hall, ?_, htake⟩
    rw [hwhole, ← List.reduceOption_map, hoffered]
    rfl

/-- A page whose first article is empty. -/
def sparsePage : String :=
  "<article></article><article><h2>A</h2></article>"

/-- A source that takes the articles of a page. -/
def articles : Source :=
  { Source.make "page" .customPage (Template.ofUrl "http://1.2.3.4/") with
    selectors := some { Selectors.standard with title := some "h2" } }

/-- The empty article counts, and the limit is used up before the first record. -/
theorem answer_withMaxItems_sparse :
    articles.fault? = none ∧
      (articles.offers pageRequest sparsePage).toOption.map List.length = some 2 ∧
      ((articles.withMaxItems 3).answer pageRequest sparsePage).toOption.map
        (fun all => (all.take 1).map Record.title) = some ["A"] ∧
      ((articles.withMaxItems 1).answer pageRequest sparsePage).toOption = some [] :=
  ⟨by decide +kernel, by decide +kernel, by decide +kernel, by decide +kernel⟩

end Metasearch
