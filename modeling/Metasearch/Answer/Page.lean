import Metasearch.Answer.Results

/-!
# Scraped pages

Any page can be a source: selectors tell which blocks of it are items, and where in an item title,
excerpt and link are.

## Main definitions

* `PageLayout`: where the parts of an item are.
* `PageLayout.ofSelectors`: fails at the first selector that is not well formed.
* `readPage`: the records of a page.
-/

namespace Metasearch.Answer

open Metasearch.Text Metasearch.Html Metasearch.Css

/-- Where the items of a page and their parts are; a part that is not configured is nowhere. -/
structure PageLayout where
  /-- The block of one item. -/
  item : List Selector
  /-- The title, within the item. -/
  title : List Selector
  /-- The excerpt, within the item. -/
  content : List Selector
  /-- The link, within the item. -/
  url : List Selector

namespace PageLayout

/-- A selector that has been read. -/
def compile (css : String) : Except Failure (List Selector) :=
  match Selector.parse? css.toList with
  | some selectors => .ok selectors
  | none => .error (.answer (.badSelector css))

/-- A selector that has been read, if there is one. -/
def compileOptional : Option String → Except Failure (List Selector)
  | some css => compile css
  | none => .ok []

/-- The layout that selectors describe. -/
def ofSelectors (s : Selectors) : Except Failure PageLayout := do
  let item ← compile s.item
  let title ← compileOptional s.title
  let content ← compileOptional s.content
  let url ← compileOptional s.url
  return ⟨item, title, content, url⟩

end PageLayout

/-- How many items are taken from a page when the configuration does not say. -/
def standardItems : Nat := 10

/-- Where an item leads: its link as it stands on the page, or else the page itself. -/
def itemLink (d : Document) (n : NodeId) (url : List Selector) (page : Url) : Url :=
  let target? : Option Url := do
    let link ← firstIn? d n url
    let href ← d.attribute? link "href"
    (page.join (trim href.toList)).toOption
  target?.getD page

/-- The record of an item; an item without title and excerpt has none. -/
def itemRecord? (s : Source) (c : PageLayout) (page : Url) (d : Document) (n : NodeId) :
    Option Record :=
  let title := firstText d n c.title
  let content := firstText d n c.content
  if title.isEmpty && content.isEmpty then none
  else
    let url := (itemLink d n c.url page).href
    some { Record.make url (String.ofList title) (String.ofList content) with
      source := s.id
      kind := .page
      extras := { Extras.none with domain := page.hostText?.map String.ofList } }

/-- The records of a page: those of its first items. -/
def readPage (s : Source) (c : PageLayout) (page : Url) (body : String) : List Record :=
  let d := Document.ofText body.toList
  ((selectAll d c.item).take (s.maxItems.getD standardItems)).filterMap (itemRecord? s c page d)

end Metasearch.Answer
