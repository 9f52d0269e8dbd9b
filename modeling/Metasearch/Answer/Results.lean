import Metasearch.Css.Matching
import Metasearch.Css.Parser
import Metasearch.Encoding.Percent
import Metasearch.Html.Parser
import Metasearch.Record
import Metasearch.Source.Basic
import Metasearch.Url.Printer
import Metasearch.Url.Parser

/-!
# Result pages

The result pages of a web search are made for people. Each result is a block, in which title, link
and excerpt have their own places. Links may lead through the search engine first: those are
unwrapped.

## Main definitions

* `Found`: what a block tells.
* `unwrapGoogle?`, `unwrapDuckDuckGo?`: where a link leads in the end.
* `readGoogle`, `readBrave`, `readDuckDuckGo`, `readBing`: the records of a page.
-/

namespace Metasearch.Answer

open Metasearch.Text Metasearch.Html Metasearch.Css

/-! ### Searching a page -/

/-- The alternatives of a selector; none if it is not well formed. -/
def alternatives (css : String) : List Selector := (Selector.parse? css.toList).getD []

/-- The first element in another one that a selector means. -/
def firstIn? (d : Document) (n : NodeId) (selectors : List Selector) : Option NodeId :=
  (selectIn d n selectors).head?

/-- The text of an element without white space around it. -/
def textIn (d : Document) (n : NodeId) : List Char := trim (d.textOf n)

/-- The text of the first element in another one that a selector means. -/
def firstText (d : Document) (n : NodeId) (selectors : List Selector) : List Char :=
  match firstIn? d n selectors with
  | some m => textIn d m
  | none => []

/-- Where a link leads, as it is written. -/
def linkOf (d : Document) (n : NodeId) : List Char :=
  match d.attribute? n "href" with
  | some href => href.toList
  | none => []

/-- What a block tells. -/
structure Found where
  /-- Where the result is. -/
  url : List Char
  /-- Its title. -/
  title : List Char
  /-- Its excerpt. -/
  content : List Char

namespace Found

/-- Holds of results with a link and a title. -/
def isComplete (f : Found) : Bool := !f.url.isEmpty && !f.title.isEmpty

/-- The record of a result. -/
def record (source : String) (f : Found) : Record :=
  { Record.make (String.ofList f.url) (String.ofList f.title) (String.ofList f.content) with
    source }

end Found

/-- The records of the blocks of a page. -/
def readBlocks (s : Source) (blocks : List Selector) (read : Document → NodeId → Option Found)
    (body : String) : List Record :=
  let d := Document.ofText body.toList
  (((selectAll d blocks).filterMap (read d)).filter Found.isComplete).map (Found.record s.id)

/-! ### Google -/

/-- What a link through the search engine begins with. -/
def googleMark : List Char := "/url?q=".toList

/-- Where a link leads in the end; other links within the search engine lead to no result. -/
def unwrapGoogle? (href : List Char) : Option (List Char) :=
  match stripStart googleMark href with
  | some rest =>
    let target := beforeFirst (· == '&') rest
    some ((Encoding.Percent.decodeTerm? target).getD target)
  | none => if href.head? = some '/' then none else some href

/-- What a block tells. -/
def googleBlock (d : Document) (n : NodeId) : Option Found := do
  let title ← firstIn? d n (alternatives "h3")
  let link ← firstIn? d n (alternatives "a[href]")
  let url ← unwrapGoogle? (linkOf d link)
  let content := firstText d n (alternatives "div[data-sncf], div.VwiC3b, span.st")
  return ⟨url, textIn d title, content⟩

/-- Holds of pages that ask for a proof that a person is there. -/
def asksForPerson (body : String) : Bool :=
  occursIn "/sorry/index".toList body.toList || occursIn "recaptcha".toList body.toList

/-- The records of a result page of Google. -/
def readGoogle (s : Source) (body : String) : Except Failure (List Record) :=
  if asksForPerson body then .error (.answer .captcha)
  else .ok (readBlocks s (alternatives "div.g") googleBlock body)

/-! ### Brave -/

/-- Holds of links to web pages. -/
def leadsToWeb (url : List Char) : Bool := "http".toList.isPrefixOf url

/-- What a block tells. -/
def braveBlock (d : Document) (n : NodeId) : Option Found :=
  let url := match firstIn? d n (alternatives "a[href^=\"http\"]") with
    | some link => linkOf d link
    | none => []
  let title := firstText d n (alternatives ".search-snippet-title, .title")
  let content := firstText d n (alternatives ".generic-snippet .content, .snippet-description")
  if leadsToWeb url then some ⟨url, title, content⟩ else none

/-- The records of a result page of Brave. -/
def readBrave (s : Source) (body : String) : Except Failure (List Record) :=
  let blocks := alternatives "div.snippet[data-type=\"web\"], div.snippet[data-pos]"
  .ok (readBlocks s blocks braveBlock body)

/-! ### DuckDuckGo -/

/-- What a link through the search engine has in it. -/
def duckMark : List Char := "duckduckgo.com/l/".toList

/-- Where a link through the search engine leads in the end. -/
def unwrapDuckDuckGo? (href : List Char) : Option (List Char) :=
  if occursIn duckMark href then
    let absolute := if "//".toList.isPrefixOf href then "https:".toList ++ href else href
    match Url.parse absolute with
    | .ok u => (u.queryPairs.find? fun p => p.1 == "uddg".toList).map (·.2)
    | .error _ => none
  else none

/-- What a block tells; advertisements are left out. -/
def duckDuckGoBlock (d : Document) (n : NodeId) : Option Found :=
  if isMeant d n (alternatives ".result--ad") then none
  else do
    let title ← firstIn? d n (alternatives "a.result__a, .result__title a")
    let href := linkOf d title
    let content := firstText d n (alternatives ".result__snippet")
    return ⟨(unwrapDuckDuckGo? href).getD href, textIn d title, content⟩

/-- The records of a result page of DuckDuckGo. -/
def readDuckDuckGo (s : Source) (body : String) : Except Failure (List Record) :=
  .ok (readBlocks s (alternatives ".result, .results_links") duckDuckGoBlock body)

/-! ### Bing -/

/-- What a block tells. -/
def bingBlock (d : Document) (n : NodeId) : Option Found := do
  let title ← firstIn? d n (alternatives "h2 a")
  let url := linkOf d title
  let content := firstText d n (alternatives ".b_caption p, .b_algoSlug")
  if leadsToWeb url then some ⟨url, textIn d title, content⟩ else none

/-- The records of a result page of Bing. -/
def readBing (s : Source) (body : String) : Except Failure (List Record) :=
  .ok (readBlocks s (alternatives "li.b_algo") bingBlock body)

end Metasearch.Answer
