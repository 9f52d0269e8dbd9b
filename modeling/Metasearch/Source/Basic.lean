import Metasearch.Template

/-!
# Sources

The configuration of one source: how it is asked, how its answers are read, how much it counts,
and how gently it is treated.

## Main definitions

* `Engine`: the ways to ask and read.
* `Selectors`: where the parts of a scraped page are.
* `Source`: the configuration, built by `Source.make` and the `with` functions.
* `Source.fault?`: what is wrong with a configuration.
-/

namespace Metasearch

open Metasearch.Text

/-- A way to ask a source and to read its answers. -/
inductive Engine where
  /-- Result pages of Google. -/
  | google
  /-- Result pages of Brave. -/
  | brave
  /-- Result pages of DuckDuckGo. -/
  | duckduckgo
  /-- Result pages of Bing. -/
  | bing
  /-- A SearXNG instance. -/
  | searx
  /-- An RSS or Atom feed. -/
  | feed
  /-- Releases of a GitHub repository. -/
  | githubReleases
  /-- Open issues of a GitHub repository. -/
  | githubIssues
  /-- A Reddit listing. -/
  | reddit
  /-- Any page, scraped with selectors. -/
  | customPage
deriving DecidableEq, Repr

namespace Engine

/-- All engines. -/
def all : List Engine :=
  [.google, .brave, .duckduckgo, .bing, .searx, .feed, .githubReleases, .githubIssues, .reddit,
    .customPage]

/-- The name of an engine. -/
def name : Engine → String
  | .google => "google"
  | .brave => "brave"
  | .duckduckgo => "duckduckgo"
  | .bing => "bing"
  | .searx => "searx"
  | .feed => "feed"
  | .githubReleases => "github_releases"
  | .githubIssues => "github_issues"
  | .reddit => "reddit"
  | .customPage => "custom_page"

/-- Holds of engines that read markup made for people. -/
def isMarkup : Engine → Bool
  | .google | .brave | .duckduckgo | .bing | .customPage => true
  | _ => false

/-- An engine as data. -/
def encode (e : Engine) : Data := .text e.name

/-- The engine that data denotes. -/
def decode? (d : Data) : Option Engine :=
  d.asName?.bind fun s => all.find? fun e => e.name == s

end Engine

/-- Where the parts of a scraped page are. -/
structure Selectors where
  /-- The block of one item. -/
  item : String
  /-- The title, within the item. -/
  title : Option String
  /-- The excerpt, within the item. -/
  content : Option String
  /-- The link, within the item. -/
  url : Option String
deriving DecidableEq

namespace Selectors

/-- Every article, without parts. -/
def standard : Selectors := ⟨"article", none, none, none⟩

/-- Selectors as data. -/
def encode (s : Selectors) : Data :=
  .table [("item", .text s.item), ("title", Data.ofOption .text s.title),
    ("content", Data.ofOption .text s.content), ("url", Data.ofOption .text s.url)]

/-- The selectors that data denotes. -/
def decode? (d : Data) : Option Selectors := do
  let f ← d.fields? ["item", "title", "content", "url"]
  return {
    item := ← f.orElse? "item" Data.asText? standard.item
    title := ← f.maybe? "title" Data.asText?
    content := ← f.maybe? "content" Data.asText?
    url := ← f.maybe? "url" Data.asText? }

end Selectors

/-- The configuration of one source. -/
structure Source where
  /-- What the source is called in queries and reports. -/
  id : String
  /-- The name shown to people; the id when empty. -/
  name : String
  /-- The categories it belongs to. -/
  categories : List Category
  /-- How it is asked and read. -/
  engine : Engine
  /-- The URL it is asked by. -/
  request : Template
  /-- The score of its records. -/
  weight : Double
  /-- The least time between two requests, in milliseconds. -/
  minInterval : Option Nat
  /-- How long an answer may take, in milliseconds. -/
  timeout : Option Nat
  /-- Whether it is asked at all. -/
  enabled : Bool
  /-- Whether it has more than one page. -/
  paging : Bool
  /-- How many records are taken from one answer. -/
  maxItems : Option Nat
  /-- Where the parts of its page are. -/
  selectors : Option Selectors
  /-- What it is told to show who asks. -/
  token : Option String
  /-- Whether pinned threads are kept. -/
  includeStickied : Bool
deriving DecidableEq

namespace Source

/-- The weight of a source that is not told. -/
def standardWeight : Double := Double.ofNat false 1

/-- A source with only its id, engine and request told. -/
def make (id : String) (engine : Engine) (request : Template) : Source :=
  { id, name := "", categories := [.general], engine, request, weight := standardWeight
    minInterval := none, timeout := none, enabled := true, paging := false, maxItems := none
    selectors := none, token := none, includeStickied := false }

/-- The whole milliseconds of a number of nanoseconds, in 64 bits. -/
def wholeMillis (nanos : Nat) : Nat :=
  nanos / 1000000 % Number.count64

/-- The source with another least time between requests, given in nanoseconds. -/
def withMinInterval (s : Source) (nanos : Nat) : Source :=
  { s with minInterval := some (wholeMillis nanos) }

/-- The source with another time limit, given in nanoseconds. -/
def withTimeout (s : Source) (nanos : Nat) : Source :=
  { s with timeout := some (wholeMillis nanos) }

/-- The name shown to people. -/
def displayName (s : Source) : String :=
  if s.name.isEmpty then s.id else s.name

/-- The least time between two requests in milliseconds, if there is one. -/
def pause? (s : Source) : Option Nat :=
  s.minInterval.filter (0 < ·)

/-- What is wrong with the configuration. -/
def fault? (s : Source) : Option ConfigFault :=
  if isBlank s.id.toList then some .blankId
  else if !(s.weight.isFinite && s.weight.isPositive) then some (.badWeight s.id)
  else if s.categories.isEmpty then some (.noCategory s.id)
  else if s.categories.contains .unknown then some (.unknownCategory s.id)
  else if s.engine == .customPage && s.selectors.isNone then some (.noSelectors s.id)
  else none

/-- The names of the stored fields. -/
def fieldNames : List String :=
  ["id", "name", "categories", "parser", "request", "weight", "min_interval_ms", "timeout_ms",
    "enabled", "paging", "max_items", "selectors", "token", "include_stickied"]

/-- A source as data. -/
def encode (s : Source) : Data :=
  .table [("id", .text s.id), ("name", .text s.name),
    ("categories", .list (s.categories.map Category.encode)), ("parser", s.engine.encode),
    ("request", s.request.encode), ("weight", .float s.weight),
    ("min_interval_ms", Data.ofOption Data.ofNat s.minInterval),
    ("timeout_ms", Data.ofOption Data.ofNat s.timeout), ("enabled", .bool s.enabled),
    ("paging", .bool s.paging), ("max_items", Data.ofOption Data.ofNat s.maxItems),
    ("selectors", Data.ofOption Selectors.encode s.selectors),
    ("token", Data.ofOption .text s.token), ("include_stickied", .bool s.includeStickied)]

/-- The source that data denotes. -/
def decode? (d : Data) : Option Source := do
  let f ← d.fields? fieldNames
  return {
    id := ← f.required? "id" Data.asText?
    name := ← f.orElse? "name" Data.asText? ""
    categories := ← f.orElse? "categories" (Data.asList? Category.decode?) [.general]
    engine := ← f.required? "parser" Engine.decode?
    request := ← f.required? "request" Template.decode?
    weight := ← f.orElse? "weight" Data.asFloat? standardWeight
    minInterval := ← f.maybe? "min_interval_ms" Data.asNat?
    timeout := ← f.maybe? "timeout_ms" Data.asNat?
    enabled := ← f.orElse? "enabled" Data.asBool? true
    paging := ← f.orElse? "paging" Data.asBool? false
    maxItems := ← f.maybe? "max_items" Data.asNat?
    selectors := ← f.maybe? "selectors" Selectors.decode?
    token := ← f.maybe? "token" Data.asText?
    includeStickied := ← f.orElse? "include_stickied" Data.asBool? false }

end Source
end Metasearch
