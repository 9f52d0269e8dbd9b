import Metasearch.Category
import Metasearch.Number.Power

/-!
# Queries

What a user asks for: terms, categories or sources, language, page, and filters.

## Main definitions

* `SafeSearch`, `TimeRange`: the filters.
* `Query`: the request, built by `Query.ofTerms` and the `with` functions.
* `Query.offset`, `Query.firstNumber`: where a page stands among the results, in 32 bits.
* `Query.fault?`: what is wrong with a query.
-/

namespace Metasearch

open Metasearch.Text Metasearch.Number

/-- How much adult content is left out. -/
inductive SafeSearch where
  /-- Nothing. -/
  | off
  /-- The explicit. -/
  | moderate
  /-- All of it. -/
  | strict
deriving DecidableEq, Repr

namespace SafeSearch

/-- All levels. -/
def all : List SafeSearch := [.off, .moderate, .strict]

/-- The name of a level. -/
def name : SafeSearch → String
  | .off => "off"
  | .moderate => "moderate"
  | .strict => "strict"

/-- The number of a level. -/
def level : SafeSearch → Nat
  | .off => 0
  | .moderate => 1
  | .strict => 2

/-- The level of a stored name. -/
def named? (s : String) : Option SafeSearch :=
  all.find? fun l => l.name == s

/-- The level of a name or number as a user types it. -/
def ofLoose? (s : String) : Option SafeSearch :=
  let wanted := lowered (trimmed s)
  all.find? fun l => l.name == wanted || toString l.level == wanted

/-- A level as data. -/
def encode (l : SafeSearch) : Data := .text l.name

/-- The level that data denotes. -/
def decode? (d : Data) : Option SafeSearch :=
  d.asName?.bind named?

end SafeSearch

/-- How old results may be. -/
inductive TimeRange where
  /-- A day. -/
  | day
  /-- A week. -/
  | week
  /-- A month. -/
  | month
  /-- A year. -/
  | year
deriving DecidableEq, Repr

namespace TimeRange

/-- All ranges. -/
def all : List TimeRange := [.day, .week, .month, .year]

/-- The name of a range. -/
def name : TimeRange → String
  | .day => "day"
  | .week => "week"
  | .month => "month"
  | .year => "year"

/-- The range of a stored name. -/
def named? (s : String) : Option TimeRange :=
  all.find? fun r => r.name == s

/-- The range of a name as a user types it. -/
def ofLoose? (s : String) : Option TimeRange :=
  named? (lowered (trimmed s))

/-- A range as data. -/
def encode (r : TimeRange) : Data := .text r.name

/-- The range that data denotes. -/
def decode? (d : Data) : Option TimeRange :=
  d.asName?.bind named?

end TimeRange

/-- What is wrong with a query. -/
inductive QueryFault where
  /-- There are no terms. -/
  | noTerms
  /-- The page is zero. -/
  | pageZero
  /-- A level of safe search has an unknown name. -/
  | unknownSafeSearch (name : String)
  /-- A time range has an unknown name. -/
  | unknownTimeRange (name : String)
  /-- Anything else, in words. -/
  | other (text : String)
deriving DecidableEq

/-- The wording of a fault. -/
def QueryFault.message : QueryFault → String
  | .noTerms => "Query cannot be empty"
  | .pageZero => "Page numbers start at 1"
  | .unknownSafeSearch name => "unknown safe search level '" ++ name ++ "'"
  | .unknownTimeRange name => "unknown time range '" ++ name ++ "'"
  | .other text => text

/-- The level of a name or number as a user types it, or what is wrong with it. -/
def SafeSearch.parse (s : String) : Except QueryFault SafeSearch :=
  match SafeSearch.ofLoose? s with
  | some l => .ok l
  | none => .error (.unknownSafeSearch (lowered (trimmed s)))

/-- The range of a name as a user types it, or what is wrong with it. -/
def TimeRange.parse (s : String) : Except QueryFault TimeRange :=
  match TimeRange.ofLoose? s with
  | some r => .ok r
  | none => .error (.unknownTimeRange (lowered (trimmed s)))

/-- What a user asks for. -/
structure Query where
  /-- The search terms. -/
  terms : String
  /-- The categories whose sources are asked. -/
  categories : List Category
  /-- The language, such as `en-US`. -/
  language : Option String
  /-- How much adult content is left out. -/
  safeSearch : SafeSearch
  /-- The page of results, from 1. -/
  page : Nat
  /-- How old results may be. -/
  timeRange : Option TimeRange
  /-- The sources that are asked; they take the place of the categories. -/
  sources : List String
deriving DecidableEq

namespace Query

/-- The largest page number. -/
def maxPage : Int := 4294967295

/-- A query for terms in the general category. -/
def ofTerms (terms : String) : Query :=
  { terms, categories := [.general], language := none, safeSearch := .off, page := 1
    timeRange := none, sources := [] }

/-- Categories without repetitions, the general one when there are none. -/
def settle (categories : List Category) : List Category :=
  match categories.foldl (fun l c => if l.contains c then l else l ++ [c]) [] with
  | [] => [.general]
  | l => l

/-- The query for other categories. -/
def withCategories (q : Query) (categories : List Category) : Query :=
  { q with categories := settle categories }

/-- A query without terms, for all that the sources of some categories publish. -/
def ofCategories (categories : List Category) : Query :=
  (ofTerms "").withCategories categories

/-- The categories whose sources are asked: the general one when none is named. -/
def effectiveCategories (q : Query) : List Category :=
  if q.categories.isEmpty then [.general] else q.categories

/-- The language, unless it is blank. -/
def languageOr (q : Query) (other : String) : String :=
  match q.language.map trimmed with
  | some l => if l.isEmpty then other else l
  | none => other

/-- The language, English when it is not told. -/
def languageOrDefault (q : Query) : String :=
  q.languageOr "en"

/-- How many results stand before the page, if pages hold `perPage` each. The number has 32 bits:
too far on, it starts again from zero. -/
def offset (q : Query) (perPage : Nat) : Nat :=
  (q.page - 1) * perPage % count32

/-- The number of the first result on the page, counted from one, in 32 bits as well. -/
def firstNumber (q : Query) (perPage : Nat) : Nat :=
  (q.offset perPage + 1) % count32

/-- What is wrong with the query. -/
def fault? (q : Query) : Option QueryFault :=
  if isBlank q.terms.toList then some .noTerms
  else if q.page = 0 then some .pageZero
  else none

/-- The names of the stored fields. -/
def fieldNames : List String :=
  ["query", "categories", "language", "safesearch", "page", "time_range", "sources"]

/-- A query as data. -/
def encode (q : Query) : Data :=
  .table [("query", .text q.terms), ("categories", .list (q.categories.map Category.encode)),
    ("language", Data.ofOption .text q.language), ("safesearch", q.safeSearch.encode),
    ("page", Data.ofNat q.page), ("time_range", Data.ofOption TimeRange.encode q.timeRange),
    ("sources", .list (q.sources.map .text))]

/-- The query that data denotes. -/
def decode? (d : Data) : Option Query := do
  let f ← d.fields? fieldNames
  return {
    terms := ← f.required? "query" Data.asText?
    categories := ← f.required? "categories" (Data.asList? Category.decode?)
    language := ← f.optional? "language" Data.asText?
    safeSearch := ← f.required? "safesearch" SafeSearch.decode?
    page := ← f.required? "page" (Data.asUnsigned? maxPage)
    timeRange := ← f.optional? "time_range" TimeRange.decode?
    sources := ← f.orElse? "sources" (Data.asList? Data.asText?) [] }

end Query
end Metasearch
