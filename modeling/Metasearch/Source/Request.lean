import Metasearch.Source.Basic

/-!
# Requests

What is sent to a source for a query: the URL of its template, with pairs that the engine adds
on its own account, and headers.

## Main definitions

* `Request`: a URL and headers.
* `Source.ownPairs`: page, language, filters, in the way of each engine.
* `Source.headers`.
* `Source.requestFor`: the whole request.
-/

namespace Metasearch

open Metasearch.Text Metasearch.Number

/-- What is sent to a server. -/
structure Request where
  /-- Where it is sent. -/
  url : Url
  /-- Names and values of headers in the order in which they were added. -/
  headers : List (String × String)
deriving DecidableEq

namespace Source

/-- A pair of a query. -/
def pair (name value : String) : List Char × List Char := (name.toList, value.toList)

/-- A pair with a number as its value. -/
def countPair (name : String) (value : Nat) : List Char × List Char := (name.toList, numeral value)

/-- Pairs that are sent from the second page on, if the source has more than one. -/
def laterPage (s : Source) (q : Query) (pairs : List (List Char × List Char)) :
    List (List Char × List Char) :=
  if s.paging && 1 < q.page then pairs else []

/-- A pair for the time range, if the engine has a value for it. -/
def rangePair (name : String) (value? : TimeRange → Option String) (q : Query) :
    List (List Char × List Char) :=
  match q.timeRange.bind value? with
  | some v => [pair name v]
  | none => []

/-- A pair for the language as it was given. -/
def languagePair (name : String) (q : Query) : List (List Char × List Char) :=
  match q.language with
  | some l => [pair name l]
  | none => []

/-- The first letter of a time range. -/
def rangeLetter : TimeRange → String
  | .day => "d"
  | .week => "w"
  | .month => "m"
  | .year => "y"

/-- The region of a language tag with a country: `us-en` for `en-US`. -/
def region? (language : Option String) : Option String := do
  let l := (← language).toList
  let isMark := fun c => c == '-' || c == '_'
  let country ← afterFirst isMark l
  return String.ofList (lower country ++ '-' :: lower (beforeFirst isMark l))

/-- The number for Bing's filter of recent pages; it has none for a year. -/
def freshness? : TimeRange → Option String
  | .day => some "ex1:\"ez1\""
  | .week => some "ex1:\"ez2\""
  | .month => some "ex1:\"ez3\""
  | .year => none

/-- The number for DuckDuckGo's level of safe search. -/
def safeNumber : SafeSearch → String
  | .off => "-2"
  | .moderate => "-1"
  | .strict => "1"

/-- What the engine adds to the query of the template's URL. -/
def ownPairs (s : Source) (q : Query) : List (List Char × List Char) :=
  match s.engine with
  | .google =>
    pair "hl" q.languageOrDefault ::
      (s.laterPage q [countPair "start" (q.offset 10)] ++
        rangePair "tbs" (fun r => some ("qdr:" ++ rangeLetter r)) q ++
        (if q.safeSearch = .strict then [pair "safe" "active"] else []))
  | .brave =>
    s.laterPage q [countPair "offset" (q.page - 1)] ++
      rangePair "tf" (fun r => some ("p" ++ rangeLetter r)) q
  | .duckduckgo =>
    s.laterPage q [countPair "s" (q.offset 30), countPair "dc" (q.firstNumber 30)] ++
      ((region? q.language).elim [] fun r => [pair "kl" r]) ++
      rangePair "df" (fun r => some (rangeLetter r)) q ++ [pair "kp" (safeNumber q.safeSearch)]
  | .bing =>
    s.laterPage q [countPair "first" (q.firstNumber 10)] ++ languagePair "setlang" q ++
      rangePair "filters" freshness? q ++ [pair "adlt" q.safeSearch.name]
  | .searx =>
    (if s.paging then [countPair "pageno" (max q.page 1)] else []) ++ languagePair "language" q ++
      [countPair "safesearch" q.safeSearch.level] ++
      rangePair "time_range" (fun r => some r.name) q
  | .githubReleases | .githubIssues => s.laterPage q [countPair "page" q.page]
  | .feed | .reddit | .customPage => []

/-- The headers that the engine sends. -/
def headers (s : Source) (q : Query) : List (String × String) :=
  match s.engine with
  | .brave => [("Cookie", "safesearch=" ++ q.safeSearch.name)]
  | .searx => [("Accept", "application/json")]
  | .githubReleases | .githubIssues =>
    ("Accept", "application/vnd.github+json") ::
      match s.token with
      | some t => if t.isEmpty then [] else [("Authorization", "Bearer " ++ t)]
      | none => []
  | _ => []

/-- What is sent to the source for a query. -/
def requestFor (s : Source) (q : Query) : Except Failure Request :=
  match s.request.render q with
  | .ok u => .ok ⟨u.appendPairs (s.ownPairs q), s.headers q⟩
  | .error f => .error f

end Source
end Metasearch
