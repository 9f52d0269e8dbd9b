import Metasearch.Json.Printer
import Metasearch.Number.Shortest
import Metasearch.ResultSet
import Metasearch.Settings

/-!
# What the command line writes

A report is a list of lines. There is one for the sources of each category, and for the records of
a search or a collection one in each of three formats: text for people, JSON, and a compact one
with a line for each record, whose fields are set apart by tabs.

## Main definitions

* `written`: lines as a text.
* `Settings.sourcesOf`, `catalogReport`: the sources, category by category.
* `compactLine`, `recordLines`: one record.
* `searchReport`, `collectionReport`: the records of a call.
-/

namespace Metasearch

/-- The sources of a category, in the order in which they are listed. -/
def Settings.sourcesOf (s : Settings) (c : Category) : List Source :=
  s.sources.filter fun x => x.categories.contains c

namespace CommandLine

/-- How results are written. -/
inductive Format where
  /-- For people. -/
  | text
  /-- As JSON. -/
  | json
  /-- One line each. -/
  | compact
deriving DecidableEq

/-- The format of a name. -/
def Format.named? (s : String) : Option Format :=
  match s with
  | "text" => some .text
  | "json" => some .json
  | "compact" => some .compact
  | _ => none

/-- Lines as a text, a line feed after each. -/
def written (lines : List String) : String :=
  String.ofList (lines.flatMap fun l => l.toList ++ ['\n'])

/-- A number with so many digits after the point. -/
def rounded (places : Nat) (x : Double) : String :=
  String.ofList (Number.fixed places x)

/-! ### Sources -/

/-- A text filled up with blanks on the right. -/
def filled (width : Nat) (s : String) : String :=
  String.ofList (s.toList ++ List.replicate (width - s.length) ' ')

/-- The line for a source. -/
def sourceLine (s : Source) : String :=
  "    " ++ filled 16 s.id ++ " - " ++ s.displayName ++ " [weight " ++ rounded 1 s.weight ++ "]" ++
    if s.enabled then "" else " (disabled)"

/-- The lines for a category; none if it has no sources. -/
def categoryLines (c : Category) : List Source → List String
  | [] => []
  | sources => ("  " ++ c.name ++ ":") :: sources.map sourceLine ++ [""]

/-- The lines for all sources. A source stands under each of its categories. -/
def catalogReport (s : Settings) : List String :=
  ["Configured sources:", ""] ++
    Category.all.flatMap (fun c => categoryLines c (s.sourcesOf c)) ++
    ["Usage: center-search search \"query\" -c general,news"]

/-! ### Records -/

/-- The start of a long text, with dots where it is cut. -/
def excerpt (limit : Nat) (s : String) : String :=
  match s.toList.drop limit with
  | [] => s
  | _ => String.ofList (s.toList.take limit) ++ "..."

/-- The line for a record in the compact format. -/
def compactLine (r : Record) : String :=
  r.source ++ "\t" ++ r.title ++ "\t" ++ r.url

/-- The lines for a record in the text format, with its place in the list. -/
def recordLines (place : Nat) (r : Record) : List String :=
  [toString place ++ ". " ++ r.title, "   URL: " ++ r.url] ++
    (if r.content.isEmpty then [] else ["   " ++ excerpt 150 r.content]) ++
    ["   Source: " ++ r.source ++ " | Score: " ++ rounded 2 r.score, ""]

/-- The lines for records in the text format, counted from `place`. -/
def recordsFrom (place : Nat) : List Record → List String
  | [] => []
  | r :: rest => recordLines place r ++ recordsFrom (place + 1) rest

/-- The lines for failed sources, if there are any. -/
def failedLines : Option (List String) → List String
  | none => []
  | some lines => "Failed sources:" :: lines.map ("  " ++ ·)

/-- The lines for data in the JSON format. -/
def jsonLines (d : Data) : List String :=
  [String.ofList (Json.pretty d)]

/-- The report on a search; it shows at most `limit` records. -/
def searchReport (limit : Nat) (s : ResultSet) : Format → List String
  | .text =>
    ["", "Search results for \"" ++ s.query ++ "\" (" ++ toString s.total ++ " results in " ++
        toString s.duration ++ "ms):", ""] ++
      recordsFrom 1 (s.records.take limit) ++ failedLines s.errors?
  | .json => jsonLines ({ s with records := s.records.take limit } : ResultSet).toResponse.encode
  | .compact => (s.records.take limit).map compactLine

/-- The report on a collection. -/
def collectionReport (c : Collection) : Format → List String
  | .text =>
    ["", "Collected " ++ toString c.records.length ++ " records:", ""] ++
      recordsFrom 1 c.records ++ failedLines c.errors?
  | .json => jsonLines c.encode
  | .compact => c.records.map compactLine

end CommandLine
end Metasearch
