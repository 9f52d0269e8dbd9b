import Metasearch.Outcome
import Metasearch.Record

/-!
# Results of a call

A search gives a ranked and cut result set, which can be written as a response; collecting gives
all records unranked.

## Main definitions

* `ResultSet`, `ResultSet.toResponse`.
* `ResponseItem`, `Response`.
* `Collection`.
-/

namespace Metasearch

/-- One record of a response. -/
structure ResponseItem where
  /-- The title. -/
  title : String
  /-- The canonical URL. -/
  url : String
  /-- The excerpt. -/
  content : String
  /-- The id of the source. -/
  engine : String
  /-- What the record is ranked by. -/
  score : Double
deriving DecidableEq

namespace ResponseItem

/-- A record in a response. -/
def ofRecord (r : Record) : ResponseItem :=
  ⟨r.title, r.url, r.content, r.source, r.score⟩

/-- An item as data. -/
def encode (i : ResponseItem) : Data :=
  .table [("title", .text i.title), ("url", .text i.url), ("content", .text i.content),
    ("engine", .text i.engine), ("score", .float i.score)]

/-- The item that data denotes. -/
def decode? (d : Data) : Option ResponseItem := do
  let f ← d.fields? ["title", "url", "content", "engine", "score"]
  return {
    title := ← f.required? "title" Data.asText?
    url := ← f.required? "url" Data.asText?
    content := ← f.required? "content" Data.asText?
    engine := ← f.required? "engine" Data.asText?
    score := ← f.required? "score" Data.asFloat? }

end ResponseItem

/-- What a client is told. -/
structure Response where
  /-- The terms. -/
  query : String
  /-- The ranked and cut records. -/
  results : List ResponseItem
  /-- How many different records there were before the cut. -/
  total : Nat
  /-- A line for each failed source, if one failed. -/
  errors : Option (List String)
deriving DecidableEq

namespace Response

/-- A response as data. -/
def encode (r : Response) : Data :=
  .table [("query", .text r.query), ("results", .list (r.results.map ResponseItem.encode)),
    ("number_of_results", Data.ofNat r.total),
    ("errors", Data.ofOption (fun lines => .list (lines.map .text)) r.errors)]

/-- The response that data denotes. -/
def decode? (d : Data) : Option Response := do
  let f ← d.fields? ["query", "results", "number_of_results", "errors"]
  return {
    query := ← f.required? "query" Data.asText?
    results := ← f.required? "results" (Data.asList? ResponseItem.decode?)
    total := ← f.required? "number_of_results" Data.asNat?
    errors := ← f.optional? "errors" (Data.asList? Data.asText?) }

end Response

/-- The ranked and cut records of a search. -/
structure ResultSet where
  /-- The terms. -/
  query : String
  /-- The records. -/
  records : List Record
  /-- How many different records there were before the cut. -/
  total : Nat
  /-- What happened to each source. -/
  outcomes : List Outcome
  /-- The time that the search took, in milliseconds. -/
  duration : Nat
deriving DecidableEq

namespace ResultSet

/-- Ranked records without a query. -/
def ofRecords (records : List Record) (total : Nat) : ResultSet :=
  ⟨"", records, total, [], 0⟩

/-- A line for each failed source, if one failed. -/
def errors? (s : ResultSet) : Option (List String) :=
  errorLines? s.outcomes

/-- What a client is told. -/
def toResponse (s : ResultSet) : Response :=
  ⟨s.query, s.records.map ResponseItem.ofRecord, s.total, s.errors?⟩

/-- A result set as data. -/
def encode (s : ResultSet) : Data :=
  .table [("query", .text s.query), ("records", .list (s.records.map Record.encode)),
    ("total", Data.ofNat s.total), ("outcomes", .list (s.outcomes.map Outcome.encode)),
    ("duration_ms", Data.ofNat s.duration)]

/-- The result set that data denotes. -/
def decode? (d : Data) : Option ResultSet := do
  let f ← d.fields? ["query", "records", "total", "outcomes", "duration_ms"]
  return {
    query := ← f.required? "query" Data.asText?
    records := ← f.required? "records" (Data.asList? Record.decode?)
    total := ← f.required? "total" Data.asNat?
    outcomes := ← f.required? "outcomes" (Data.asList? Outcome.decode?)
    duration := ← f.required? "duration_ms" Data.asNat? }

end ResultSet

/-- All records of some categories, unranked. -/
structure Collection where
  /-- The different records in source order. -/
  records : List Record
  /-- What happened to each source. -/
  outcomes : List Outcome
deriving DecidableEq

namespace Collection

/-- A line for each failed source, if one failed. -/
def errors? (c : Collection) : Option (List String) :=
  errorLines? c.outcomes

/-- A collection as data. -/
def encode (c : Collection) : Data :=
  .table [("records", .list (c.records.map Record.encode)),
    ("outcomes", .list (c.outcomes.map Outcome.encode))]

/-- The collection that data denotes. -/
def decode? (d : Data) : Option Collection := do
  let f ← d.fields? ["records", "outcomes"]
  return {
    records := ← f.required? "records" (Data.asList? Record.decode?)
    outcomes := ← f.required? "outcomes" (Data.asList? Outcome.decode?) }

end Collection
end Metasearch
