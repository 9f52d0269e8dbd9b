import Metasearch.Data.Decode
import Metasearch.Text.Clean
import Metasearch.Time.Parser

/-!
# Records

One result, whatever source it comes from. Title and content are cleaned when a record is made
of them, and not when a stored record is read.

## Main definitions

* `RecordKind`, `Extras`, `Record`.
* `Record.make`: a record of a URL, a title and a content.
* `Record.encode`, `Record.decode?`: a record as data.
-/

namespace Metasearch

open Metasearch.Text

/-- What a record is about. -/
inductive RecordKind where
  /-- A web page. -/
  | web
  /-- A picture. -/
  | image
  /-- A film. -/
  | video
  /-- A news article. -/
  | news
  /-- An entry of a feed. -/
  | feed
  /-- A release of software. -/
  | release
  /-- An entry of an issue tracker. -/
  | issue
  /-- A discussion thread. -/
  | discussion
  /-- An item of a scraped page. -/
  | page
deriving DecidableEq, Repr

namespace RecordKind

/-- All kinds. -/
def all : List RecordKind :=
  [.web, .image, .video, .news, .feed, .release, .issue, .discussion, .page]

/-- The name of a kind. -/
def name : RecordKind → String
  | .web => "web"
  | .image => "image"
  | .video => "video"
  | .news => "news"
  | .feed => "feed"
  | .release => "release"
  | .issue => "issue"
  | .discussion => "discussion"
  | .page => "page"

/-- The kind of a stored name. -/
def named? (s : String) : Option RecordKind :=
  all.find? fun k => k.name == s

/-- A kind as data. -/
def encode (k : RecordKind) : Data := .text k.name

/-- The kind that data denotes. -/
def decode? (d : Data) : Option RecordKind :=
  d.asName?.bind named?

end RecordKind

/-- What only some sources tell about a record. -/
structure Extras where
  /-- Who wrote it. -/
  author : Option String
  /-- The balance of votes. -/
  votes : Option Int
  /-- How many comments it has. -/
  comments : Option Nat
  /-- Categories, labels, or the group it was posted in. -/
  tags : List String
  /-- A version or a flair. -/
  label : Option String
  /-- The URL of a small picture. -/
  thumbnail : Option String
  /-- The site it was scraped from. -/
  domain : Option String
  /-- The engine that found it, if the source asks several. -/
  engine : Option String
deriving DecidableEq

namespace Extras

/-- Nothing is told. -/
def none : Extras := ⟨.none, .none, .none, [], .none, .none, .none, .none⟩

/-- Holds when nothing is told. -/
def isEmpty (e : Extras) : Bool :=
  e == none

/-- The names of the stored fields. -/
def fieldNames : List String :=
  ["author", "votes", "comments", "tags", "label", "thumbnail", "domain", "upstream_engine"]

/-- Extras as data; what is not told is left out. -/
def encode (e : Extras) : Data :=
  .table (Data.optionalField "author" .text e.author ++ Data.optionalField "votes" .int e.votes ++
    Data.optionalField "comments" Data.ofNat e.comments ++
    (if e.tags.isEmpty then [] else [("tags", .list (e.tags.map .text))]) ++
    Data.optionalField "label" .text e.label ++
    Data.optionalField "thumbnail" .text e.thumbnail ++
    Data.optionalField "domain" .text e.domain ++
    Data.optionalField "upstream_engine" .text e.engine)

/-- The extras that data denotes. -/
def decode? (d : Data) : Option Extras := do
  let f ← d.fields? fieldNames
  return {
    author := ← f.maybe? "author" Data.asText?
    votes := ← f.maybe? "votes" Data.asSigned?
    comments := ← f.maybe? "comments" Data.asNat?
    tags := ← f.orElse? "tags" (Data.asList? Data.asText?) []
    label := ← f.maybe? "label" Data.asText?
    thumbnail := ← f.maybe? "thumbnail" Data.asText?
    domain := ← f.maybe? "domain" Data.asText?
    engine := ← f.maybe? "upstream_engine" Data.asText? }

end Extras

/-- One result. -/
structure Record where
  /-- Its URL; canonical once results have been gathered. -/
  url : String
  /-- Its title. -/
  title : String
  /-- An excerpt or description. -/
  content : String
  /-- The id of the source that delivered it. -/
  source : String
  /-- What it is about. -/
  kind : RecordKind
  /-- When it was published. -/
  published : Option Instant
  /-- What only some sources tell. -/
  extras : Extras
  /-- How well the source says it fits; takes the place of the source's weight. -/
  relevance : Option Double
  /-- What it is ranked by. -/
  score : Double
deriving DecidableEq

namespace Record

/-- A record of a URL, a title and a content, cleaned. -/
def make (url title content : String) : Record :=
  { url := trimmed url, title := cleaned title, content := cleaned content, source := ""
    kind := .web, published := none, extras := Extras.none, relevance := none
    score := Double.zero false }

/-- The names of the stored fields. -/
def fieldNames : List String :=
  ["url", "title", "content", "source", "kind", "published", "extras", "relevance", "score"]

/-- An instant as data. -/
def encodeInstant (t : Instant) : Data := .text t.text

/-- The instant that data denotes. -/
def decodeInstant? (d : Data) : Option Instant :=
  d.asText?.bind Instant.ofText?

/-- A record as data; empty extras are left out. -/
def encode (r : Record) : Data :=
  .table ([("url", .text r.url), ("title", .text r.title), ("content", .text r.content),
      ("source", .text r.source), ("kind", r.kind.encode),
      ("published", Data.ofOption encodeInstant r.published)] ++
    (if r.extras.isEmpty then [] else [("extras", r.extras.encode)]) ++
    [("relevance", Data.ofOption .float r.relevance), ("score", .float r.score)])

/-- The record that data denotes. -/
def decode? (d : Data) : Option Record := do
  let f ← d.fields? fieldNames
  return {
    url := ← f.required? "url" Data.asText?
    title := ← f.required? "title" Data.asText?
    content := ← f.required? "content" Data.asText?
    source := ← f.required? "source" Data.asText?
    kind := ← f.required? "kind" RecordKind.decode?
    published := ← f.optional? "published" decodeInstant?
    extras := ← f.orElse? "extras" Extras.decode? Extras.none
    relevance := ← f.optional? "relevance" Data.asFloat?
    score := ← f.required? "score" Data.asFloat? }

end Record
end Metasearch
