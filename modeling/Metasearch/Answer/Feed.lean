import Metasearch.Answer.Listing
import Metasearch.Xml.Reader

/-!
# Feeds

An RSS or Atom feed is read event by event. Every `item` or `entry` element gives an entry; text
and links count where they stand directly under it, and the name of an author also under
`author`. Names are taken without their namespaces.

## Main definitions

* `Entry`: what an entry says.
* `Entry.withAttributes`, `Entry.withText`: what one tag and one text add to it.
* `FeedState`, `FeedState.next`: the reading of events.
* `readFeed`: the records of a feed.
-/

namespace Metasearch.Answer

open Metasearch.Text

/-- What one entry of a feed says. -/
structure Entry where
  /-- The title. -/
  title : List Char
  /-- The link. -/
  link : List Char
  /-- The full text. -/
  content : List Char
  /-- The summary. -/
  summary : List Char
  /-- The authors. -/
  author : List Char
  /-- When it was published. -/
  published : Option (List Char)
  /-- When it was last changed. -/
  updated : Option (List Char)
  /-- The categories. -/
  categories : List (List Char)
deriving DecidableEq

namespace Entry

/-- Nothing is said yet. -/
def empty : Entry := ⟨[], [], [], [], [], none, none, []⟩

/-- The full text, or the summary when there is none. -/
def body (e : Entry) : List Char :=
  if isBlank e.content then e.summary else e.content

/-- When it was published, or else last changed. -/
def instant? (e : Entry) : Option Instant :=
  (e.published.or e.updated).bind Instant.parse?

/-- What a tag directly under the entry adds: the target of a link to the page itself, and the
term of a category. -/
def withAttributes (e : Entry) (t : Xml.Tag) : Entry :=
  match String.ofList t.localName with
  | "link" =>
    let rel := t.attribute? "rel"
    if e.link.isEmpty && (rel == none || rel == some "alternate".toList) then
      match t.attribute? "href" with
      | some href => { e with link := href }
      | none => e
    else e
  | "category" =>
    match t.attribute? "term" with
    | some term => { e with categories := e.categories ++ [term] }
    | none => e
  | _ => e

/-- What text in an element directly under the entry adds. -/
def withField (e : Entry) (field : String) (s : List Char) : Entry :=
  match field with
  | "title" => { e with title := e.title ++ s }
  | "link" => if e.link.isEmpty then { e with link := trim s } else e
  | "description" | "summary" => { e with summary := e.summary ++ s }
  | "encoded" | "content" => { e with content := e.content ++ s }
  | "author" | "creator" => { e with author := e.author ++ s }
  | "pubDate" | "published" | "date" => { e with published := some (trim s) }
  | "updated" => { e with updated := some (trim s) }
  | "category" => { e with categories := e.categories ++ [trim s] }
  | _ => e

end Entry

/-- Holds of the elements that are entries. -/
def isEntryName (name : List Char) : Bool :=
  name == "item".toList || name == "entry".toList

/-- What text adds to an entry within the elements of a path, the innermost first. -/
def Entry.withText (e : Entry) (path : List (List Char)) (s : List Char) : Entry :=
  match path with
  | field :: parent :: _ =>
    if field == "name".toList && parent == "author".toList then { e with author := e.author ++ s }
    else if isEntryName parent then e.withField (String.ofList field) s
    else e
  | _ => e

/-- A feed as far as it has been read. -/
structure FeedState where
  /-- The outermost element, when it has been met. -/
  root : Option (List Char)
  /-- The elements that are open, the innermost first. -/
  path : List (List Char)
  /-- The entry that is being read. -/
  current : Option Entry
  /-- The entries that are complete, the last one first. -/
  entries : List Entry

namespace FeedState

/-- Nothing has been read. -/
def start : FeedState := ⟨none, [], none, []⟩

/-- Holds of the outermost elements of feeds. -/
def isRoot (name : List Char) : Bool :=
  ["rss".toList, "feed".toList, "RDF".toList].contains name

/-- Holds directly under an entry. -/
def isUnderEntry (f : FeedState) : Bool :=
  match f.path with
  | name :: _ => isEntryName name
  | [] => false

/-- The state after the outermost element. -/
def enter (f : FeedState) (t : Xml.Tag) : Except AnswerFault FeedState :=
  if isRoot t.localName then
    .ok { f with root := some t.localName, path := t.localName :: f.path }
  else .error (.notFeed (String.ofList t.localName))

/-- The state with what a tag adds to the entry that it stands under. -/
def noting (f : FeedState) (t : Xml.Tag) : FeedState :=
  if f.isUnderEntry then { f with current := f.current.map fun e => e.withAttributes t } else f

/-- The state with what text adds to the entry. -/
def adding (f : FeedState) (s : List Char) : FeedState :=
  { f with current := f.current.map fun e => e.withText f.path s }

/-- The state after the end of an element. -/
def leave (f : FeedState) (name : List Char) : FeedState :=
  let f := { f with path := f.path.tail }
  if isEntryName (Xml.localName name) then
    { f with current := none, entries := f.current.toList ++ f.entries }
  else f

/-- The state after one more event. -/
def next (f : FeedState) : Xml.Event → Except AnswerFault FeedState
  | .start t =>
    if f.root.isNone then f.enter t
    else if isEntryName t.localName then
      .ok { f with current := some Entry.empty, path := t.localName :: f.path }
    else
      let f := f.noting t
      .ok { f with path := t.localName :: f.path }
  | .single t => if f.root.isNone then f.enter t else .ok (f.noting t)
  | .finish name => .ok (f.leave name)
  | .text raw => .ok (f.adding ((Xml.unescape? raw).getD raw))
  | .verbatim raw => .ok (f.adding raw)

end FeedState

/-- The entries among the events of a document. -/
def entriesOf (reading : Xml.Reading) : Except AnswerFault (List Entry) := do
  let f ← reading.events.foldlM FeedState.next FeedState.start
  if !reading.sound then throw .notXml
  if f.root.isNone then throw .emptyFeed
  return f.entries.reverse

/-- How many entries are taken when the configuration does not say. -/
def standardEntries : Nat := 10

/-- The kind of the records of a source. -/
def feedKind (s : Source) : RecordKind :=
  if s.categories.contains .news then .news else .feed

/-- The record of an entry. -/
def Entry.record (s : Source) (e : Entry) : Record :=
  { Record.make (String.ofList e.link) (String.ofList e.title) (String.ofList e.body) with
    source := s.id, kind := feedKind s, published := e.instant?
    extras := { Extras.none with
      author := nonempty (some (String.ofList (trim e.author)))
      tags := e.categories.map String.ofList } }

/-- The records of a feed: its first entries that have a link. -/
def readFeed (s : Source) (body : String) : Except Failure (List Record) :=
  match entriesOf (Xml.read body.toList) with
  | .error fault => .error (.answer fault)
  | .ok entries =>
    let linked := entries.filter fun e => !isBlank e.link
    .ok ((linked.take (s.maxItems.getD standardEntries)).map (Entry.record s))

end Metasearch.Answer
