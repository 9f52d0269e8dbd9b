import Metasearch.Number.Base
import Metasearch.Text.Space

/-!
# XML events

A document read from front to back is a series of events: elements that start, end, or do both at
once, and the text between them. Attributes are looked up in the tag when they are asked for, and
entities are resolved when text is used.

## Main definitions

* `Event`, `Tag`.
* `localName`: a name without its namespace.
* `unescape?`: text with its entities resolved.
* `Tag.attribute?`: the value of an attribute.
-/

namespace Metasearch.Xml

open Metasearch.Text

/-- White space between the parts of a document. -/
def isSpace (c : Char) : Bool :=
  c == ' ' || c == '\t' || c == '\n' || c == '\r'

/-- What stands between the angle brackets of a start tag. -/
structure Tag where
  /-- The name, with its namespace if it has one. -/
  name : List Char
  /-- What follows the name. -/
  attributes : List Char
deriving DecidableEq

/-- What is met in a document. -/
inductive Event where
  /-- An element starts. -/
  | start (tag : Tag)
  /-- An element starts and ends. -/
  | single (tag : Tag)
  /-- An element ends. -/
  | finish (name : List Char)
  /-- Text with entities. -/
  | text (raw : List Char)
  /-- Text as it is. -/
  | verbatim (raw : List Char)
deriving DecidableEq

/-- A name without its namespace. -/
def localName (name : List Char) : List Char :=
  (afterFirst (· == ':') name).getD name

/-- The name of the tag without its namespace. -/
def Tag.localName (t : Tag) : List Char :=
  Xml.localName t.name

/-! ### Entities -/

/-- The character of a code point; zero stands for none. -/
def charOf? (n : Nat) : Option Char :=
  if h : n.isValidChar then if n = 0 then none else some (Char.ofNatAux n h) else none

/-- What an entity stands for. -/
def entity? (name : List Char) : Option Char :=
  match name with
  | '#' :: 'x' :: hex => (Number.valueIn? 16 hex).bind charOf?
  | '#' :: digits => (Number.valueIn? 10 digits).bind charOf?
  | ['l', 't'] => some '<'
  | ['g', 't'] => some '>'
  | ['a', 'm', 'p'] => some '&'
  | ['a', 'p', 'o', 's'] => some '\''
  | ['q', 'u', 'o', 't'] => some '"'
  | _ => none

/-- Text with its entities resolved. `name` holds the letters of an entity that has begun, the
last one first. -/
def unescapeFrom? (name : Option (List Char)) : List Char → Option (List Char)
  | [] => if name.isSome then none else some []
  | c :: r =>
    match name with
    | none =>
      if c = '&' then unescapeFrom? (some []) r else (unescapeFrom? none r).map (c :: ·)
    | some letters =>
      if c = ';' then do
        let e ← entity? letters.reverse
        return e :: (← unescapeFrom? none r)
      else if c = '&' then none
      else unescapeFrom? (some (c :: letters)) r

/-- Text with its entities resolved; nothing if one is not known or not closed. -/
def unescape? (s : List Char) : Option (List Char) :=
  unescapeFrom? none s

/-! ### Attributes -/

/-- The value between quotes at the start of a text, and what follows it. -/
def readValue? : List Char → Option (List Char × List Char)
  | q :: r =>
    if q = '"' ∨ q = '\'' then
      (afterFirst (· == q) r).map fun rest => (beforeFirst (· == q) r, rest)
    else none
  | [] => none

/-- The first attribute of a text, its value not yet unescaped, and what follows it. -/
def readAttribute? (s : List Char) : Option ((List Char × List Char) × List Char) :=
  match s.dropWhile isSpace with
  | [] => none
  | c :: r =>
    let isEnd := fun c => c == '=' || isSpace c
    let name := c :: beforeFirst isEnd r
    match (r.dropWhile fun c => !isEnd c).dropWhile isSpace with
    | '=' :: r => (readValue? (r.dropWhile isSpace)).map fun (v, rest) => ((name, v), rest)
    | _ => none

/-- The attributes of a text up to the first one that is malformed; `fuel` bounds their
number. -/
def readAttributes (fuel : Nat) (s : List Char) : List (List Char × List Char) :=
  match fuel with
  | 0 => []
  | fuel + 1 =>
    match readAttribute? s with
    | some (a, rest) => a :: readAttributes fuel rest
    | none => []

/-- The value of the first attribute of a name, unless it is malformed or stands behind one that
is. -/
def Tag.attribute? (t : Tag) (name : String) : Option (List Char) := do
  let found ← (readAttributes t.attributes.length t.attributes).find? fun a => a.1 == name.toList
  unescape? found.2

end Metasearch.Xml
