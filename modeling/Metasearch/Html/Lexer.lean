import Metasearch.Html.Reference
import Metasearch.Html.Token
import Metasearch.Text.Space

/-!
# From characters to tokens

Every text can be read as markup: what is not well formed is read as something else. A tag, a
comment and a script are each read in one pass over the characters, with what has been met so far
as the state.

## Main definitions

* `readTag?`, `readComment`, `readDoctype`: what begins with a less-than sign.
* `splitRaw`, `splitScript`: text in which only one tag counts.
* `nextToken?`: the first token of a text and what follows it.
* `normalized`: a text with its line ends made alike.
-/

namespace Metasearch.Html

open Metasearch.Text

/-- The sign for what is no character in place of the null character. -/
def visible (c : Char) : Char := if c = '\x00' then Reference.replacement else c

/-- Holds if a text begins with some characters in upper or lower case; those are given in lower
case. -/
def beginsWith : List Char → List Char → Bool
  | [], _ => true
  | _ :: _, [] => false
  | p :: ps, c :: r => p == c.toLower && beginsWith ps r

/-! ### Tags -/

/-- Where in a tag the next character stands. -/
inductive TagSpot where
  /-- Before the name of an attribute. -/
  | between
  /-- In the name of an attribute. -/
  | name
  /-- After the name of an attribute. -/
  | afterName
  /-- Before the value. -/
  | beforeValue
  /-- In a value in quotes. -/
  | quoted (quote : Char)
  /-- In a value without quotes. -/
  | bare
  /-- After a slash. -/
  | slash

/-- The attributes of a tag as far as they have been read, the last one first, and the one at hand,
with name and value backwards. -/
structure TagDraft where
  /-- The attributes that are complete. -/
  attributes : List Attribute
  /-- The one at hand. -/
  current : Option (List Char × List Char)

namespace TagDraft

/-- The draft with the attribute at hand complete. The second of two attributes of one name does not
count. -/
def close (d : TagDraft) : TagDraft :=
  match d.current with
  | none => d
  | some (name, value) =>
    let name := String.ofList name.reverse
    if d.attributes.any fun a => a.name == name then ⟨d.attributes, none⟩
    else
      let value := String.ofList (Reference.decode true value.reverse)
      ⟨⟨name, value, false⟩ :: d.attributes, none⟩

/-- The draft with a new attribute whose name begins with a character. -/
def begin (d : TagDraft) (c : Char) : TagDraft :=
  { d.close with current := some ([(visible c).toLower], []) }

/-- The draft with one more character of the name. -/
def addName (d : TagDraft) (c : Char) : TagDraft :=
  { d with current := d.current.map fun a => ((visible c).toLower :: a.1, a.2) }

/-- The draft with one more character of the value. -/
def addValue (d : TagDraft) (c : Char) : TagDraft :=
  { d with current := d.current.map fun a => (a.1, visible c :: a.2) }

/-- All attributes in order. -/
def all (d : TagDraft) : List Attribute := d.close.attributes.reverse

end TagDraft

/-- The attributes of a tag, whether it ends with a slash, and what follows the tag. A tag that does
not end is none. -/
def readAttributes? (spot : TagSpot) (d : TagDraft) :
    List Char → Option (List Attribute × Bool × List Char)
  | [] => none
  | c :: r =>
    match spot with
    | .between =>
      if isMarkupSpace c then readAttributes? .between d r
      else if c = '/' then readAttributes? .slash d r
      else if c = '>' then some (d.all, false, r)
      else readAttributes? .name (d.begin c) r
    | .name =>
      if isMarkupSpace c then readAttributes? .afterName d r
      else if c = '/' then readAttributes? .slash d r
      else if c = '=' then readAttributes? .beforeValue d r
      else if c = '>' then some (d.all, false, r)
      else readAttributes? .name (d.addName c) r
    | .afterName =>
      if isMarkupSpace c then readAttributes? .afterName d r
      else if c = '/' then readAttributes? .slash d r
      else if c = '=' then readAttributes? .beforeValue d r
      else if c = '>' then some (d.all, false, r)
      else readAttributes? .name (d.begin c) r
    | .beforeValue =>
      if isMarkupSpace c then readAttributes? .beforeValue d r
      else if c = '"' || c = '\'' then readAttributes? (.quoted c) d r
      else if c = '>' then some (d.all, false, r)
      else readAttributes? .bare (d.addValue c) r
    | .quoted quote =>
      if c = quote then readAttributes? .between d.close r
      else readAttributes? (.quoted quote) (d.addValue c) r
    | .bare =>
      if isMarkupSpace c then readAttributes? .between d.close r
      else if c = '>' then some (d.all, false, r)
      else readAttributes? .bare (d.addValue c) r
    | .slash =>
      if isMarkupSpace c then readAttributes? .between d.close r
      else if c = '/' then readAttributes? .slash d r
      else if c = '>' then some (d.all, true, r)
      else readAttributes? .name (d.begin c) r

/-- Holds of characters in the name of a tag. -/
def isTagName (c : Char) : Bool := !isMarkupSpace c && c != '/' && c != '>'

/-- The tag whose name begins a text, and what follows the tag. -/
def readTag? (s : List Char) : Option (Tag × List Char) := do
  let name := (s.takeWhile isTagName).map fun c => (visible c).toLower
  let (attributes, closed, rest) ← readAttributes? .between ⟨[], none⟩ (s.dropWhile isTagName)
  return (⟨String.ofList name, attributes, closed⟩, rest)

/-! ### Comments and declarations -/

/-- Where in a comment the next character stands. -/
inductive CommentSpot where
  /-- At the beginning. -/
  | start
  /-- After a dash at the beginning. -/
  | startDash
  /-- In the text. -/
  | body
  /-- After a dash. -/
  | dash
  /-- After two dashes. -/
  | dashes
  /-- After two dashes and an exclamation mark. -/
  | bang

/-- The text of a comment and what follows the comment; `done` is what has been read of the text,
backwards. -/
def readCommentAt (spot : CommentSpot) (done : List Char) : List Char → List Char × List Char
  | [] => (done.reverse, [])
  | c :: r =>
    match spot with
    | .start =>
      if c = '-' then readCommentAt .startDash done r
      else if c = '>' then (done.reverse, r)
      else readCommentAt .body (visible c :: done) r
    | .startDash =>
      if c = '-' then readCommentAt .dashes done r
      else if c = '>' then (done.reverse, r)
      else readCommentAt .body (visible c :: '-' :: done) r
    | .body =>
      if c = '-' then readCommentAt .dash done r
      else readCommentAt .body (visible c :: done) r
    | .dash =>
      if c = '-' then readCommentAt .dashes done r
      else readCommentAt .body (visible c :: '-' :: done) r
    | .dashes =>
      if c = '>' then (done.reverse, r)
      else if c = '!' then readCommentAt .bang done r
      else if c = '-' then readCommentAt .dashes ('-' :: done) r
      else readCommentAt .body (visible c :: '-' :: '-' :: done) r
    | .bang =>
      if c = '-' then readCommentAt .dash ('!' :: '-' :: '-' :: done) r
      else if c = '>' then (done.reverse, r)
      else readCommentAt .body (visible c :: '!' :: '-' :: '-' :: done) r

/-- The text of a comment and what follows it, read from after its two dashes on. -/
def readComment (s : List Char) : List Char × List Char := readCommentAt .start [] s

/-- What stands before the next greater-than sign, whether there is one, and what follows it. -/
def splitAtEnd (s : List Char) : List Char × Bool × List Char :=
  let inside := s.takeWhile (· != '>')
  match s.dropWhile (· != '>') with
  | [] => (inside, false, [])
  | _ :: r => (inside, true, r)

/-- What is read in place of a declaration or instruction that means nothing. -/
def readBogus (s : List Char) : Token × List Char :=
  let (inside, _, rest) := splitAtEnd s
  (.comment (inside.map visible), rest)

/-- The text without the white space that it begins with. -/
def skipBlank (s : List Char) : List Char := s.dropWhile isMarkupSpace

/-- An identifier in quotes, whether its end is missing, and what follows it. -/
def readIdentifier? (s : List Char) : Option (List Char × Bool × List Char) :=
  match s with
  | c :: r =>
    if c = '"' || c = '\'' then
      match r.dropWhile (· != c) with
      | [] => some (r, true, [])
      | _ :: rest => some (r.takeWhile (· != c), false, rest)
    else none
  | [] => none

/-- The identifiers of a declaration, and whether they are not well formed. -/
def readIdentifiers (s : List Char) : Option (List Char) × Option (List Char) × Bool :=
  let system (publicId : Option (List Char)) (needed : Bool) (s : List Char) :=
    match readIdentifier? (skipBlank s) with
    | some (id, cut, _) => (publicId, some id, cut)
    | none => (publicId, none, needed || !(skipBlank s).isEmpty)
  if s.isEmpty then (none, none, false)
  else if beginsWith "public".toList s then
    match readIdentifier? (skipBlank (s.drop 6)) with
    | some (id, true, _) => (some id, none, true)
    | some (id, false, rest) => system (some id) false rest
    | none => (none, none, true)
  else if beginsWith "system".toList s then system none true (s.drop 6)
  else (none, none, true)

/-- A declaration of the type, read from after its keyword on, and what follows it. -/
def readDoctype (s : List Char) : Doctype × List Char :=
  let (inside, ended, rest) := splitAtEnd s
  let inside := skipBlank inside
  let name := (inside.takeWhile (!isMarkupSpace ·)).map fun c => (visible c).toLower
  let (publicId, systemId, broken) :=
    readIdentifiers (skipBlank (inside.dropWhile (!isMarkupSpace ·)))
  (⟨if name.isEmpty then none else some name, publicId, systemId,
    broken || name.isEmpty || !ended⟩, rest)

/-- The text before a mark, and what follows the mark. -/
def splitAtMark (mark : List Char) : List Char → List Char × List Char
  | [] => ([], [])
  | c :: r =>
    if mark.isPrefixOf (c :: r) then ([], (c :: r).drop mark.length)
    else
      let (before, rest) := splitAtMark mark r
      (c :: before, rest)

/-! ### Text in which only one tag counts -/

/-- Holds if a name is complete: white space or the end of the tag follows. -/
def endsName : List Char → Bool
  | c :: _ => isMarkupSpace c || c = '/' || c = '>'
  | [] => false

/-- Holds if a text begins with the tag that ends an element. -/
def isEndOf (element : List Char) (s : List Char) : Bool :=
  let mark := '<' :: '/' :: element
  beginsWith mark s && endsName (s.drop mark.length)

/-- The text of an element, and what follows from the tag on that ends it. -/
def splitRaw (element : List Char) : List Char → List Char × List Char
  | [] => ([], [])
  | c :: r =>
    if isEndOf element (c :: r) then ([], c :: r)
    else
      let (before, rest) := splitRaw element r
      (c :: before, rest)

/-- What surrounds a place in a script. -/
inductive ScriptSpot where
  /-- The script alone. -/
  | code
  /-- A comment in the script. -/
  | comment
  /-- A script in a comment in the script. -/
  | inner

/-- The spot after a character, by what it begins. -/
def ScriptSpot.next (spot : ScriptSpot) (s : List Char) : ScriptSpot :=
  match spot with
  | .code => if beginsWith "<!--".toList s then .comment else .code
  | .comment =>
    if beginsWith "-->".toList s then .code
    else if beginsWith "<script".toList s && endsName (s.drop 7) then .inner
    else .comment
  | .inner =>
    if beginsWith "-->".toList s then .code
    else if isEndOf "script".toList s then .comment
    else .inner

/-- Holds where the tag that ends a script counts. -/
def ScriptSpot.mayEnd : ScriptSpot → Bool
  | .inner => false
  | _ => true

/-- The text of a script, and what follows from the tag on that ends it. -/
def splitScript (spot : ScriptSpot) : List Char → List Char × List Char
  | [] => ([], [])
  | c :: r =>
    if spot.mayEnd && isEndOf "script".toList (c :: r) then ([], c :: r)
    else
      let (before, rest) := splitScript (spot.next (c :: r)) r
      (c :: before, rest)

/-! ### Tokens -/

/-- The token of an end tag that is read from after its slash on. -/
def readEnd? (s : List Char) : Option (Token × List Char) :=
  (readTag? s).map fun t => (.finish t.1.name, t.2)

/-- The token after a less-than sign; `foreign` tells whether the text is in a drawing or
formula. -/
def readMarkup? (foreign : Bool) (s : List Char) : Option (Token × List Char) :=
  match s with
  | '!' :: r =>
    if beginsWith "--".toList r then
      let (text, rest) := readComment (r.drop 2)
      some (.comment text, rest)
    else if beginsWith "doctype".toList r then
      let (doctype, rest) := readDoctype (r.drop 7)
      some (.doctype doctype, rest)
    else if foreign && "[CDATA[".toList.isPrefixOf r then
      let (text, rest) := splitAtMark "]]>".toList (r.drop 7)
      some (.text (text.map visible), rest)
    else some (readBogus r)
  | '/' :: [] => some (.text "</".toList, [])
  | '/' :: '>' :: r => some (.text [], r)
  | '/' :: c :: r => if c.isAlpha then readEnd? (c :: r) else some (readBogus (c :: r))
  | '?' :: r => some (readBogus ('?' :: r))
  | c :: r =>
    if c.isAlpha then (readTag? (c :: r)).map fun t => (.start t.1, t.2)
    else some (.text ['<'], c :: r)
  | [] => some (.text ['<'], [])

/-- Holds of characters that are nothing but text. -/
def isPlain (c : Char) : Bool := c != '<' && c != '&' && c != '\x00'

/-- The text of an element up to the tag that ends it, or that tag. -/
def readContent? (split : List Char × List Char) (write : List Char → List Char) :
    Option (Token × List Char) :=
  match split with
  | ([], '<' :: '/' :: rest) => readEnd? rest
  | ([], _) => none
  | (text, rest) => some (.text (write (text.map visible)), rest)

/-- The first token of a text, read as a kind of text, and what follows it. None is left at the end,
and in a tag that does not end. -/
def nextToken? (kind : TextKind) (foreign : Bool) (s : List Char) : Option (Token × List Char) :=
  match kind with
  | .ordinary =>
    match s with
    | [] => none
    | c :: r =>
      if c = '<' then readMarkup? foreign r
      else if c = '&' then
        match Reference.read? false r with
        | some (cs, rest) => some (.text cs, rest)
        | none => some (.text [c], r)
      else if c = '\x00' then some (.null, r)
      else some (.text (c :: r.takeWhile isPlain), r.dropWhile isPlain)
  | .escapable element => readContent? (splitRaw element.toList s) (Reference.decode false)
  | .raw element => readContent? (splitRaw element.toList s) id
  | .script => readContent? (splitScript .code s) id
  | .plain => if s.isEmpty then none else some (.text (s.map visible), [])

/-- The text with each line end written as one line feed. -/
def normalizedLines : List Char → List Char
  | [] => []
  | '\r' :: '\n' :: r => '\n' :: normalizedLines r
  | '\r' :: r => '\n' :: normalizedLines r
  | c :: r => c :: normalizedLines r

/-- The text with its line ends made alike, and without a mark of the byte order. -/
def normalized (s : List Char) : List Char :=
  match s with
  | '\ufeff' :: r => normalizedLines r
  | s => normalizedLines s

end Metasearch.Html
