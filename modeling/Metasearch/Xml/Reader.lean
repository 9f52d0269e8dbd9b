import Metasearch.Xml.Event

/-!
# Reading XML

The reader checks that tags are closed in the order in which they were opened, and no more:
elements that are open at the end of the document are let pass. Text loses the white space at
either end; text that is nothing else is skipped, and so are comments, instructions and the
document type.

## Main definitions

* `Step`, `next`: one piece of a document.
* `read`: all events of a document, up to the first fault.
-/

namespace Metasearch.Xml

open Metasearch.Text

/-- One piece of a document. -/
inductive Step where
  /-- An event, the elements that are open after it, and what follows. -/
  | event (e : Event) (opened : List (List Char)) (rest : List Char)
  /-- A piece that is skipped. -/
  | skipped (rest : List Char)
  /-- The document is malformed. -/
  | fault

/-- What follows the first place where `mark` stands, and what comes before it. -/
def splitAt? (mark : List Char) : List Char → Option (List Char × List Char)
  | [] => if mark.isEmpty then some ([], []) else none
  | c :: r =>
    if mark.isPrefixOf (c :: r) then some ([], (c :: r).drop mark.length)
    else (splitAt? mark r).map fun (before, rest) => (c :: before, rest)

/-- A tag up to its closing bracket; brackets between quotes do not count. -/
def splitTag? (quote : Option Char) : List Char → Option (List Char × List Char)
  | [] => none
  | c :: r =>
    if quote = none ∧ c = '>' then some ([], r)
    else
      let inside :=
        match quote with
        | some q => if c = q then none else some q
        | none => if c = '"' ∨ c = '\'' then some c else none
      (splitTag? inside r).map fun (tag, rest) => (c :: tag, rest)

/-- A declaration up to its closing bracket; `depth` counts the brackets that are open in it. -/
def splitDeclaration? (depth : Nat) : List Char → Option (List Char × List Char)
  | [] => none
  | c :: r =>
    if c = '>' then
      match depth with
      | 0 => some ([], r)
      | depth + 1 => (splitDeclaration? depth r).map fun (d, rest) => (c :: d, rest)
    else
      (splitDeclaration? (if c = '<' then depth + 1 else depth) r).map fun (d, rest) =>
        (c :: d, rest)

/-- A tag as a name and what follows it. -/
def tagOf (s : List Char) : Tag :=
  ⟨s.takeWhile fun c => !isSpace c, s.dropWhile fun c => !isSpace c⟩

/-- A start tag, after its opening bracket. -/
def readStart (opened : List (List Char)) (s : List Char) : Step :=
  match splitTag? none s with
  | none => .fault
  | some (tag, rest) =>
    if tag.getLast? = some '/' then .event (.single (tagOf tag.dropLast)) opened rest
    else
      let t := tagOf tag
      .event (.start t) (t.name :: opened) rest

/-- The name in an end tag: white space after it does not count, but is a name when it stands
alone. -/
def closingName (tag : List Char) : List Char :=
  if tag.all isSpace then tag else dropTailWhile isSpace tag

/-- An end tag, after its slash. -/
def readFinish (opened : List (List Char)) (s : List Char) : Step :=
  match splitTag? none s, opened with
  | some (tag, rest), name :: outer =>
    if closingName tag = name then .event (.finish name) outer rest else .fault
  | _, _ => .fault

/-- A document type, from its first letter. -/
def readType (s : List Char) : Step :=
  match splitDeclaration? 0 s with
  | some (d, rest) =>
    if lower (d.take 7) = "doctype".toList ∧ (d.drop 7).any fun c => !isSpace c then .skipped rest
    else .fault
  | none => .fault

/-- What starts with an exclamation mark, after it. -/
def readMarked (opened : List (List Char)) : List Char → Step
  | '-' :: '-' :: r =>
    match splitAt? ['-', '-', '>'] r with
    | some (_, rest) => .skipped rest
    | none => .fault
  | '[' :: 'C' :: 'D' :: 'A' :: 'T' :: 'A' :: '[' :: r =>
    match splitAt? [']', ']', '>'] r with
    | some (raw, rest) => .event (.verbatim raw) opened rest
    | none => .fault
  | 'D' :: r => readType ('D' :: r)
  | 'd' :: r => readType ('d' :: r)
  | _ => .fault

/-- An instruction, after its first question mark. -/
def readInstruction : List Char → Step
  | '>' :: _ => .fault
  | s =>
    match splitAt? ['?', '>'] s with
    | some (_, rest) => .skipped rest
    | none => .fault

/-- What stands after an opening bracket. -/
def readMarkup (opened : List (List Char)) : List Char → Step
  | [] => .fault
  | '!' :: r => readMarked opened r
  | '/' :: r => readFinish opened r
  | '?' :: r => readInstruction r
  | s => readStart opened s

/-- The first piece of a text that does not start with white space and is not empty. -/
def next (opened : List (List Char)) (s : List Char) : Step :=
  match s with
  | '<' :: r => readMarkup opened r
  | s =>
    let isBracket := fun c => c == '<'
    .event (.text (dropTailWhile isSpace (beforeFirst isBracket s))) opened
      (s.dropWhile fun c => !isBracket c)

/-- What was read of a document. -/
structure Reading where
  /-- The events up to the end, or up to a fault. -/
  events : List Event
  /-- No fault was met. -/
  sound : Bool

/-- The events of a document within the elements `opened`; `fuel` bounds the pieces. -/
def readFrom (fuel : Nat) (opened : List (List Char)) (s : List Char) : Reading :=
  match fuel with
  | 0 => ⟨[], true⟩
  | fuel + 1 =>
    match s.dropWhile isSpace with
    | [] => ⟨[], true⟩
    | s =>
      match next opened s with
      | .fault => ⟨[], false⟩
      | .skipped rest => readFrom fuel opened rest
      | .event e opened rest =>
        let r := readFrom fuel opened rest
        ⟨e :: r.events, r.sound⟩

/-- All events of a document, up to the first fault. A byte order mark in front does not count. -/
def read (s : List Char) : Reading :=
  let s := match s with
    | '\uFEFF' :: r => r
    | s => s
  readFrom (s.length + 1) [] s

end Metasearch.Xml
