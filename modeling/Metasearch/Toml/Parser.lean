import Metasearch.Toml.Quoted
import Metasearch.Toml.Scalar
import Metasearch.Toml.Tree

/-!
# Reading TOML

A document is a series of lines: headers, and names with values. Lines end with a line feed, in
front of which a carriage return may stand.

## Main definitions

* `readName`, `readPath`: names, and names joined by dots.
* `readValue`: a value.
* `readLine`: a header, or a name with a value.
* `parse?`: a document.
-/

namespace Metasearch.Toml

open Metasearch.Text

/-- How deep values may be nested, and how long a path of names may be, short of this. -/
def maxDepth : Nat := 80

/-- The text without carriage returns that stand in front of a line feed. -/
def unifyLines : List Char → List Char
  | '\r' :: '\n' :: r => '\n' :: unifyLines r
  | c :: r => c :: unifyLines r
  | [] => []

/-- A text without the blanks that it starts with. -/
def skipBlank (s : List Char) : List Char :=
  s.dropWhile isBlank

/-! ### Names -/

/-- Holds of characters of a name without quotes. -/
def isBare (c : Char) : Bool :=
  c.isAlphanum || c == '_' || c == '-'

/-- A name, and what follows it. -/
def readName (s : List Char) : Option (String × List Char) :=
  match s.takeWhile isBare with
  | [] => (readQuotedName s).map fun (name, r) => (String.ofList name, r)
  | name => some (String.ofList name, s.dropWhile isBare)

/-- Names joined by dots, blanks around each; `fuel` bounds their number. -/
def readNames (fuel : Nat) (s : List Char) : Option (List String × List Char) :=
  match fuel with
  | 0 => none
  | fuel + 1 => do
    let (name, r) ← readName (skipBlank s)
    match skipBlank r with
    | '.' :: r =>
      let (names, r) ← readNames fuel r
      return (name :: names, r)
    | r => return ([name], r)

/-- All names of a path but the last, the last, and what follows. -/
def readPath (s : List Char) : Option (List String × String × List Char) := do
  let (names, r) ← readNames (maxDepth - 1) s
  return (names.dropLast, ← names.getLast?, r)

/-! ### Values -/

/-- Holds of characters of a value that is neither quoted nor enclosed. -/
def isScalarChar (c : Char) : Bool :=
  isBare c || c == '+' || c == '.' || c == ':'

/-- A run of characters as a value; a date takes the time after a space with it. -/
def readRun (s : List Char) : Option (Data × List Char) :=
  let run := s.takeWhile isScalarChar
  let rest := s.dropWhile isScalarChar
  let time := match rest with
    | ' ' :: r => r.takeWhile isScalarChar
    | _ => []
  if isDate run && time.head?.any Char.isDigit then
    if isDateTime (run ++ ' ' :: time) then some (.unreadable, (rest.drop 1).dropWhile isScalarChar)
    else none
  else (readScalar? run).map fun d => (d, rest)

/-- What follows a comment, if one starts the text. -/
def skipComment? : List Char → Option (List Char)
  | '#' :: r =>
    match r.dropWhile isPrintable with
    | '\n' :: rest => some ('\n' :: rest)
    | [] => some []
    | _ => none
  | s => some s

/-- What follows blanks, line ends and comments; `fuel` bounds the lines. -/
def skipLines (fuel : Nat) (s : List Char) : Option (List Char) :=
  match fuel with
  | 0 => none
  | fuel + 1 => do
    match ← skipComment? (skipBlank s) with
    | '\n' :: r => skipLines fuel r
    | r => return r

/-- What names with values make of a table. -/
def tableOf? (fields : List (List String × String × Data)) : Option Data :=
  (fields.foldlM (fun entries (path, name, d) => put? path name d Origin.header entries) []).map
    fun entries => .table (entriesData entries)

mutual

/-- The value at the start of a text, and what follows it. `depth` counts the values around it;
`fuel` bounds the values read. -/
def readValue (fuel depth : Nat) (s : List Char) : Option (Data × List Char) :=
  match fuel with
  | 0 => none
  | fuel + 1 =>
    match s with
    | '[' :: r =>
      if maxDepth ≤ depth + 1 then none
      else (readItems fuel (depth + 1) r).map fun (items, rest) => (.list items, rest)
    | '\x7b' :: r =>
      if maxDepth ≤ depth + 1 then none
      else
        match skipBlank r with
        | '\x7d' :: rest => some (.table [], rest)
        | r => do
          let (fields, rest) ← readFields fuel (depth + 1) r
          return (← tableOf? fields, rest)
    | s =>
      match readQuoted s with
      | some (t, rest) => some (.text (String.ofList t), rest)
      | none => readRun s

/-- The items of a sequence up to its closing bracket; a comma may stand behind the last. -/
def readItems (fuel depth : Nat) (s : List Char) : Option (List Data × List Char) :=
  match fuel with
  | 0 => none
  | fuel + 1 => do
    match ← skipLines (s.length + 1) s with
    | ']' :: r => return ([], r)
    | r =>
      let (item, rest) ← readValue fuel depth r
      match ← skipLines (rest.length + 1) rest with
      | ',' :: r =>
        let (items, rest) ← readItems fuel depth r
        return (item :: items, rest)
      | ']' :: r => return ([item], r)
      | _ => none

/-- The fields of a table on one line up to its closing brace; there is at least one. -/
def readFields (fuel depth : Nat) (s : List Char) :
    Option (List (List String × String × Data) × List Char) :=
  match fuel with
  | 0 => none
  | fuel + 1 => do
    let (path, name, r) ← readPath s
    match r with
    | '=' :: r =>
      let (d, rest) ← readValue fuel depth (skipBlank r)
      match skipBlank rest with
      | ',' :: r =>
        let (fields, rest) ← readFields fuel depth r
        return ((path, name, d) :: fields, rest)
      | '\x7d' :: r => return ([(path, name, d)], r)
      | _ => none
    | _ => none

end

/-! ### Documents -/

/-- A document as far as it has been read. -/
structure Progress where
  /-- The path of the last header. -/
  current : List String
  /-- The outermost table. -/
  entries : Entries

/-- The rest of a line: blanks and a comment. -/
def endLine? (s : List Char) : Option (List Char) := do
  match ← skipComment? (skipBlank s) with
  | '\n' :: r => some r
  | [] => some []
  | _ => none

/-- A header of a sequence of tables, after two brackets. -/
def readItemHeader (p : Progress) (s : List Char) : Option (Progress × List Char) := do
  let (path, name, r) ← readPath s
  match r with
  | ']' :: ']' :: r => return (⟨path ++ [name], ← openItem? path name p.entries⟩, ← endLine? r)
  | _ => none

/-- A header of a table, after a bracket. -/
def readTableHeader (p : Progress) (s : List Char) : Option (Progress × List Char) := do
  let (path, name, r) ← readPath s
  match r with
  | ']' :: r => return (⟨path ++ [name], ← openTable? path name p.entries⟩, ← endLine? r)
  | _ => none

/-- A name with a value. -/
def readField (p : Progress) (s : List Char) : Option (Progress × List Char) := do
  let (path, name, r) ← readPath s
  match r with
  | '=' :: r =>
    let (d, rest) ← readValue (2 * r.length + 2) 0 (skipBlank r)
    let entries ← putUnder? p.current path name d p.entries
    return ({ p with entries }, ← endLine? rest)
  | _ => none

/-- A line with something on it, and what follows it. -/
def readLine (p : Progress) : List Char → Option (Progress × List Char)
  | '[' :: '[' :: r => readItemHeader p r
  | '[' :: r => readTableHeader p r
  | s => readField p s

/-- All lines; `fuel` bounds their number. -/
def readLinesFrom (fuel : Nat) (p : Progress) (s : List Char) : Option Progress :=
  match fuel with
  | 0 => none
  | fuel + 1 => do
    match ← skipLines (s.length + 1) s with
    | [] => return p
    | s =>
      let (p, rest) ← readLine p s
      readLinesFrom fuel p rest

/-- A text without a byte order mark. -/
def skipMark : List Char → List Char
  | '\uFEFF' :: r => r
  | s => s

/-- What a document denotes; nothing if it is not well formed. -/
def parse? (s : List Char) : Option Data :=
  let s := unifyLines (skipMark s)
  (readLinesFrom (s.length + 1) ⟨[], []⟩ s).map fun p => .table (entriesData p.entries)

end Metasearch.Toml
