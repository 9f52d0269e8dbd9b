import Metasearch.Json.Printer

/-!
# Writing TOML

The values of a table come first, one a line; its tables and sequences of tables follow under
headers of their own. Fields that hold nothing are left out. Sequences of more than one value
take a line for each. Text with quotes or backslashes is written literally where that is possible.

## Main definitions

* `quoted`, `nameText`: text and names.
* `valueText?`: a value on the right of a name.
* `print?`: a document; nothing when a value has no form, such as an integer of more than 63 bits.
-/

namespace Metasearch.Toml

open Metasearch.Number Metasearch.Text

/-! ### Text -/

/-- The form of a text. -/
structure Style where
  /-- Over several lines. -/
  lines : Bool
  /-- Without escapes. -/
  literal : Bool
deriving DecidableEq

/-- Holds of a text with three single quotes in a row. -/
def hasThreeQuotes (s : List Char) : Bool :=
  occursIn ['\'', '\'', '\''] s

/-- The form of a text: literal if that saves escapes and every character allows it, over
several lines if there is a line feed. -/
def styleOf (s : List Char) : Style :=
  let saves := s.any fun c => c == '"' || c == '\\'
  let allows := s.all fun c => c == '\t' || c == '\n' || (0x20 ≤ c.toNat && c.toNat != 0x7F)
  ⟨s.contains '\n', saves && allows && !hasThreeQuotes s && s.getLast? != some '\''⟩

/-- A character in basic text. -/
def escaped (lines : Bool) (c : Char) : List Char :=
  if c = '\x08' then ['\\', 'b']
  else if c = '\t' then ['\\', 't']
  else if c = '\n' then (if lines then ['\n'] else ['\\', 'n'])
  else if c = '\x0c' then ['\\', 'f']
  else if c = '\r' then ['\\', 'r']
  else if c = '"' then ['\\', '"']
  else if c = '\\' then ['\\', '\\']
  else if c.toNat < 0x20 || c.toNat == 0x7F then
    ['\\', 'u', '0', '0'] ++ [c.toNat / 16, c.toNat % 16].map fun d => Number.upperHexDigit d
  else [c]

/-- A text between quotes of its form. -/
def quoted (s : List Char) : List Char :=
  match styleOf s with
  | ⟨true, true⟩ => "'''\n".toList ++ s ++ "'''".toList
  | ⟨false, true⟩ =>
    let quotes := if s.contains '\'' then "'''".toList else ['\'']
    quotes ++ s ++ quotes
  | ⟨true, false⟩ => "\"\"\"\n".toList ++ s.flatMap (escaped true) ++ "\"\"\"".toList
  | ⟨false, false⟩ => '"' :: s.flatMap (escaped false) ++ ['"']

/-- A name in front of a value or in a header. -/
def nameText (name : String) : List Char :=
  let s := name.toList
  if !s.isEmpty && s.all fun c => c.isAlphanum || c == '_' || c == '-' then s
  else if s.any (fun c => c == '"' || c == '\\') &&
      s.all fun c => c == '\t' || (0x20 ≤ c.toNat && c.toNat != 0x7F && c != '\'') then
    '\'' :: s ++ ['\'']
  else '"' :: s.flatMap (escaped false) ++ ['"']

/-! ### Values -/

/-- A number that is no integer: without an exponent, with a point. -/
def floatText (x : Double) : List Char :=
  if x.isNaN then "nan".toList
  else if !x.isFinite then signText x ++ "inf".toList
  else
    match (shortest x).split with
    | (whole, []) => signText x ++ whole ++ ['.', '0']
    | (whole, fraction) => signText x ++ whole ++ '.' :: fraction

/-- The values of a sequence between brackets, each on a line of its own if there are several. -/
def sequenceText (items : List (List Char)) : List Char :=
  match items with
  | [] => "[]".toList
  | [s] => '[' :: s ++ [']']
  | items => '[' :: (items.flatMap fun s => "\n    ".toList ++ s ++ [',']) ++ "\n]".toList

mutual

/-- A value on the right of a name. -/
def valueText? : Data → Option (List Char)
  | .bool b => some (if b then "true".toList else "false".toList)
  | .int i =>
    if Data.minSigned ≤ i ∧ i ≤ Data.maxSigned then some (Json.intText i) else none
  | .float x => some (floatText x)
  | .text s => some (quoted s.toList)
  | .list items => (valueTexts? items).map sequenceText
  | _ => none

/-- Values one by one. -/
def valueTexts? : List Data → Option (List (List Char))
  | [] => some []
  | d :: rest => do
    let s ← valueText? d
    return s :: (← valueTexts? rest)

end

/-! ### Tables -/

/-- Holds of tables. -/
def isTable : Data → Bool
  | .table _ => true
  | _ => false

/-- Holds of fields that get headers. -/
def hasHeader : Data → Bool
  | .table _ => true
  | .list items => !items.isEmpty && items.all isTable
  | _ => false

/-- The lines of the values of a table. -/
def valueLines? : List (String × Data) → Option (List Char)
  | [] => some []
  | (name, d) :: rest =>
    match d with
    | .null => valueLines? rest
    | d =>
      if hasHeader d then valueLines? rest
      else do
        let value ← valueText? d
        return nameText name ++ " = ".toList ++ value ++ '\n' :: (← valueLines? rest)

/-- A path of names in a header. -/
def pathText (path : List String) : List Char :=
  joinWith ['.'] (path.map nameText)

/-- Holds of a field that is not left out. -/
def isPresent : Data → Bool
  | .null => false
  | _ => true

/-- Holds of fields that put a header in front of a table: it has values, or nothing at all. -/
def showsHeader (fields : List (String × Data)) : Bool :=
  let present := fields.filter fun f => isPresent f.2
  present.isEmpty || present.any fun f => !hasHeader f.2

mutual

/-- The sections of a table: its values under its header, and the sections of its tables. -/
def sections? (path : List String) (fields : List (String × Data)) :
    Option (List (List Char)) := do
  let values ← valueLines? fields
  let inner ← fieldSections? path fields
  if showsHeader fields then
    return ('[' :: pathText path ++ "]\n".toList ++ values) :: inner
  else return inner

/-- The sections of the tables among fields. -/
def fieldSections? (path : List String) : List (String × Data) → Option (List (List Char))
  | [] => some []
  | (name, .table fields) :: rest => do
    let own ← sections? (path ++ [name]) fields
    return own ++ (← fieldSections? path rest)
  | (name, .list items) :: rest =>
    if hasHeader (.list items) then do
      let own ← itemSections? (path ++ [name]) items
      return own ++ (← fieldSections? path rest)
    else fieldSections? path rest
  | _ :: rest => fieldSections? path rest

/-- The sections of a sequence of tables. -/
def itemSections? (path : List String) : List Data → Option (List (List Char))
  | [] => some []
  | .table fields :: rest => do
    let values ← valueLines? fields
    let inner ← fieldSections? path fields
    let own := "[[".toList ++ pathText path ++ "]]\n".toList ++ values
    return own :: inner ++ (← itemSections? path rest)
  | _ :: rest => itemSections? path rest

end

/-- A document: the values of the outermost table, and sections with blank lines between. -/
def print? : Data → Option (List Char)
  | .table fields => do
    let values ← valueLines? fields
    let sections ← fieldSections? [] fields
    return joinWith ['\n'] (if values.isEmpty then sections else values :: sections)
  | _ => none

end Metasearch.Toml
