import Metasearch.Json.Number
import Metasearch.Number.Base

/-!
# Reading JSON

A document is one value with white space around it. Values nested deeper than the limit are
checked for form and denote nothing, so that a reader which skips them does not mind.

## Main definitions

* `readText`: a quoted text; `none` for one that has an unpaired surrogate.
* `readValue`: one value and what follows it.
* `parse?`: a whole document.
-/

namespace Metasearch.Json

/-- White space between tokens. -/
def isBlank (c : Char) : Bool :=
  c == ' ' || c == '\n' || c == '\t' || c == '\r'

/-- The text from its first character that is not white space on. -/
def skipBlank (s : List Char) : List Char :=
  s.dropWhile isBlank

/-- The value of four hexadecimal digits. -/
def hex4? (a b c d : Char) : Option Nat := Number.valueIn? 16 [a, b, c, d]

/-- The character that stands for itself after a backslash, or for a control character. -/
def simpleEscape? : Char → Option Char
  | '"' => some '"'
  | '\\' => some '\\'
  | '/' => some '/'
  | 'b' => some '\x08'
  | 'f' => some '\x0c'
  | 'n' => some '\n'
  | 'r' => some '\r'
  | 't' => some '\t'
  | _ => none

/-- The code points and escaped code units of a quoted text up to its closing quote, and what
follows the quote. -/
def readUnits : List Char → Option (List Nat × List Char)
  | [] => none
  | '"' :: r => some ([], r)
  | '\\' :: 'u' :: a :: b :: c :: d :: r => do
    let n ← hex4? a b c d
    let (units, rest) ← readUnits r
    return (n :: units, rest)
  | '\\' :: e :: r => do
    let c ← simpleEscape? e
    let (units, rest) ← readUnits r
    return (c.toNat :: units, rest)
  | c :: r =>
    if c = '\\' ∨ c.toNat < 0x20 then none
    else do
      let (units, rest) ← readUnits r
      return (c.toNat :: units, rest)

/-- Holds of the first unit of a surrogate pair. -/
def isHighSurrogate (n : Nat) : Bool := 0xD800 ≤ n && n ≤ 0xDBFF

/-- Holds of the second unit of a surrogate pair. -/
def isLowSurrogate (n : Nat) : Bool := 0xDC00 ≤ n && n ≤ 0xDFFF

/-- The characters of code points and code units, each surrogate having its partner. -/
def charsOfUnits : List Nat → Option (List Char)
  | [] => some []
  | [n] =>
    if isHighSurrogate n || isLowSurrogate n then none else some [Char.ofNat n]
  | n :: m :: r =>
    if isHighSurrogate n then
      if isLowSurrogate m then
        (charsOfUnits r).map
          (Char.ofNat (0x10000 + (n - 0xD800) * 0x400 + (m - 0xDC00)) :: ·)
      else none
    else if isLowSurrogate n then none
    else (charsOfUnits (m :: r)).map (Char.ofNat n :: ·)

/-- A quoted text after its opening quote. The text itself is absent when a surrogate is
unpaired. -/
def readText (s : List Char) : Option (Option String × List Char) := do
  let (units, rest) ← readUnits s
  return ((charsOfUnits units).map String.ofList, rest)

/-- What stands for itself. -/
def readWord (s : List Char) : Option (Data × List Char) :=
  match s with
  | 'n' :: 'u' :: 'l' :: 'l' :: r => some (.null, r)
  | 't' :: 'r' :: 'u' :: 'e' :: r => some (.bool true, r)
  | 'f' :: 'a' :: 'l' :: 's' :: 'e' :: r => some (.bool false, r)
  | _ => none

/-- How deep values may be nested. -/
def maxDepth : Nat := 127

/-- A sequence or table, if the nesting around it allows it. -/
def nested (depth : Nat) (d : Data) : Data :=
  if depth < maxDepth then d else .unreadable

mutual

/-- The value at the start of a text, white space in front skipped, and what follows it.
`depth` counts the values around it; `fuel` bounds the values read. -/
def readValue (fuel depth : Nat) (s : List Char) : Option (Data × List Char) :=
  match fuel with
  | 0 => none
  | fuel + 1 =>
    match skipBlank s with
    | [] => none
    | '"' :: r => do
      let (t, rest) ← readText r
      return (t.elim .unreadable .text, rest)
    | '[' :: r =>
      match skipBlank r with
      | ']' :: rest => some (nested depth (.list []), rest)
      | r' => do
        let (items, rest) ← readItems fuel (depth + 1) r'
        return (nested depth (.list items), rest)
    | '\x7b' :: r =>
      match skipBlank r with
      | '\x7d' :: rest => some (nested depth (.table []), rest)
      | r' => do
        let (fields, rest) ← readFields fuel (depth + 1) r'
        return (nested depth (fields.elim .unreadable .table), rest)
    | c :: r => if c = '-' ∨ c.isDigit then readNumber (c :: r) else readWord (c :: r)

/-- The items of a sequence up to its closing bracket; there is at least one. -/
def readItems (fuel depth : Nat) (s : List Char) : Option (List Data × List Char) :=
  match fuel with
  | 0 => none
  | fuel + 1 => do
    let (item, rest) ← readValue fuel depth s
    match skipBlank rest with
    | ',' :: r =>
      let (items, rest) ← readItems fuel depth r
      return (item :: items, rest)
    | ']' :: r => return ([item], r)
    | _ => none

/-- The fields of a table up to its closing brace; there is at least one. A table with a name
that denotes no text denotes nothing. -/
def readFields (fuel depth : Nat) (s : List Char) :
    Option (Option (List (String × Data)) × List Char) :=
  match fuel with
  | 0 => none
  | fuel + 1 =>
    match skipBlank s with
    | '"' :: r => do
      let (name, rest) ← readText r
      match skipBlank rest with
      | ':' :: r =>
        let (item, rest) ← readValue fuel depth r
        let field := name.map fun n => (n, item)
        match skipBlank rest with
        | ',' :: r =>
          let (fields, rest) ← readFields fuel depth r
          return (field.bind fun f => fields.map (f :: ·), rest)
        | '\x7d' :: r => return (field.map ([·]), r)
        | _ => none
      | _ => none
    | _ => none

end

/-- What a whole document denotes; nothing if it is not well formed. -/
def parse? (s : List Char) : Option Data := do
  let (d, rest) ← readValue (2 * s.length + 2) 0 s
  if (skipBlank rest).isEmpty then some d else none

end Metasearch.Json
