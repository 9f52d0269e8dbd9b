import Metasearch.Data.Basic
import Metasearch.Number.Base
import Metasearch.Number.Shortest
import Metasearch.Text.Space

/-!
# Writing JSON

Two layouts: compact, all on one line with no blanks, and indented by two spaces.

## Main definitions

* `quoted`: a text between quotes, with escapes for quotes, backslashes and control characters.
* `floatText`: the shortest digits that read back, with an exponent below `1e-5` and from `1e16`.
* `compact`, `pretty`: the two layouts.
-/

namespace Metasearch.Json

open Metasearch.Number Metasearch.Text

/-- A character as it stands between quotes. -/
def escaped (c : Char) : List Char :=
  if c = '"' then ['\\', '"']
  else if c = '\\' then ['\\', '\\']
  else if c = '\x08' then ['\\', 'b']
  else if c = '\x0c' then ['\\', 'f']
  else if c = '\n' then ['\\', 'n']
  else if c = '\r' then ['\\', 'r']
  else if c = '\t' then ['\\', 't']
  else if c.toNat < 0x20 then
    ['\\', 'u', '0', '0', hexDigit (c.toNat / 16), hexDigit (c.toNat % 16)]
  else [c]

/-- A text between quotes. -/
def quoted (s : String) : List Char :=
  '"' :: s.toList.flatMap escaped ++ ['"']

/-- An integer. -/
def intText (i : Int) : List Char :=
  if i < 0 then '-' :: numeral i.natAbs else numeral i.natAbs

/-- Digits with an exponent: one digit before the point. -/
def exponential (d : Digits) : List Char :=
  let e := 'e' :: intText (d.point - 1)
  match d.digits with
  | [] => ['0'] ++ e
  | [c] => c :: e
  | c :: r => c :: '.' :: r ++ e

/-- A double. What is not finite is written as nothing. -/
def floatText (x : Double) : List Char :=
  if !x.isFinite then ['n', 'u', 'l', 'l']
  else
    let d := shortest x
    if x.magnitude = 0 then signText x ++ ['0', '.', '0']
    else
      signText x ++
        if -5 < d.point && d.point ≤ 16 then
          match d.split with
          | (whole, []) => whole ++ ['.', '0']
          | (whole, fraction) => whole ++ '.' :: fraction
        else exponential d

/-- A value that holds no others. -/
def scalarText : Data → List Char
  | .null => ['n', 'u', 'l', 'l']
  | .bool true => ['t', 'r', 'u', 'e']
  | .bool false => ['f', 'a', 'l', 's', 'e']
  | .int i => intText i
  | .float x => floatText x
  | .text s => quoted s
  | _ => ['n', 'u', 'l', 'l']

mutual

/-- All on one line with no blanks. -/
def compact : Data → List Char
  | .list items => '[' :: compactItems items ++ [']']
  | .table fields => '\x7b' :: compactFields fields ++ ['\x7d']
  | d => scalarText d

/-- The items of a sequence, with commas between them. -/
def compactItems : List Data → List Char
  | [] => []
  | [d] => compact d
  | d :: e :: r => compact d ++ ',' :: compactItems (e :: r)

/-- The fields of a table, with commas between them. -/
def compactFields : List (String × Data) → List Char
  | [] => []
  | [(name, d)] => quoted name ++ ':' :: compact d
  | (name, d) :: f :: r => quoted name ++ ':' :: compact d ++ ',' :: compactFields (f :: r)

end

/-- A new line indented for a depth. -/
def newLine (depth : Nat) : List Char :=
  '\n' :: List.replicate (2 * depth) ' '

mutual

/-- One item or field a line, indented by two spaces a level. -/
def prettyAt (depth : Nat) : Data → List Char
  | .list [] => ['[', ']']
  | .list items =>
    '[' :: prettyItems (depth + 1) items ++ newLine depth ++ [']']
  | .table [] => ['\x7b', '\x7d']
  | .table fields =>
    '\x7b' :: prettyFields (depth + 1) fields ++ newLine depth ++ ['\x7d']
  | d => scalarText d

/-- The items of a sequence, each on a line of its own. -/
def prettyItems (depth : Nat) : List Data → List Char
  | [] => []
  | [d] => newLine depth ++ prettyAt depth d
  | d :: e :: r => newLine depth ++ prettyAt depth d ++ ',' :: prettyItems depth (e :: r)

/-- The fields of a table, each on a line of its own. -/
def prettyFields (depth : Nat) : List (String × Data) → List Char
  | [] => []
  | [(name, d)] => newLine depth ++ quoted name ++ ':' :: ' ' :: prettyAt depth d
  | (name, d) :: f :: r =>
    newLine depth ++ quoted name ++ ':' :: ' ' :: prettyAt depth d ++
      ',' :: prettyFields depth (f :: r)

end

/-- One item or field a line, indented by two spaces a level. -/
def pretty (d : Data) : List Char :=
  prettyAt 0 d

end Metasearch.Json
