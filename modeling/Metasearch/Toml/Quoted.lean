import Metasearch.Number.Base
import Metasearch.Text.Space

/-!
# Quoted text of TOML

Four ways to quote: basic, with escapes, or literal, without; each on one line or on several,
between three quotes on either side. A line feed right after three opening quotes does not count.
In basic text on several lines a backslash at the end of a line joins it to the next character
that is not blank.

## Main definitions

* `readBasic`, `readLiteral`, `readBasicLines`, `readLiteralLines`: text up to its closing quotes.
* `readQuoted`: the four ways by their opening quotes.
-/

namespace Metasearch.Toml

/-- Holds of characters that may stand in a comment and in quoted text. -/
def isPrintable (c : Char) : Bool :=
  c == '\t' || (0x20 ≤ c.toNat && c.toNat != 0x7F)

/-- Holds of a blank within a line. -/
def isBlank (c : Char) : Bool :=
  c == ' ' || c == '\t'

/-- The character of a code point in hexadecimal digits. -/
def charOfHex? (digits : List Char) : Option Char := do
  let n ← Number.valueIn? 16 digits
  if h : n.isValidChar then some (Char.ofNatAux n h) else none

/-- The character of an escape with one letter. -/
def simpleEscape? : Char → Option Char
  | 'b' => some '\x08'
  | 't' => some '\t'
  | 'n' => some '\n'
  | 'f' => some '\x0c'
  | 'r' => some '\r'
  | '"' => some '"'
  | '\\' => some '\\'
  | _ => none

/-- A character in front of a text that was read. -/
def prepend (c : Option Char) (rest : Option (List Char × List Char)) :
    Option (List Char × List Char) := do
  let c ← c
  let (s, r) ← rest
  return (c :: s, r)

/-- Basic text up to its closing quote. -/
def readBasic : List Char → Option (List Char × List Char)
  | '"' :: r => some ([], r)
  | '\\' :: 'u' :: a :: b :: c :: d :: r => prepend (charOfHex? [a, b, c, d]) (readBasic r)
  | '\\' :: 'U' :: a :: b :: c :: d :: e :: f :: g :: h :: r =>
    prepend (charOfHex? [a, b, c, d, e, f, g, h]) (readBasic r)
  | '\\' :: c :: r => prepend (simpleEscape? c) (readBasic r)
  | c :: r => if isPrintable c then prepend (some c) (readBasic r) else none
  | [] => none

/-- Literal text up to its closing quote. -/
def readLiteral : List Char → Option (List Char × List Char)
  | '\'' :: r => some ([], r)
  | c :: r => if isPrintable c then prepend (some c) (readLiteral r) else none
  | [] => none

/-- How a line is joined to the next. -/
inductive Joint where
  /-- It is not. -/
  | none
  /-- A backslash has been read; the line must end. -/
  | expected
  /-- The line has ended; blanks and line ends do not count. -/
  | open
deriving DecidableEq

/-- Basic text on several lines up to its closing quotes. Two more quotes may stand in front of
those. -/
def readBasicLines (joint : Joint) : List Char → Option (List Char × List Char)
  | c :: r =>
    if joint = .expected then
      if c = '\n' then readBasicLines .open r
      else if isBlank c then readBasicLines .expected r
      else .none
    else if joint = .open && (c == '\n' || isBlank c) then readBasicLines .open r
    else
      match c, r with
      | '"', '"' :: '"' :: '"' :: '"' :: r => some (['"', '"'], r)
      | '"', '"' :: '"' :: '"' :: r => some (['"'], r)
      | '"', '"' :: '"' :: r => some ([], r)
      | '\\', 'u' :: a :: b :: c :: d :: r =>
        prepend (charOfHex? [a, b, c, d]) (readBasicLines .none r)
      | '\\', 'U' :: a :: b :: c :: d :: e :: f :: g :: h :: r =>
        prepend (charOfHex? [a, b, c, d, e, f, g, h]) (readBasicLines .none r)
      | '\\', e :: r' =>
        if e = '\n' || isBlank e then readBasicLines .expected (e :: r')
        else prepend (simpleEscape? e) (readBasicLines .none r')
      | c, r =>
        if isPrintable c || c == '\n' then prepend (some c) (readBasicLines .none r) else .none
  | [] => .none
termination_by s => s.length

/-- Literal text on several lines up to its closing quotes. Two more quotes may stand in front
of those. -/
def readLiteralLines : List Char → Option (List Char × List Char)
  | '\'' :: '\'' :: '\'' :: '\'' :: '\'' :: r => some (['\'', '\''], r)
  | '\'' :: '\'' :: '\'' :: '\'' :: r => some (['\''], r)
  | '\'' :: '\'' :: '\'' :: r => some ([], r)
  | c :: r =>
    if isPrintable c || c == '\n' then prepend (some c) (readLiteralLines r) else none
  | [] => none

/-- A text without the line feed that it may start with. -/
def skipLineFeed : List Char → List Char
  | '\n' :: r => r
  | s => s

/-- A quoted text on one line, and what follows it. -/
def readQuotedName : List Char → Option (List Char × List Char)
  | '"' :: r => readBasic r
  | '\'' :: r => readLiteral r
  | _ => none

/-- A quoted text, and what follows it. -/
def readQuoted : List Char → Option (List Char × List Char)
  | '"' :: '"' :: '"' :: r => readBasicLines .none (skipLineFeed r)
  | '\'' :: '\'' :: '\'' :: r => readLiteralLines (skipLineFeed r)
  | s => readQuotedName s

end Metasearch.Toml
