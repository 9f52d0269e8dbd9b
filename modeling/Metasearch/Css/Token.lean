import Metasearch.Number.Base
import Metasearch.Number.Decimal
import Metasearch.Text.Space

/-!
# Tokens of selectors

A selector is a sequence of names, strings, numbers, and signs. Every text can be cut into such
tokens; what may not occur anywhere is a token of its own.

## Main definitions

* `Token`, `Bracket`.
* `tokens`: the tokens of a text.
-/

namespace Metasearch.Css

open Metasearch.Number Metasearch.Text

/-- The kinds of brackets. -/
inductive Bracket where
  /-- Round. -/
  | round
  /-- Square. -/
  | square
  /-- Curly. -/
  | curly
deriving DecidableEq, Repr

/-- A piece of a selector. -/
inductive Token where
  /-- A name. -/
  | name (text : List Char)
  /-- A name before an opening bracket. -/
  | function (text : List Char)
  /-- A name after a number sign; `isName` tells whether it could stand alone. -/
  | hash (isName : Bool) (text : List Char)
  /-- A text in quotes. -/
  | string (text : List Char)
  /-- A number; it has a value if it is whole. -/
  | number (signed : Bool) (value : Option Int)
  /-- A number and a name after it. -/
  | dimension (value : Option Int) (unit : List Char)
  /-- Blanks. -/
  | blank
  /-- A colon. -/
  | colon
  /-- A comma. -/
  | comma
  /-- A sign and an equals sign, for the comparison of an attribute. -/
  | comparison (sign : Char)
  /-- An opening bracket. -/
  | opening (bracket : Bracket)
  /-- A closing bracket. -/
  | closing (bracket : Bracket)
  /-- Any other sign. -/
  | sign (c : Char)
  /-- A token that has no place in a selector. -/
  | misplaced
  /-- A token that may not occur anywhere. -/
  | bad
deriving DecidableEq, Repr

/-! ### Characters -/

/-- Holds of line ends. -/
def isNewline (c : Char) : Bool := c = '\n' || c = '\r' || c = '\x0c'

/-- Holds of characters with which a name begins. -/
def isNameStart (c : Char) : Bool := c.isAlpha || c = '_' || c = '\x00' || 0x80 ≤ c.toNat

/-- Holds of characters in names. -/
def isNameChar (c : Char) : Bool := isNameStart c || c.isDigit || c = '-'

/-- Holds if no line end follows, so that a backslash before takes away a meaning. -/
def noNewline : List Char → Bool
  | c :: _ => !isNewline c
  | [] => true

/-- Holds if a text begins with a name. -/
def beginsName : List Char → Bool
  | '-' :: '\\' :: r => noNewline r
  | '-' :: c :: _ => isNameStart c || c = '-'
  | '\\' :: r => noNewline r
  | c :: _ => isNameStart c
  | [] => false

/-- Holds if a text begins with a number. -/
def beginsNumber : List Char → Bool
  | '.' :: c :: _ => c.isDigit
  | c :: _ => c.isDigit
  | [] => false

/-! ### Escapes -/

/-- The sign for what is no character. -/
def replacement : Char := '\ufffd'

/-- The value of at most so many hexadecimal digits, and what follows them. -/
def readHex : Nat → Nat → List Char → Nat × List Char
  | 0, value, s => (value, s)
  | _, value, [] => (value, [])
  | digits + 1, value, c :: r =>
    match hexValue? c with
    | some d => readHex digits (value * 16 + d) r
    | none => (value, c :: r)

/-- The rest of a text after one blank. -/
def skipOneBlank : List Char → List Char
  | '\r' :: '\n' :: r => r
  | c :: r => if isMarkupSpace c then r else c :: r
  | [] => []

/-- The character that stands after a backslash, and what follows it. -/
def readEscape : List Char → Char × List Char
  | [] => (replacement, [])
  | c :: r =>
    if (hexValue? c).isSome then
      let (value, rest) := readHex 6 0 (c :: r)
      (if value = 0 || !value.isValidChar then replacement else Char.ofNat value, skipOneBlank rest)
    else (if c = '\x00' then replacement else c, r)

/-! ### Names, strings, numbers -/

/-- The name with which a text begins, for at most so many characters, and what follows it. -/
def readNameWithin : Nat → List Char → List Char × List Char
  | 0, s => ([], s)
  | _ + 1, [] => ([], [])
  | n + 1, c :: r =>
    if c = '\\' && noNewline r then
      let (e, rest) := readEscape r
      let (name, rest) := readNameWithin n rest
      (e :: name, rest)
    else if isNameChar c then
      let (name, rest) := readNameWithin n r
      ((if c = '\x00' then replacement else c) :: name, rest)
    else ([], c :: r)

/-- The name with which a text begins, and what follows it. -/
def readName (s : List Char) : List Char × List Char := readNameWithin s.length s

/-- The text up to a quote, for at most so many characters, and what follows the quote; nothing if
the line ends first. -/
def readStringWithin (quote : Char) : Nat → List Char → Option (List Char) × List Char
  | 0, s => (some [], s)
  | _ + 1, [] => (some [], [])
  | n + 1, c :: r =>
    if c = quote then (some [], r)
    else if isNewline c then (none, c :: r)
    else if c = '\\' then
      match r with
      | [] => (some [], [])
      | d :: r' =>
        if isNewline d then readStringWithin quote n (skipOneBlank (d :: r'))
        else
          let (e, rest) := readEscape (d :: r')
          let (text, rest) := readStringWithin quote n rest
          (text.map (e :: ·), rest)
    else
      let (text, rest) := readStringWithin quote n r
      (text.map ((if c = '\x00' then replacement else c) :: ·), rest)

/-- A string after its first quote, and what follows it. -/
def readString (quote : Char) (s : List Char) : Token × List Char :=
  match readStringWithin quote s.length s with
  | (some text, rest) => (.string text, rest)
  | (none, rest) => (.bad, rest)

/-- The largest number that counts; larger ones count as this one. -/
def largest : Int := 2147483647

/-- The digits after a point, if there are some, and what follows them. -/
def readFraction : List Char → Bool × List Char
  | '.' :: c :: r => if c.isDigit then (true, r.dropWhile Char.isDigit) else (false, '.' :: c :: r)
  | s => (false, s)

/-- A power of ten, if there is one, and what follows it. -/
def readPower (s : List Char) : Bool × List Char :=
  match s with
  | e :: c :: r =>
    if e != 'e' && e != 'E' then (false, s)
    else if c.isDigit then (true, r.dropWhile Char.isDigit)
    else if (c = '+' || c = '-') && ((r.head?.map Char.isDigit).getD false) then
      (true, r.dropWhile Char.isDigit)
    else (false, s)
  | _ => (false, s)

/-- A number, and a name after it, from after the sign of the number on. -/
def readNumber (signed negative : Bool) (s : List Char) : Token × List Char :=
  let digits := s.takeWhile Char.isDigit
  let (fraction, rest) := readFraction (s.dropWhile Char.isDigit)
  let (power, rest) := readPower rest
  let size : Int := Number.value digits
  let value := if fraction || power then none
    else some (if negative then -(min size (largest + 1)) else min size largest)
  match rest with
  | '%' :: rest => (.misplaced, rest)
  | rest =>
    if beginsName rest then
      let (unit, rest) := readName rest
      (.dimension value unit, rest)
    else (.number signed value, rest)

/-- What follows a comment, read from after its beginning on. -/
def skipComment : List Char → List Char
  | [] => []
  | '*' :: '/' :: r => r
  | _ :: r => skipComment r

/-- What follows an address without quotes, which is no part of a selector. -/
def skipAddress : List Char → List Char
  | [] => []
  | ')' :: r => r
  | '\\' :: _ :: r => skipAddress r
  | _ :: r => skipAddress r

/-- A name, or a name before an opening bracket, and what follows it. -/
def readNamed (s : List Char) : Token × List Char :=
  match readName s with
  | (name, '(' :: rest) =>
    let quoted := match rest.dropWhile isMarkupSpace with
      | c :: _ => c = '"' || c = '\''
      | [] => false
    if lower name == "url".toList && !quoted then (.misplaced, skipAddress rest)
    else (.function name, rest)
  | (name, rest) => (.name name, rest)

/-! ### Tokens -/

/-- The first token of a text that begins with a character, and what follows it; a comment is
none. -/
def readToken (c : Char) (r : List Char) : Option Token × List Char :=
  let one (t : Token) : Option Token × List Char := (some t, r)
  let of (t : Token × List Char) : Option Token × List Char := (some t.1, t.2)
  let compared : Option Token × List Char :=
    match r with
    | '=' :: r => (some (.comparison c), r)
    | _ => one (.sign c)
  if isMarkupSpace c then (some .blank, r.dropWhile isMarkupSpace)
  else
    match c with
    | '"' | '\'' => of (readString c r)
    | '#' =>
      if (r.head?.map isNameChar).getD false || (r.head? = some '\\' && noNewline r.tail) then
        let (name, rest) := readName r
        (some (.hash (beginsName r) name), rest)
      else one (.sign c)
    | '$' | '*' | '^' | '|' | '~' => compared
    | '(' => one (.opening .round)
    | ')' => one (.closing .round)
    | '[' => one (.opening .square)
    | ']' => one (.closing .square)
    | '\x7b' => one (.opening .curly)
    | '\x7d' => one (.closing .curly)
    | ',' => one .comma
    | ':' => one .colon
    | ';' => one .misplaced
    | '+' => if beginsNumber r then of (readNumber true false r) else one (.sign c)
    | '-' =>
      if beginsNumber r then of (readNumber true true r)
      else if "->".toList.isPrefixOf r then (some .misplaced, r.drop 2)
      else if beginsName (c :: r) then of (readNamed (c :: r))
      else one (.sign c)
    | '.' => if beginsNumber (c :: r) then of (readNumber false false (c :: r)) else one (.sign c)
    | '/' =>
      match r with
      | '*' :: r => (none, skipComment r)
      | _ => one (.sign c)
    | '<' => if "!--".toList.isPrefixOf r then (some .misplaced, r.drop 3) else one (.sign c)
    | '@' => if beginsName r then (some .misplaced, (readName r).2) else one (.sign c)
    | '\\' => if noNewline r then of (readNamed (c :: r)) else one (.sign c)
    | _ =>
      if c.isDigit then of (readNumber false false (c :: r))
      else if isNameStart c then of (readNamed (c :: r))
      else one (.sign c)

/-- The tokens of a text, for at most so many characters. -/
def tokensWithin : Nat → List Char → List Token
  | 0, _ => []
  | _ + 1, [] => []
  | n + 1, c :: r =>
    match readToken c r with
    | (some t, rest) => t :: tokensWithin n rest
    | (none, rest) => tokensWithin n rest

/-- The tokens of a text. -/
def tokens (s : List Char) : List Token := tokensWithin s.length s

end Metasearch.Css
