import Metasearch.Html.Entity
import Metasearch.Number.Base

/-!
# Character references

In text and in the values of attributes, what begins with an ampersand may stand for a character:
by its name, or by its number. An ampersand that begins no reference stands for itself.

## Main definitions

* `Reference.read?`: the reference at an ampersand.
* `Reference.decode`: text with its references resolved.
-/

namespace Metasearch.Html.Reference

open Metasearch.Number

/-- Holds of letters and digits. -/
def isAlphanumeric (c : Char) : Bool := c.isAlpha || c.isDigit

/-- What the numbers from 128 to 159 stand for: the characters of an old code page. -/
def oldCodes : List Nat :=
  [0x20ac, 0x81, 0x201a, 0x192, 0x201e, 0x2026, 0x2020, 0x2021, 0x2c6, 0x2030, 0x160, 0x2039,
    0x152, 0x8d, 0x17d, 0x8f, 0x90, 0x2018, 0x2019, 0x201c, 0x201d, 0x2022, 0x2013, 0x2014, 0x2dc,
    0x2122, 0x161, 0x203a, 0x153, 0x9d, 0x17e, 0x178]

/-- The sign for what is no character. -/
def replacement : Char := '\ufffd'

/-- The character that a number stands for. -/
def numbered (n : Nat) : Char :=
  if n = 0 || !n.isValidChar then replacement
  else if 0x80 ≤ n && n ≤ 0x9f then Char.ofNat (oldCodes.getD (n - 0x80) n)
  else Char.ofNat n

/-- The rest of a text after a semicolon, which may be missing. -/
def afterSemicolon : List Char → List Char
  | ';' :: r => r
  | s => s

/-- A reference by number in a base: what stands after the sign for the base. -/
def readNumber? (base : Nat) (s : List Char) : Option (List Char × List Char) :=
  let isDigit := fun c : Char => (digitIn? base c).isSome
  (valueIn? base (s.takeWhile isDigit)).map fun n =>
    ([numbered n], afterSemicolon (s.dropWhile isDigit))

/-- The longest of the names without semicolon with which a word begins. -/
def bareName? (word : List Char) : Option (List Char) :=
  (Entity.bareNames.filter fun name => name.isPrefixOf word).foldl
    (fun best name =>
      match best with
      | some b => if b.length < name.length then some name else some b
      | none => some name)
    none

/-- A reference by name. In the value of an attribute a name without semicolon counts only if
neither a letter, a digit nor an equals sign follows. -/
def readName? (inAttribute : Bool) (s : List Char) : Option (List Char × List Char) :=
  let word := s.takeWhile isAlphanumeric
  let whole := if (s.drop word.length).head? = some ';' then Entity.characters? word else none
  match whole with
  | some cs => some (cs, s.drop (word.length + 1))
  | none => do
    let name ← bareName? word
    let rest := s.drop name.length
    let goesOn := match rest with
      | c :: _ => c = '=' || isAlphanumeric c
      | [] => false
    if inAttribute && goesOn then none
    else return (← Entity.characters? name, rest)

/-- The characters that a reference stands for and the text after it; the text is given from after
the ampersand on. -/
def read? (inAttribute : Bool) (s : List Char) : Option (List Char × List Char) :=
  match s with
  | '#' :: 'x' :: r => readNumber? 16 r
  | '#' :: 'X' :: r => readNumber? 16 r
  | '#' :: r => readNumber? 10 r
  | s => readName? inAttribute s

/-- The text with its references resolved, for at most so many characters. -/
def decodeWithin (inAttribute : Bool) : Nat → List Char → List Char
  | 0, s => s
  | _ + 1, [] => []
  | n + 1, c :: r =>
    if c = '&' then
      match read? inAttribute r with
      | some (cs, rest) => cs ++ decodeWithin inAttribute n rest
      | none => c :: decodeWithin inAttribute n r
    else c :: decodeWithin inAttribute n r

/-- The text with its references resolved. -/
def decode (inAttribute : Bool) (s : List Char) : List Char :=
  decodeWithin inAttribute s.length s

end Metasearch.Html.Reference
