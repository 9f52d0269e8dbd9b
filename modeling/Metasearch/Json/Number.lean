import Metasearch.Data.Basic
import Metasearch.Number.Decimal

/-!
# Numbers in JSON

A number without fraction and exponent that fits 64 bits is an integer. Any other is a double,
found from at most 64 bits of significant digits and one multiplication or division by a power
of ten: quick, exact for up to nineteen digits within reach of that power, and off by a unit in
the last place now and then beyond.

## Main definitions

* `Numeral`: the parts of a number as written.
* `Numeral.read`: the integer or double that it denotes.
-/

namespace Metasearch.Json

open Metasearch.Number

/-- The parts of a number as written. -/
structure Numeral where
  /-- A minus sign stands in front. -/
  negative : Bool
  /-- The digits before the point. -/
  whole : List Char
  /-- The digits after the point, if there is one. -/
  fraction : Option (List Char)
  /-- Sign and digits of the exponent, if there is one. -/
  exponent : Option (Bool × List Char)

/-- The largest significand that is formed. -/
def maxSignificand : Nat := 18446744073709551615

/-- Digits taken into a significand, one after the other, while it fits 64 bits, and the digits
from the first that does not fit. -/
def absorb (significand : Nat) : List Char → Nat × List Char
  | [] => (significand, [])
  | c :: r =>
    let next := significand * 10 + digitValue c
    if maxSignificand < next then (significand, c :: r) else absorb next r

/-- The double of `10 ^ k`. -/
def powerOfTen (k : Nat) : Double :=
  Double.ofDecimal false 1 k

/-- `f * 10 ^ exponent` in steps of at most 308 decimal places; nothing past the largest
double. Two steps down reach zero from every 64-bit significand. -/
def scale : Nat → Double → Int → Option Double
  | 0, f, _ => some f
  | steps + 1, f, exponent =>
    if exponent.natAbs ≤ 308 then
      if 0 ≤ exponent then
        let r := f.mul (powerOfTen exponent.natAbs)
        if r.isFinite then some r else none
      else some (f.div (powerOfTen exponent.natAbs))
    else if f.magnitude = 0 then some f
    else if 0 ≤ exponent then none
    else scale steps (f.div (powerOfTen 308)) (exponent + 308)

/-- The double of a significand and a decimal exponent. -/
def ofParts (negative : Bool) (significand : Nat) (exponent : Int) : Data :=
  match scale 4 (Double.ofNat false significand) exponent with
  | some r => .float { r with negative := negative }
  | none => .unreadable

/-- The largest exponent that is formed. -/
def maxExponent : Nat := 2147483647

/-- The double of a significand whose decimal point has been moved by `shift`, and of the
exponent written after it. -/
def withExponent (negative : Bool) (significand : Nat) (shift : Int) :
    Option (Bool × List Char) → Data
  | none => ofParts negative significand shift
  | some (down, digits) =>
    let e := value digits
    if maxExponent < e then
      if significand ≠ 0 ∧ !down then .unreadable else .float (Double.zero negative)
    else ofParts negative significand (if down then shift - e else shift + e)

/-- What a number denotes. -/
def Numeral.read (n : Numeral) : Data :=
  let (significand, dropped) := absorb 0 n.whole
  match n.fraction with
  | some fraction =>
    let (significand', left) := absorb significand fraction
    withExponent n.negative significand'
      ((dropped.length : Int) - ((fraction.length - left.length : Nat) : Int)) n.exponent
  | none =>
    if n.exponent.isSome || !dropped.isEmpty then
      withExponent n.negative significand dropped.length n.exponent
    else if !n.negative then .int significand
    else if significand = 0 then .float (Double.zero true)
    else if significand ≤ 9223372036854775808 then .int (-(significand : Int))
    else .float (Double.ofNat true significand)

/-- The fraction of a number, if a point starts one; it has at least one digit. -/
def readFraction : List Char → Option (Option (List Char) × List Char)
  | '.' :: r =>
    match spanDigits r with
    | ([], _) => none
    | (digits, rest) => some (some digits, rest)
  | s => some (none, s)

/-- The sign and digits of an exponent after its letter; it has at least one digit. -/
def readExponentDigits (down : Bool) (s : List Char) :
    Option (Option (Bool × List Char) × List Char) :=
  match spanDigits s with
  | ([], _) => none
  | (digits, rest) => some (some (down, digits), rest)

/-- The exponent of a number, if a letter starts one. -/
def readExponent : List Char → Option (Option (Bool × List Char) × List Char)
  | c :: r =>
    if c = 'e' ∨ c = 'E' then
      match r with
      | '+' :: r' => readExponentDigits false r'
      | '-' :: r' => readExponentDigits true r'
      | r' => readExponentDigits false r'
    else some (none, c :: r)
  | [] => some (none, [])

/-- The digits before the point: a zero on its own, or digits that start with another. -/
def readWhole (s : List Char) : Option (List Char × List Char) :=
  match spanDigits s with
  | ([], _) => none
  | ('0' :: _ :: _, _) => none
  | (digits, rest) => some (digits, rest)

/-- The number at the start of a text after its sign. -/
def readUnsigned (negative : Bool) (s : List Char) : Option (Data × List Char) := do
  let (whole, s) ← readWhole s
  let (fraction, s) ← readFraction s
  let (exponent, s) ← readExponent s
  return (({ negative, whole, fraction, exponent } : Numeral).read, s)

/-- The number at the start of a text. -/
def readNumber : List Char → Option (Data × List Char)
  | '-' :: r => readUnsigned true r
  | s => readUnsigned false s

end Metasearch.Json
