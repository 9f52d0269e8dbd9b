import Metasearch.Data.Basic
import Metasearch.Number.Base
import Metasearch.Number.Decimal
import Metasearch.Time.Calendar

/-!
# Numbers, dates and words of TOML

A value that is neither quoted nor enclosed is one run of characters. It is a truth value, an
integer, a number with a point or an exponent, or a date. Digits may be grouped by underscores,
each between two digits. Dates are recognised and denote nothing that is read.

## Main definitions

* `ungroup?`: digits without the underscores between them.
* `readInteger?`, `readFloat?`, `isDateTime`: the kinds of runs.
* `readScalar?`: what a run denotes.
-/

namespace Metasearch.Toml

open Metasearch.Number

/-- Digits of a kind without the underscores that stand between two of them. There is at least
one digit. -/
def ungroup? (isDigit : Char → Bool) : List Char → Option (List Char)
  | [] => none
  | [c] => if isDigit c then some [c] else none
  | c :: '_' :: r => if isDigit c then (ungroup? isDigit r).map (c :: ·) else none
  | c :: r => if isDigit c then (ungroup? isDigit r).map (c :: ·) else none

/-- A sign in front, and what follows it. -/
def splitSign : List Char → Bool × List Char
  | '+' :: r => (false, r)
  | '-' :: r => (true, r)
  | s => (false, s)

/-- Digits of a whole number in base ten: without a leading zero. -/
def wholeDigits? (s : List Char) : Option (List Char) :=
  match ungroup? Char.isDigit s with
  | some ('0' :: _ :: _) => none
  | d => d

/-- An integer, if it fits 64 bits. -/
def fitting? (i : Int) : Option Data :=
  if Data.minSigned ≤ i ∧ i ≤ Data.maxSigned then some (.int i) else none

/-- A whole number in another base. -/
def readBased? (base : Nat) (s : List Char) : Option Data := do
  let digits ← ungroup? (fun c => (digitIn? base c).isSome) s
  fitting? (← valueIn? base digits)

/-- An integer: in base ten with or without a sign, or in base two, eight or sixteen. -/
def readInteger? : List Char → Option Data
  | '0' :: 'x' :: r => readBased? 16 r
  | '0' :: 'o' :: r => readBased? 8 r
  | '0' :: 'b' :: r => readBased? 2 r
  | s => do
    let (negative, r) := splitSign s
    let n := value (← wholeDigits? r)
    fitting? (if negative then -(n : Int) else n)

/-- The exponent of a number, with its sign. -/
def readExponent? (s : List Char) : Option Int := do
  let (negative, r) := splitSign s
  let n := value (← ungroup? Char.isDigit r)
  return if negative then -(n : Int) else n

/-- Digits before and after a point, and what follows an `e`, if there is one. -/
def splitExponent (s : List Char) : List Char × Option (List Char) :=
  let isMark := fun c => c == 'e' || c == 'E'
  match s.dropWhile fun c => !isMark c with
  | [] => (s, none)
  | _ :: r => (s.takeWhile fun c => !isMark c, some r)

/-- A number with a point or an exponent or both; it does not pass the largest one upwards. -/
def readDecimal? (negative : Bool) (s : List Char) : Option Double := do
  let (digits, exponent) := splitExponent s
  let e ← match exponent with
    | some r => readExponent? r
    | none => some 0
  let isPoint := fun c => c == '.'
  let whole ← wholeDigits? (digits.takeWhile fun c => !isPoint c)
  let fraction ← match digits.dropWhile fun c => !isPoint c with
    | [] => if exponent.isSome then some [] else none
    | _ :: r => ungroup? Char.isDigit r
  let x := Double.ofDecimal negative (value (whole ++ fraction)) (e - fraction.length)
  if x == Double.infinity false then none else some x

/-- A number that is no integer. -/
def readFloat? (s : List Char) : Option Double :=
  match splitSign s with
  | (negative, ['i', 'n', 'f']) => some (Double.infinity negative)
  | (negative, ['n', 'a', 'n']) => some { Double.nan with negative }
  | (negative, r) => readDecimal? negative r

/-! ### Dates -/

/-- Two digits. -/
def readTwo? : List Char → Option (Nat × List Char)
  | a :: b :: r => if a.isDigit && b.isDigit then some (value [a, b], r) else none
  | _ => none

/-- Holds of an offset from the time at Greenwich. -/
def isOffset : List Char → Bool
  | [] => true
  | [c] => c == 'Z' || c == 'z'
  | c :: r =>
    (c == '+' || c == '-') &&
      match readTwo? r with
      | some (h, ':' :: r) =>
        match readTwo? r with
        | some (m, []) => h ≤ 23 && m ≤ 59
        | _ => false
      | _ => false

/-- Holds of a fraction of a second followed by an offset. -/
def isFractionAndOffset (offset : Bool) : List Char → Bool
  | '.' :: r =>
    let rest := r.dropWhile Char.isDigit
    r.head?.any Char.isDigit && (if offset then isOffset rest else rest.isEmpty)
  | r => if offset then isOffset r else r.isEmpty

/-- Holds of a time of the day, followed by an offset if one may stand there. -/
def isTime (offset : Bool) (s : List Char) : Bool :=
  match readTwo? s with
  | some (h, ':' :: r) =>
    match readTwo? r with
    | some (m, ':' :: r) =>
      match readTwo? r with
      | some (sec, r) => h ≤ 23 && m ≤ 59 && sec ≤ 60 && isFractionAndOffset offset r
      | none => false
    | _ => false
  | _ => false

/-- A date at the start of a text, and what follows it. -/
def readDate? (s : List Char) : Option (List Char) := do
  let (a, r) ← readTwo? s
  let (b, r) ← readTwo? r
  match r with
  | '-' :: r =>
    let (month, r) ← readTwo? r
    match r with
    | '-' :: r =>
      let (day, r) ← readTwo? r
      let year := a * 100 + b
      if 1 ≤ month && month ≤ 12 && 1 ≤ day && day ≤ Time.monthLength year month then some r
      else none
    | _ => none
  | _ => none

/-- Holds of a date without a time. -/
def isDate (s : List Char) : Bool :=
  readDate? s == some []

/-- Holds of a date, a time, or both with a `T` or a space between them. -/
def isDateTime (s : List Char) : Bool :=
  match readDate? s with
  | some [] => true
  | some (c :: r) => (c == 'T' || c == 't' || c == ' ') && isTime true r
  | none => isTime false s

/-- What a run of characters denotes. -/
def readScalar? (s : List Char) : Option Data :=
  if s = "true".toList then some (.bool true)
  else if s = "false".toList then some (.bool false)
  else if isDateTime s then some .unreadable
  else (readInteger? s).or ((readFloat? s).map .float)

end Metasearch.Toml
