import Metasearch.Number.Decimal
import Metasearch.Number.Double

/-!
# Shortest decimals

The fewest digits that read back as the same double, and of those the digits nearest to it.
A finite double `m * 2 ^ q` owns the interval of numbers that round to it; its ends belong to it
when `m` is even. For one, two, up to seventeen digits the two neighbours of the value on that
decimal grid are tried in exact arithmetic, and the first grid with a hit wins.

## Main definitions

* `Digits`: digits and the place of the decimal point.
* `shortest`: the digits of a finite double.
* `fixed`: a double with a given number of places, a tie going to the even digit.
-/

namespace Metasearch.Number

/-- The number `0.d₁d₂…dₙ * 10 ^ point`. -/
structure Digits where
  /-- Digits without zeros at the end. -/
  digits : List Char
  /-- How many digits stand before the decimal point. -/
  point : Int
deriving DecidableEq

/-- Compare `a * 10 ^ k` with `b * 2 ^ p`. -/
def compareScaled (a : Nat) (k : Int) (b : Nat) (p : Int) : Ordering :=
  compare (a * tenTo k.toNat * twoTo (-p).toNat) (b * twoTo p.toNat * tenTo (-k).toNat)

/-- The exponent `e` with `10 ^ (e - 1) ≤ m * 2 ^ q < 10 ^ e`, for `m` not zero. -/
def decimalExponent (m : Nat) (q : Int) : Int :=
  let guess := ((m.log2 : Int) + q) * 30103 / 100000
  if compareScaled 1 guess m q == .gt then guess
  else if compareScaled 1 (guess + 1) m q == .gt then guess + 1
  else guess + 2

/-- Of the two neighbours of `m * 2 ^ q` on the grid of `10 ^ k`, the nearer one that reads
back as it. -/
def candidate (m : Nat) (q k : Int) : Option Nat :=
  let lowGap := if m = Double.leading && -1074 < q then 1 else 2
  let p := q - 2
  let inside (c : Nat) : Bool :=
    let lo := compareScaled c k (4 * m - lowGap) p
    let hi := compareScaled c k (4 * m + 2) p
    if m % 2 = 0 then lo != .lt && hi != .gt else lo == .gt && hi == .lt
  let down := (m * twoTo q.toNat * tenTo (-k).toNat) / (twoTo (-q).toNat * tenTo k.toNat)
  let up := down + 1
  match inside down, inside up with
  | false, false => none
  | true, false => some down
  | false, true => some up
  | true, true =>
    match compareScaled (2 * down + 1) k (2 * m) q with
    | .lt => some up
    | .gt => some down
    | .eq => if down % 2 = 0 then some down else some up

/-- The first of the remaining digit counts that has a hit; the last resort is exact. -/
def firstHit (m : Nat) (q e : Int) : List Nat → Nat × Int
  | [] => (m * twoTo q.toNat, 0)
  | n :: rest =>
    match candidate m q (e - n) with
    | some c => (c, e - n)
    | none => firstHit m q e rest

/-- The digits and decimal point of `c * 10 ^ k`. -/
def Digits.ofScaled (c : Nat) (k : Int) : Digits :=
  let s := numeral c
  ⟨(s.reverse.dropWhile (· == '0')).reverse, (s.length : Int) + k⟩

/-- The fewest digits that read back as `x`; of a zero, none. -/
def shortest (x : Double) : Digits :=
  let (m, q) := x.parts
  if m = 0 then ⟨[], 0⟩
  else
    let (c, k) := firstHit m q (decimalExponent m q) ((List.range 17).map (· + 1))
    Digits.ofScaled c k

/-- Whole part and fraction of the digits when no exponent is written. -/
def Digits.split (d : Digits) : List Char × List Char :=
  if d.point ≤ 0 then (['0'], List.replicate (-d.point).toNat '0' ++ d.digits)
  else
    let n := d.point.toNat
    (d.digits.take n ++ List.replicate (n - d.digits.length) '0', d.digits.drop n)

/-- The sign in front of a number. -/
def signText (x : Double) : List Char :=
  if x.negative then ['-'] else []

/-- A double with `places` digits after the point; those that are not finite have names. -/
def fixed (places : Nat) (x : Double) : List Char :=
  if x.isNaN then ['N', 'a', 'N']
  else if !x.isFinite then signText x ++ ['i', 'n', 'f']
  else
    let (n, d) := x.toRatio
    let s := padded (places + 1) (Double.roundDiv (n * tenTo places) d)
    let whole := s.take (s.length - places)
    signText x ++ if places = 0 then whole else whole ++ '.' :: s.drop (s.length - places)

end Metasearch.Number
