import Metasearch.Number.Power

/-!
# Double-precision numbers

A double is a sign and a magnitude: the 63 low bits of its binary interchange form, read as a
natural number. Magnitudes are ordered as the numbers are, so comparison is comparison of signed
integers, and all of a double's arithmetic that is needed here is rounding of an exact ratio.

## Main definitions

* `Double`: sign and magnitude; a magnitude past `infinite` is not a number.
* `Double.rank`: the signed integer that orders the doubles. Both zeros have rank 0.
* `Double.parts`: the `m` and `q` of the value `m * 2 ^ q`.
* `Double.ofRatio`: the double nearest to a ratio, ties to the even neighbour.
* `Double.ofDecimal`: the double nearest to `digits * 10 ^ exponent`.
-/

namespace Metasearch

open Metasearch.Number

/-- A double-precision number: its sign and the other 63 bits of its binary form. -/
structure Double where
  /-- Holds of negative numbers and of the negative zero. -/
  negative : Bool
  /-- Biased exponent and fraction as one natural number. -/
  magnitude : Nat
deriving DecidableEq, Repr

namespace Double

/-- The least number of 53 binary digits: what the leading digit of a significand counts. -/
def leading : Nat := 4503599627370496

/-- The magnitude of the infinities. -/
def infinite : Nat := 2047 * leading

/-- Zero with a given sign. -/
def zero (negative : Bool) : Double := ⟨negative, 0⟩

/-- Infinity with a given sign. -/
def infinity (negative : Bool) : Double := ⟨negative, infinite⟩

/-- What is not a number. -/
def nan : Double := ⟨false, infinite + leading / 2⟩

/-- Neither an infinity nor not a number. -/
def isFinite (x : Double) : Bool :=
  x.magnitude < infinite

/-- Not a number. -/
def isNaN (x : Double) : Bool :=
  infinite < x.magnitude

/-- The signed integer that orders the doubles. -/
def rank (x : Double) : Int :=
  if x.negative then -(x.magnitude : Int) else x.magnitude

/-- `x < y` as numbers; what is not a number is less than nothing. -/
def less (x y : Double) : Bool :=
  !x.isNaN && !y.isNaN && x.rank < y.rank

/-- Greater than zero. -/
def isPositive (x : Double) : Bool :=
  (zero false).less x

/-- The `m` and `q` of a finite magnitude `m * 2 ^ q`. -/
def parts (x : Double) : Nat × Int :=
  let e : Nat := x.magnitude / leading
  let f : Nat := x.magnitude % leading
  if e = 0 then (f, -1074) else (leading + f, (e : Int) - 1075)

/-! ### Rounding -/

/-- The natural number nearest to `n / d`, a tie to the even one. -/
def roundDiv (n d : Nat) : Nat :=
  let k := n / d
  let r := n % d
  if 2 * r < d then k
  else if d < 2 * r then k + 1
  else if k % 2 = 0 then k else k + 1

/-- Numerator and denominator of `n / d / 2 ^ q`. -/
def scaled (n d : Nat) (q : Int) : Nat × Nat :=
  if 0 ≤ q then (n, d * twoTo q.toNat) else (n * twoTo (-q).toNat, d)

/-- The double nearest to `n / d`, ties to the even neighbour; past the largest, infinity. -/
def ofRatio (negative : Bool) (n d : Nat) : Double :=
  if n = 0 then zero negative
  else
    let low : Int := max ((n.log2 : Int) - (d.log2 : Int) - 53) (-1074)
    let wide := scaled n d low
    let q := if 2 * leading ≤ wide.1 / wide.2 then low + 1 else low
    let r := scaled n d q
    ⟨negative, min infinite ((q + 1074).toNat * leading + roundDiv r.1 r.2)⟩

/-- The double nearest to a natural number. -/
def ofNat (negative : Bool) (n : Nat) : Double :=
  ofRatio negative n 1

/-- The double nearest to an integer. -/
def ofInt (i : Int) : Double :=
  ofNat (i < 0) i.natAbs

/-- The double nearest to `digits * 10 ^ exponent`. Far outside the range the power of ten is
not formed. -/
def ofDecimal (negative : Bool) (digits : Nat) (exponent : Int) : Double :=
  let width : Int := ((digits.log2 * 30103 / 100000 : Nat) : Int) + 1
  if digits = 0 then zero negative
  else if 400 < width + exponent then infinity negative
  else if width + exponent < -400 then zero negative
  else if 0 ≤ exponent then ofRatio negative (digits * tenTo exponent.toNat) 1
  else ofRatio negative digits (tenTo (-exponent).toNat)

/-- A finite magnitude as an exact ratio. -/
def toRatio (x : Double) : Nat × Nat :=
  let (m, q) := x.parts
  if 0 ≤ q then (m * twoTo q.toNat, 1) else (m, twoTo (-q).toNat)

/-- Product of two finite doubles. -/
def mul (x y : Double) : Double :=
  let (n₁, d₁) := x.toRatio
  let (n₂, d₂) := y.toRatio
  ofRatio (x.negative != y.negative) (n₁ * n₂) (d₁ * d₂)

/-- Quotient of two finite doubles, the second not zero. -/
def div (x y : Double) : Double :=
  let (n₁, d₁) := x.toRatio
  let (n₂, d₂) := y.toRatio
  ofRatio (x.negative != y.negative) (n₁ * d₂) (d₁ * n₂)

/-- Where the range of signed 64-bit integers ends. -/
def signedEnd : Int := 9223372036854775808

/-- The integer part; infinities go to the ends of the 64-bit range, what is not a number
goes to zero. -/
def toInt64 (x : Double) : Int :=
  if x.isNaN then 0
  else
    let whole : Int :=
      if x.isFinite then let (n, d) := x.toRatio; ((n / d : Nat) : Int) else signedEnd
    if x.negative then max (-whole) (-signedEnd) else min whole (signedEnd - 1)

end Double
end Metasearch
