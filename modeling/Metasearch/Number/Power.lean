/-!
# Powers

Powers of two scale numbers in binary form, powers of ten those in decimal form.

## Main definitions

* `twoTo`, `tenTo`.
* `count32`, `count64`: how many numbers a machine word tells apart.
-/

namespace Metasearch.Number

/-- Two to the power `n`. -/
def twoTo (n : Nat) : Nat := Nat.pow 2 n

/-- Ten to the power `n`. -/
def tenTo (n : Nat) : Nat := Nat.pow 10 n

/-- How many numbers 32 bits tell apart. -/
def count32 : Nat := 4294967296

/-- How many numbers 64 bits tell apart. -/
def count64 : Nat := 18446744073709551616

/-- A power of two is not zero. -/
theorem twoTo_pos (n : Nat) : 0 < twoTo n := Nat.pow_pos (by decide)

/-- A power of ten is not zero. -/
theorem tenTo_pos (n : Nat) : 0 < tenTo n := Nat.pow_pos (by decide)

end Metasearch.Number
