/-!
# Numerals in other bases

Digits above nine are the letters from `a` to `f`, read in either case. `hexValue?_hexDigit` and
`hexValue?_upperHexDigit` say that a digit that was written is read as the same number.

## Main definitions

* `digitIn?`, `valueIn?`: the value of a digit and of a numeral in a base up to sixteen.
* `hexDigit`, `upperHexDigit`, `hexValue?`: base sixteen.
-/

namespace Metasearch.Number

/-- The value of a digit in a base up to sixteen. -/
def digitIn? (base : Nat) (c : Char) : Option Nat :=
  let n := c.toNat
  let d :=
    if 48 ≤ n ∧ n ≤ 57 then n - 48
    else if 97 ≤ n ∧ n ≤ 102 then n - 87
    else if 65 ≤ n ∧ n ≤ 70 then n - 55
    else base
  if d < base then some d else none

/-- The number that a numeral in a base denotes. -/
def valueIn? (base : Nat) (s : List Char) : Option Nat :=
  if s.isEmpty then none
  else (s.mapM (digitIn? base)).map fun ds => ds.foldl (fun a d => a * base + d) 0

/-- The value of a hexadecimal digit. -/
def hexValue? (c : Char) : Option Nat := digitIn? 16 c

/-- A hexadecimal digit with a small letter. -/
def hexDigit (n : Nat) : Char :=
  if n < 10 then Char.ofNat (48 + n) else Char.ofNat (87 + n)

/-- A hexadecimal digit with a capital letter. -/
def upperHexDigit (n : Nat) : Char :=
  if n < 10 then Char.ofNat (48 + n) else Char.ofNat (55 + n)

/-- A digit stands for its number. -/
theorem hexValue?_hexDigit {n : Nat} (h : n < 16) : hexValue? (hexDigit n) = some n := by
  have all : ∀ e ∈ List.range 16, hexValue? (hexDigit e) = some e := by decide
  exact all n (List.mem_range.mpr h)

/-- A capital digit stands for its number. -/
theorem hexValue?_upperHexDigit {n : Nat} (h : n < 16) :
    hexValue? (upperHexDigit n) = some n := by
  have all : ∀ e ∈ List.range 16, hexValue? (upperHexDigit e) = some e := by decide
  exact all n (List.mem_range.mpr h)

end Metasearch.Number
