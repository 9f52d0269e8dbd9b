/-!
# Decimal numerals

Natural numbers in base ten: the numeral without leading zeros, and the value of a run of
digits. `value_numeral` says that the value of a numeral is the number.

## Main definitions

* `digitChar`, `digitValue`: one digit.
* `numeral`: the digits of a number.
* `value`: the number that digits denote, leading zeros allowed.
* `padded`: a numeral filled up with zeros on the left.
-/

namespace Metasearch.Number

/-- The character of a digit below ten. -/
def digitChar (d : Nat) : Char :=
  Char.ofNat (48 + d % 10)

/-- The value of a digit character. -/
def digitValue (c : Char) : Nat :=
  c.toNat - 48

/-- The digits of a number, with no leading zero. -/
def numeral (n : Nat) : List Char :=
  if n < 10 then [digitChar n] else numeral (n / 10) ++ [digitChar (n % 10)]
termination_by n
decreasing_by omega

/-- The number that digits denote after `start`. -/
def valueFrom (start : Nat) (s : List Char) : Nat :=
  s.foldl (fun a c => a * 10 + digitValue c) start

/-- The number that digits denote. -/
def value (s : List Char) : Nat :=
  valueFrom 0 s

/-- A numeral filled up with zeros on the left to `width` digits. -/
def padded (width n : Nat) : List Char :=
  let s := numeral n
  List.replicate (width - s.length) '0' ++ s

/-- The digits at the start of a text, and what follows them. -/
def spanDigits (s : List Char) : List Char × List Char :=
  (s.takeWhile Char.isDigit, s.dropWhile Char.isDigit)

/-- A decimal digit stands for its number. -/
theorem digitValue_digitChar {d : Nat} (h : d < 10) : digitValue (digitChar d) = d := by
  have all : ∀ e ∈ List.range 10, digitValue (digitChar e) = e := by decide
  exact all d (List.mem_range.mpr h)

/-- Numerals are written with digits. -/
theorem isDigit_digitChar (d : Nat) : (digitChar d).isDigit = true := by
  have all : ∀ e ∈ List.range 10, (digitChar e).isDigit = true := by decide
  have h := all (d % 10) (List.mem_range.mpr (Nat.mod_lt _ (by omega)))
  simpa [digitChar] using h

/-- A numeral holds nothing but digits. -/
theorem isDigit_of_mem_numeral {n : Nat} {c : Char} (h : c ∈ numeral n) :
    c.isDigit = true := by
  induction n using numeral.induct with
  | case1 n hn =>
    rw [numeral, if_pos hn, List.mem_singleton] at h
    exact h ▸ isDigit_digitChar n
  | case2 n hn ih =>
    rw [numeral, if_neg hn, List.mem_append, List.mem_singleton] at h
    rcases h with h | h
    · exact ih h
    · exact h ▸ isDigit_digitChar _

/-- The value of a numeral is the number. -/
theorem value_numeral (n : Nat) : value (numeral n) = n := by
  induction n using numeral.induct with
  | case1 n hn =>
    rw [numeral, if_pos hn]
    simp [value, valueFrom, digitValue_digitChar hn]
  | case2 n hn ih =>
    rw [numeral, if_neg hn]
    have hlt : n % 10 < 10 := Nat.mod_lt _ (by omega)
    simp only [value, valueFrom, List.foldl_append, List.foldl_cons, List.foldl_nil] at ih ⊢
    rw [ih, digitValue_digitChar hlt]
    omega

end Metasearch.Number
