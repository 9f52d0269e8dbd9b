import Mathlib.Algebra.Group.Nat.Defs
import Mathlib.Data.List.Basic
import Metasearch.Number.Decimal

/-!
# Numerals read back

What a reader of decimal digits meets: a numeral has a digit, it starts with a zero only if it is
that of zero, and it ends where the digits end. Zeros filled in on the left change no value.

## Main results

* `spanDigits_append`: digits are taken up to what is none.
* `value_padded`, `isDigit_of_mem_padded`, `length_padded`: numerals of a fixed width.
-/

namespace Metasearch.Number

variable {c : Char} {n width : Nat} {s rest : List Char}

theorem numeral_ne_nil (n : Nat) : numeral n ≠ [] := by
  rw [numeral]
  split
  · exact List.cons_ne_nil _ _
  · exact List.append_ne_nil_of_right_ne_nil _ (List.cons_ne_nil _ _)

/-- No numeral but that of zero starts with a zero. -/
theorem head?_numeral (h : 0 < n) : (numeral n).head? ≠ some '0' := by
  induction n using numeral.induct with
  | case1 n hn =>
    rw [numeral, if_pos hn, List.head?_cons]
    exact (by decide : ∀ e < 10, 0 < e → some (digitChar e) ≠ some '0') n hn h
  | case2 n hn ih =>
    rw [numeral, if_neg hn, List.head?_append_of_ne_nil _ (numeral_ne_nil _)]
    exact ih (Nat.div_pos (Nat.le_of_not_lt hn) (by decide))

/-- A number can be told from its numeral. -/
theorem numeral_injective : Function.Injective numeral := fun n m h => by
  rw [← value_numeral n, h, value_numeral]

theorem numeral_zero : numeral 0 = ['0'] := by
  rw [numeral, if_pos (by decide)]
  rfl

/-- Digits are taken up to what is none. -/
theorem spanDigits_append (hs : ∀ c ∈ s, c.isDigit = true)
    (hrest : ∀ c ∈ rest.head?, c.isDigit = false) : spanDigits (s ++ rest) = (s, rest) := by
  have hstop : rest.takeWhile Char.isDigit = [] ∧ rest.dropWhile Char.isDigit = rest := by
    cases rest with
    | nil => exact ⟨rfl, rfl⟩
    | cons c r => simp [hrest c rfl]
  rw [spanDigits, List.takeWhile_append_of_pos hs, List.dropWhile_append_of_pos hs, hstop.1,
    hstop.2, List.append_nil]

/-- What is taken and what is left make up the text. -/
theorem spanDigits_eq_iff {digits : List Char} : spanDigits s = (digits, rest) ↔
    s = digits ++ rest ∧ (∀ c ∈ digits, c.isDigit = true) ∧
      ∀ c ∈ rest.head?, c.isDigit = false := by
  constructor
  · rintro h
    obtain ⟨rfl, rfl⟩ := Prod.ext_iff.mp h
    refine ⟨List.takeWhile_append_dropWhile.symm, fun c hc => ?_, fun c hc => ?_⟩
    · exact List.all_eq_true.mp List.all_takeWhile c hc
    · have := List.head?_dropWhile_not Char.isDigit s
      simp only [spanDigits] at hc
      rw [hc] at this
      exact this
  · rintro ⟨rfl, hdigits, hrest⟩
    exact spanDigits_append hdigits hrest

/-! ### Values -/

theorem valueFrom_append (start : Nat) (s t : List Char) :
    valueFrom start (s ++ t) = valueFrom (valueFrom start s) t :=
  List.foldl_append

/-- Zeros in front count nothing. -/
theorem value_replicate_append (k : Nat) (s : List Char) :
    value (List.replicate k '0' ++ s) = value s := by
  induction k with
  | zero => rfl
  | succ k ih => exact ih

/-- More digits make no number smaller. -/
theorem le_valueFrom (start : Nat) (s : List Char) : start ≤ valueFrom start s := by
  induction s generalizing start with
  | nil => exact Nat.le_refl start
  | cons c s ih => exact Nat.le_trans (by omega) (ih (start * 10 + digitValue c))

/-! ### Fixed width -/

theorem value_padded (width n : Nat) : value (padded width n) = n :=
  (value_replicate_append _ _).trans (value_numeral n)

theorem isDigit_of_mem_padded (h : c ∈ padded width n) : c.isDigit = true := by
  rcases List.mem_append.mp h with h | h
  · rw [List.eq_of_mem_replicate h]
    rfl
  · exact isDigit_of_mem_numeral h

theorem length_numeral_le {k : Nat} (h : n < 10 ^ (k + 1)) : (numeral n).length ≤ k + 1 := by
  induction k generalizing n with
  | zero =>
    rw [numeral, if_pos (by simpa using h)]
    exact Nat.le_refl 1
  | succ k ih =>
    rw [numeral]
    split
    · exact Nat.le_add_left 1 _
    · rw [List.length_append, List.length_singleton]
      exact Nat.add_le_add_right (ih (by omega)) 1

theorem length_padded (hwidth : 0 < width) (h : n < 10 ^ width) :
    (padded width n).length = width := by
  obtain ⟨k, rfl⟩ := Nat.exists_eq_succ_of_ne_zero (Nat.ne_of_gt hwidth)
  have := length_numeral_le h
  simp only [padded, List.length_append, List.length_replicate]
  omega

end Metasearch.Number
