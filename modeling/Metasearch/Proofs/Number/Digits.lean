import Mathlib.Algebra.Order.Field.Power
import Mathlib.Data.List.TakeWhile
import Mathlib.Data.Rat.Cast.Order
import Mathlib.Tactic.NormNum
import Mathlib.Tactic.Positivity
import Mathlib.Tactic.Ring
import Metasearch.Number.Shortest
import Metasearch.Proofs.Number.Decimal

/-!
# Digits with a point

Digits stand for a number by the place of their point, and are written before and after it. Zeros at
the end of a numeral only move the point, and those that are filled in where the digits do not reach
it change nothing.

## Main definitions

* `Digits.toRat`: the number that digits stand for.
* `Digits.IsNormal`: digits that do not start with a zero.

## Main results

* `Digits.toRat_ofScaled`, `Digits.isNormal_ofScaled`: the digits of a scaled integer.
* `Digits.value_split`: the digits before and after the point.
-/

namespace Metasearch.Number

variable {s : List Char} {d : Digits} {x : Double} {c : Nat} {k : Int}

/-! ### Written digits -/

theorem isDigit_of_mem_ofScaled {c : Char} (h : c ∈ (Digits.ofScaled n k).digits) :
    c.isDigit = true := by
  have hmem : c ∈ numeral n := by
    simpa using (List.dropWhile_suffix _).subset (List.mem_reverse.mp h)
  exact isDigit_of_mem_numeral hmem

theorem isDigit_of_mem_shortest {c : Char} (h : c ∈ (shortest x).digits) : c.isDigit = true := by
  rw [shortest] at h
  simp only at h
  split at h
  · simp at h
  · exact isDigit_of_mem_ofScaled h

/-- Digits on either side of the point are digits. -/
theorem isDigit_of_mem_split {c : Char} (hd : ∀ c ∈ d.digits, c.isDigit = true)
    (h : c ∈ d.split.1 ∨ c ∈ d.split.2) : c.isDigit = true := by
  have hzero : ∀ {n : Nat}, c ∈ List.replicate n '0' → c.isDigit = true := by
    intro n hc
    rw [List.eq_of_mem_replicate hc]
    rfl
  rw [Digits.split] at h
  split at h
  · rcases h with h | h
    · rw [List.mem_singleton.mp h]
      rfl
    · rcases List.mem_append.mp h with h | h
      · exact hzero h
      · exact hd c h
  · rcases h with h | h
    · rcases List.mem_append.mp h with h | h
      · exact hd c (List.mem_of_mem_take h)
      · exact hzero h
    · exact hd c (List.mem_of_mem_drop h)

/-! ### What digits stand for -/

namespace Digits

/-- The number that digits stand for. -/
def toRat (d : Digits) : ℚ :=
  value d.digits * 10 ^ (d.point - d.digits.length)

/-- Digits that do not start with a zero; there is at least one. -/
structure IsNormal (d : Digits) : Prop where
  /-- There is a digit. -/
  nonempty : d.digits ≠ []
  /-- The first is not zero. -/
  leading : d.digits.head? ≠ some '0'
  /-- All are digits. -/
  isDigit : ∀ c ∈ d.digits, c.isDigit = true

/-- A numeral without the zeros at its end. -/
theorem exists_ofScaled (c : Nat) (k : Int) :
    ∃ z, numeral c = (ofScaled c k).digits ++ List.replicate z '0' := by
  refine ⟨((numeral c).reverse.takeWhile (· == '0')).length, ?_⟩
  have hzeros : ((numeral c).reverse.takeWhile (· == '0')).reverse =
      List.replicate ((numeral c).reverse.takeWhile (· == '0')).length '0' := by
    rw [List.eq_replicate_iff, List.length_reverse]
    refine ⟨rfl, fun d hd => ?_⟩
    simpa using List.all_eq_true.mp List.all_takeWhile d (List.mem_reverse.mp hd)
  rw [← hzeros, ofScaled, ← List.reverse_append, List.takeWhile_append_dropWhile,
    List.reverse_reverse]

theorem value_append_replicate (s : List Char) (z : Nat) :
    value (s ++ List.replicate z '0') = value s * 10 ^ z := by
  induction z with
  | zero => simp
  | succ z ih =>
    rw [List.replicate_succ', ← List.append_assoc, value, valueFrom_append, ← value, ih,
      Nat.pow_succ, ← Nat.mul_assoc]
    rfl

theorem value_ofScaled_le (c : Nat) (k : Int) : value (ofScaled c k).digits ≤ c := by
  obtain ⟨z, hz⟩ := exists_ofScaled c k
  calc value (ofScaled c k).digits ≤ value (ofScaled c k).digits * 10 ^ z :=
        Nat.le_mul_of_pos_right _ (by positivity)
    _ = c := by rw [← value_append_replicate, ← hz, value_numeral]

theorem toRat_ofScaled (c : Nat) (k : Int) : (ofScaled c k).toRat = c * 10 ^ k := by
  obtain ⟨z, hz⟩ := exists_ofScaled c k
  have hvalue : c = value (ofScaled c k).digits * 10 ^ z := by
    rw [← value_append_replicate, ← hz, value_numeral]
  have hpoint : (ofScaled c k).point = (ofScaled c k).digits.length + z + k := by
    have := congrArg List.length hz
    rw [List.length_append, List.length_replicate] at this
    rw [← Nat.cast_add, ← this]
    rfl
  rw [toRat, hpoint, show ((ofScaled c k).digits.length : Int) + z + k -
    (ofScaled c k).digits.length = z + k by ring, zpow_add₀ (by norm_num), zpow_natCast, ← mul_assoc]
  conv_rhs => rw [hvalue]
  push_cast
  rfl

theorem isNormal_ofScaled (hc : 0 < c) : (ofScaled c k).IsNormal := by
  obtain ⟨z, hz⟩ := exists_ofScaled c k
  have hne : (ofScaled c k).digits ≠ [] := by
    intro hnil
    have hvalue := value_append_replicate [] z
    rw [← hnil, ← hz, value_numeral, hnil] at hvalue
    simp [value, valueFrom] at hvalue
    omega
  refine ⟨hne, fun hhead => head?_numeral hc ?_, fun _ => isDigit_of_mem_ofScaled⟩
  rw [hz, List.head?_append_of_ne_nil _ hne, hhead]

/-- The digits before and after the point. -/
theorem value_split (d : Digits) :
    (value (d.split.1 ++ d.split.2) : ℚ) * 10 ^ (-(d.split.2.length : Int)) = d.toRat := by
  rw [split, toRat]
  split_ifs with hpoint
  · have hvalue : value (['0'] ++ (List.replicate (-d.point).toNat '0' ++ d.digits)) =
        value d.digits := by
      rw [← List.append_assoc, ← List.replicate_one, ← List.replicate_add, value_replicate_append]
    rw [hvalue, List.length_append, List.length_replicate]
    congr 2
    omega
  · obtain ⟨n, hn⟩ := Int.eq_ofNat_of_zero_le (by omega : 0 ≤ d.point)
    simp only [hn, Int.toNat_natCast]
    rcases le_or_gt d.digits.length n with hle | hgt
    · rw [List.take_of_length_le hle, List.drop_of_length_le hle, List.append_nil,
        value_append_replicate, ← Nat.cast_sub hle, zpow_natCast]
      simp
    · rw [Nat.sub_eq_zero_of_le hgt.le, List.replicate_zero, List.append_nil,
        List.take_append_drop, List.length_drop, Nat.cast_sub hgt.le, neg_sub]

/-- Digits that reach past the point are written as they are. -/
theorem value_split_of_ne_nil (h : d.split.2 ≠ []) :
    value (d.split.1 ++ d.split.2) = value d.digits := by
  rw [split] at h ⊢
  split_ifs at h ⊢ with hpoint
  · rw [← List.append_assoc, ← List.replicate_one, ← List.replicate_add, value_replicate_append]
  · simp only [ne_eq, List.drop_eq_nil_iff, not_le] at h
    simp only [Nat.sub_eq_zero_of_le h.le, List.replicate_zero, List.append_nil,
      List.take_append_drop]

/-- The digits before the point are not led by a zero, unless it is all there is. -/
theorem IsNormal.split_fst (h : d.IsNormal) : d.split.1 ≠ [] ∧
    (d.split.1 = ['0'] ∨ d.split.1.head? ≠ some '0') := by
  rw [split]
  split_ifs with hpoint
  · exact ⟨List.cons_ne_nil _ _, .inl rfl⟩
  · obtain ⟨c, r, hcons⟩ := List.exists_cons_of_ne_nil h.nonempty
    obtain ⟨n, hn⟩ : ∃ n, d.point.toNat = n + 1 := ⟨d.point.toNat - 1, by omega⟩
    have hhead := h.leading
    rw [hcons] at hhead
    rw [hcons, hn]
    exact ⟨List.cons_ne_nil _ _, .inr hhead⟩

end Digits

end Metasearch.Number
