import Mathlib.Algebra.Order.Field.Power
import Mathlib.Data.Rat.Cast.Order
import Mathlib.Tactic.FieldSimp
import Mathlib.Tactic.Linarith
import Mathlib.Tactic.NormNum
import Mathlib.Tactic.Positivity
import Mathlib.Tactic.Ring
import Metasearch.Number.Double

/-!
# Rounding to doubles

A finite magnitude `m * 2 ^ q` owns the numbers that are rounded to it: those within half a unit of
its last place, a quarter below where the doubles get closer, and the ends of this interval when `m`
is even. Rounding a ratio gives the magnitude that owns it (`ofRatio_eq`). The exponent is found
first, and only the magnitudes that lead their binade can own a ratio with the exponent below theirs.

## Main definitions

* `IsParts`: the `m` and `q` that a finite magnitude has.
* `Owns`: the numbers that are rounded to a magnitude.

## Main results

* `exists_exponent`: the exponent that a ratio is rounded with.
* `ofRatio_eq`: a ratio is rounded to the magnitude that owns it.
* `ofRatio_eq_self`, `ofDecimal_eq_self`: the same of ratios and decimals that a double owns.
-/

namespace Metasearch.Double

open Metasearch.Number

variable {m n d : Nat} {q : Int} {negative : Bool} {r : ℚ}

theorem two_zpow_pos (q : Int) : (0 : ℚ) < 2 ^ q := by positivity

/-! ### To the nearest natural number -/

/-- A ratio within half of a natural number is rounded to it, the ends belonging to the even. -/
theorem roundDiv_eq (hd : 0 < d) (hlow : 2 * m * d ≤ 2 * n + d) (hhigh : 2 * n ≤ 2 * m * d + d)
    (hodd : m % 2 = 1 → 2 * m * d < 2 * n + d ∧ 2 * n < 2 * m * d + d) : roundDiv n d = m := by
  obtain ⟨k, hk⟩ : ∃ k, k = n / d := ⟨_, rfl⟩
  obtain ⟨e, he⟩ : ∃ e, e = n % d := ⟨_, rfl⟩
  have hn : n = d * k + e := by rw [hk, he, Nat.div_add_mod]
  have hed : e < d := he ▸ Nat.mod_lt n hd
  have hle : k ≤ m := by
    by_contra hlt
    have : d * (m + 1) ≤ d * k := Nat.mul_le_mul_left d (by omega)
    nlinarith
  have hge : m ≤ k + 1 := by
    by_contra hlt
    have : d * (k + 2) ≤ d * m := Nat.mul_le_mul_left d (by omega)
    nlinarith
  rw [roundDiv]
  simp only [← hk, ← he]
  rcases (by omega : k = m ∨ m = k + 1) with rfl | rfl
  · have hhalf : 2 * e ≤ d := by nlinarith
    have heven : 2 * e = d → k % 2 = 0 := fun heq => by
      by_contra hne
      have := (hodd (by omega)).2
      nlinarith
    split_ifs <;> omega
  · have hhalf : d ≤ 2 * e := by nlinarith
    have heven : 2 * e = d → (k + 1) % 2 = 0 := fun heq => by
      by_contra hne
      have := (hodd (by omega)).1
      nlinarith
    split_ifs <;> omega

theorem roundDiv_eq_of_ratio (hd : 0 < d) (hlow : (m : ℚ) - 1 / 2 ≤ n / d)
    (hhigh : (n / d : ℚ) ≤ m + 1 / 2)
    (hodd : m % 2 = 1 → (m : ℚ) - 1 / 2 < n / d ∧ (n / d : ℚ) < m + 1 / 2) : roundDiv n d = m := by
  have hd' : (0 : ℚ) < d := by exact_mod_cast hd
  rw [le_div_iff₀ hd'] at hlow
  rw [div_le_iff₀ hd'] at hhigh
  rw [lt_div_iff₀ hd', div_lt_iff₀ hd'] at hodd
  refine roundDiv_eq hd ?_ ?_ fun h => ⟨?_, ?_⟩
  · have : (2 * m * d : ℚ) ≤ 2 * n + d := by linarith
    exact_mod_cast this
  · have : (2 * n : ℚ) ≤ 2 * m * d + d := by linarith
    exact_mod_cast this
  · have : (2 * m * d : ℚ) < 2 * n + d := by linarith [(hodd h).1]
    exact_mod_cast this
  · have : (2 * n : ℚ) < 2 * m * d + d := by linarith [(hodd h).2]
    exact_mod_cast this

/-! ### The exponent -/

theorem scaled_pos (n : Nat) (hd : 0 < d) (q : Int) : 0 < (scaled n d q).2 := by
  rw [scaled]
  split
  · exact Nat.mul_pos hd (twoTo_pos _)
  · exact hd

theorem scaled_ratio (n : Nat) (hd : 0 < d) (q : Int) :
    ((scaled n d q).1 : ℚ) / (scaled n d q).2 = n / d / 2 ^ q := by
  have hd' : (d : ℚ) ≠ 0 := by positivity
  rw [scaled]
  split
  · rename_i hq
    obtain ⟨k, rfl⟩ := Int.eq_ofNat_of_zero_le hq
    have hk : (twoTo k : ℚ) = 2 ^ k := by simp [twoTo]
    simp only [Int.toNat_natCast, Nat.cast_mul, hk, zpow_natCast]
    field_simp
  · rename_i hq
    obtain ⟨k, rfl⟩ : ∃ k : Nat, q = -k := ⟨(-q).toNat, by omega⟩
    have hk : (twoTo k : ℚ) = 2 ^ k := by simp [twoTo]
    simp only [neg_neg, Int.toNat_natCast, Nat.cast_mul, hk, zpow_neg, zpow_natCast]
    field_simp

/-- A positive number lies between two neighbouring powers of two. -/
theorem two_pow_log2 (hn : 0 < n) :
    (2 : ℚ) ^ (n.log2 : Int) ≤ n ∧ (n : ℚ) < 2 ^ ((n.log2 : Int) + 1) := by
  constructor
  · rw [zpow_natCast]
    exact_mod_cast Nat.log2_self_le hn.ne'
  · have := @Nat.lt_log2_self n
    rw [← Nat.cast_succ, zpow_natCast]
    exact_mod_cast this

/-- The ratio of two numbers by their logarithms. -/
theorem ratio_bounds (hn : 0 < n) (hd : 0 < d) :
    (2 : ℚ) ^ ((n.log2 : Int) - d.log2 - 1) < n / d ∧
      (n / d : ℚ) < 2 ^ ((n.log2 : Int) - d.log2 + 1) := by
  obtain ⟨hn₁, hn₂⟩ := two_pow_log2 hn
  obtain ⟨hd₁, hd₂⟩ := two_pow_log2 hd
  have hd' : (0 : ℚ) < d := by exact_mod_cast hd
  constructor
  · rw [lt_div_iff₀ hd']
    calc (2 : ℚ) ^ ((n.log2 : Int) - d.log2 - 1) * d
        < 2 ^ ((n.log2 : Int) - d.log2 - 1) * 2 ^ ((d.log2 : Int) + 1) := by gcongr
      _ = 2 ^ (n.log2 : Int) := by rw [← zpow_add₀ two_ne_zero]; congr 1; ring
      _ ≤ n := hn₁
  · rw [div_lt_iff₀ hd']
    calc (n : ℚ) < 2 ^ ((n.log2 : Int) + 1) := hn₂
      _ = 2 ^ ((n.log2 : Int) - d.log2 + 1) * 2 ^ (d.log2 : Int) := by
        rw [← zpow_add₀ two_ne_zero]; congr 1; ring
      _ ≤ 2 ^ ((n.log2 : Int) - d.log2 + 1) * d := by gcongr

/-- **The exponent that a ratio is rounded with** leaves at most 53 binary digits before the point,
and not fewer unless it is the least. -/
theorem exists_exponent (hn : 0 < n) (hd : 0 < d) (negative : Bool) : ∃ q : Int, -1074 ≤ q ∧
    (n / d : ℚ) < 2 * leading * 2 ^ q ∧ (q = -1074 ∨ (leading : ℚ) * 2 ^ q ≤ n / d) ∧
      ofRatio negative n d = ⟨negative, min infinite ((q + 1074).toNat * leading +
        roundDiv (scaled n d q).1 (scaled n d q).2)⟩ := by
  obtain ⟨low, hlow⟩ : ∃ low : Int, low = max ((n.log2 : Int) - d.log2 - 53) (-1074) := ⟨_, rfl⟩
  obtain ⟨hlower, hupper⟩ := ratio_bounds hn hd
  have hleading : (leading : ℚ) = 2 ^ (52 : Int) := by norm_num [leading]
  have hpower : ∀ q : Int, (leading : ℚ) * 2 ^ q = 2 ^ (q + 52) := fun q => by
    rw [hleading, ← zpow_add₀ two_ne_zero, add_comm]
  have hwide : 2 * leading ≤ (scaled n d low).1 / (scaled n d low).2 ↔
      (2 * leading * 2 ^ low : ℚ) ≤ n / d := by
    have hpos : (0 : ℚ) < (scaled n d low).2 := by exact_mod_cast scaled_pos n hd low
    rw [Nat.le_div_iff_mul_le (scaled_pos n hd low), ← le_div_iff₀ (two_zpow_pos low),
      ← scaled_ratio n hd low, le_div_iff₀ hpos]
    exact_mod_cast Iff.rfl
  have hrounded : ∀ q, (if (2 * leading * 2 ^ low : ℚ) ≤ n / d then low + 1 else low) = q →
      ofRatio negative n d = ⟨negative, min infinite ((q + 1074).toNat * leading +
        roundDiv (scaled n d q).1 (scaled n d q).2)⟩ := by
    rintro q rfl
    rw [ofRatio, if_neg hn.ne']
    simp only [← hlow, hwide]
  by_cases h : (2 * leading * 2 ^ low : ℚ) ≤ n / d
  · refine ⟨low + 1, by omega, ?_, .inr ?_, hrounded _ (if_pos h)⟩
    · calc (n / d : ℚ) < 2 ^ ((n.log2 : Int) - d.log2 + 1) := hupper
        _ ≤ 2 ^ (low + 1 + 52 + 1) := zpow_le_zpow_right₀ one_le_two (by omega)
        _ = 2 * leading * 2 ^ (low + 1) := by
          rw [mul_assoc, hpower, zpow_add_one₀ two_ne_zero]; ring
    · rwa [zpow_add_one₀ two_ne_zero, mul_comm (2 ^ low), ← mul_assoc, mul_comm _ (2 : ℚ)]
  · refine ⟨low, by omega, not_le.mp h, ?_, hrounded _ (if_neg h)⟩
    rcases le_or_gt ((n.log2 : Int) - d.log2 - 53) (-1074) with hle | hgt
    · exact .inl (by omega)
    · refine .inr (le_of_lt ?_)
      rwa [hpower, show low + 52 = (n.log2 : Int) - d.log2 - 1 by omega]

/-! ### The numbers that are rounded to a magnitude -/

/-- The `m` and `q` of a finite magnitude `m * 2 ^ q`: 53 binary digits, not fewer unless the
exponent is the least. -/
structure IsParts (m : Nat) (q : Int) : Prop where
  /-- No exponent is less. -/
  least : -1074 ≤ q
  /-- There are at most 53 binary digits. -/
  width : m < 2 * leading
  /-- There are not fewer, unless the exponent is the least. -/
  normal : q = -1074 ∨ leading ≤ m

/-- How far below a magnitude its numbers reach, in units of its last place. -/
def below (m : Nat) (q : Int) : ℚ :=
  if m = leading ∧ -1074 < q then 1 / 4 else 1 / 2

/-- The numbers that are rounded to a magnitude, the ends belonging to the even. -/
structure Owns (m : Nat) (q : Int) (r : ℚ) : Prop where
  /-- Not too far below. -/
  low : (m - below m q) * 2 ^ q ≤ r
  /-- Not too far above. -/
  high : r ≤ (m + 1 / 2) * 2 ^ q
  /-- The ends do not belong to an odd magnitude. -/
  odd : m % 2 = 1 → (m - below m q) * 2 ^ q < r ∧ r < (m + 1 / 2) * 2 ^ q

theorem below_le (m : Nat) (q : Int) : below m q ≤ 1 / 2 := by
  rw [below]
  split <;> norm_num

theorem IsParts.add_one_le (h : IsParts m q) : (m : ℚ) + 1 ≤ 2 * leading := by
  have : ((m + 1 : Nat) : ℚ) ≤ (2 * leading : Nat) := Nat.cast_le.mpr h.width
  push_cast at this
  exact this

/-- A number with 53 digits before the point is not owned with a lower exponent. -/
theorem Owns.exponent_le {q' : Int} (hown : Owns m q r) (h : IsParts m q)
    (hnormal : q' = -1074 ∨ (leading : ℚ) * 2 ^ q' ≤ r) : q' ≤ q := by
  by_contra hless
  have hm := h.add_one_le
  have hhigh := hown.high
  have hq := two_zpow_pos q
  have hstep : (2 : ℚ) * 2 ^ q ≤ 2 ^ q' := by
    rw [mul_comm, ← zpow_add_one₀ two_ne_zero]
    exact zpow_le_zpow_right₀ one_le_two (by omega)
  have hge := hnormal.resolve_left (by have := h.least; omega)
  have hleading : (0 : ℚ) < leading := by norm_num [leading]
  nlinarith

/-- A number with at most 53 digits before the point is owned with a higher exponent only by the
least magnitude of the next binade. -/
theorem Owns.eq_leading {q' : Int} (hown : Owns m q r) (h : IsParts m q) (hleast : -1074 ≤ q')
    (hlt : r < 2 * leading * 2 ^ q') (hless : q' < q) : m = leading ∧ q = q' + 1 := by
  have hlow := hown.low
  have hhalf := below_le m q
  have hq' := two_zpow_pos q'
  have hstep : (2 : ℚ) ^ q' * 2 ≤ 2 ^ q := by
    rw [← zpow_add_one₀ two_ne_zero]
    exact zpow_le_zpow_right₀ one_le_two (by omega)
  have hle : leading ≤ m := h.normal.resolve_left (by omega)
  have hlead : m = leading := by
    by_contra hne
    have hm : (leading : ℚ) + 1 ≤ m := by exact_mod_cast (by omega : leading + 1 ≤ m)
    nlinarith
  refine ⟨hlead, ?_⟩
  by_contra hne
  have hstep : (2 : ℚ) ^ q' * 2 ^ (2 : Int) ≤ 2 ^ q := by
    rw [← zpow_add₀ two_ne_zero]
    exact zpow_le_zpow_right₀ one_le_two (by omega)
  have hleading : (leading : ℚ) = 4503599627370496 := by norm_num [leading]
  rw [hlead, hleading] at hlow
  rw [hleading] at hlt
  rw [hlead] at hhalf
  norm_num at hstep
  nlinarith

/-- **A ratio is rounded to the magnitude that owns it.** -/
theorem ofRatio_eq (h : IsParts m q) (hn : 0 < n) (hd : 0 < d) (hown : Owns m q (n / d))
    (negative : Bool) : ofRatio negative n d =
      ⟨negative, min infinite ((q + 1074).toNat * leading + m)⟩ := by
  obtain ⟨q', hleast, hlt, hnormal, heq⟩ := exists_exponent hn hd negative
  have hratio := scaled_ratio n hd q'
  have hpos := scaled_pos n hd q'
  have hq' := two_zpow_pos q'
  obtain ⟨hlow, hhigh, hodd⟩ := id hown
  rw [heq]
  rcases (hown.exponent_le h hnormal).eq_or_lt with rfl | hless
  · have hround : roundDiv (scaled n d q').1 (scaled n d q').2 = m := by
      have hhalf := below_le m q'
      refine roundDiv_eq_of_ratio hpos ?_ ?_ fun hm => ⟨?_, ?_⟩ <;> rw [hratio]
      · rw [le_div_iff₀ hq']
        nlinarith
      · rwa [div_le_iff₀ hq']
      · rw [lt_div_iff₀ hq']
        nlinarith [(hodd hm).1]
      · rw [div_lt_iff₀ hq']
        exact (hodd hm).2
    rw [hround]
  · -- only the least magnitude of a binade reaches below it
    obtain ⟨rfl, rfl⟩ := hown.eq_leading h hleast hlt hless
    have hbelow : below leading (q' + 1) = 1 / 4 := if_pos ⟨rfl, by omega⟩
    have hround : roundDiv (scaled n d q').1 (scaled n d q').2 = 2 * leading := by
      rw [hbelow, zpow_add_one₀ two_ne_zero] at hlow
      refine roundDiv_eq_of_ratio hpos ?_ ?_ fun hm => absurd hm (by decide) <;>
        rw [hratio, Nat.cast_mul, Nat.cast_ofNat]
      · rw [le_div_iff₀ hq']
        linarith
      · rw [div_le_iff₀ hq']
        linarith
    have hmagnitude : (q' + 1074).toNat * leading + 2 * leading =
        (q' + 1 + 1074).toNat * leading + leading := by
      rw [show (q' + 1 + 1074).toNat = (q' + 1074).toNat + 1 by omega]
      ring
    rw [hround, hmagnitude]

/-! ### The magnitude of a double -/

theorem isParts_parts (x : Double) : IsParts x.parts.1 x.parts.2 := by
  have hmod : x.magnitude % leading < leading := Nat.mod_lt _ (by decide)
  rw [parts]
  generalize x.magnitude / leading = e
  split
  · exact ⟨le_refl _, by omega, .inl rfl⟩
  · exact ⟨by omega, by omega, .inr (by omega)⟩

theorem magnitude_eq (x : Double) :
    (x.parts.2 + 1074).toNat * leading + x.parts.1 = x.magnitude := by
  have hdiv := Nat.div_add_mod x.magnitude leading
  rw [parts]
  split
  · rename_i h
    rw [h] at hdiv
    simpa using hdiv
  · rename_i h
    obtain ⟨e, he⟩ := Nat.exists_eq_succ_of_ne_zero h
    rw [he] at hdiv ⊢
    rw [show ((e.succ : Nat) - 1075 + 1074 : Int).toNat = e by omega]
    rw [Nat.mul_succ, Nat.mul_comm leading] at hdiv
    omega

theorem eq_zero_of_parts {x : Double} (hm : x.parts.1 = 0) : x = zero x.negative := by
  have hq : x.parts.2 = -1074 := x.isParts_parts.normal.resolve_right (by rw [hm]; decide)
  have hmagnitude := x.magnitude_eq
  rw [hm, hq] at hmagnitude
  exact congrArg (Double.mk x.negative) hmagnitude.symm

/-- **A ratio that a finite double owns is rounded to it.** -/
theorem ofRatio_eq_self {x : Double} (hx : x.isFinite = true) (hn : 0 < n) (hd : 0 < d)
    (hown : Owns x.parts.1 x.parts.2 (n / d)) : ofRatio x.negative n d = x := by
  have hfinite : x.magnitude < infinite := of_decide_eq_true hx
  rw [ofRatio_eq x.isParts_parts hn hd hown, magnitude_eq, min_eq_right hfinite.le]

/-! ### Decimals -/

/-- The digits of a power of two below `2 ^ 1400`, counted by its exponent. -/
theorem ten_pow_le_two_pow {t : Nat} (ht : t < 1400) :
    10 ^ (t * 30103 / 100000) ≤ 2 ^ t ∧ 2 ^ (t + 1) ≤ 10 ^ (t * 30103 / 100000 + 2) := by
  have all : ∀ t < 1400, 10 ^ (t * 30103 / 100000) ≤ 2 ^ t ∧
      2 ^ (t + 1) ≤ 10 ^ (t * 30103 / 100000 + 2) := by decide +kernel
  exact all t ht

theorem parts_snd_le {x : Double} (hx : x.isFinite = true) : x.parts.2 ≤ 971 := by
  have hfinite : x.magnitude < infinite := of_decide_eq_true hx
  have hdiv : x.magnitude / leading < 2047 :=
    Nat.div_lt_of_lt_mul (by rwa [infinite, Nat.mul_comm] at hfinite)
  rw [parts]
  generalize x.magnitude / leading = e at hdiv ⊢
  split
  · exact (by decide : (-1074 : Int) ≤ 971)
  · exact (by omega : (e : Int) - 1075 ≤ 971)

/-- What a finite double owns is not too large for it. -/
theorem Owns.lt_two_pow {x : Double} (hx : x.isFinite = true)
    (hown : Owns x.parts.1 x.parts.2 r) : r < 2 ^ (1024 : Int) := by
  have hq := parts_snd_le hx
  have hm : (x.parts.1 : ℚ) + 1 ≤ 2 ^ (53 : Int) :=
    x.isParts_parts.add_one_le.trans_eq (by norm_num [leading])
  calc r ≤ (x.parts.1 + 1 / 2) * 2 ^ x.parts.2 := hown.high
    _ < 2 ^ (53 : Int) * 2 ^ x.parts.2 := by
      have := two_zpow_pos x.parts.2
      gcongr
      linarith
    _ = 2 ^ (53 + x.parts.2) := (zpow_add₀ two_ne_zero _ _).symm
    _ ≤ 2 ^ (1024 : Int) := zpow_le_zpow_right₀ one_le_two (by omega)

/-- What a double owns is not too small for it. -/
theorem Owns.two_pow_le {m : Nat} {q : Int} (h : IsParts m q) (hm : 0 < m) (hown : Owns m q r) :
    2 ^ (-1075 : Int) ≤ r := by
  have hm' : (1 : ℚ) ≤ m := by exact_mod_cast hm
  calc (2 : ℚ) ^ (-1075 : Int) ≤ 2 ^ (q - 1) := zpow_le_zpow_right₀ one_le_two (by
        have := h.least; omega)
    _ = 1 / 2 * 2 ^ q := by rw [zpow_sub_one₀ two_ne_zero]; ring
    _ ≤ (m - below m q) * 2 ^ q := by
      have := two_zpow_pos q
      gcongr
      linarith [below_le m q]
    _ ≤ r := hown.low

/-- A number has about the digits that are counted by its power of two. -/
theorem ten_zpow_le_and_lt {v : Nat} (hpos : 0 < v) (hv : v.log2 < 1400) :
    (10 : ℚ) ^ ((v.log2 * 30103 / 100000 : Nat) : Int) ≤ v ∧
      (v : ℚ) < 10 ^ (((v.log2 * 30103 / 100000 : Nat) : Int) + 2) := by
  obtain ⟨hten, htwo⟩ := ten_pow_le_two_pow hv
  constructor
  · rw [zpow_natCast]
    exact_mod_cast hten.trans (Nat.log2_self_le hpos.ne')
  · have hlt : v < 10 ^ (v.log2 * 30103 / 100000 + 2) := Nat.lt_log2_self.trans_le htwo
    rw [← Nat.cast_ofNat (n := 2), ← Nat.cast_add, zpow_natCast]
    exact_mod_cast hlt

/-- A decimal between the powers of two that finite doubles lie in is far within the range in which
its power of ten is formed. -/
theorem decimal_bounds {v : Nat} {e : Int} (hpos : 0 < v) (hv : v.log2 < 1400)
    (hlow : (2 : ℚ) ^ (-1075 : Int) ≤ v * 10 ^ e) (hhigh : (v : ℚ) * 10 ^ e < 2 ^ (1024 : Int)) :
    ¬400 < ((v.log2 * 30103 / 100000 : Nat) : Int) + 1 + e ∧
      ¬((v.log2 * 30103 / 100000 : Nat) : Int) + 1 + e < -400 := by
  obtain ⟨hvlow, hvhigh⟩ := ten_zpow_le_and_lt hpos hv
  generalize v.log2 * 30103 / 100000 = w at hvlow hvhigh ⊢
  have hscale : (0 : ℚ) < 10 ^ e := by positivity
  constructor
  · intro hgt
    have hten : (10 : ℚ) ^ (400 : Int) ≤ v * 10 ^ e :=
      calc (10 : ℚ) ^ (400 : Int) ≤ 10 ^ (w + e) := zpow_le_zpow_right₀ (by norm_num) (by omega)
        _ = 10 ^ (w : Int) * 10 ^ e := zpow_add₀ (by norm_num) _ _
        _ ≤ v * 10 ^ e := by gcongr
    have hbound : (2 : ℚ) ^ (1024 : Int) < 10 ^ (400 : Int) := by
      rw [zpow_ofNat, zpow_ofNat]
      exact_mod_cast (by decide +kernel : 2 ^ 1024 < 10 ^ 400)
    exact lt_irrefl _ (hten.trans_lt (hhigh.trans hbound))
  · intro hlt
    have hten : v * 10 ^ e < (10 : ℚ) ^ (-400 : Int) :=
      calc (v : ℚ) * 10 ^ e < 10 ^ ((w : Int) + 2) * 10 ^ e := by gcongr
        _ = 10 ^ (w + 2 + e) := (zpow_add₀ (by norm_num) _ _).symm
        _ ≤ 10 ^ (-400 : Int) := zpow_le_zpow_right₀ (by norm_num) (by omega)
    have hbound : (10 : ℚ) ^ (-400 : Int) < 2 ^ (-1075 : Int) := by
      rw [zpow_neg, zpow_neg, inv_lt_inv₀ (by positivity) (by positivity), zpow_ofNat, zpow_ofNat]
      exact_mod_cast (by decide +kernel : 2 ^ 1075 < 10 ^ 400)
    exact lt_irrefl _ (hten.trans (hbound.trans_le hlow))

/-- **A decimal that a finite double owns is read as it.** -/
theorem ofDecimal_eq_self {x : Double} (hx : x.isFinite = true) (hm : 0 < x.parts.1) {v k : Nat}
    {e : Int} (hk : k ≤ 1400) (hv : v < 2 ^ k) (hown : Owns x.parts.1 x.parts.2 (v * 10 ^ e)) :
    ofDecimal x.negative v e = x := by
  have hlow := hown.two_pow_le x.isParts_parts hm
  have hpos : 0 < v := by
    rcases Nat.eq_zero_or_pos v with rfl | hpos
    · rw [Nat.cast_zero, zero_mul] at hlow
      exact absurd hlow (not_le.mpr (two_zpow_pos (-1075)))
    · exact hpos
  have hlog : v.log2 < 1400 := ((Nat.log2_lt hpos.ne').mpr hv).trans_le hk
  obtain ⟨hlarge, hsmall⟩ := decimal_bounds hpos hlog hlow (hown.lt_two_pow hx)
  rw [ofDecimal]
  simp only [hpos.ne', if_false, hlarge, hsmall]
  split
  · rename_i he
    obtain ⟨k, rfl⟩ := Int.eq_ofNat_of_zero_le he
    refine ofRatio_eq_self hx (Nat.mul_pos hpos (tenTo_pos _)) Nat.one_pos ?_
    simpa [tenTo] using hown
  · rename_i he
    obtain ⟨k, rfl⟩ : ∃ k : Nat, e = -k := ⟨(-e).toNat, by omega⟩
    refine ofRatio_eq_self hx hpos (tenTo_pos _) ?_
    simpa [tenTo, zpow_neg, div_eq_mul_inv] using hown

end Metasearch.Double
