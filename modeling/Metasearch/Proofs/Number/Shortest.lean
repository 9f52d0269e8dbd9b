import Metasearch.Number.Shortest
import Metasearch.Proofs.Number.Double

/-!
# Digits of doubles

A decimal is tried with one, two, up to seventeen digits, and taken if its double is the one that
is to be written. With seventeen digits there is always such a decimal: their grid is finer than the
doubles are close (`exists_candidate`). So the digits that are found belong to a number that is
rounded to the double.

## Main results

* `decimalExponent_spec`: how many digits a magnitude has before the point.
* `inside_iff`: what a candidate is.
* `exists_shortest`: the digits of a double are those of a number that is rounded to it.
-/

namespace Metasearch.Number

open Metasearch.Double

variable {x : Double} {m a b c n : Nat} {q k p : Int}

/-! ### Comparing decimals with doubles -/

theorem ten_zpow_pos (k : Int) : (0 : ℚ) < 10 ^ k := by positivity

/-- Both sides of a comparison, cleared of the same denominators. -/
theorem scaled_sides (a : Nat) (k : Int) (b : Nat) (p : Int) :
    ((a * tenTo k.toNat * twoTo (-p).toNat : Nat) : ℚ) =
        a * 10 ^ k * (10 ^ (-k).toNat * 2 ^ (-p).toNat) ∧
      ((b * twoTo p.toNat * tenTo (-k).toNat : Nat) : ℚ) =
        b * 2 ^ p * (10 ^ (-k).toNat * 2 ^ (-p).toNat) := by
  have hten : (10 : ℚ) ^ k * 10 ^ (-k).toNat = 10 ^ k.toNat := by
    rw [← zpow_natCast, ← zpow_natCast, ← zpow_add₀ (by norm_num)]
    congr 1
    omega
  have htwo : (2 : ℚ) ^ p * 2 ^ (-p).toNat = 2 ^ p.toNat := by
    rw [← zpow_natCast, ← zpow_natCast, ← zpow_add₀ (by norm_num)]
    congr 1
    omega
  constructor
  · simp only [tenTo, twoTo, Nat.cast_mul, Nat.pow_eq, Nat.cast_pow, Nat.cast_ofNat]
    rw [← hten]
    ring
  · simp only [tenTo, twoTo, Nat.cast_mul, Nat.pow_eq, Nat.cast_pow, Nat.cast_ofNat]
    rw [← htwo]
    ring

theorem compareScaled_eq_lt : compareScaled a k b p = .lt ↔ (a * 10 ^ k : ℚ) < b * 2 ^ p := by
  obtain ⟨hleft, hright⟩ := scaled_sides a k b p
  have hscale : (0 : ℚ) < 10 ^ (-k).toNat * 2 ^ (-p).toNat := by positivity
  rw [compareScaled, Nat.compare_eq_lt, ← Nat.cast_lt (α := ℚ), hleft, hright,
    mul_lt_mul_iff_left₀ hscale]

theorem compareScaled_eq_gt : compareScaled a k b p = .gt ↔ (b * 2 ^ p : ℚ) < a * 10 ^ k := by
  obtain ⟨hleft, hright⟩ := scaled_sides a k b p
  have hscale : (0 : ℚ) < 10 ^ (-k).toNat * 2 ^ (-p).toNat := by positivity
  rw [compareScaled, Nat.compare_eq_gt, ← Nat.cast_lt (α := ℚ), hleft, hright,
    mul_lt_mul_iff_left₀ hscale]

/-! ### The decimal exponent -/

/-- The digits of a power of two, counted by its exponent. -/
theorem ten_zpow_le_two_zpow {t : Int} (hlow : -1400 < t) (hhigh : t < 1400) :
    (10 : ℚ) ^ (t * 30103 / 100000 - 1) ≤ 2 ^ t ∧
      (2 : ℚ) ^ (t + 1) ≤ 10 ^ (t * 30103 / 100000 + 2) := by
  obtain ⟨k, hk⟩ : ∃ k, k = t.natAbs := ⟨_, rfl⟩
  obtain ⟨w, hw⟩ : ∃ w, w = k * 30103 / 100000 := ⟨_, rfl⟩
  obtain ⟨hten, htwo⟩ := ten_pow_le_two_pow (show k < 1400 by omega)
  rw [← hw] at hten htwo
  have hten : (10 : ℚ) ^ (w : Int) ≤ 2 ^ (k : Int) := by
    rw [zpow_natCast, zpow_natCast]
    exact_mod_cast hten
  have htwo : (2 : ℚ) ^ ((k : Int) + 1) ≤ 10 ^ ((w : Int) + 2) := by
    rw [← Nat.cast_succ, ← Nat.cast_ofNat (n := 2) (R := Int), ← Nat.cast_add, zpow_natCast,
      zpow_natCast]
    exact_mod_cast htwo
  rcases le_or_gt 0 t with hpos | hneg
  · obtain rfl : t = k := by omega
    rw [show (k : Int) * 30103 / 100000 = w by omega]
    exact ⟨(zpow_le_zpow_right₀ (by norm_num) (by omega)).trans hten, htwo⟩
  · -- the other way up, and rounded the other way
    obtain rfl : t = -k := by omega
    have hpartial : k * 30103 ≠ 100000 * w := by omega
    have hfloor : -(k : Int) * 30103 / 100000 = -(w + 1) := by
      have hle : 100000 * w ≤ k * 30103 ∧ k * 30103 < 100000 * w + 100000 := by omega
      omega
    rw [hfloor]
    constructor
    · rw [show -((w : Int) + 1) - 1 = -(w + 2) by ring, zpow_neg, zpow_neg,
        inv_le_inv₀ (by positivity) (by positivity)]
      exact (zpow_le_zpow_right₀ one_le_two (by omega)).trans htwo
    · rw [show -((w : Int) + 1) + 2 = -(w - 1) by ring, show -(k : Int) + 1 = -(k - 1) by ring,
        zpow_neg, zpow_neg, inv_le_inv₀ (by positivity) (by positivity), zpow_sub_one₀ (by norm_num),
        zpow_sub_one₀ two_ne_zero]
      have := ten_zpow_pos w
      linarith

/-- **How many digits a magnitude has before the point.** -/
theorem decimalExponent_spec (hm : 0 < m) (hlow : -1400 < (m.log2 : Int) + q)
    (hhigh : (m.log2 : Int) + q < 1400) :
    (10 : ℚ) ^ (decimalExponent m q - 1) ≤ m * 2 ^ q ∧
      (m * 2 ^ q : ℚ) < 10 ^ decimalExponent m q := by
  obtain ⟨guess, hguess⟩ : ∃ guess, guess = ((m.log2 : Int) + q) * 30103 / 100000 := ⟨_, rfl⟩
  obtain ⟨hten, htwo⟩ := ten_zpow_le_two_zpow hlow hhigh
  rw [← hguess] at hten htwo
  obtain ⟨hm₁, hm₂⟩ := two_pow_log2 hm
  have hq := two_zpow_pos q
  have hleast : (10 : ℚ) ^ (guess - 1) ≤ m * 2 ^ q :=
    calc (10 : ℚ) ^ (guess - 1) ≤ 2 ^ ((m.log2 : Int) + q) := hten
      _ = 2 ^ (m.log2 : Int) * 2 ^ q := zpow_add₀ two_ne_zero _ _
      _ ≤ m * 2 ^ q := by gcongr
  have hmost : (m * 2 ^ q : ℚ) < 10 ^ (guess + 2) :=
    calc (m * 2 ^ q : ℚ) < 2 ^ ((m.log2 : Int) + 1) * 2 ^ q := by gcongr
      _ = 2 ^ ((m.log2 : Int) + q + 1) := by rw [← zpow_add₀ two_ne_zero]; congr 1; ring
      _ ≤ 10 ^ (guess + 2) := htwo
  by_cases hfirst : compareScaled 1 guess m q = .gt
  · have hexponent : decimalExponent m q = guess := by
      simp [decimalExponent, ← hguess, hfirst]
    rw [hexponent]
    exact ⟨hleast, by simpa using compareScaled_eq_gt.mp hfirst⟩
  by_cases hsecond : compareScaled 1 (guess + 1) m q = .gt
  · have hexponent : decimalExponent m q = guess + 1 := by
      simp [decimalExponent, ← hguess, hfirst, hsecond]
    rw [hexponent, add_sub_cancel_right]
    exact ⟨by simpa using not_lt.mp (compareScaled_eq_gt.not.mp hfirst),
      by simpa using compareScaled_eq_gt.mp hsecond⟩
  · have hexponent : decimalExponent m q = guess + 2 := by
      simp [decimalExponent, ← hguess, hfirst, hsecond]
    rw [hexponent, show guess + 2 - 1 = guess + 1 by ring]
    exact ⟨by simpa using not_lt.mp (compareScaled_eq_gt.not.mp hsecond), hmost⟩

/-! ### Candidates -/

/-- Holds of the decimals on the grid of `10 ^ k` that a candidate may be. -/
def inside (m : Nat) (q k : Int) (c : Nat) : Bool :=
  let lowGap := if m = leading && -1074 < q then 1 else 2
  let lo := compareScaled c k (4 * m - lowGap) (q - 2)
  let hi := compareScaled c k (4 * m + 2) (q - 2)
  if m % 2 = 0 then lo != .lt && hi != .gt else lo == .gt && hi == .lt

/-- The last decimal on the grid of `10 ^ k` that is not past `m * 2 ^ q`. -/
def lastBelow (m : Nat) (q k : Int) : Nat :=
  (m * twoTo q.toNat * tenTo (-k).toNat) / (twoTo (-q).toNat * tenTo k.toNat)

/-- The ends of what a magnitude owns, in quarters of a unit of its last place. -/
theorem quarters (hm : 0 < m) (q : Int) :
    ((4 * m - (if m = leading && -1074 < q then 1 else 2) : Nat) : ℚ) * 2 ^ (q - 2) =
        (m - below m q) * 2 ^ q ∧
      ((4 * m + 2 : Nat) : ℚ) * 2 ^ (q - 2) = (m + 1 / 2) * 2 ^ q := by
  have hquarter : (2 : ℚ) ^ (q - 2) = 2 ^ q / 4 := by
    rw [zpow_sub₀ two_ne_zero]
    norm_num
  rw [hquarter, below]
  constructor
  · split_ifs with hgap hlead hlead
    · rw [Nat.cast_sub (by omega)]
      push_cast
      ring
    · simp_all
    · simp_all
    · rw [Nat.cast_sub (by omega)]
      push_cast
      ring
  · push_cast
    ring

/-- **A decimal may be a candidate exactly if it is rounded to the magnitude.** -/
theorem inside_iff (hm : 0 < m) : inside m q k c = true ↔ Owns m q (c * 10 ^ k) := by
  obtain ⟨hlow, hhigh⟩ := quarters hm q
  simp only [inside]
  generalize (if m = leading && -1074 < q then 1 else 2) = gap at hlow ⊢
  split_ifs with hparity
  · simp only [Bool.and_eq_true, bne_iff_ne, ne_eq, compareScaled_eq_lt, compareScaled_eq_gt,
      not_lt, hlow, hhigh]
    exact ⟨fun h => ⟨h.1, h.2, fun hodd => by omega⟩, fun h => ⟨h.low, h.high⟩⟩
  · simp only [Bool.and_eq_true, beq_iff_eq, compareScaled_eq_lt, compareScaled_eq_gt, hlow, hhigh]
    exact ⟨fun h => ⟨h.1.le, h.2.le, fun _ => h⟩, fun h => h.odd (by omega)⟩

theorem candidate_eq (m : Nat) (q k : Int) : candidate m q k =
    let down := lastBelow m q k
    match inside m q k down, inside m q k (down + 1) with
    | false, false => none
    | true, false => some down
    | false, true => some (down + 1)
    | true, true =>
      match compareScaled (2 * down + 1) k (2 * m) q with
      | .lt => some (down + 1)
      | .gt => some down
      | .eq => if down % 2 = 0 then some down else some (down + 1) :=
  rfl

theorem of_candidate (h : candidate m q k = some c) : inside m q k c = true ∧
    (c = lastBelow m q k ∨ c = lastBelow m q k + 1) := by
  simp only [candidate_eq] at h
  split at h
  · cases h
  · cases h
    exact ⟨‹_›, .inl rfl⟩
  · cases h
    exact ⟨‹_›, .inr rfl⟩
  · split at h
    · cases h
      exact ⟨‹_›, .inr rfl⟩
    · cases h
      exact ⟨‹_›, .inl rfl⟩
    · split_ifs at h <;> cases h
      · exact ⟨‹_›, .inl rfl⟩
      · exact ⟨‹_›, .inr rfl⟩

theorem of_candidate_eq_none (h : candidate m q k = none) :
    inside m q k (lastBelow m q k) = false ∧ inside m q k (lastBelow m q k + 1) = false := by
  simp only [candidate_eq] at h
  split at h
  · exact ⟨‹_›, ‹_›⟩
  · cases h
  · cases h
  · split at h
    · cases h
    · cases h
    · split_ifs at h

/-- The decimals on either side of a magnitude. -/
theorem lastBelow_spec (m : Nat) (q k : Int) : (lastBelow m q k * 10 ^ k : ℚ) ≤ m * 2 ^ q ∧
    (m * 2 ^ q : ℚ) < (lastBelow m q k + 1 : Nat) * 10 ^ k := by
  obtain ⟨hone, hm⟩ := scaled_sides 1 k m q
  have hscale : (0 : ℚ) < 10 ^ (-k).toNat * 2 ^ (-q).toNat := by positivity
  rw [Nat.cast_one, one_mul, one_mul, Nat.mul_comm (tenTo _)] at hone
  rw [lastBelow]
  have hpos : 0 < twoTo (-q).toNat * tenTo k.toNat := Nat.mul_pos (twoTo_pos _) (tenTo_pos _)
  generalize (10 ^ (-k).toNat * 2 ^ (-q).toNat : ℚ) = scale at hone hm hscale
  generalize twoTo (-q).toNat * tenTo k.toNat = d at hone hpos ⊢
  generalize m * twoTo q.toNat * tenTo (-k).toNat = n at hm ⊢
  constructor
  · have hle : ((n / d * d : Nat) : ℚ) ≤ n := Nat.cast_le.mpr (Nat.div_mul_le_self n d)
    rw [Nat.cast_mul, hone, hm, ← mul_assoc] at hle
    exact le_of_mul_le_mul_right hle hscale
  · have hlt : (n : ℚ) < ((n / d + 1) * d : Nat) := by
      rw [Nat.succ_mul]
      exact Nat.cast_lt.mpr (Nat.lt_div_mul_add hpos)
    rw [Nat.cast_mul, hone, hm, ← mul_assoc] at hlt
    exact lt_of_mul_lt_mul_right hlt hscale.le

/-- **There is a candidate on a grid that is finer than the numbers of a magnitude are apart.** -/
theorem exists_candidate (hm : 0 < m) (hfine : (10 : ℚ) ^ k < (below m q + 1 / 2) * 2 ^ q) :
    ∃ c, candidate m q k = some c := by
  by_contra hnone
  obtain ⟨hdown, hup⟩ := of_candidate_eq_none (Option.eq_none_iff_forall_ne_some.mpr
    fun c hc => hnone ⟨c, hc⟩)
  obtain ⟨hle, hlt⟩ := lastBelow_spec m q k
  generalize lastBelow m q k = down at hdown hup hle hlt
  have hq := two_zpow_pos q
  have hunits : (m - below m q) * 2 ^ q < (m * 2 ^ q : ℚ) ∧
      (m * 2 ^ q : ℚ) < (m + 1 / 2) * 2 ^ q := by
    have hbelow : 0 < below m q := by
      rw [below]
      split_ifs <;> norm_num
    have hless := mul_pos hbelow hq
    constructor <;> linarith
  have hunder : (down * 10 ^ k : ℚ) ≤ (m - below m q) * 2 ^ q := by
    by_contra hover
    rw [(inside_iff hm).mpr ⟨(not_le.mp hover).le, (hle.trans_lt hunits.2).le,
      fun _ => ⟨not_le.mp hover, hle.trans_lt hunits.2⟩⟩] at hdown
    cases hdown
  have hover : (m + 1 / 2 : ℚ) * 2 ^ q ≤ (down + 1 : Nat) * 10 ^ k := by
    by_contra hunder
    rw [(inside_iff hm).mpr ⟨(hunits.1.trans hlt).le, (not_le.mp hunder).le,
      fun _ => ⟨hunits.1.trans hlt, not_le.mp hunder⟩⟩] at hup
    cases hup
  push_cast at hover
  linarith

/-- With seventeen digits there is always a candidate. -/
theorem exists_candidate_seventeen (h : IsParts m q) (hm : 0 < m)
    (hlow : -1400 < (m.log2 : Int) + q) (hhigh : (m.log2 : Int) + q < 1400) :
    ∃ c, candidate m q (decimalExponent m q - 17) = some c := by
  refine exists_candidate hm ?_
  have hle := (decimalExponent_spec hm hlow hhigh).1
  have hgrid : (10 : ℚ) ^ (decimalExponent m q - 1) =
      10 ^ 16 * 10 ^ (decimalExponent m q - 17) := by
    rw [← zpow_natCast, ← zpow_add₀ (by norm_num)]
    congr 1
    ring
  have hwidth : (m : ℚ) < 10 ^ 16 * (below m q + 1 / 2) := by
    rw [below]
    split_ifs with hlead
    · norm_num [hlead.1, leading]
    · have hm : (m : ℚ) < (2 * leading : Nat) := Nat.cast_lt.mpr h.width
      refine hm.trans ?_
      norm_num [leading]
  rw [hgrid] at hle
  have hq := two_zpow_pos q
  nlinarith

/-- The first hit among digit counts one of which has a hit. -/
theorem exists_firstHit {e : Int} {l : List Nat}
    (h : ∃ n ∈ l, ∃ c, candidate m q (e - n) = some c) :
    ∃ n ∈ l, ∃ c, candidate m q (e - n) = some c ∧ firstHit m q e l = (c, e - n) := by
  induction l with
  | nil => simp at h
  | cons n rest ih =>
    cases hfirst : candidate m q (e - n) with
    | some c => exact ⟨n, List.mem_cons_self, c, hfirst, by rw [firstHit, hfirst]⟩
    | none =>
      obtain ⟨n', hn', c, hc, heq⟩ := ih (by simpa [hfirst] using h)
      exact ⟨n', List.mem_cons_of_mem n hn', c, hc, by rwa [firstHit, hfirst]⟩

/-- **The digits of a double are at most seventeen, of a number that is rounded to it.** -/
theorem exists_shortest (hx : x.isFinite = true) (hm : 0 < x.parts.1) : ∃ c k,
    shortest x = Digits.ofScaled c k ∧ 0 < c ∧ c ≤ 10 ^ 17 ∧
      Owns x.parts.1 x.parts.2 (c * 10 ^ k) := by
  have hparts := x.isParts_parts
  have hq := parts_snd_le hx
  simp only [shortest]
  generalize x.parts.1 = m at hm hparts ⊢
  generalize x.parts.2 = q at hq hparts ⊢
  have hlog : m.log2 < 53 := (Nat.log2_lt hm.ne').mpr hparts.width
  have hleast := hparts.least
  obtain ⟨c, hc⟩ := exists_candidate_seventeen hparts hm (by omega) (by omega)
  obtain ⟨n, hn, c, hc, heq⟩ := exists_firstHit (l := (List.range 17).map (· + 1))
    ⟨17, by decide, c, hc⟩
  obtain ⟨hinside, hneighbour⟩ := of_candidate hc
  have hown := (inside_iff hm).mp hinside
  refine ⟨c, decimalExponent m q - n, ?_, ?_, ?_, hown⟩
  · rw [if_neg hm.ne', heq]
  · refine Nat.pos_of_ne_zero fun hzero => ?_
    have hpos := (two_zpow_pos (-1075)).trans_le (hown.two_pow_le hparts hm)
    simp [hzero] at hpos
  · have hn : n ≤ 17 := by
      simp at hn
      omega
    have hlt : (lastBelow m q (decimalExponent m q - n) : ℚ) < 10 ^ (n : Int) := by
      have hspec := (lastBelow_spec m q (decimalExponent m q - n)).1.trans_lt
        (decimalExponent_spec hm (by omega) (by omega)).2
      rw [zpow_sub₀ (by norm_num), mul_div_assoc', div_lt_iff₀ (ten_zpow_pos _), mul_comm,
        mul_lt_mul_iff_right₀ (ten_zpow_pos _)] at hspec
      exact hspec
    rw [zpow_natCast] at hlt
    have hlt : lastBelow m q (decimalExponent m q - n) < 10 ^ n := by exact_mod_cast hlt
    have hpow : 10 ^ n ≤ 10 ^ 17 := Nat.pow_le_pow_right (by decide) hn
    omega

end Metasearch.Number
