import Metasearch.Time.Calendar
import Mathlib.Algebra.Order.Group.Unbundled.Int

/-!
# Days and their dates

A day is the `d`-th day of the `y`-th year of an era, years starting in March. `IsDay` says which
`y` and `d` there are, the leap years being those with a day 365. Every day number is one of such a
day, and the quick formula for the year of a day in `dateOf` finds `y` again, by cases on the century
and the place in the cycle of four years.

## Main definitions

* `IsDay`, `dayAt`: a day of an era and its number.

## Main results

* `dayNumber_dateOf`: the date of a day has its number.
* `month_dateOf`, `day_dateOf`: it is a date of the calendar.
-/

namespace Metasearch.Time

variable {era y d n : Int}

/-- A year of an era and a day of that year, both counted from 0. -/
structure IsDay (y d : Int) : Prop where
  /-- The year is not negative. -/
  year_nonneg : 0 ≤ y
  /-- There are 400 years in an era. -/
  year_lt : y < 400
  /-- The day is not negative. -/
  day_nonneg : 0 ≤ d
  /-- No year has more days than a leap year. -/
  day_le : d ≤ 365
  /-- Only leap years have as many. -/
  leap : d = 365 → y % 4 = 3 ∧ (y % 100 ≠ 99 ∨ y = 399)

/-- The number of days in an era before a day. -/
def dayOfEra (y d : Int) : Int :=
  365 * y + y / 4 - y / 100 + d

/-- The number of a day. -/
def dayAt (era y d : Int) : Int :=
  era * 146097 + dayOfEra y d - 719468

/-- Every day number is that of a day. -/
theorem exists_dayAt (n : Int) : ∃ era y d, IsDay y d ∧ n = dayAt era y d := by
  -- centuries of the era, of which the last has a day more, then cycles of four years, then years
  obtain ⟨era, e, rfl, he0, he⟩ : ∃ era e : Int, n = era * 146097 + e - 719468 ∧ 0 ≤ e ∧
      e < 146097 := ⟨(n + 719468) / 146097, (n + 719468) % 146097, by omega, by omega, by omega⟩
  obtain ⟨c, r, rfl, hc0, hc, hr0, hr, hlast⟩ : ∃ c r : Int, e = 36524 * c + r ∧ 0 ≤ c ∧ c ≤ 3 ∧
      0 ≤ r ∧ r ≤ 36524 ∧ (r = 36524 → c = 3) :=
    ⟨min (e / 36524) 3, e - 36524 * min (e / 36524) 3, by omega, by omega, by omega, by omega,
      by omega, by omega⟩
  obtain ⟨q, t, rfl, hq0, hq, ht0, ht⟩ : ∃ q t : Int, r = 1461 * q + t ∧ 0 ≤ q ∧ q ≤ 24 ∧ 0 ≤ t ∧
      t ≤ 1460 := ⟨r / 1461, r % 1461, by omega, by omega, by omega, by omega, by omega⟩
  obtain ⟨k, d, rfl, hk0, hk, hd0, hd, hleap⟩ : ∃ k d : Int, t = 365 * k + d ∧ 0 ≤ k ∧ k ≤ 3 ∧
      0 ≤ d ∧ d ≤ 365 ∧ (d = 365 → k = 3) :=
    ⟨min (t / 365) 3, t - 365 * min (t / 365) 3, by omega, by omega, by omega, by omega, by omega,
      by omega⟩
  refine ⟨era, 100 * c + 4 * q + k, d, ⟨by omega, by omega, hd0, hd, fun h => by omega⟩, ?_⟩
  have hcycle : (100 * c + 4 * q + k) / 4 = 25 * c + q := by omega
  have hcentury : (100 * c + 4 * q + k) / 100 = c := by omega
  rw [dayAt, dayOfEra, hcycle, hcentury]
  omega

/-- **The year of a day of an era.** -/
theorem yearOfEra_eq (h : IsDay y d) {e : Int} (he : e = dayOfEra y d) :
    (e - e / 1460 + e / 36524 - e / 146096) / 365 = y := by
  obtain ⟨hy0, hy, hd0, hd, hleap⟩ := h
  rw [dayOfEra] at he
  obtain ⟨c, hc⟩ : ∃ c, c = y / 100 := ⟨_, rfl⟩
  obtain ⟨q, hq⟩ : ∃ q, q = y / 4 := ⟨_, rfl⟩
  obtain ⟨k, hk⟩ : ∃ k, k = y % 4 := ⟨_, rfl⟩
  have hcentury : c = 0 ∨ c = 1 ∨ c = 2 ∨ c = 3 := by omega
  have hplace : k = 0 ∨ k = 1 ∨ k = 2 ∨ k = 3 := by omega
  have h1460 : e / 1460 = q ∨ e / 1460 = q + 1 := by omega
  have h36524 : e / 36524 = c ∨ e / 36524 = c + 1 := by omega
  rcases hcentury with rfl | rfl | rfl | rfl <;> rcases hplace with rfl | rfl | rfl | rfl <;> omega

/-- A day number leads back to its era and its day of the era. -/
theorem era_dayAt (h : IsDay y d) (era : Int) :
    (dayAt era y d + 719468) / 146097 = era ∧
      dayAt era y d + 719468 - era * 146097 = dayOfEra y d := by
  obtain ⟨hy0, hy, hd0, hd, hleap⟩ := h
  rw [dayAt, dayOfEra]
  omega

/-- The date of a day. -/
theorem dateOf_dayAt (h : IsDay y d) : dateOf (dayAt era y d) =
    (if (5 * d + 2) / 153 < 10 then y + era * 400 else y + era * 400 + 1,
      (if (5 * d + 2) / 153 < 10 then (5 * d + 2) / 153 + 3 else (5 * d + 2) / 153 - 9).toNat,
      (d - (153 * ((5 * d + 2) / 153) + 2) / 5 + 1).toNat) := by
  obtain ⟨hera, hday⟩ := era_dayAt h era
  have hd : dayOfEra y d - (365 * y + y / 4 - y / 100) = d := by
    rw [dayOfEra]
    omega
  have := h.day_nonneg
  have := h.day_le
  simp only [dateOf, hera, hday, yearOfEra_eq h rfl, hd]
  split <;> simp <;> omega

/-- **The date of a day has its number.** -/
theorem dayNumber_dateOf (n : Int) :
    dayNumber (dateOf n).1 (dateOf n).2.1 (dateOf n).2.2 = n := by
  obtain ⟨era, y, d, h, rfl⟩ := exists_dayAt n
  rw [dateOf_dayAt h]
  obtain ⟨hy0, hy, hd0, hd, -⟩ := h
  obtain ⟨m, hm⟩ : ∃ m, m = (5 * d + 2) / 153 := ⟨_, rfl⟩
  have hyear : (y + era * 400) / 400 = era := by omega
  rw [dayAt, dayOfEra, ← hm]
  by_cases h10 : m < 10
  · have hmonth : ¬(m + 3).toNat ≤ 2 := by omega
    simp only [dayNumber, if_pos h10, if_neg hmonth, hyear]
    omega
  · have hmonth : (m - 9).toNat ≤ 2 := by omega
    simp only [dayNumber, if_neg h10, if_pos hmonth, Int.add_sub_cancel, hyear]
    omega

/-- The date of a day is in one of the twelve months. -/
theorem month_dateOf (n : Int) : 1 ≤ (dateOf n).2.1 ∧ (dateOf n).2.1 ≤ 12 := by
  obtain ⟨era, y, d, h, rfl⟩ := exists_dayAt n
  rw [dateOf_dayAt h]
  obtain ⟨-, -, hd0, hd, -⟩ := h
  simp only
  split <;> omega

/-- **The date of a day is on a day of its month.** -/
theorem day_dateOf (n : Int) :
    1 ≤ (dateOf n).2.2 ∧ (dateOf n).2.2 ≤ monthLength (dateOf n).1 (dateOf n).2.1 := by
  obtain ⟨era, y, d, h, rfl⟩ := exists_dayAt n
  rw [dateOf_dayAt h]
  obtain ⟨hy0, hy, hd0, hd, hleap⟩ := h
  obtain ⟨m, hm⟩ : ∃ m, m = (5 * d + 2) / 153 := ⟨_, rfl⟩
  have hm0 : 0 ≤ m := by omega
  have hm11 : m ≤ 11 := by omega
  rw [← hm]
  refine ⟨by simp only; omega, ?_⟩
  rcases (by omega : m < 10 ∨ m = 10 ∨ m = 11) with h10 | rfl | rfl
  · -- March to December
    have hmonths : m = 0 ∨ m = 1 ∨ m = 2 ∨ m = 3 ∨ m = 4 ∨ m = 5 ∨ m = 6 ∨ m = 7 ∨ m = 8 ∨
        m = 9 := by omega
    rcases hmonths with rfl | rfl | rfl | rfl | rfl | rfl | rfl | rfl | rfl | rfl <;>
      simp [monthLength] <;> omega
  · -- January
    simp [monthLength]
    omega
  · -- February, with a 29th in leap years
    have hday : d = 365 → isLeap (y + era * 400 + 1) = true := by
      intro h
      have := hleap h
      simp [isLeap]
      omega
    cases hfebruary : isLeap (y + era * 400 + 1) with
    | true =>
      simp [monthLength, hfebruary]
      omega
    | false =>
      have hne : d ≠ 365 := fun h => by simp [hday h] at hfebruary
      simp [monthLength, hfebruary]
      omega

theorem monthLength_le (year : Int) (month : Nat) : monthLength year month ≤ 31 := by
  unfold monthLength
  split
  · split <;> decide
  all_goals decide

end Metasearch.Time
