import Metasearch.Proofs.Number.Decimal
import Metasearch.Proofs.Text.Ascii
import Metasearch.Proofs.Time.Calendar
import Metasearch.Time.Parser
import Mathlib.Tactic.SplitIfs

/-!
# Timestamps written and read

A timestamp is written with fields of fixed width, so a reader knows where each of them ends, and
what a clock in UTC shows determines the instant. Together: a timestamp of a stored record is read
back.

## Main definitions

* `Instant.IsProper`: a year that is told apart, and a leap second only at the end of a minute.

## Main results

* `Instant.IsProper.toInstant?_toMoment`: what a clock in UTC shows is that instant.
* `Instant.IsProper.ofText?_text`: the text of an instant denotes it.
-/

namespace Metasearch

open Metasearch.Number Metasearch.Text Metasearch.Time

variable {t : Instant} {s rest : List Char} {least most n k : Nat}

/-! ### Instants and moments -/

/-- An instant in a year that is told apart; nanoseconds past a thousand million make a leap second,
which stands at the end of a minute. -/
structure Instant.IsProper (t : Instant) : Prop where
  /-- The year is told apart. -/
  year : Moment.isYear (dateOf (t.seconds / 86400)).1 = true
  /-- The nanoseconds are less than a second, or less than two at the end of a minute. -/
  nanos : t.nanos < 1000000000 ∨ t.nanos < 2000000000 ∧ t.seconds % 60 = 59

/-- What a clock in UTC shows is a date and a time of day. -/
theorem Instant.IsProper.isValid_toMoment (h : t.IsProper) : t.toMoment.isValid = true := by
  obtain ⟨hmonth₁, hmonth₂⟩ := month_dateOf (t.seconds / 86400)
  obtain ⟨hday₁, hday₂⟩ := day_dateOf (t.seconds / 86400)
  have hyear := h.year
  have hnanos := h.nanos
  have hrest : (t.seconds % 86400).toNat < 86400 := by omega
  have hsecond : (if 1000000000 ≤ t.nanos then (t.seconds % 86400).toNat % 60 + 1
      else (t.seconds % 86400).toNat % 60) ≤ 60 := by
    split <;> omega
  have hhour : (t.seconds % 86400).toNat / 3600 < 24 := by omega
  have hminute : (t.seconds % 86400).toNat / 60 % 60 < 60 := by omega
  simp only [Moment.isValid, Bool.and_eq_true, decide_eq_true_eq]
  exact ⟨⟨⟨⟨⟨⟨⟨hyear, hmonth₁⟩, hmonth₂⟩, hday₁⟩, hday₂⟩, hhour⟩, hminute⟩, by
    simpa [toMoment] using hsecond⟩

/-- The nanoseconds of what a clock shows are less than a second. -/
theorem Instant.IsProper.nanos_toMoment_lt (h : t.IsProper) : t.toMoment.nanos < 1000000000 := by
  have hnanos := h.nanos
  simp only [toMoment]
  split
  · omega
  · simp_all

/-- **What a clock in UTC shows is that instant.** -/
theorem Instant.IsProper.toInstant?_toMoment (h : t.IsProper) : t.toMoment.toInstant? 0 = some t := by
  have hleap : (t.toMoment.second == 60) = decide (1000000000 ≤ t.nanos) := by
    have hnanos := h.nanos
    by_cases hle : 1000000000 ≤ t.nanos <;> simp [toMoment, hle] <;> omega
  have hseconds : dayNumber t.toMoment.year t.toMoment.month t.toMoment.day * 86400 +
      (t.toMoment.hour * 3600 + t.toMoment.minute * 60 +
        (if 1000000000 ≤ t.nanos then 59 else t.toMoment.second) : Nat) - 0 = t.seconds := by
    have hnumber : dayNumber t.toMoment.year t.toMoment.month t.toMoment.day = t.seconds / 86400 :=
      dayNumber_dateOf (t.seconds / 86400)
    have hnanos := h.nanos
    rw [hnumber]
    split <;> simp [toMoment, *] <;> omega
  have hnanos : (if 1000000000 ≤ t.nanos then t.toMoment.nanos + 1000000000 else t.toMoment.nanos) =
      t.nanos := by
    split <;> simp [toMoment, *]
  rw [Moment.toInstant?, if_pos (by rw [h.isValid_toMoment]; rfl)]
  simp only [hleap, decide_eq_true_eq, hseconds, h.year, if_true, hnanos]

/-! ### Fields of a timestamp -/

namespace Time

/-- Digits are read as their value where the reader has to stop behind them. -/
theorem readDigits_append (hs : ∀ c ∈ s, c.isDigit = true) (hleast : least ≤ s.length)
    (hmost : s.length ≤ most)
    (hrest : s.length = most ∨ ∀ c ∈ rest.head?, c.isDigit = false) :
    readDigits least most (s ++ rest) = some (value s, rest) := by
  have htake : ((s ++ rest).takeWhile Char.isDigit).take most = s := by
    rw [List.takeWhile_append_of_pos hs]
    rcases hrest with rfl | hrest
    · exact List.take_left' rfl
    · have hstop : rest.takeWhile Char.isDigit = [] := by
        cases rest with
        | nil => rfl
        | cons c r => simp [hrest c rfl]
      rw [hstop, List.append_nil, List.take_of_length_le hmost]
  rw [readDigits]
  simp only [htake]
  rw [if_neg (Nat.not_lt.mpr hleast), List.drop_left' rfl]

/-- No digit is white space. -/
theorem isSpace_eq_false_of_isDigit {c : Char} (h : c.isDigit = true) : isSpace c = false :=
  isSpace_eq_false_of_isAlphanum (isAlphanum_of_isDigit h)

theorem exists_cons_padded (width n : Nat) :
    ∃ c s, padded width n = c :: s ∧ c.isDigit = true := by
  obtain ⟨c, s, h⟩ := List.exists_cons_of_ne_nil
    (List.append_ne_nil_of_right_ne_nil (List.replicate (width - (numeral n).length) '0')
      (numeral_ne_nil n))
  exact ⟨c, s, h, isDigit_of_mem_padded (h ▸ List.mem_cons_self)⟩

theorem skipSpace_padded (width n : Nat) (rest : List Char) :
    skipSpace (padded width n ++ rest) = padded width n ++ rest := by
  obtain ⟨c, s, h, hc⟩ := exists_cons_padded width n
  rw [h, List.cons_append, skipSpace,
    List.dropWhile_cons_of_neg (by simp [isSpace_eq_false_of_isDigit hc])]

theorem readField_padded (hn : n < 100) (rest : List Char) :
    readField 2 (padded 2 n ++ rest) = some (n, rest) := by
  have hlength : (padded 2 n).length = 2 := length_padded (by decide) hn
  rw [readField, skipSpace_padded, readDigits_append (fun _ => isDigit_of_mem_padded)
    (by omega) (by omega) (.inl hlength), value_padded]

/-- **A year is read up to its hyphen.** -/
theorem readYear_yearText (year : Int) (rest : List Char) :
    readYear (Instant.yearText year ++ '-' :: rest) = some (year, '-' :: rest) := by
  have hhyphen : ∀ c ∈ ('-' :: rest).head?, c.isDigit = false := by
    rintro c ⟨⟩
    rfl
  obtain ⟨c, s, hcons, hc⟩ := exists_cons_padded 4 year.natAbs
  have hpos : 1 ≤ (padded 4 year.natAbs).length := by simp [hcons]
  -- behind a sign a year may have any number of digits
  have hsigned : readDigits 1 (padded 4 year.natAbs ++ '-' :: rest).length
      (padded 4 year.natAbs ++ '-' :: rest) = some (year.natAbs, '-' :: rest) := by
    rw [readDigits_append (fun _ => isDigit_of_mem_padded) hpos (by simp) (.inr hhyphen),
      value_padded]
  rw [Instant.yearText]
  split
  · rename_i h
    obtain ⟨hlow, hhigh⟩ : 0 ≤ year ∧ year ≤ 9999 := by simpa using h
    have hlength : (padded 4 year.natAbs).length = 4 := length_padded (by decide) (by omega)
    have hread : readDigits 1 4 (padded 4 year.natAbs ++ '-' :: rest) =
        some (year.natAbs, '-' :: rest) := by
      rw [readDigits_append (fun _ => isDigit_of_mem_padded) hpos (by omega) (.inl hlength),
        value_padded]
    rw [readYear, skipSpace_padded]
    split
    · simp_all
    · simp_all
    · have hyear : (year.natAbs : Int) = year := by omega
      simp only [hread, Option.map_some, hyear]
  · rename_i hfar
    split
    · have hskip : ∀ r, skipSpace ('-' :: r) = '-' :: r := fun _ => rfl
      have hyear : -(year.natAbs : Int) = year := by omega
      rw [List.cons_append, readYear, hskip]
      simp only [hsigned, Option.map_some, hyear]
    · have hskip : ∀ r, skipSpace ('+' :: r) = '+' :: r := fun _ => rfl
      have hyear : (year.natAbs : Int) = year := by
        simp only [Bool.and_eq_true, decide_eq_true_eq] at hfar
        omega
      rw [List.cons_append, readYear, hskip]
      simp only [hsigned, Option.map_some, hyear]

/-- A fraction of `k` digits counts units of `10 ^ (9 - k)` nanoseconds. -/
theorem readFraction_padded (hpos : 0 < k) (hk : k ≤ 9) (hn : n < 10 ^ k)
    (hrest : ∀ c ∈ rest.head?, c.isDigit = false) :
    readFraction ('.' :: (padded k n ++ rest)) = some (n * 10 ^ (9 - k), rest) := by
  have hlength : (padded k n).length = k := length_padded hpos hn
  have hspan : (padded k n ++ rest).takeWhile Char.isDigit = padded k n :=
    congrArg Prod.fst (spanDigits_append (fun _ => isDigit_of_mem_padded) hrest)
  have hne : (padded k n).isEmpty = false := by
    obtain ⟨c, s, hcons, -⟩ := exists_cons_padded k n
    rw [hcons]
    rfl
  have hkept : (padded k n).take 9 = padded k n := List.take_of_length_le (by omega)
  rw [readFraction, readNanos]
  simp only [hspan, hkept, hne, hlength, value_padded, tenTo, Bool.false_eq_true, if_false,
    List.drop_left' hlength]
  rfl

theorem readFraction_eq_zero (hrest : ∀ c ∈ rest.head?, c ≠ '.') :
    readFraction rest = some (0, rest) := by
  cases rest with
  | nil => rfl
  | cons c r =>
    rw [readFraction]
    exact fun r' heq => hrest c rfl (List.cons.inj heq).1

/-- **A fraction of a second is read back.** -/
theorem readFraction_fractionText {nanos : Nat} (h : nanos < 1000000000)
    (hrest : ∀ c ∈ rest.head?, c.isDigit = false ∧ c ≠ '.') :
    readFraction (Instant.fractionText nanos ++ rest) = some (nanos, rest) := by
  have hdigit : ∀ c ∈ rest.head?, c.isDigit = false := fun c hc => (hrest c hc).1
  rw [Instant.fractionText]
  split_ifs with hzero hmilli hmicro
  · rw [hzero]
    exact readFraction_eq_zero fun c hc => (hrest c hc).2
  · rw [List.cons_append, readFraction_padded (by decide) (by decide) (by omega) hdigit]
    simp
    omega
  · rw [List.cons_append, readFraction_padded (by decide) (by decide) (by omega) hdigit]
    simp
    omega
  · rw [List.cons_append, readFraction_padded (by decide) (by decide) (by omega) hdigit]
    simp

/-! ### Timestamps of stored records -/

theorem readDate_append (gap : List Char → List Char) (hgap : ∀ s, gap ('-' :: s) = '-' :: s)
    (year : Int) {month day : Nat} (hmonth : month < 100) (hday : day < 100)
    (rest : List Char) : readDate gap (Instant.yearText year ++
      '-' :: (padded 2 month ++ '-' :: (padded 2 day ++ rest))) =
        some ((year, month, day), rest) := by
  have hhyphen : ∀ s, readChar '-' ('-' :: s) = some s := fun _ => rfl
  simp [readDate, readYear_yearText, hgap, hhyphen, readField_padded, hmonth, hday]

theorem readTime_append (gap : List Char → List Char) (hgap : ∀ s, gap (':' :: s) = ':' :: s)
    {hour minute second : Nat} (hhour : hour < 100) (hminute : minute < 100)
    (hsecond : second < 100) (rest : List Char) : readTime gap (padded 2 hour ++
      ':' :: (padded 2 minute ++ ':' :: (padded 2 second ++ rest))) =
        some ((hour, minute, second), rest) := by
  have hcolon : ∀ s, readChar ':' (':' :: s) = some s := fun _ => rfl
  simp [readTime, hgap, hcolon, readField_padded, hhour, hminute, hsecond]

end Time

/-- **The text of an instant denotes it.** -/
theorem Instant.IsProper.ofText?_text (h : t.IsProper) : Instant.ofText? t.text = some t := by
  have hvalid := h.isValid_toMoment
  simp only [Moment.isValid, Bool.and_eq_true, decide_eq_true_eq] at hvalid
  obtain ⟨⟨⟨⟨⟨⟨⟨-, -⟩, hmonth⟩, -⟩, hday⟩, hhour⟩, hminute⟩, hsecond⟩ := hvalid
  have hlength := monthLength_le t.toMoment.year t.toMoment.month
  have hseparator : ∀ s, readSeparator ('T' :: s) = some s := fun _ => rfl
  have hzone : readRelaxedZone (skipSpace ['Z']) = some (0, []) := rfl
  have hblank : isBlank [] = true := rfl
  have hfraction : readFraction (fractionText t.toMoment.nanos ++ ['Z']) =
      some (t.toMoment.nanos, ['Z']) := readFraction_fractionText h.nanos_toMoment_lt (by simp)
  have hmoment : Moment.toInstant? ⟨t.toMoment.year, t.toMoment.month, t.toMoment.day,
      t.toMoment.hour, t.toMoment.minute, t.toMoment.second, t.toMoment.nanos⟩ 0 = some t :=
    h.toInstant?_toMoment
  rw [ofText?, text, String.toList_ofList, readRelaxed?, momentText]
  simp only [List.append_assoc, List.cons_append]
  rw [readDate_append skipSpace (fun _ => rfl) _ (by omega) (by omega)]
  simp [hseparator, readTime_append skipSpace (fun _ => rfl)
    (show t.toMoment.hour < 100 by omega)
    (show t.toMoment.minute < 100 by omega) (show t.toMoment.second < 100 by omega), hfraction,
    hzone, hblank, hmoment]

end Metasearch
