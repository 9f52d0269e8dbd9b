import Metasearch.Proofs.Time.Instant

/-!
# Clocks ahead of UTC

A clock that is some minutes ahead of UTC shows what a clock in UTC shows that many minutes later.
Together with the offset this determines the instant: also where the offset leads over the end of a
day or a year, and within a leap second, which stays at the end of a minute.

## Main definitions

* `Instant.momentAt`: what a clock ahead of UTC shows.
* `Instant.HasClock`: an offset at which the year has four digits.
* `Moment.dateText`, `Moment.clockText`: date and time of day with fields of full width.
* `IsFraction`, `IsOffset`: the parts of a timestamp that may be written in more than one way.
* `IsEnded`: a text that ends with a letter or a digit, as all timestamps do.

## Main results

* `Instant.IsProper.toInstant?_momentAt`: what a clock shows, with its offset, is that instant.
* `readFraction_append`, `readOffset_eq`: the parts are read back.
-/

namespace Metasearch

open Metasearch.Number Metasearch.Text Metasearch.Time

variable {t u : Instant} {m : Moment} {minutes offset : Int} {nanos n k least most : Nat} {c : Char}
  {mark rest s fraction : List Char}

/-! ### What a clock shows -/

/-- The instant at which a clock in UTC shows what one `minutes` ahead of UTC shows at `t`. -/
def Instant.later (t : Instant) (minutes : Int) : Instant :=
  ⟨t.seconds + minutes * 60, t.nanos⟩

/-- What a clock shows that is `minutes` ahead of UTC. -/
def Instant.momentAt (t : Instant) (minutes : Int) : Moment :=
  (t.later minutes).toMoment

/-- An offset of less than a day at which a clock shows a year of four digits. -/
structure Instant.HasClock (t : Instant) (minutes : Int) : Prop where
  /-- It is less than a day. -/
  lt : minutes.natAbs < 1440
  /-- The year is not before the first year of four digits. -/
  year_nonneg : 0 ≤ (t.momentAt minutes).year
  /-- The year is not after the last year of four digits. -/
  year_le : (t.momentAt minutes).year ≤ 9999

/-- Holds of what a clock shows where each field has its width. -/
structure Moment.IsShown (m : Moment) : Prop where
  /-- The year is not before the first year of four digits. -/
  year_nonneg : 0 ≤ m.year
  /-- The year is not after the last year of four digits. -/
  year_le : m.year ≤ 9999
  /-- The months start with the first. -/
  month_pos : 1 ≤ m.month
  /-- The month is one of twelve. -/
  month_le : m.month ≤ 12
  /-- The day has two digits. -/
  day_lt : m.day < 100
  /-- The hour has two digits. -/
  hour_lt : m.hour < 100
  /-- The minute has two digits. -/
  minute_lt : m.minute < 100
  /-- The second has two digits. -/
  second_lt : m.second < 100

theorem Instant.later_zero (t : Instant) : t.later 0 = t := by
  rw [later, Int.zero_mul, Int.add_zero]

theorem Instant.momentAt_zero (t : Instant) : t.momentAt 0 = t.toMoment := by
  rw [momentAt, later_zero]

/-- A leap second stands at the end of a minute at every offset. -/
theorem Instant.IsProper.later (ht : t.IsProper) (hclock : t.HasClock minutes) :
    (t.later minutes).IsProper where
  year := by
    have hlow : 0 ≤ (dateOf ((t.later minutes).seconds / 86400)).1 := hclock.year_nonneg
    have hhigh : (dateOf ((t.later minutes).seconds / 86400)).1 ≤ 9999 := hclock.year_le
    rw [Moment.isYear, Bool.and_eq_true, decide_eq_true_eq, decide_eq_true_eq]
    omega
  nanos := by
    have hnanos := ht.nanos
    simp only [Instant.later]
    omega

theorem Instant.IsProper.isShown_momentAt (ht : t.IsProper) (hclock : t.HasClock minutes) :
    (t.momentAt minutes).IsShown := by
  have hvalid : (t.momentAt minutes).isValid = true := (ht.later hclock).isValid_toMoment
  simp only [Moment.isValid, Bool.and_eq_true, decide_eq_true_eq] at hvalid
  obtain ⟨⟨⟨⟨⟨⟨⟨-, hmonth₁⟩, hmonth₂⟩, -⟩, hday⟩, hhour⟩, hminute⟩, hsecond⟩ := hvalid
  have hlength := monthLength_le (t.momentAt minutes).year (t.momentAt minutes).month
  exact ⟨hclock.year_nonneg, hclock.year_le, hmonth₁, hmonth₂, by omega, by omega, by omega,
    by omega⟩

/-- The same moment at an offset is an earlier instant. -/
theorem Moment.toInstant?_of_zero (h : m.toInstant? 0 = some u) (hoffset : offset.natAbs < 86400)
    (hyear : isYear (dateOf ((u.seconds - offset) / 86400)).1 = true) :
    m.toInstant? offset = some ⟨u.seconds - offset, u.nanos⟩ := by
  rw [toInstant?, Option.ite_none_right_eq_some, Bool.and_eq_true] at h
  obtain ⟨⟨hvalid, -⟩, h⟩ := h
  obtain ⟨-, h⟩ := Option.ite_none_right_eq_some.mp h
  rw [Int.sub_zero] at h
  obtain rfl := Option.some.inj h
  rw [toInstant?, if_pos (by rw [hvalid, decide_eq_true hoffset]; rfl)]
  exact if_pos hyear

/-- **What a clock shows, with its offset, is that instant.** -/
theorem Instant.IsProper.toInstant?_momentAt (ht : t.IsProper) (hclock : t.HasClock minutes) :
    (t.momentAt minutes).toInstant? (minutes * 60) = some t := by
  have hback : (t.later minutes).seconds - minutes * 60 = t.seconds := Int.add_sub_cancel _ _
  have hlt := hclock.lt
  have hzero : (t.momentAt minutes).toInstant? 0 = some (t.later minutes) :=
    (ht.later hclock).toInstant?_toMoment
  rw [Moment.toInstant?_of_zero hzero (by omega) (by rw [hback]; exact ht.year), hback]
  rfl

/-! ### Parts of a timestamp -/

namespace Moment

/-- A date with hyphens. -/
def dateText (m : Moment) : List Char :=
  padded 4 m.year.natAbs ++ '-' :: (padded 2 m.month ++ '-' :: padded 2 m.day)

/-- A time of day with colons. -/
def clockText (m : Moment) : List Char :=
  padded 2 m.hour ++ ':' :: (padded 2 m.minute ++ ':' :: padded 2 m.second)

end Moment

/-- A fraction of a second of up to nine digits, or none. -/
inductive IsFraction : Nat → List Char → Prop
  /-- A whole second. -/
  | none : IsFraction 0 []
  /-- `k` digits count units of `10 ^ (9 - k)` nanoseconds. -/
  | digits {k n : Nat} (hpos : 0 < k) (hk : k ≤ 9) (hn : n < 10 ^ k) :
      IsFraction (n * 10 ^ (9 - k)) ('.' :: padded k n)

/-- Minutes ahead of UTC, with `mark` between hours and minutes. No offset may have either sign. -/
inductive IsOffset (mark : List Char) : Int → List Char → Prop
  /-- A clock that is ahead. -/
  | ahead (n : Nat) : IsOffset mark n ('+' :: (padded 2 (n / 60) ++ (mark ++ padded 2 (n % 60))))
  /-- A clock that is behind. -/
  | behind (n : Nat) :
      IsOffset mark (-n) ('-' :: (padded 2 (n / 60) ++ (mark ++ padded 2 (n % 60))))

/-- The fraction that the text of an instant has is one. -/
theorem isFraction_fractionText (h : nanos < 1000000000) :
    IsFraction nanos (Instant.fractionText nanos) := by
  have hdigits (k n : Nat) (hpos : 0 < k) (hk : k ≤ 9) (hn : n < 10 ^ k)
      (heq : n * 10 ^ (9 - k) = nanos) : IsFraction nanos ('.' :: padded k n) :=
    heq ▸ .digits hpos hk hn
  rw [Instant.fractionText]
  split_ifs with hzero hmilli hmicro
  · rw [hzero]
    exact .none
  · exact hdigits 3 _ (by decide) (by decide) (by omega) (by omega)
  · exact hdigits 6 _ (by decide) (by decide) (by omega) (by omega)
  · exact hdigits 9 _ (by decide) (by decide) (by omega) (by omega)

namespace Time

theorem readFraction_append (hs : IsFraction nanos s)
    (hrest : ∀ c ∈ rest.head?, c.isDigit = false ∧ c ≠ '.') :
    readFraction (s ++ rest) = some (nanos, rest) := by
  cases hs with
  | none => exact readFraction_eq_zero fun c hc => (hrest c hc).2
  | digits hpos hk hn => exact readFraction_padded hpos hk hn fun c hc => (hrest c hc).1

theorem readChar_cons (c : Char) (s : List Char) : readChar c (c :: s) = some s :=
  if_pos rfl

theorem bind_of_eq_some {α β : Type} {x : Option α} {a : α} (h : x = some a) (f : α → Option β) :
    (x >>= f) = f a := by
  rw [h]
  rfl

theorem skipSpace_of_head? (hs : ∀ c ∈ s.head?, isSpace c = false) : skipSpace s = s := by
  cases s with
  | nil => rfl
  | cons c r => rw [skipSpace, List.dropWhile_cons_of_neg (by simp [hs c rfl])]

theorem readSpace_cons (hs : ∀ c ∈ s.head?, isSpace c = false) : readSpace (' ' :: s) = some s :=
  congrArg some (skipSpace_of_head? hs)

/-- A field that is as wide as its reader wants. -/
theorem readDigits_padded (hpos : 0 < k) (hn : n < 10 ^ k) (rest : List Char) :
    readDigits k k (padded k n ++ rest) = some (n, rest) := by
  have hlength : (padded k n).length = k := length_padded hpos hn
  rw [readDigits_append (fun _ => isDigit_of_mem_padded) hlength.ge hlength.le (.inl hlength),
    value_padded]

/-- Too few digits. -/
theorem readDigits_eq_none (front : List Char) (hfront : front.length < least)
    (hc : c.isDigit = false) : readDigits least most (front ++ c :: rest) = none := by
  have hstop : (front ++ c :: rest).takeWhile Char.isDigit <+: front := by
    rw [List.takeWhile_append]
    split_ifs
    · simp [hc]
    · exact List.takeWhile_prefix _
  have hle := ((List.take_prefix most _).trans hstop).length_le
  exact if_pos (by omega)

theorem readOffset_eq {separate : List Char → Option (List Char)} (hs : IsOffset mark minutes s)
    (hlt : minutes.natAbs < 1440) (hmark : ∀ r, separate (mark ++ r) = some r) (wide : Bool) :
    readOffset wide separate s = some (minutes * 60, []) := by
  have hfields (n : Nat) (hn : n < 1440) :
      readDigits 2 2 (padded 2 (n / 60) ++ (mark ++ padded 2 (n % 60))) =
        some (n / 60, mark ++ padded 2 (n % 60)) ∧
      readDigits 2 2 (padded 2 (n % 60)) = some (n % 60, []) :=
    ⟨readDigits_padded (by decide) (by omega) _,
      List.append_nil (padded 2 (n % 60)) ▸ readDigits_padded (by decide) (by omega) []⟩
  cases hs with
  | ahead n =>
    obtain ⟨hhours, hminutes⟩ := hfields n (by omega)
    have hsign : ∀ r, readSign wide ('+' :: r) = some (false, r) := fun _ => rfl
    have hlow : ¬59 < n % 60 := by omega
    simp [readOffset, hsign, hhours, hmark, hminutes, hlow]
    omega
  | behind n =>
    obtain ⟨hhours, hminutes⟩ := hfields n (by omega)
    have hsign : ∀ r, readSign wide ('-' :: r) = some (true, r) := fun _ => rfl
    have hlow : ¬59 < n % 60 := by omega
    simp [readOffset, hsign, hhours, hmark, hminutes, hlow]
    omega

/-! ### The ends of a timestamp -/

theorem head?_dateText_append (m : Moment) (rest : List Char) :
    ∀ c ∈ (m.dateText ++ rest).head?, c.isAlphanum = true := by
  obtain ⟨d, s, hcons, hd⟩ := exists_cons_padded 4 m.year.natAbs
  intro c hc
  rw [Moment.dateText, hcons] at hc
  obtain rfl := Option.some.inj hc
  exact isAlphanum_of_isDigit hd

/-- Holds of texts that end with a letter or a digit. -/
def IsEnded (s : List Char) : Prop :=
  ∃ front c, s = front ++ [c] ∧ c.isAlphanum = true

namespace IsEnded

theorem append (front : List Char) (h : IsEnded s) : IsEnded (front ++ s) := by
  obtain ⟨middle, c, rfl, hc⟩ := h
  exact ⟨front ++ middle, c, (List.append_assoc _ _ _).symm, hc⟩

theorem cons (c : Char) (h : IsEnded s) : IsEnded (c :: s) :=
  h.append [c]

theorem of_isAlphanum (hne : s ≠ []) (hs : ∀ c ∈ s, c.isAlphanum = true) : IsEnded s := by
  obtain ⟨front, c, rfl⟩ := (List.eq_nil_or_concat s).resolve_left hne
  rw [List.concat_eq_append] at hs ⊢
  exact ⟨front, c, rfl, hs c (by simp)⟩

end IsEnded

theorem isEnded_padded (width n : Nat) : IsEnded (padded width n) := by
  obtain ⟨c, s, hcons, -⟩ := exists_cons_padded width n
  exact .of_isAlphanum (by simp [hcons]) fun d hd =>
    isAlphanum_of_isDigit (isDigit_of_mem_padded hd)

theorem isEnded_clockText (m : Moment) (hfraction : IsFraction n fraction) :
    IsEnded (m.clockText ++ fraction) := by
  cases hfraction with
  | none =>
    rw [List.append_nil]
    exact isEnded_padded 2 m.second |>.cons ':' |>.append _ |>.cons ':' |>.append _
  | digits => exact ((isEnded_padded _ _).cons '.').append _

theorem isEnded_of_isOffset {mark : List Char} (hs : IsOffset mark minutes s) : IsEnded s := by
  cases hs with
  | ahead n => exact (((isEnded_padded 2 (n % 60)).append mark).append _).cons '+'
  | behind n => exact (((isEnded_padded 2 (n % 60)).append mark).append _).cons '-'

end Time

end Metasearch
