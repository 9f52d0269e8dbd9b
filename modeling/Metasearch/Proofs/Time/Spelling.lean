import Metasearch.Proofs.Text.Clean
import Metasearch.Proofs.Time.Mail

/-!
# Spellings of an instant

Timestamps come in several forms, and the readers of the forms are tried in turn. A text of one form
is taken by its own reader, and by no reader that comes before that one: the first needs four digits
at the start and an offset at the end, the second a blank behind at most two digits. So all
spellings of an instant are read as that instant, at every offset.

## Main definitions

* `IsZone`: the zone behind fields of full width.
* `Instant.IsSpelling`: the spellings of an instant.

## Main results

* `readStrict?_eq`, `readBare?_eq`: each form has its reader.
* `Instant.IsProper.parse?_of_isSpelling`: all spellings of an instant denote it.
-/

namespace Metasearch

open Metasearch.Number Metasearch.Text Metasearch.Time

/-! ### The forms -/

/-- An offset with a colon, or the letter that stands for none. -/
inductive IsZone : Int → List Char → Prop
  /-- The letter. -/
  | letter {c : Char} (hc : c = 'Z' ∨ c = 'z') : IsZone 0 [c]
  /-- An offset. -/
  | offset {minutes : Int} {s : List Char} (hs : IsOffset [':'] minutes s) : IsZone minutes s

/-- The spellings of an instant. -/
inductive Instant.IsSpelling (t : Instant) : List Char → Prop
  /-- Date and time with an offset. -/
  | strict {c : Char} {fraction zone : List Char} (minutes : Int) (hclock : t.HasClock minutes)
      (hc : c = 'T' ∨ c = 't' ∨ c = ' ')
      (hfraction : IsFraction (t.momentAt minutes).nanos fraction) (hzone : IsZone minutes zone) :
      t.IsSpelling ((t.momentAt minutes).dateText ++ c :: ((t.momentAt minutes).clockText ++
        (fraction ++ zone)))
  /-- The text in stored records. -/
  | stored (hclock : t.HasClock 0) : t.IsSpelling t.text.toList
  /-- The form of mail headers, for a whole second that is no leap second. -/
  | mail {zone s : List Char} (minutes : Int) (hclock : t.HasClock minutes) (hwhole : t.nanos = 0)
      (hzone : IsMailZone minutes zone)
      (hs : (t.momentAt minutes).IsMailText (weekday ((t.later minutes).seconds / 86400)) zone s) :
      t.IsSpelling s
  /-- Date and time in UTC, without an offset. -/
  | bare {fraction : List Char} (hclock : t.HasClock 0)
      (hfraction : IsFraction (t.momentAt 0).nanos fraction) :
      t.IsSpelling ((t.momentAt 0).dateText ++ 'T' :: ((t.momentAt 0).clockText ++ fraction))
  /-- The same with a blank in place of the letter, and without a fraction. -/
  | blank (hclock : t.HasClock 0) (hwhole : (t.momentAt 0).nanos = 0) :
      t.IsSpelling ((t.momentAt 0).dateText ++ ' ' :: (t.momentAt 0).clockText)

variable {t : Instant} {m : Moment} {minutes : Int} {c : Char}
  {rest s zone fraction before after : List Char}

/-! ### Date and time with an offset -/

namespace Time

/-- **Date and time are read back.** -/
theorem readStrictMoment_append (hm : m.IsShown) (hc : c = 'T' ∨ c = 't' ∨ c = ' ')
    (hfraction : IsFraction m.nanos fraction)
    (hrest : ∀ d ∈ rest.head?, d.isDigit = false ∧ d ≠ '.') :
    readStrictMoment (m.dateText ++ c :: (m.clockText ++ (fraction ++ rest))) =
      some (m, rest) := by
  obtain ⟨hyear₁, hyear₂, -, hmonth, hday, hhour, hminute, hsecond⟩ := hm
  have hyear : (m.year.natAbs : Int) = m.year := Int.natAbs_of_nonneg hyear₁
  have hseparator : ∀ r, readSeparator (c :: r) = some r := fun r => if_pos hc
  have hdigits : ∀ r, readDigits 4 4 (padded 4 m.year.natAbs ++ r) = some (m.year.natAbs, r) :=
    readDigits_padded (by decide) (by omega)
  have hfield : ∀ n < 100, ∀ r, readDigits 2 2 (padded 2 n ++ r) = some (n, r) :=
    fun n hn => readDigits_padded (by decide) hn
  simp only [readStrictMoment, Moment.dateText, Moment.clockText, List.append_assoc,
    List.cons_append, Option.bind_eq_bind, Option.bind_some, hdigits, readChar_cons, hseparator,
    hfield m.month (by omega), hfield m.day hday, hfield m.hour hhour, hfield m.minute hminute,
    hfield m.second hsecond, readFraction_append hfraction hrest, hyear, Option.pure_def]

theorem readZone_eq (hzone : IsZone minutes zone) (hlt : minutes.natAbs < 1440) :
    readZone (readChar ':') zone = some (minutes * 60, []) := by
  cases hzone with
  | letter hc => rcases hc with rfl | rfl <;> rfl
  | offset hs =>
    have hoffset : readZone (readChar ':') zone = readOffset true (readChar ':') zone := by
      cases hs <;> rfl
    rw [hoffset, readOffset_eq hs hlt (readChar_cons ':')]

theorem head?_of_isZone (hzone : IsZone minutes zone) :
    ∀ d ∈ zone.head?, d.isDigit = false ∧ d ≠ '.' := by
  cases hzone with
  | letter hc => rcases hc with rfl | rfl <;> simp
  | offset hs => cases hs <;> simp

/-- **The reader of date and time with an offset.** -/
theorem readStrict?_eq (hm : m.IsShown) (hc : c = 'T' ∨ c = 't' ∨ c = ' ')
    (hfraction : IsFraction m.nanos fraction) (hzone : IsZone minutes zone)
    (hlt : minutes.natAbs < 1440) :
    readStrict? (m.dateText ++ c :: (m.clockText ++ (fraction ++ zone))) =
      m.toInstant? (minutes * 60) := by
  simp [readStrict?, readStrictMoment_append hm hc hfraction (head?_of_isZone hzone),
    readZone_eq hzone hlt]

/-- It needs an offset. -/
theorem readStrict?_eq_none (hm : m.IsShown) (hc : c = 'T' ∨ c = 't' ∨ c = ' ')
    (hfraction : IsFraction m.nanos fraction) :
    readStrict? (m.dateText ++ c :: (m.clockText ++ fraction)) = none := by
  have hread : readStrictMoment (m.dateText ++ c :: (m.clockText ++ (fraction ++ []))) =
      some (m, []) := readStrictMoment_append hm hc hfraction (by simp)
  have hzone : readZone (readChar ':') [] = none := rfl
  rw [List.append_nil] at hread
  simp [readStrict?, hread, hzone]

/-! ### Date and time without an offset -/

theorem yearText_of_isShown (hm : m.IsShown) :
    Instant.yearText m.year = padded 4 m.year.natAbs := by
  rw [Instant.yearText, if_pos (by simp [hm.year_nonneg, hm.year_le])]

theorem readDate_dateText (hm : m.IsShown) (rest : List Char) :
    readDate id (m.dateText ++ rest) = some ((m.year, m.month, m.day), rest) := by
  have hmonth := hm.month_le
  have hread := readDate_append id (fun _ => rfl) m.year (show m.month < 100 by omega)
    hm.day_lt rest
  rw [yearText_of_isShown hm] at hread
  simpa [Moment.dateText] using hread

theorem readTime_clockText (hm : m.IsShown) (rest : List Char) :
    readTime id (m.clockText ++ rest) = some ((m.hour, m.minute, m.second), rest) := by
  have hread := readTime_append id (fun _ => rfl) hm.hour_lt hm.minute_lt hm.second_lt rest
  simpa [Moment.clockText] using hread

/-- **The reader of date and time without an offset.** -/
theorem readBare?_eq (hm : m.IsShown) (hfraction : IsFraction m.nanos fraction) :
    readBare? (m.dateText ++ 'T' :: (m.clockText ++ fraction)) = m.toInstant? 0 := by
  have hread : readFraction (fraction ++ []) = some (m.nanos, []) :=
    readFraction_append hfraction (by simp)
  rw [List.append_nil] at hread
  simp [readBare?, readDate_dateText hm, readTime_clockText hm, hread]

theorem readBare?_blank (hm : m.IsShown) (hwhole : m.nanos = 0) :
    readBare? (m.dateText ++ ' ' :: m.clockText) = m.toInstant? 0 := by
  have hskip : ∀ s, readTime id (' ' :: s) = readTime id s := fun _ => rfl
  have hread := readTime_clockText hm []
  rw [List.append_nil] at hread
  simp [readBare?, readDate_dateText hm, hskip, hread, ← hwhole]

theorem isEnded_of_isZone (hzone : IsZone minutes zone) : IsEnded zone := by
  cases hzone with
  | letter hc =>
    exact .of_isAlphanum (by simp)
      (List.forall_mem_singleton.mpr (by rcases hc with rfl | rfl <;> rfl))
  | offset hs => exact isEnded_of_isOffset hs

end Time

namespace Instant

/-- Blanks around a text that starts and ends with a letter or a digit do not count. -/
theorem parse?_append (hbefore : ∀ c ∈ before, isSpace c = true)
    (hhead : ∀ c ∈ s.head?, c.isAlphanum = true) (hlast : IsEnded s)
    (hafter : ∀ c ∈ after, isSpace c = true) : parse? (before ++ (s ++ after)) =
      (readStrict? s).or ((readMail? s).or (readBare? s)) := by
  obtain ⟨front, d, rfl, hd⟩ := hlast
  have htrim : trim (before ++ (front ++ [d] ++ after)) = front ++ [d] :=
    trimWhere_append hbefore (fun c hc => isSpace_eq_false_of_isAlphanum (hhead c hc))
      (isSpace_eq_false_of_isAlphanum hd) hafter
  rw [parse?, htrim]

/-- The text in stored records is one with a letter for the offset. -/
theorem text_eq (hclock : t.HasClock 0) : t.text.toList =
    (t.momentAt 0).dateText ++ 'T' :: ((t.momentAt 0).clockText ++
      (fractionText (t.momentAt 0).nanos ++ ['Z'])) := by
  have hyear : yearText (t.momentAt 0).year = padded 4 (t.momentAt 0).year.natAbs :=
    if_pos (by simp [hclock.year_nonneg, hclock.year_le])
  rw [text, String.toList_ofList, ← momentAt_zero, momentText, hyear, Moment.dateText,
    Moment.clockText]
  simp

/-- **All spellings of an instant denote it**, blanks around them or not. -/
theorem IsProper.parse?_of_isSpelling (ht : t.IsProper) (hs : t.IsSpelling s)
    (hbefore : ∀ c ∈ before, isSpace c = true) (hafter : ∀ c ∈ after, isSpace c = true) :
    parse? (before ++ (s ++ after)) = some t := by
  have hstrict {minutes : Int} {c : Char} {fraction zone : List Char}
      (hclock : t.HasClock minutes) (hc : c = 'T' ∨ c = 't' ∨ c = ' ')
      (hfraction : IsFraction (t.momentAt minutes).nanos fraction) (hzone : IsZone minutes zone) :
      parse? (before ++ ((t.momentAt minutes).dateText ++ c :: ((t.momentAt minutes).clockText ++
        (fraction ++ zone)) ++ after)) = some t := by
    rw [parse?_append hbefore (head?_dateText_append _ _)
      (isEnded_of_isZone hzone |>.append _ |>.append _ |>.cons c |>.append _) hafter,
      readStrict?_eq (ht.isShown_momentAt hclock) hc hfraction hzone hclock.lt,
      ht.toInstant?_momentAt hclock]
    rfl
  cases hs with
  | strict minutes hclock hc hfraction hzone => exact hstrict hclock hc hfraction hzone
  | stored hclock =>
    rw [text_eq hclock]
    exact hstrict hclock (Or.inl rfl) (isFraction_fractionText ht.nanos_toMoment_lt)
      (.letter (Or.inl rfl))
  | mail minutes hclock hwhole hzone hs =>
    have hshown := ht.isShown_momentAt hclock
    have hday : weekday ((t.later minutes).seconds / 86400) =
        weekday (dayNumber (t.momentAt minutes).year (t.momentAt minutes).month
          (t.momentAt minutes).day) :=
      congrArg weekday (dayNumber_dateOf _).symm
    have hnanos : (t.momentAt minutes).nanos = 0 := by
      simp [momentAt, toMoment, Instant.later, hwhole]
    rw [hday] at hs
    rw [parse?_append hbefore (head?_of_isMailText hs) (isEnded_of_isMailText hs hzone) hafter,
      readStrict?_eq_none_of_isMailText hshown.day_lt hs,
      readMail?_eq hshown hnanos hzone hclock.lt hs, ht.toInstant?_momentAt hclock]
    rfl
  | bare hclock hfraction =>
    have hshown := ht.isShown_momentAt hclock
    rw [parse?_append hbefore (head?_dateText_append _ _)
      (isEnded_clockText _ hfraction |>.cons 'T' |>.append _) hafter,
      readStrict?_eq_none hshown (Or.inl rfl) hfraction, readMail?_eq_none hshown,
      readBare?_eq hshown hfraction]
    exact ht.toInstant?_momentAt hclock
  | blank hclock hwhole =>
    have hshown := ht.isShown_momentAt hclock
    have hfraction : IsFraction (t.momentAt 0).nanos [] := hwhole ▸ .none
    have hended := isEnded_clockText (t.momentAt 0) hfraction
    have hnone := readStrict?_eq_none hshown (Or.inr (Or.inr rfl)) hfraction
    rw [List.append_nil] at hended hnone
    rw [parse?_append hbefore (head?_dateText_append _ _) (hended.cons ' ' |>.append _) hafter,
      hnone, readMail?_eq_none hshown, readBare?_blank hshown hwhole]
    exact ht.toInstant?_momentAt hclock

/-- Within a leap second, in the next year, and in a mail header of the year before. -/
theorem parse?_of_isSpelling_year_end :
    let leap : Instant := ⟨1483228799, 1500000000⟩
    let whole : Instant := ⟨1483228799, 0⟩
    (leap.IsProper ∧ leap.IsSpelling "2017-01-01T05:29:60.5+05:30".toList ∧
      parse? "\n2017-01-01T05:29:60.5+05:30 ".toList = some leap) ∧
    whole.IsProper ∧ whole.IsSpelling "Sat, 31 Dec 2016 15:59:59 PST".toList ∧
      parse? " Sat, 31 Dec 2016 15:59:59 PST\n".toList = some whole := by
  intro leap whole
  have hleap : leap.IsProper := ⟨by decide, by decide⟩
  have hwhole : whole.IsProper := ⟨by decide, by decide⟩
  have hstrict : leap.IsSpelling "2017-01-01T05:29:60.5+05:30".toList := by
    have htext : "2017-01-01T05:29:60.5+05:30".toList =
        (leap.momentAt 330).dateText ++ 'T' :: ((leap.momentAt 330).clockText ++
          ('.' :: padded 1 5 ++ '+' :: (padded 2 5 ++ ([':'] ++ padded 2 30)))) := by
      decide +kernel
    have hnanos : (leap.momentAt 330).nanos = 5 * 10 ^ (9 - 1) := by decide +kernel
    have hfraction : IsFraction (leap.momentAt 330).nanos ('.' :: padded 1 5) := by
      rw [hnanos]
      exact .digits (by decide) (by decide) (by decide)
    have hzone : IsZone 330 ('+' :: (padded 2 5 ++ ([':'] ++ padded 2 30))) :=
      .offset (.ahead 330)
    rw [htext]
    exact .strict 330 ⟨by decide, by decide, by decide⟩ (Or.inl rfl) hfraction hzone
  have hmail : whole.IsSpelling "Sat, 31 Dec 2016 15:59:59 PST".toList := by
    have htext : "Sat, 31 Dec 2016 15:59:59 PST".toList =
        ("Sat".toList ++ [',', ' ']) ++ (padded 1 31 ++ (whole.momentAt (-480)).mailTail
          "Dec".toList (':' :: padded 2 59) "PST".toList) := by
      decide +kernel
    have hzone : IsMailZone (-480) "PST".toList := by
      simpa using IsMailZone.name (z := ("pst", -8)) (w := "PST".toList) (by decide) (by decide)
    have hsecond : (whole.momentAt (-480)).second = 59 := by decide +kernel
    rw [htext]
    exact .mail (-480) ⟨by decide, by decide, by decide⟩ rfl hzone
      (.parts (.name rfl) (Or.inl rfl) rfl (hsecond.symm ▸ .some 59))
  have hbreak : ∀ c ∈ ['\n'], isSpace c = true := List.forall_mem_singleton.mpr rfl
  have hblank : ∀ c ∈ [' '], isSpace c = true := List.forall_mem_singleton.mpr rfl
  exact ⟨⟨hleap, hstrict, hleap.parse?_of_isSpelling hstrict hbreak hblank⟩, hwhole, hmail,
    hwhole.parse?_of_isSpelling hmail hblank hbreak⟩

end Instant

end Metasearch
