import Metasearch.Proofs.Text.Case
import Metasearch.Proofs.Time.Clock

/-!
# Timestamps of mail headers

A mail header writes a date with names, its fields between blanks: the day of the week, which may be
left out, the day of the month in one digit or two, the name of the month, year, time of day, and
the zone as an offset or as a name. Such a text is taken by the reader of mail headers, and not by
the one of fields of full width, which needs four digits at the start. A date that starts with its
year is no mail header: the day of the month has at most two digits, and a blank behind.

## Main definitions

* `IsName`, `IsMailZone`: names of days, months and zones, in letters of either case.
* `Moment.IsMailText`: what stands in a mail header.

## Main results

* `readMail?_eq`: the reader of mail headers.
* `readStrict?_eq_none_of_isMailText`, `readMail?_eq_none`: the other forms are told apart.
-/

namespace Metasearch

open Metasearch.Number Metasearch.Text Metasearch.Time

/-! ### What stands in a mail header -/

/-- The zone of a mail header: its name, or an offset. -/
inductive IsMailZone : Int → List Char → Prop
  /-- A name, in letters of either case. -/
  | name {z : String × Int} {w : List Char} (hz : z ∈ zoneHours) (hw : lower w = z.1.toList) :
      IsMailZone (z.2 * 60) w
  /-- An offset. -/
  | offset {minutes : Int} {s : List Char} (hs : IsOffset [] minutes s) : IsMailZone minutes s

/-- A name of a list, in letters of either case. -/
def IsName (names : List String) (i : Nat) (w : List Char) : Prop :=
  names[i]? = some (String.ofList (lower w))

/-- The day of the week in front of a date, or nothing. -/
inductive IsDayName (weekday : Nat) : List Char → Prop
  /-- Nothing. -/
  | none : IsDayName weekday []
  /-- The name of the day. -/
  | name {w : List Char} (hw : IsName dayNames weekday w) : IsDayName weekday (w ++ [',', ' '])

/-- The seconds after the minutes; they may be left out when there are none. -/
inductive IsMailSecond : Nat → List Char → Prop
  /-- Nothing. -/
  | none : IsMailSecond 0 []
  /-- The seconds. -/
  | some (second : Nat) : IsMailSecond second (':' :: padded 2 second)

/-- What stands in a mail header behind the day of the month, its parts with blanks in between. -/
def Moment.mailTail (m : Moment) (month second zone : List Char) : List Char :=
  ' ' :: (month ++ ' ' :: (padded 4 m.year.natAbs ++ ' ' :: (padded 2 m.hour ++ ':' ::
    (padded 2 m.minute ++ (second ++ ' ' :: zone)))))

/-- What stands in a mail header, for the day of the week of the date. The day of the month may have
one digit. -/
inductive Moment.IsMailText (m : Moment) (weekday : Nat) (zone : List Char) : List Char → Prop
  /-- The parts. -/
  | parts {dayName month second : List Char} {width : Nat} (hdayName : IsDayName weekday dayName)
      (hwidth : width = 1 ∨ width = 2) (hmonth : IsName monthNames (m.month - 1) month)
      (hsecond : IsMailSecond m.second second) :
      m.IsMailText weekday zone (dayName ++ (padded width m.day ++ m.mailTail month second zone))

variable {m : Moment} {minutes : Int} {names : List String} {i n : Nat} {c : Char}
  {rest s w zone : List Char}

namespace Time

/-! ### Names -/

/-- The names of a list that can be told apart by three letters. -/
structure IsNameList (names : List String) : Prop where
  /-- No two names are the same. -/
  nodup : names.Nodup
  /-- Each has three letters. -/
  length : ∀ name ∈ names, name.toList.length = 3
  /-- They are small letters. -/
  isAlpha : ∀ name ∈ names, name.toList.all Char.isAlpha = true

theorem isNameList_dayNames : IsNameList dayNames :=
  ⟨by decide, by decide, by decide⟩

theorem isNameList_monthNames : IsNameList monthNames :=
  ⟨by decide, by decide, by decide⟩

theorem length_of_isName (hnames : IsNameList names) (hw : IsName names i w) : w.length = 3 := by
  have hlength := hnames.length _ (List.mem_of_getElem? hw)
  simpa [lower] using hlength

theorem isAlpha_of_lower (hs : (lower s).all Char.isAlpha = true) : ∀ c ∈ s, c.isAlpha = true :=
  fun c hc => (apply_toLower (f := Char.isAlpha) (by decide) c).symm.trans
    (List.all_eq_true.mp hs _ (List.mem_map_of_mem hc))

theorem isAlpha_of_isName (hnames : IsNameList names) (hw : IsName names i w) :
    ∀ c ∈ w, c.isAlpha = true :=
  isAlpha_of_lower (by simpa using hnames.isAlpha _ (List.mem_of_getElem? hw))

theorem head?_isName_append (hnames : IsNameList names) (hw : IsName names i w) (rest : List Char) :
    ∀ c ∈ (w ++ rest).head?, c.isAlpha = true := by
  intro c hc
  have hne : w ≠ [] := List.ne_nil_of_length_pos (by rw [length_of_isName hnames hw]; decide)
  rw [List.head?_append_of_ne_nil _ hne] at hc
  exact isAlpha_of_isName hnames hw c (List.mem_of_mem_head? hc)

/-- **A name is read back.** -/
theorem readName_append (hnames : IsNameList names) (hw : IsName names i w) (rest : List Char) :
    readName names (w ++ rest) = some (i, rest) := by
  have htake : (w ++ rest).take 3 = w := List.take_left' (length_of_isName hnames hw)
  have hdrop : (w ++ rest).drop 3 = rest := List.drop_left' (length_of_isName hnames hw)
  obtain ⟨hi, hname⟩ := List.getElem?_eq_some_iff.mp hw
  have hfind : names.findIdx? (· == String.ofList (lower w)) = some i := by
    rw [List.findIdx?_eq_some_iff_getElem]
    refine ⟨hi, by simp [hname], fun j hj hsame => ?_⟩
    rw [beq_iff_eq, ← hname] at hsame
    exact List.pairwise_iff_getElem.mp hnames.nodup j i (hj.trans hi) hi hj hsame
  rw [readName, htake, hfind, hdrop]

/-- No name starts with a digit. -/
theorem readName_eq_none (hnames : IsNameList names) (hc : c.isDigit = true) :
    readName names (c :: rest) = none := by
  have hfind : names.findIdx? (· == String.ofList (lower ((c :: rest).take 3))) = none := by
    rw [List.findIdx?_eq_none_iff]
    intro name hname
    rw [beq_eq_false_iff_ne]
    rintro rfl
    have hletters := isAlpha_of_lower (by simpa using hnames.isAlpha _ hname)
    have hletter := isDigit_eq_false_of_isAlpha (hletters c List.mem_cons_self)
    exact Bool.false_ne_true (hletter.symm.trans hc)
  rw [readName, hfind]

/-! ### Fields of a mail header -/

/-- The day of the week is read, or left out. -/
theorem readDayName_append {weekday : Nat} (hs : IsDayName weekday s) (width n : Nat)
    (rest : List Char) : ∃ day r, readDayName (s ++ (padded width n ++ rest)) = some (day, r) ∧
      skipSpace r = padded width n ++ rest ∧ ∀ i ∈ day, weekday = i := by
  cases hs with
  | none =>
    obtain ⟨c, digits, hcons, hc⟩ := exists_cons_padded width n
    refine ⟨none, _, ?_, skipSpace_padded width n rest, by simp⟩
    rw [List.nil_append, hcons, List.cons_append, readDayName,
      readName_eq_none isNameList_dayNames hc]
  | name hw =>
    refine ⟨some weekday, ' ' :: (padded width n ++ rest), ?_, skipSpace_padded width n rest,
      by simp⟩
    rw [List.append_assoc, readDayName, readName_append isNameList_dayNames hw]
    rfl

/-- A year of four digits stands for itself. -/
theorem readMailYear_append (hn : n < 10000) (hrest : ∀ c ∈ rest.head?, c.isDigit = false) :
    readMailYear (padded 4 n ++ rest) = some ((n : Int), rest) := by
  have hlength : (padded 4 n).length = 4 := length_padded (by decide) hn
  have hdigits : readDigits 2 (padded 4 n ++ rest).length (padded 4 n ++ rest) =
      some (n, rest) := by
    rw [readDigits_append (fun _ => isDigit_of_mem_padded) (by omega) (by simp) (.inr hrest),
      value_padded]
  rw [readMailYear, hdigits]
  simp [hlength]

theorem readMailSecond_append (hs : IsMailSecond n s) (hn : n < 100)
    (hzone : ∀ c ∈ zone.head?, isSpace c = false ∧ c ≠ ':') :
    readMailSecond (s ++ ' ' :: zone) = some (n, ' ' :: zone) := by
  cases hs with
  | some =>
    have hcolon : readChar ':' (skipSpace (':' :: (padded 2 n ++ ' ' :: zone))) =
        some (padded 2 n ++ ' ' :: zone) := rfl
    rw [List.cons_append, readMailSecond, hcolon]
    exact readDigits_padded (by decide) hn _
  | none =>
    have hcolon : readChar ':' (skipSpace (' ' :: zone)) = none := by
      change readChar ':' (skipSpace zone) = none
      rw [skipSpace_of_head? fun c hc => (hzone c hc).1]
      cases zone with
      | nil => rfl
      | cons c r => exact if_neg fun h => (hzone c rfl).2 h.symm
    rw [List.nil_append, readMailSecond, hcolon]

theorem isAlpha_of_zoneHours {z : String × Int} (hz : z ∈ zoneHours) (hw : lower w = z.1.toList) :
    ∀ c ∈ w, c.isAlpha = true := by
  have hall : ∀ z ∈ zoneHours, z.1.toList.all Char.isAlpha = true := by decide
  exact isAlpha_of_lower (hw ▸ hall z hz)

theorem ne_nil_of_zoneHours {z : String × Int} (hz : z ∈ zoneHours) (hw : lower w = z.1.toList) :
    w ≠ [] := by
  have hall : ∀ z ∈ zoneHours, z.1.toList ≠ [] := by decide
  rintro rfl
  exact hall z hz hw.symm

/-- **The zone of a mail header is read back.** -/
theorem readMailZone_eq (hzone : IsMailZone minutes zone) (hlt : minutes.natAbs < 1440) :
    readMailZone zone = some (minutes * 60, []) := by
  cases hzone with
  | @name z w hz hw =>
    have hletters := isAlpha_of_zoneHours hz hw
    have hname : zone.takeWhile Char.isAlpha = zone := List.takeWhile_eq_self_iff.mpr hletters
    have hne : zone ≠ [] := ne_nil_of_zoneHours hz hw
    have hfind : zoneHours.find? (fun y => y.1 == String.ofList (lower zone)) = some z := by
      have hall : ∀ z ∈ zoneHours, zoneHours.find? (fun y => y.1 == z.1) = some z := by decide
      rw [hw, String.ofList_toList]
      exact hall z hz
    have hseconds : z.2 * 60 * 60 = z.2 * 3600 := Int.mul_assoc _ _ _
    simp [readMailZone, hname, hne, hfind, hseconds]
  | offset hs =>
    have hoffset : readMailZone zone = readOffset false some zone := by
      cases hs <;> rfl
    rw [hoffset, readOffset_eq hs hlt fun _ => rfl]

theorem head?_of_isMailZone (hzone : IsMailZone minutes zone) :
    ∀ c ∈ zone.head?, isSpace c = false ∧ c ≠ ':' := by
  cases hzone with
  | name hz hw =>
    intro c hc
    have hletter := isAlpha_of_zoneHours hz hw c (List.mem_of_mem_head? hc)
    refine ⟨isSpace_eq_false_of_isAlphanum (isAlphanum_of_isAlpha hletter), ?_⟩
    rintro rfl
    cases hletter
  | offset hs => cases hs <;> simp <;> decide

/-- What a text starts with that has a field behind a day of the week. -/
theorem head?_isDayName_append {weekday : Nat} (hs : IsDayName weekday s) (width n : Nat)
    (rest : List Char) : ∀ c ∈ (s ++ (padded width n ++ rest)).head?, c.isAlphanum = true := by
  intro c hc
  cases hs with
  | none =>
    obtain ⟨d, digits, hcons, hd⟩ := exists_cons_padded width n
    rw [List.nil_append, hcons] at hc
    obtain rfl := Option.some.inj hc
    exact isAlphanum_of_isDigit hd
  | name hw =>
    rw [List.append_assoc] at hc
    exact isAlphanum_of_isAlpha (head?_isName_append isNameList_dayNames hw _ c hc)

theorem length_padded_le {width : Nat} (hwidth : width = 1 ∨ width = 2) (hn : n < 100) :
    (padded width n).length ≤ 2 := by
  have hnumeral := length_numeral_le (k := 1) hn
  simp only [padded, List.length_append, List.length_replicate]
  omega

/-- The day of the month has one or two digits. -/
theorem readDigits_day {width : Nat} (hwidth : width = 1 ∨ width = 2) (hn : n < 100)
    (rest : List Char) :
    readDigits 1 2 (padded width n ++ ' ' :: rest) = some (n, ' ' :: rest) := by
  obtain ⟨c, digits, hcons, -⟩ := exists_cons_padded width n
  have hpos : 1 ≤ (padded width n).length := by simp [hcons]
  rw [readDigits_append (fun _ => isDigit_of_mem_padded) hpos (length_padded_le hwidth hn)
    (.inr (by simp)), value_padded]

/-! ### Mail headers -/

/-- **The reader of mail headers.** -/
theorem readMail?_eq (hm : m.IsShown) (hwhole : m.nanos = 0) (hzone : IsMailZone minutes zone)
    (hlt : minutes.natAbs < 1440)
    (hs : m.IsMailText (weekday (dayNumber m.year m.month m.day)) zone s) :
    readMail? s = m.toInstant? (minutes * 60) := by
  obtain @⟨dayName, month, second, width, hdayName, hwidth, hmonth, hsecond⟩ := hs
  obtain ⟨hyear₁, hyear₂, hmonth₁, hmonth₂, hday, hhour, hminute, hsecond₂⟩ := hm
  -- each reader takes its part and leaves what is behind
  obtain ⟨day, r, hreadDayName, hskip, hfits⟩ :=
    readDayName_append hdayName width m.day (m.mailTail month second zone)
  have hstart := skipSpace_of_head? fun c hc => isSpace_eq_false_of_isAlphanum
    (head?_isDayName_append hdayName width m.day (m.mailTail month second zone) c hc)
  rw [Moment.mailTail] at hreadDayName hskip hstart ⊢
  have hreadDay := readDigits_day hwidth hday
  have hreadMonth := readName_append isNameList_monthNames hmonth
  have hmonthSpace := fun r => readSpace_cons fun c hc =>
    isSpace_eq_false_of_isAlphanum
      (isAlphanum_of_isAlpha (head?_isName_append isNameList_monthNames hmonth r c hc))
  have hreadYear (r : List Char) : readMailYear (padded 4 m.year.natAbs ++ ' ' :: r) =
      some ((m.year.natAbs : Int), ' ' :: r) := readMailYear_append (by omega) (by simp)
  have hspace (k n : Nat) (r : List Char) : readSpace (' ' :: (padded k n ++ r)) =
      some (padded k n ++ r) := congrArg some (skipSpace_padded k n r)
  have hreadHour := readDigits_padded (k := 2) (by decide) hhour
  have hreadMinute (r : List Char) :
      readDigits 2 2 (skipSpace (padded 2 m.minute ++ r)) = some (m.minute, r) := by
    rw [skipSpace_padded, readDigits_padded (by decide) hminute]
  have hreadSecond := readMailSecond_append hsecond hsecond₂ (head?_of_isMailZone hzone)
  have hzoneSpace := readSpace_cons fun c hc => (head?_of_isMailZone hzone c hc).1
  have hreadZone := readMailZone_eq hzone hlt
  have hcomments : skipComments [] = [] := by rw [skipComments]; rfl
  have hall : (day.all fun i => weekday (dayNumber m.year m.month m.day) == i) = true := by
    rw [Option.all_eq_true]
    exact fun i hi => beq_iff_eq.mpr (hfits i hi)
  -- and what they give are the fields
  have hyear : (m.year.natAbs : Int) = m.year := Int.natAbs_of_nonneg hyear₁
  have hmonth_eq : m.month - 1 + 1 = m.month := Nat.sub_add_cancel hmonth₁
  rw [readMail?, hstart]
  refine (bind_of_eq_some hreadDayName _).trans ?_
  refine (bind_of_eq_some (hskip ▸ hreadDay _) _).trans ?_
  refine (bind_of_eq_some (hmonthSpace _) _).trans ?_
  refine (bind_of_eq_some (hreadMonth _) _).trans ?_
  refine (bind_of_eq_some (hspace _ _ _) _).trans ?_
  refine (bind_of_eq_some (hreadYear _) _).trans ?_
  refine (bind_of_eq_some (hspace _ _ _) _).trans ?_
  refine (bind_of_eq_some (hreadHour _) _).trans ?_
  refine (bind_of_eq_some (readChar_cons _ _) _).trans ?_
  refine (bind_of_eq_some (hreadMinute _) _).trans ?_
  refine (bind_of_eq_some hreadSecond _).trans ?_
  refine (bind_of_eq_some hzoneSpace _).trans ?_
  refine (bind_of_eq_some hreadZone _).trans ?_
  simp only [hcomments, hall, hyear, hmonth_eq, ← hwhole, List.isEmpty_nil, Bool.and_self, if_true]

/-- Mail headers do not start with four digits. -/
theorem readStrict?_eq_none_of_isMailText {weekday : Nat} (hday : m.day < 100)
    (hs : m.IsMailText weekday zone s) : readStrict? s = none := by
  have hnone : readDigits 4 4 s = none := by
    obtain @⟨dayName, month, second, width, hdayName, hwidth, hmonth, hsecond⟩ := hs
    cases hdayName with
    | none =>
      have hle := length_padded_le hwidth hday
      exact readDigits_eq_none _ (by omega) rfl
    | @name w hw =>
      obtain ⟨c, r, rfl⟩ := List.exists_cons_of_length_eq_add_one
        (length_of_isName isNameList_dayNames hw)
      exact readDigits_eq_none [] (by decide) (isDigit_eq_false_of_isAlpha
        (isAlpha_of_isName isNameList_dayNames hw c List.mem_cons_self))
  rw [readStrict?, readStrictMoment, hnone]
  rfl

/-- Three digits are more than a day of the month has. -/
theorem readMail?_eq_none (hm : m.IsShown) (rest : List Char) :
    readMail? (m.dateText ++ rest) = none := by
  have hlength : (padded 4 m.year.natAbs).length = 4 := by
    have hyear₁ := hm.year_nonneg
    have hyear₂ := hm.year_le
    exact length_padded (by decide) (by omega)
  obtain ⟨a, b, c, d, heq⟩ := List.length_eq_four.mp hlength
  have hdigit : ∀ e ∈ [a, b, c, d], e.isDigit = true := heq ▸ fun e => isDigit_of_mem_padded
  simp only [List.forall_mem_cons] at hdigit
  obtain ⟨ha, hb, hc, -⟩ := hdigit
  rw [Moment.dateText, heq, List.append_assoc, List.cons_append]
  generalize '-' :: (padded 2 m.month ++ '-' :: padded 2 m.day) ++ rest = r
  have hskip : skipSpace (a :: b :: c :: d :: r) = a :: b :: c :: d :: r :=
    skipSpace_of_head? (by simp [isSpace_eq_false_of_isDigit ha])
  have hname : readDayName (a :: b :: c :: d :: r) = some (none, a :: b :: c :: d :: r) := by
    rw [readDayName, readName_eq_none isNameList_dayNames ha]
  have hday : readDigits 1 2 (a :: b :: c :: d :: r) = some (value [a, b], c :: d :: r) :=
    readDigits_append (s := [a, b]) (by simp [ha, hb]) (by simp) (by simp) (.inl rfl)
  have hspace : readSpace (c :: d :: r) = none :=
    if_neg (by rw [isSpace_eq_false_of_isDigit hc]; exact Bool.false_ne_true)
  rw [List.cons_append, List.cons_append, List.cons_append, List.nil_append, readMail?, hskip]
  refine (bind_of_eq_some hname _).trans ?_
  refine (bind_of_eq_some (hskip.symm ▸ hday) _).trans ?_
  change readSpace (c :: d :: r) >>= _ = none
  rw [hspace]
  rfl

theorem isEnded_of_isMailZone (hzone : IsMailZone minutes zone) : IsEnded zone := by
  cases hzone with
  | name hz hw =>
    refine .of_isAlphanum (ne_nil_of_zoneHours hz hw) fun c hc =>
      isAlphanum_of_isAlpha (isAlpha_of_zoneHours hz hw c hc)
  | offset hs => exact isEnded_of_isOffset hs

theorem head?_of_isMailText {weekday : Nat} (hs : m.IsMailText weekday zone s) :
    ∀ c ∈ s.head?, c.isAlphanum = true := by
  obtain ⟨hdayName, -, -, -⟩ := hs
  exact head?_isDayName_append hdayName _ _ _

theorem isEnded_of_isMailText {weekday : Nat} (hs : m.IsMailText weekday zone s)
    (hzone : IsMailZone minutes zone) : IsEnded s := by
  obtain ⟨-, -, -, -⟩ := hs
  exact isEnded_of_isMailZone hzone |>.cons ' ' |>.append _ |>.append _ |>.cons ':' |>.append _
    |>.cons ' ' |>.append _ |>.cons ' ' |>.append _ |>.cons ' ' |>.append _ |>.append _

end Time

end Metasearch
