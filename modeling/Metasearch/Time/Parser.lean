import Metasearch.Number.Power
import Metasearch.Text.Space
import Metasearch.Time.Instant

/-!
# Reading timestamps

Feeds and interfaces write timestamps in several ways. Each reader takes a text from its start
and gives back what is left; a timestamp is read when one reader takes it whole.

## Main definitions

* `readStrict?`: date, `T` and time with an offset, every field of fixed width.
* `readMail?`: the form of mail headers, as in `Fri, 05 Jan 2024 10:30:00 GMT`.
* `readBare?`: date and time without an offset, in UTC.
* `readRelaxed?`: as the first, with blanks and narrower fields allowed.
* `Instant.parse?`: the first three in turn.
-/

namespace Metasearch.Time

open Metasearch.Text Metasearch.Number

/-! ### Parts -/

/-- A number of `least` to `most` digits; more digits are left. -/
def readDigits (least most : Nat) (s : List Char) : Option (Nat × List Char) :=
  let digits := (s.takeWhile Char.isDigit).take most
  if digits.length < least then none else some (value digits, s.drop digits.length)

/-- A given character. -/
def readChar (c : Char) : List Char → Option (List Char)
  | d :: r => if c = d then some r else none
  | [] => none

/-- The text after white space at its start. -/
def skipSpace (s : List Char) : List Char :=
  s.dropWhile isSpace

/-- White space, at least one character of it. -/
def readSpace : List Char → Option (List Char)
  | c :: r => if isSpace c then some (skipSpace r) else none
  | [] => none

/-- The digits after a decimal point as nanoseconds; from the tenth on they do not count. -/
def readNanos (s : List Char) : Option (Nat × List Char) :=
  let digits := s.takeWhile Char.isDigit
  let kept := digits.take 9
  if digits.isEmpty then none
  else some (value kept * tenTo (9 - kept.length), s.drop digits.length)

/-- A fraction of a second, if a point starts one. -/
def readFraction : List Char → Option (Nat × List Char)
  | '.' :: r => readNanos r
  | s => some (0, s)

/-- The sign of an offset; `wide` allows the minus sign of typography. -/
def readSign (wide : Bool) : List Char → Option (Bool × List Char)
  | '+' :: r => some (false, r)
  | '-' :: r => some (true, r)
  | '\u2212' :: r => if wide then some (true, r) else none
  | _ => none

/-- An offset from UTC in seconds: sign, hours and minutes, with `separate` between them. -/
def readOffset (wide : Bool) (separate : List Char → Option (List Char)) (s : List Char) :
    Option (Int × List Char) := do
  let (negative, s) ← readSign wide s
  let (hours, s) ← readDigits 2 2 s
  let s ← separate s
  let (minutes, s) ← readDigits 2 2 s
  if 59 < minutes then none
  let seconds : Int := (hours * 3600 + minutes * 60 : Nat)
  return (if negative then -seconds else seconds, s)

/-- An offset from UTC, or the letter that stands for none. -/
def readZone (separate : List Char → Option (List Char)) (s : List Char) :
    Option (Int × List Char) :=
  match s with
  | 'Z' :: r => some (0, r)
  | 'z' :: r => some (0, r)
  | _ => readOffset true separate s

/-! ### Strict form -/

/-- What may stand between date and time. -/
def readSeparator : List Char → Option (List Char)
  | c :: r => if c = 'T' ∨ c = 't' ∨ c = ' ' then some r else none
  | [] => none

/-- A moment whose fields all have their full width. -/
def readStrictMoment (s : List Char) : Option (Moment × List Char) := do
  let (year, s) ← readDigits 4 4 s
  let s ← readChar '-' s
  let (month, s) ← readDigits 2 2 s
  let s ← readChar '-' s
  let (day, s) ← readDigits 2 2 s
  let s ← readSeparator s
  let (hour, s) ← readDigits 2 2 s
  let s ← readChar ':' s
  let (minute, s) ← readDigits 2 2 s
  let s ← readChar ':' s
  let (second, s) ← readDigits 2 2 s
  let (nanos, s) ← readFraction s
  return ({ year, month, day, hour, minute, second, nanos }, s)

/-- Date, `T` and time with an offset, every field of fixed width. -/
def readStrict? (s : List Char) : Option Instant := do
  let (moment, s) ← readStrictMoment s
  let (offset, s) ← readZone (readChar ':') s
  if s.isEmpty then moment.toInstant? offset else none

/-! ### Mail form -/

/-- Names of the days of the week, from Monday. -/
def dayNames : List String := ["mon", "tue", "wed", "thu", "fri", "sat", "sun"]

/-- Names of the months, from January. -/
def monthNames : List String :=
  ["jan", "feb", "mar", "apr", "may", "jun", "jul", "aug", "sep", "oct", "nov", "dec"]

/-- The place of a three-letter name, in either case, in a list of names. -/
def readName (names : List String) (s : List Char) : Option (Nat × List Char) :=
  match names.findIdx? (· == String.ofList (lower (s.take 3))) with
  | some i => some (i, s.drop 3)
  | none => none

/-- A day of the week and its comma, if a name of one comes first. -/
def readDayName (s : List Char) : Option (Option Nat × List Char) :=
  match readName dayNames s with
  | some (i, r) => (readChar ',' r).map fun r => (some i, r)
  | none => some (none, s)

/-- A year: two digits are of the years 1950 to 2049, three count from 1900. -/
def readMailYear (s : List Char) : Option (Int × List Char) := do
  let (year, r) ← readDigits 2 s.length s
  let width := s.length - r.length
  let shift :=
    if width = 2 then (if year < 50 then 2000 else 1900) else if width = 3 then 1900 else 0
  return ((year + shift : Nat), r)

/-- The seconds after the minutes, if a colon starts them. -/
def readMailSecond (s : List Char) : Option (Nat × List Char) :=
  match readChar ':' (skipSpace s) with
  | some r => readDigits 2 2 r
  | none => some (0, s)

/-- Names of zones and their hours. -/
def zoneHours : List (String × Int) :=
  [("gmt", 0), ("ut", 0), ("z", 0), ("edt", -4), ("est", -5), ("cdt", -5), ("cst", -6),
    ("mdt", -6), ("mst", -7), ("pdt", -7), ("pst", -8)]

/-- The zone of a mail header: a name, a single letter that stands for none, or an offset. -/
def readMailZone (s : List Char) : Option (Int × List Char) :=
  let name := s.takeWhile Char.isAlpha
  if name.isEmpty then readOffset false some s
  else
    match zoneHours.find? fun z => z.1 == String.ofList (lower name) with
    | some (_, hours) => some (hours * 3600, s.drop name.length)
    | none => if name.length = 1 && lower name != ['j'] then some (0, s.drop 1) else none

/-- What follows a comment, whose opening bracket is read; comments nest, and a backslash takes
away the meaning of the character after it. -/
def skipComment (depth : Nat) : List Char → Option (List Char)
  | [] => none
  | '\\' :: _ :: r => skipComment depth r
  | c :: r =>
    if c = '(' then skipComment (depth + 1) r
    else if c = ')' then if depth = 0 then some r else skipComment (depth - 1) r
    else skipComment depth r

/-- What follows a comment is shorter than the comment with it. -/
theorem length_skipComment_lt {depth : Nat} {s r : List Char}
    (h : skipComment depth s = some r) : r.length < s.length := by
  fun_induction skipComment depth s with
  | case1 => simp at h
  | case2 =>
    rename_i ih
    exact Nat.lt_add_right 2 (ih h)
  | case4 => simp_all
  | case3 | case5 | case6 =>
    rename_i ih
    exact Nat.lt_add_right 1 (ih h)

/-- What follows all comments. -/
def skipComments (s : List Char) : List Char :=
  match _h : skipSpace s with
  | '(' :: r =>
    match _h' : skipComment 0 r with
    | some rest => skipComments rest
    | none => s
  | _ => s
termination_by s.length
decreasing_by
  have h₁ := length_skipComment_lt ‹_›
  have h₂ := (s.dropWhile_suffix isSpace).length_le
  have h₃ := congrArg List.length _h
  simp only [skipSpace, List.length_cons] at h₃
  omega

/-- The form of mail headers. A day of the week has to be the date's own. -/
def readMail? (s : List Char) : Option Instant := do
  let (dayName, s) ← readDayName (skipSpace s)
  let (day, s) ← readDigits 1 2 (skipSpace s)
  let s ← readSpace s
  let (month, s) ← readName monthNames s
  let s ← readSpace s
  let (year, s) ← readMailYear s
  let s ← readSpace s
  let (hour, s) ← readDigits 2 2 s
  let s ← readChar ':' (skipSpace s)
  let (minute, s) ← readDigits 2 2 (skipSpace s)
  let (second, s) ← readMailSecond s
  let s ← readSpace s
  let (offset, s) ← readMailZone s
  let fits := dayName.all fun i => weekday (dayNumber year (month + 1) day) == i
  if (skipComments s).isEmpty && fits then
    Moment.toInstant? ⟨year, month + 1, day, hour, minute, second, 0⟩ offset
  else none

/-! ### Forms with blanks between the fields -/

/-- A field of at most `width` digits, blanks in front. -/
def readField (width : Nat) (s : List Char) : Option (Nat × List Char) :=
  readDigits 1 width (skipSpace s)

/-- A year of at most four digits, or of any number of them after a sign, blanks in front. -/
def readYear (s : List Char) : Option (Int × List Char) :=
  match skipSpace s with
  | '-' :: r => (readDigits 1 r.length r).map fun (n, rest) => (-(n : Int), rest)
  | '+' :: r => (readDigits 1 r.length r).map fun (n, rest) => ((n : Int), rest)
  | r => (readDigits 1 4 r).map fun (n, rest) => ((n : Int), rest)

/-- A date; `gap` tells what may stand before a hyphen. -/
def readDate (gap : List Char → List Char) (s : List Char) :
    Option ((Int × Nat × Nat) × List Char) := do
  let (year, s) ← readYear s
  let s ← readChar '-' (gap s)
  let (month, s) ← readField 2 s
  let s ← readChar '-' (gap s)
  let (day, s) ← readField 2 s
  return ((year, month, day), s)

/-- A time of day without fraction; `gap` tells what may stand before a colon. -/
def readTime (gap : List Char → List Char) (s : List Char) :
    Option ((Nat × Nat × Nat) × List Char) := do
  let (hour, s) ← readField 2 s
  let s ← readChar ':' (gap s)
  let (minute, s) ← readField 2 s
  let s ← readChar ':' (gap s)
  let (second, s) ← readField 2 s
  return ((hour, minute, second), s)

/-- Date and time in UTC; a fraction is allowed after `T` and not after blanks. -/
def readBare? (s : List Char) : Option Instant := do
  let ((year, month, day), s) ← readDate id s
  match s with
  | 'T' :: s =>
    let ((hour, minute, second), s) ← readTime id s
    let (nanos, s) ← readFraction s
    if s.isEmpty then Moment.toInstant? ⟨year, month, day, hour, minute, second, nanos⟩ 0
    else none
  | s =>
    let ((hour, minute, second), s) ← readTime id s
    if s.isEmpty then Moment.toInstant? ⟨year, month, day, hour, minute, second, 0⟩ 0 else none

/-- Colons and blanks. -/
def skipColons (s : List Char) : List Char :=
  s.dropWhile fun c => c == ':' || isSpace c

/-- The zone of a relaxed timestamp. -/
def readRelaxedZone (s : List Char) : Option (Int × List Char) :=
  if lower (s.take 3) == "utc".toList then some (0, s.drop 3)
  else readZone (fun r => some (skipColons r)) s

/-- The strict form, with blanks between the fields and narrower fields allowed. -/
def readRelaxed? (s : List Char) : Option Instant := do
  let ((year, month, day), s) ← readDate skipSpace s
  let s ← readSeparator s
  let ((hour, minute, second), s) ← readTime skipSpace s
  let (nanos, s) ← readFraction s
  let (offset, s) ← readRelaxedZone (skipSpace s)
  if isBlank s then Moment.toInstant? ⟨year, month, day, hour, minute, second, nanos⟩ offset
  else none

end Metasearch.Time

namespace Metasearch.Instant

open Metasearch.Text Metasearch.Time

/-- The instant that a timestamp denotes, in whichever form it is written. -/
def parse? (s : List Char) : Option Instant :=
  let s := trim s
  (readStrict? s).or ((readMail? s).or (readBare? s))

/-- The instant that a timestamp of a stored record denotes. -/
def ofText? (s : String) : Option Instant :=
  readRelaxed? s.toList

end Metasearch.Instant
