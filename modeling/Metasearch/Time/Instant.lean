import Metasearch.Number.Decimal
import Metasearch.Time.Calendar

/-!
# Instants

A point in time is a number of seconds since 1970-01-01T00:00:00Z and nanoseconds after it. The
nanoseconds of a leap second run from one to two thousand million on top of the second before.

## Main definitions

* `Instant`: the point in time.
* `Moment`: what a clock on the wall and a calendar show.
* `Moment.toInstant?`: the instant of a moment at an offset from UTC.
* `Instant.text`: the moment in UTC, with the offset written as told.
-/

namespace Metasearch

open Metasearch.Number Metasearch.Time

/-- A point in time. -/
structure Instant where
  /-- Seconds since the start of 1970 in UTC. -/
  seconds : Int
  /-- Nanoseconds after the second; from a thousand million on within a leap second. -/
  nanos : Nat
deriving DecidableEq, Repr

/-- What a calendar and a clock show. -/
structure Moment where
  /-- The year; the year before year 1 is 0. -/
  year : Int
  /-- The month, from 1. -/
  month : Nat
  /-- The day of the month, from 1. -/
  day : Nat
  /-- The hour. -/
  hour : Nat
  /-- The minute. -/
  minute : Nat
  /-- The second; 60 is a leap second. -/
  second : Nat
  /-- Nanoseconds after the second. -/
  nanos : Nat
deriving DecidableEq, Repr

namespace Moment

/-- The years that are told apart. -/
def isYear (year : Int) : Bool :=
  -262143 ≤ year && year ≤ 262142

/-- Holds of a date of the calendar and a time of the clock. -/
def isValid (m : Moment) : Bool :=
  isYear m.year && 1 ≤ m.month && m.month ≤ 12 && 1 ≤ m.day &&
    m.day ≤ monthLength m.year m.month && m.hour < 24 && m.minute < 60 && m.second ≤ 60

/-- The instant at which a clock `offset` seconds ahead of UTC shows `m`. A leap second is the
second before it and a second more. -/
def toInstant? (m : Moment) (offset : Int) : Option Instant :=
  if m.isValid && offset.natAbs < 86400 then
    let leap := m.second == 60
    let second := if leap then 59 else m.second
    let seconds := dayNumber m.year m.month m.day * 86400 +
      (m.hour * 3600 + m.minute * 60 + second : Nat) - offset
    if isYear (dateOf (seconds / 86400)).1 then
      some ⟨seconds, if leap then m.nanos + 1000000000 else m.nanos⟩
    else none
  else none

end Moment

namespace Instant

/-- The instant a whole number of seconds after the start of 1970, if its year is told apart. -/
def ofSeconds? (seconds : Int) : Option Instant :=
  if Moment.isYear (dateOf (seconds / 86400)).1 then some ⟨seconds, 0⟩ else none

/-- What a clock in UTC shows. -/
def toMoment (t : Instant) : Moment :=
  let (year, month, day) := dateOf (t.seconds / 86400)
  let rest := (t.seconds % 86400).toNat
  let leap := 1000000000 ≤ t.nanos
  { year, month, day
    hour := rest / 3600, minute := rest / 60 % 60
    second := if leap then rest % 60 + 1 else rest % 60
    nanos := if leap then t.nanos - 1000000000 else t.nanos }

/-- A year: four digits, or a sign and at least four digits outside that range. -/
def yearText (year : Int) : List Char :=
  if 0 ≤ year && year ≤ 9999 then padded 4 year.natAbs
  else (if year < 0 then '-' else '+') :: padded 4 year.natAbs

/-- Nanoseconds after a point, in three, six or nine digits; nothing when there are none. -/
def fractionText (nanos : Nat) : List Char :=
  if nanos = 0 then []
  else if nanos % 1000000 = 0 then '.' :: padded 3 (nanos / 1000000)
  else if nanos % 1000 = 0 then '.' :: padded 6 (nanos / 1000)
  else '.' :: padded 9 nanos

/-- Date and time with a `T` between them. -/
def momentText (m : Moment) : List Char :=
  yearText m.year ++ '-' :: padded 2 m.month ++ '-' :: padded 2 m.day ++ 'T' ::
    padded 2 m.hour ++ ':' :: padded 2 m.minute ++ ':' :: padded 2 m.second ++
      fractionText m.nanos

/-- The moment in UTC, marked by `Z`. -/
def text (t : Instant) : String :=
  String.ofList (momentText t.toMoment ++ ['Z'])

/-- The moment in UTC, marked by a zero offset. -/
def textWithOffset (t : Instant) : String :=
  String.ofList (momentText t.toMoment ++ "+00:00".toList)

end Instant
end Metasearch
