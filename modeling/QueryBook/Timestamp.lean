import QueryBook.Decimal.Padded

namespace QueryBook

open Decimal (padded)

/-!
# Timestamps

A day of the proleptic Gregorian calendar and a time of day with nanoseconds, without a zone.

* `Date`, `Clock`, `Timestamp` — every value is a day and a time that exist. A leap second is
  second 59 with a thousand million nanoseconds or more.
* `Timestamp.text` — day and time, and the shortest exact fraction of 3, 6 or 9 digits.
* `Timestamp.microsecondsSince2000` — the distance from the start of the year 2000.
-/

/-- Whether a year has a 29th of February. -/
def isLeapYear (year : Int) : Bool := year % 4 == 0 && (year % 100 != 0 || year % 400 == 0)

/-- The number of days of a month. -/
def daysInMonth (year : Int) (month : Nat) : Nat :=
  if month = 2 then if isLeapYear year then 29 else 28
  else if month = 4 ∨ month = 6 ∨ month = 9 ∨ month = 11 then 30
  else 31

/-- A day of the calendar. -/
structure Date where
  year : Int
  month : Nat
  day : Nat
  month_pos : 1 ≤ month
  month_le : month ≤ 12
  day_pos : 1 ≤ day
  day_le : day ≤ daysInMonth year month
deriving DecidableEq

/-- A time of day. -/
structure Clock where
  hour : Nat
  minute : Nat
  second : Nat
  nano : Nat
  hour_lt : hour < 24
  minute_lt : minute < 60
  second_lt : second < 60
  nano_lt : nano < 2000000000
  leap : 1000000000 ≤ nano → second = 59
deriving DecidableEq

/-- A day and a time. -/
structure Timestamp where
  date : Date
  clock : Clock
deriving DecidableEq

/-- The timestamp of some fields, if there is such a day and such a time. -/
def Timestamp.ofFields? (year : Int) (month day hour minute second nano : Nat) :
    Option Timestamp :=
  if hd : 1 ≤ month ∧ month ≤ 12 ∧ 1 ≤ day ∧ day ≤ daysInMonth year month then
    if hc : hour < 24 ∧ minute < 60 ∧ second < 60 ∧ nano < 2000000000 ∧
        (1000000000 ≤ nano → second = 59) then
      some ⟨⟨year, month, day, hd.1, hd.2.1, hd.2.2.1, hd.2.2.2⟩,
        ⟨hour, minute, second, nano, hc.1, hc.2.1, hc.2.2.1, hc.2.2.2.1, hc.2.2.2.2⟩⟩
    else none
  else none

/-! ### Text -/

/-- A year of four digits; years that need more, and years before zero, bear a sign. -/
def writeYear (year : Int) : List Char :=
  if 0 ≤ year ∧ year ≤ 9999 then padded 4 year.toNat
  else (if year < 0 then '-' else '+') :: padded 4 year.natAbs

/-- Year, month and day. -/
def Date.write (d : Date) : List Char :=
  writeYear d.year ++ '-' :: (padded 2 d.month ++ '-' :: padded 2 d.day)

/-- The part of a second: nothing, or a point and as few of 3, 6 or 9 digits as are exact. -/
def writeFraction (nano : Nat) : List Char :=
  if nano = 0 then []
  -- Three digits at a time, as few groups as are exact.
  else if nano % 1000000 = 0 then '.' :: padded 3 (nano / 1000000)
  else if nano % 1000 = 0 then '.' :: padded 6 (nano / 1000)
  else '.' :: padded 9 nano

/-- Hour, minute and second. A leap second is second 60. -/
def Clock.write (c : Clock) : List Char :=
  padded 2 c.hour ++ ':' :: (padded 2 c.minute ++ ':' ::
    (padded 2 (c.second + c.nano / 1000000000) ++ writeFraction (c.nano % 1000000000)))

namespace Timestamp

/-- Day and time with a character between them. -/
def write (between : Char) (t : Timestamp) : String :=
  String.ofList (t.date.write ++ between :: t.clock.write)

/-- Day and time with a space between them. -/
def text (t : Timestamp) : String := t.write ' '

end Timestamp

/-! ### Distance -/

/-- The number of days from the first of March of year 0 to a day. Counted from March, the months
    before the `m`-th have `(153 * m + 2) / 5` days, and a leap day is the last day of its year. -/
def Date.dayNumber (d : Date) : Int :=
  let year := if d.month ≤ 2 then d.year - 1 else d.year
  let month : Nat := if d.month ≤ 2 then d.month + 9 else d.month - 3
  365 * year + year / 4 - year / 100 + year / 400 + (153 * month + 2) / 5 + d.day - 1

/-- Nanoseconds since midnight; a leap second counts on from the second before. -/
def Clock.nanoseconds (c : Clock) : Nat :=
  ((c.hour * 60 + c.minute) * 60 + c.second) * 1000000000 + c.nano

/-- Nanoseconds since the start of the year 2000. -/
def Timestamp.nanosecondsSince2000 (t : Timestamp) : Int :=
  (t.date.dayNumber - 730425) * 86400000000000 + t.clock.nanoseconds

/-- Microseconds since the start of the year 2000, cut off toward it. -/
def Timestamp.microsecondsSince2000 (t : Timestamp) : Int := t.nanosecondsSince2000.tdiv 1000

end QueryBook
