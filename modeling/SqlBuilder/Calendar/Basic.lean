/-!
# Dates and times

Calendar dates of the proleptic Gregorian calendar (`Date`), times of day with nanoseconds
(`TimeOfDay`), and their pair (`DateTime`).  The bounds are part of the types: a `Date` exists, and
a `TimeOfDay` has a second up to 60, the sixtieth being a leap second.

`DateTime.minusMinutes?` moves a time back by an offset from universal time; it leaves the second
alone, so a leap second stays one.
-/

namespace SqlBuilder

/-! ## Dates -/

namespace Calendar

/-- Leap years have a 29th of February. -/
def isLeapYear (year : Int) : Bool :=
  year % 4 == 0 && (year % 100 != 0 || year % 400 == 0)

/-- The number of days of a month. -/
def daysInMonth (year : Int) (month : Nat) : Nat :=
  if month = 2 then
    if isLeapYear year then 29 else 28
  else if month = 4 ∨ month = 6 ∨ month = 9 ∨ month = 11 then
    30
  else
    31

/-- The years that a date may have. -/
def minYear : Int := -262143

/-- The years that a date may have. -/
def maxYear : Int := 262142

end Calendar

open Calendar

/-- A day of the calendar. -/
structure Date where
  year : Int
  month : Nat
  day : Nat
  year_ge : minYear ≤ year
  year_le : year ≤ maxYear
  month_pos : 0 < month
  month_le : month ≤ 12
  day_pos : 0 < day
  day_le : day ≤ daysInMonth year month
deriving DecidableEq

namespace Date

/-- The date with these numbers, if there is one. -/
def mk? (year : Int) (month day : Nat) : Option Date :=
  if h : minYear ≤ year ∧ year ≤ maxYear ∧ 0 < month ∧ month ≤ 12 ∧ 0 < day ∧
      day ≤ daysInMonth year month then
    some ⟨year, month, day, h.1, h.2.1, h.2.2.1, h.2.2.2.1, h.2.2.2.2.1, h.2.2.2.2.2⟩
  else
    none

/-- The day after. -/
def next? (d : Date) : Option Date :=
  mk? d.year d.month (d.day + 1) <|> mk? d.year (d.month + 1) 1 <|> mk? (d.year + 1) 1 1

/-- The day before. -/
def previous? (d : Date) : Option Date :=
  if 1 < d.day then
    mk? d.year d.month (d.day - 1)
  else if 1 < d.month then
    mk? d.year (d.month - 1) (daysInMonth d.year (d.month - 1))
  else
    mk? (d.year - 1) 12 31

end Date

/-! ## Times -/

/-- A time of day; the second 60 is a leap second. -/
structure TimeOfDay where
  hour : Nat
  minute : Nat
  second : Nat
  nanosecond : Nat
  hour_lt : hour < 24
  minute_lt : minute < 60
  second_le : second ≤ 60
  nanosecond_lt : nanosecond < 1000000000
deriving DecidableEq

/-- The time with these numbers, if there is one. -/
def TimeOfDay.mk? (hour minute second nanosecond : Nat) : Option TimeOfDay :=
  if h : hour < 24 ∧ minute < 60 ∧ second ≤ 60 ∧ nanosecond < 1000000000 then
    some ⟨hour, minute, second, nanosecond, h.1, h.2.1, h.2.2.1, h.2.2.2⟩
  else
    none

/-- A date with a time of day. -/
structure DateTime where
  date : Date
  time : TimeOfDay
deriving DecidableEq

/-- The date and time `offset` minutes earlier, for an offset of less than a day. -/
def DateTime.minusMinutes? (t : DateTime) (offset : Int) : Option DateTime := do
  let minutes : Int := (t.time.hour * 60 + t.time.minute : Nat) - offset
  let date ←
    if minutes < 0 then t.date.previous?
    else if minutes < 1440 then some t.date
    else t.date.next?
  let ofDay := (minutes % 1440).toNat
  let time ← TimeOfDay.mk? (ofDay / 60) (ofDay % 60) t.time.second t.time.nanosecond
  return ⟨date, time⟩

end SqlBuilder
