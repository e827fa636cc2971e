/-!
# Dates, times of day and moments

Dates are those of the Gregorian calendar, extended to all years, as far as they lie in a fixed
range of years. A time of day is exact to the nanosecond. A leap second is written as second 59
with more than a second's worth of nanoseconds.

## Main definitions

* `Calendar.Date`, `Calendar.Date.ofParts?` : an existing date, and the one with given parts.
* `Calendar.Date.weekday` : the day of the week, counted from Monday.
* `Calendar.Time`, `Calendar.Time.ofParts?` : a time of day, and the one with given parts.
* `Calendar.Moment` : a date with a time of day.
-/

namespace FormCheck.Calendar

/-- The first year of the calendar. -/
def firstYear : Int := -262143

/-- The last year of the calendar. -/
def lastYear : Int := 262142

/-- Whether a year has a leap day. -/
def isLeapYear (year : Int) : Bool :=
  year % 4 == 0 && (year % 100 != 0 || year % 400 == 0)

/-- The number of days of a month. -/
def daysInMonth (year : Int) (month : Nat) : Nat :=
  if month = 2 then if isLeapYear year then 29 else 28
  else if month = 4 ∨ month = 6 ∨ month = 9 ∨ month = 11 then 30
  else 31

/-- Whether a date with the given parts exists. -/
def IsDate (year : Int) (month day : Nat) : Prop :=
  firstYear ≤ year ∧ year ≤ lastYear ∧ 1 ≤ month ∧ month ≤ 12 ∧ 1 ≤ day ∧
    day ≤ daysInMonth year month

instance (year : Int) (month day : Nat) : Decidable (IsDate year month day) :=
  inferInstanceAs (Decidable (_ ∧ _))

/-- An existing date. -/
structure Date where
  /-- The year. Before the year 1 comes the year 0. -/
  year : Int
  /-- The month, from 1 to 12. -/
  month : Nat
  /-- The day of the month, from 1 on. -/
  day : Nat
  /-- There is such a date. -/
  isDate : IsDate year month day
  deriving DecidableEq

namespace Date

/-- The date with the given parts, if it exists. -/
def ofParts? (year : Int) (month day : Nat) : Option Date :=
  if h : IsDate year month day then some ⟨year, month, day, h⟩ else none

/-- The number of days from the first of March of the year 0 to a date. The year is taken to start
in March, so that a leap day is the last day of its year. -/
def dayNumber (d : Date) : Int :=
  let year := if d.month ≤ 2 then d.year - 1 else d.year
  let month : Int := if d.month ≤ 2 then d.month + 9 else d.month - 3
  365 * year + year / 4 - year / 100 + year / 400 + (153 * month + 2) / 5 + (d.day - 1)

/-- The day of the week: 0 for Monday to 6 for Sunday. The first of March of the year 0 was a
Wednesday. -/
def weekday (d : Date) : Nat := ((d.dayNumber + 2) % 7).toNat

end Date

/-- A time of day. -/
structure Time where
  /-- The hour, from 0 to 23. -/
  hour : Nat
  /-- The minute, from 0 to 59. -/
  minute : Nat
  /-- The second, from 0 to 59. -/
  second : Nat
  /-- The nanosecond. From a thousand million on it counts the leap second after second 59. -/
  nanosecond : Nat
  hour_lt : hour < 24
  minute_lt : minute < 60
  second_lt : second < 60
  nanosecond_lt : nanosecond < 2000000000
  /-- Only second 59 is followed by a leap second. -/
  leap : 1000000000 ≤ nanosecond → second = 59
  deriving DecidableEq

namespace Time

/-- The time of day with the given parts, if it exists. -/
def ofParts? (hour minute second nanosecond : Nat) : Option Time :=
  if h : hour < 24 ∧ minute < 60 ∧ second < 60 ∧ nanosecond < 2000000000 ∧
      (1000000000 ≤ nanosecond → second = 59) then
    some ⟨hour, minute, second, nanosecond, h.1, h.2.1, h.2.2.1, h.2.2.2.1, h.2.2.2.2⟩
  else none

/-- The start of a day. -/
def midnight : Time :=
  ⟨0, 0, 0, 0, by decide, by decide, by decide, by decide, fun h => absurd h (by decide)⟩

/-- The seconds since midnight. -/
def seconds (t : Time) : Nat := 3600 * t.hour + 60 * t.minute + t.second

end Time

/-- A date with a time of day. -/
structure Moment where
  /-- The date. -/
  date : Date
  /-- The time of day. -/
  time : Time
  deriving DecidableEq

/-- Whether a moment that a clock shows is still in the calendar when the clock, which is `offset`
seconds ahead of universal time, is set to universal time. -/
def Moment.hasUniversal (m : Moment) (offset : Int) : Bool :=
  let seconds := (m.time.seconds : Int) - offset
  let isFirst := m.date.year == firstYear && m.date.month == 1 && m.date.day == 1
  let isLast := m.date.year == lastYear && m.date.month == 12 && m.date.day == 31
  !(isFirst && seconds < 0) && !(isLast && 86400 ≤ seconds)

end FormCheck.Calendar
