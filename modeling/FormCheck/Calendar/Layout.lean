import FormCheck.Calendar.Moment
import FormCheck.Decimal.Reading
import FormCheck.Text.Basic

/-!
# Date layouts

A layout says in which order the parts of a date and a time stand in a text and what stands between
them. Reading is lenient about blanks and leading zeros: blanks may stand before a number, and
where a layout has a blank there may be any number of blanks.

## Main definitions

* `Calendar.Item` : a part of a layout.
* `Calendar.Fields` : the parts of a date and a time that have been read.
* `Calendar.readLayout` : reads a whole text in a layout.
* `Calendar.Fields.date?`, `Calendar.Fields.time?` : the date and the time that the parts make up.
-/

namespace FormCheck.Calendar

/-- The parts of a date and a time that have been read. -/
structure Fields where
  /-- The year. -/
  year : Option Int := none
  /-- The month. -/
  month : Option Nat := none
  /-- The day of the month. -/
  day : Option Nat := none
  /-- The day of the week, counted from Monday. -/
  weekday : Option Nat := none
  /-- The hour from 0 to 23. -/
  hour : Option Nat := none
  /-- The hour of the half of a day, with 0 for 12. -/
  hour12 : Option Nat := none
  /-- Whether it is the second half of the day. -/
  afternoon : Option Bool := none
  /-- The minute. -/
  minute : Option Nat := none
  /-- The second, with 60 for a leap second. -/
  second : Option Nat := none
  /-- The nanosecond. -/
  nanosecond : Option Nat := none
  deriving DecidableEq, Repr

namespace Fields

/-- No part. -/
def empty : Fields := {}

/-- The date that the parts make up, if there is one and it falls on the given day of the week. -/
def date? (f : Fields) : Option Date := do
  let date ← Date.ofParts? (← f.year) (← f.month) (← f.day)
  match f.weekday with
  | some weekday => if date.weekday = weekday then some date else none
  | none => some date

/-- The hour from 0 to 23. -/
def fullHour? (f : Fields) : Option Nat :=
  match f.hour with
  | some hour => some hour
  | none => do
    let hour ← f.hour12
    let afternoon ← f.afternoon
    some (if afternoon then hour + 12 else hour)

/-- The time that the parts make up. A missing second is zero, and second 60 is a leap second. -/
def time? (f : Fields) : Option Time := do
  let hour ← f.fullHour?
  let minute ← f.minute
  let nanosecond := f.nanosecond.getD 0
  match f.second.getD 0 with
  | 60 => Time.ofParts? hour minute 59 (nanosecond + 1000000000)
  | second => Time.ofParts? hour minute second nanosecond

/-- The moment that the parts make up. -/
def moment? (f : Fields) : Option Moment := do
  some ⟨← f.date?, ← f.time?⟩

end Fields

/-! ### Reading parts -/

/-- Reads a number of at least `least` digits, and of at most `most` if there is such a bound. -/
def readNumber (least : Nat) (most : Option Nat) (s : List Char) : Option (Nat × List Char) :=
  let run := s.takeWhile Decimal.isDigit
  let digits := match most with
    | some most => run.take most
    | none => run
  if digits.length < least then none
  else some (Decimal.natOf digits, s.drop digits.length)

/-- Reads a year: up to four digits, or a sign and any number of digits. -/
def readYear : List Char → Option (Int × List Char)
  | '-' :: rest => (readNumber 1 none rest).map fun (n, tail) => (-(n : Int), tail)
  | '+' :: rest => (readNumber 1 none rest).map fun (n, tail) => ((n : Int), tail)
  | s => (readNumber 1 (some 4) s).map fun (n, tail) => ((n : Int), tail)

/-- Reads the digits of a fraction of a second as nanoseconds. Digits after the ninth are read and
do not count. -/
def readFraction (s : List Char) : Option (Nat × List Char) :=
  let run := s.takeWhile Decimal.isDigit
  let digits := run.take 9
  if digits.isEmpty then none
  else some (Decimal.natOf digits * Nat.pow 10 (9 - digits.length), s.drop run.length)

/-- Reads one of some three-letter words in any case, and gives its number. -/
def readWord (words : List String) (s : List Char) : Option (Nat × List Char) :=
  let start := String.ofList ((s.take 3).map Char.toLower)
  (words.findIdx? (· == start)).map fun i => (i, s.drop 3)

/-- The first three letters of the names of the months. -/
def monthStarts : List String :=
  ["jan", "feb", "mar", "apr", "may", "jun", "jul", "aug", "sep", "oct", "nov", "dec"]

/-- What follows the first three letters in the names of the months. -/
def monthEnds : List String :=
  ["uary", "ruary", "ch", "il", "", "e", "y", "ust", "tember", "ober", "ember", "ember"]

/-- The first three letters of the names of the days of the week. -/
def weekdayStarts : List String := ["mon", "tue", "wed", "thu", "fri", "sat", "sun"]

/-- The text after a given ending, in any case, or the text itself. -/
def skipEnding (ending : List Char) (s : List Char) : List Char :=
  if (s.take ending.length).map Char.toLower = ending then s.drop ending.length else s

/-- Reads the name of a month, shortened or, where that is admitted, in full. -/
def readMonth (full : Bool) (s : List Char) : Option (Nat × List Char) :=
  (readWord monthStarts s).map fun (i, rest) =>
    (i + 1, if full then skipEnding ((monthEnds.getD i "").toList) rest else rest)

/-! ### Layouts -/

/-- A part of a layout. -/
inductive Item where
  /-- A character that has to be there. -/
  | literal (c : Char)
  /-- Any number of blanks. -/
  | blanks
  /-- The year. -/
  | year
  /-- The month as a number. -/
  | month
  /-- The day of the month. -/
  | day
  /-- The hour from 0 to 23. -/
  | hour
  /-- The hour from 1 to 12. -/
  | hour12
  /-- The minute. -/
  | minute
  /-- The second. -/
  | second
  /-- A point with digits of a fraction of the second, or nothing. -/
  | fraction
  /-- The half of the day. -/
  | half
  /-- The name of the month, which may be shortened. -/
  | monthName
  /-- The shortened name of the month. -/
  | shortMonthName
  /-- The shortened name of the day of the week. -/
  | weekdayName
  deriving DecidableEq, Repr

/-- Reads a number of one or two digits, with blanks before it, that lies between two bounds. -/
def readTwo (low high : Nat) (s : List Char) : Option (Nat × List Char) :=
  (readNumber 1 (some 2) (Text.trimStart s)).bind fun (n, rest) =>
    if low ≤ n ∧ n ≤ high then some (n, rest) else none

/-- Reads a part of a layout and notes what it says. -/
def Item.read (f : Fields) (s : List Char) : Item → Option (Fields × List Char)
  | .literal c =>
    match s with
    | d :: rest => if c = d then some (f, rest) else none
    | [] => none
  | .blanks => some (f, Text.trimStart s)
  | .year => (readYear (Text.trimStart s)).map fun (n, rest) => ({ f with year := some n }, rest)
  | .month => (readTwo 1 12 s).map fun (n, rest) => ({ f with month := some n }, rest)
  | .day => (readTwo 1 31 s).map fun (n, rest) => ({ f with day := some n }, rest)
  | .hour => (readTwo 0 23 s).map fun (n, rest) => ({ f with hour := some n }, rest)
  | .hour12 => (readTwo 1 12 s).map fun (n, rest) => ({ f with hour12 := some (n % 12) }, rest)
  | .minute => (readTwo 0 59 s).map fun (n, rest) => ({ f with minute := some n }, rest)
  | .second => (readTwo 0 60 s).map fun (n, rest) => ({ f with second := some n }, rest)
  | .fraction =>
    match s with
    | '.' :: rest =>
      (readFraction rest).map fun (n, tail) => ({ f with nanosecond := some n }, tail)
    | s => some (f, s)
  | .half =>
    match s with
    | c :: d :: rest =>
      if d.toLower ≠ 'm' then none
      else if c.toLower = 'a' then some ({ f with afternoon := some false }, rest)
      else if c.toLower = 'p' then some ({ f with afternoon := some true }, rest)
      else none
    | _ => none
  | .monthName => (readMonth true s).map fun (n, rest) => ({ f with month := some n }, rest)
  | .shortMonthName => (readMonth false s).map fun (n, rest) => ({ f with month := some n }, rest)
  | .weekdayName =>
    (readWord weekdayStarts s).map fun (n, rest) => ({ f with weekday := some n }, rest)

/-- Reads a whole text in a layout. -/
def readLayout (f : Fields) : List Item → List Char → Option Fields
  | [], [] => some f
  | [], _ :: _ => none
  | item :: rest, s => (item.read f s).bind fun (f, tail) => readLayout f rest tail

/-- Year, month and day with a sign between them. -/
def yearFirst (sign : Char) : List Item :=
  [.year, .literal sign, .month, .literal sign, .day]

/-- Month, day and year with slashes between them. -/
def monthFirst : List Item := [.month, .literal '/', .day, .literal '/', .year]

/-- Hour and minute. -/
def hourMinute : List Item := [.hour, .literal ':', .minute]

/-- Hour, minute and second. -/
def hourMinuteSecond : List Item := hourMinute ++ [.literal ':', .second]

/-- Hour and minute of a half of a day. -/
def halfDay : List Item := [.hour12, .literal ':', .minute, .blanks, .half]

/-- Hour, minute and second of a half of a day. -/
def halfDaySecond : List Item :=
  [.hour12, .literal ':', .minute, .literal ':', .second, .blanks, .half]

/-- The layouts of a date with a time, in the order in which they are tried. -/
def momentLayouts : List (List Item) := [
  yearFirst '-' ++ .literal 'T' :: hourMinuteSecond ++ [.fraction],
  yearFirst '-' ++ .literal 'T' :: hourMinute,
  yearFirst '-' ++ .blanks :: hourMinuteSecond ++ [.fraction],
  yearFirst '-' ++ .blanks :: hourMinute,
  yearFirst '/' ++ .blanks :: hourMinuteSecond,
  yearFirst '/' ++ .blanks :: hourMinute,
  monthFirst ++ .blanks :: hourMinuteSecond,
  monthFirst ++ .blanks :: hourMinute,
  yearFirst '-' ++ .blanks :: halfDaySecond,
  yearFirst '-' ++ .blanks :: halfDay,
  yearFirst '/' ++ .blanks :: halfDaySecond,
  yearFirst '/' ++ .blanks :: halfDay,
  monthFirst ++ .blanks :: halfDaySecond,
  monthFirst ++ .blanks :: halfDay,
  [.monthName, .blanks, .day, .literal ',', .blanks, .year, .blanks] ++ hourMinuteSecond,
  [.shortMonthName, .blanks, .day, .literal ',', .blanks, .year, .blanks] ++ hourMinuteSecond]

/-- The layouts of a date alone, in the order in which they are tried. -/
def dateLayouts : List (List Item) := [
  yearFirst '-',
  yearFirst '/',
  yearFirst '.',
  monthFirst,
  [.monthName, .blanks, .day, .literal ',', .blanks, .year],
  [.shortMonthName, .blanks, .day, .literal ',', .blanks, .year],
  [.monthName, .blanks, .day, .blanks, .year],
  [.shortMonthName, .blanks, .day, .blanks, .year],
  [.day, .blanks, .monthName, .blanks, .year],
  [.day, .blanks, .shortMonthName, .blanks, .year],
  [.weekdayName, .blanks, .shortMonthName, .blanks, .day, .blanks, .year]]

end FormCheck.Calendar
