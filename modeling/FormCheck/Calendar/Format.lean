import FormCheck.Calendar.Moment
import FormCheck.Decimal.Layout

/-!
# Date formats

A date format is a text in which certain letters stand for parts of a moment. All other characters
stand for themselves.

| Letters        | Part                              |
|----------------|-----------------------------------|
| `YYYY`         | year                              |
| `MM`, `M`      | month, with two digits or as it is |
| `DD`, `D`      | day of the month                  |
| `HH`, `H`      | hour from 0 to 23                 |
| `hh`, `h`      | hour from 1 to 12                 |
| `mm`, `m`      | minute                            |
| `ss`, `s`      | second                            |
| `SSS`, `S`     | millisecond, with three digits or as it is |
| `A`, `a`       | half of the day                   |

## Main definitions

* `Calendar.Token` : a part of a format.
* `Calendar.tokens` : the parts of a format text.
* `Calendar.format` : a moment written in a format.
-/

namespace FormCheck.Calendar

/-- A part of a format. -/
inductive Token where
  /-- The year. -/
  | year
  /-- The month, with two digits or as it is. -/
  | month (padded : Bool)
  /-- The day of the month. -/
  | day (padded : Bool)
  /-- The hour from 0 to 23. -/
  | hour (padded : Bool)
  /-- The hour from 1 to 12. -/
  | hour12 (padded : Bool)
  /-- The minute. -/
  | minute (padded : Bool)
  /-- The second. -/
  | second (padded : Bool)
  /-- The millisecond, with three digits or as it is. -/
  | millisecond (padded : Bool)
  /-- The half of the day, in capitals or in small letters. -/
  | half (capital : Bool)
  /-- A character that stands for itself. -/
  | literal (c : Char)
  deriving DecidableEq, Repr

/-- The parts of a format text. Where several groups of letters start at a place, the longest one
counts. -/
def tokens : List Char → List Token
  | [] => []
  | 'Y' :: 'Y' :: 'Y' :: 'Y' :: rest => .year :: tokens rest
  | 'S' :: 'S' :: 'S' :: rest => .millisecond true :: tokens rest
  | 'S' :: rest => .millisecond false :: tokens rest
  | 'M' :: 'M' :: rest => .month true :: tokens rest
  | 'M' :: rest => .month false :: tokens rest
  | 'D' :: 'D' :: rest => .day true :: tokens rest
  | 'D' :: rest => .day false :: tokens rest
  | 'H' :: 'H' :: rest => .hour true :: tokens rest
  | 'H' :: rest => .hour false :: tokens rest
  | 'h' :: 'h' :: rest => .hour12 true :: tokens rest
  | 'h' :: rest => .hour12 false :: tokens rest
  | 'm' :: 'm' :: rest => .minute true :: tokens rest
  | 'm' :: rest => .minute false :: tokens rest
  | 's' :: 's' :: rest => .second true :: tokens rest
  | 's' :: rest => .second false :: tokens rest
  | 'A' :: rest => .half true :: tokens rest
  | 'a' :: rest => .half false :: tokens rest
  | c :: rest => .literal c :: tokens rest

/-- A number in decimal, with at least two digits if it is padded. -/
def twoDigits (padded : Bool) (n : Nat) : List Char :=
  if padded then Decimal.padZeros 2 (Decimal.digitsOf n) else Decimal.digitsOf n

/-- The hour of the half of a day, from 1 to 12. -/
def Time.hour12 (t : Time) : Nat := if t.hour % 12 = 0 then 12 else t.hour % 12

/-- The millisecond, that of a leap second counted from its start. -/
def Time.millisecond (t : Time) : Nat := t.nanosecond / 1000000 % 1000

/-- Writes a part of a format. -/
def Token.render (m : Moment) : Token → List Char
  | .year => Decimal.integer m.date.year
  | .month padded => twoDigits padded m.date.month
  | .day padded => twoDigits padded m.date.day
  | .hour padded => twoDigits padded m.time.hour
  | .hour12 padded => twoDigits padded m.time.hour12
  | .minute padded => twoDigits padded m.time.minute
  | .second padded => twoDigits padded m.time.second
  | .millisecond padded =>
    if padded then Decimal.padZeros 3 (Decimal.digitsOf m.time.millisecond)
    else Decimal.digitsOf m.time.millisecond
  | .half capital =>
    if 12 ≤ m.time.hour then if capital then ['P', 'M'] else ['p', 'm']
    else if capital then ['A', 'M'] else ['a', 'm']
  | .literal c => [c]

/-- A moment written in a format. -/
def formatChars (m : Moment) (f : List Char) : List Char :=
  (tokens f).flatMap (Token.render m)

/-- A moment written in a format. -/
def format (m : Moment) (f : String) : String :=
  String.ofList (formatChars m f.toList)

end FormCheck.Calendar
