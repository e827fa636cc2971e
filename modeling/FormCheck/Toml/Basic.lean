import FormCheck.Table
import FormCheck.Decimal.Layout

/-!
# TOML values

## Main definitions

* `Toml.Stamp` : a date, a time, or both, as TOML writes them.
* `Toml.Value` : a TOML value.
-/

namespace FormCheck.Toml

/-- A day of a year. -/
structure Day where
  /-- The year, of four digits. -/
  year : Nat
  /-- The month, from 1 on. -/
  month : Nat
  /-- The day of the month, from 1 on. -/
  day : Nat
  deriving DecidableEq, Repr

/-- A time of day. -/
structure Clock where
  /-- The hour. -/
  hour : Nat
  /-- The minute. -/
  minute : Nat
  /-- The second; 60 is a leap second. -/
  second : Nat
  /-- The billionths of a second. -/
  nanosecond : Nat
  deriving DecidableEq, Repr

/-- How far a local time is ahead of universal time. -/
inductive Offset where
  /-- It is universal time. -/
  | universal
  /-- It is so many minutes ahead, or behind. -/
  | minutes (behind : Bool) (n : Nat)
  deriving DecidableEq, Repr

/-- A date, a time, or both, possibly with an offset. -/
structure Stamp where
  /-- The date. -/
  day : Option Day
  /-- The time. -/
  clock : Option Clock
  /-- The offset. -/
  offset : Option Offset
  deriving DecidableEq, Repr

/-- A TOML value. -/
inductive Value where
  /-- A text. -/
  | text (s : String)
  /-- An integer of 64 bits. -/
  | integer (n : Int)
  /-- A double. -/
  | float (x : Float)
  /-- A truth value. -/
  | bool (b : Bool)
  /-- A date, a time, or both. -/
  | stamp (s : Stamp)
  /-- An array. -/
  | array (items : List Value)
  /-- A table, with its entries in order. -/
  | table (entries : List (String × Value))
  deriving Inhabited

/-! ### The text of a stamp -/

/-- A number with at least so many digits. -/
def padded (width n : Nat) : List Char := Decimal.padZeros width (Decimal.digitsOf n)

/-- The text of a day. -/
def Day.write (d : Day) : List Char :=
  padded 4 d.year ++ '-' :: padded 2 d.month ++ '-' :: padded 2 d.day

/-- The text of a time. The fraction of the second has no zeros at its end. -/
def Clock.write (c : Clock) : List Char :=
  let fraction := ((padded 9 c.nanosecond).reverse.dropWhile (· == '0')).reverse
  padded 2 c.hour ++ ':' :: padded 2 c.minute ++ ':' :: padded 2 c.second ++
    (if c.nanosecond = 0 then [] else '.' :: fraction)

/-- The text of an offset. An offset of no minutes is ahead. -/
def Offset.write : Offset → List Char
  | .universal => ['Z']
  | .minutes behind n =>
    (if behind && n != 0 then '-' else '+') :: padded 2 (n / 60) ++ ':' :: padded 2 (n % 60)

/-- The text of a stamp. -/
def Stamp.write (s : Stamp) : String :=
  let day := (s.day.map Day.write).getD []
  let clock := (s.clock.map Clock.write).getD []
  let join := if s.day.isSome && s.clock.isSome then ['T'] else []
  String.ofList (day ++ join ++ clock ++ (s.offset.map Offset.write).getD [])

end FormCheck.Toml
