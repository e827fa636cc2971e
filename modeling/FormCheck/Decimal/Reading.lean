/-!
# Reading decimals

Two readers of decimal numbers. The first takes any decimal text and gives the nearest double. The
second is the one that JSON numbers go through: it keeps the leading digits that fit into 64 bits
and scales them by one multiplication or division, each of which rounds.

## Main definitions

* `Decimal.nearest` : the double nearest to a whole number times a power of ten.
* `Decimal.read` : the double that a decimal text writes.
* `Decimal.scaled` : leading digits times a power of ten, rounded step by step.
-/

namespace FormCheck.Decimal

/-- Whether a character is an ASCII digit. -/
def isDigit (c : Char) : Bool := '0' ≤ c && c ≤ '9'

/-- The value of a digit. -/
def digitValue (c : Char) : Nat := c.toNat - '0'.toNat

/-- The natural number that a run of digits writes. -/
def natOf (digits : List Char) : Nat :=
  digits.foldl (fun n c => 10 * n + digitValue c) 0

/-- The double nearest to `m · 10^e`. Far outside the range of doubles the answer is zero or
infinity without a look at the digits. -/
def nearest (m : Nat) (e : Int) : Float :=
  if m = 0 then 0.0
  else
    let magnitude := e + (Nat.toDigits 10 m).length
    if magnitude < -400 then 0.0
    else if 400 < magnitude then Float.ofScientific 1 false 400
    else if 0 ≤ e then Float.ofScientific m false e.toNat
    else Float.ofScientific m true (-e).toNat

/-- The exponent that a text writes: empty, or `e` with an optional sign and at least one digit. -/
def readExponent : List Char → Option Int
  | [] => some 0
  | c :: rest =>
    if c = 'e' ∨ c = 'E' then
      let (negative, digits) := match rest with
        | '-' :: digits => (true, digits)
        | '+' :: digits => (false, digits)
        | digits => (false, digits)
      if digits.isEmpty || !digits.all isDigit then none
      else some (if negative then -(natOf digits : Int) else natOf digits)
    else none

/-- The double that an unsigned decimal text writes: digits with at most one point among them, at
least one digit, and an optional exponent. -/
def readUnsigned (s : List Char) : Option Float :=
  let whole := s.takeWhile isDigit
  let (places, rest) := match s.dropWhile isDigit with
    | '.' :: tail => (tail.takeWhile isDigit, tail.dropWhile isDigit)
    | tail => ([], tail)
  if whole.isEmpty && places.isEmpty then none
  else (readExponent rest).map fun e => nearest (natOf (whole ++ places)) (e - places.length)

/-- The double that a decimal text writes. The words for infinity and for what is not a number
are read in any case. -/
def read (s : List Char) : Option Float :=
  let (negative, body) := match s with
    | '-' :: rest => (true, rest)
    | '+' :: rest => (false, rest)
    | rest => (false, rest)
  let word := String.ofList (body.map Char.toLower)
  let magnitude :=
    if word = "nan" then some (0.0 / 0.0)
    else if word = "inf" ∨ word = "infinity" then some (1.0 / 0.0)
    else readUnsigned body
  magnitude.map fun x => if negative then -x else x

/-- The power `10^n` for `n ≤ 308`, rounded to the nearest double. -/
def powerOfTen (n : Nat) : Float := Float.ofScientific 1 false n

/-- The double for `x · 10^e`, by one multiplication, or by divisions of at most `10^308` each. A
product beyond the largest double is refused. `steps` bounds the number of divisions: three of
them take any double to zero. -/
def scaleBy (steps : Nat) (x : Float) (e : Int) : Option Float :=
  if 0 ≤ e then
    if e ≤ 308 then
      let y := x * powerOfTen e.toNat
      if y.isInf then none else some y
    else if x == 0.0 then some x
    else none
  else if -308 ≤ e then some (x / powerOfTen (-e).toNat)
  else match steps with
    | 0 => some 0.0
    | steps + 1 => if x == 0.0 then some x else scaleBy steps (x / powerOfTen 308) (e + 308)

/-- The largest number of 64 bits. -/
def maxWord : Nat := Nat.pow 2 64 - 1

/-- Takes digits into a number as long as it fits into 64 bits. Gives the number, how many digits
it took, and whether it stopped before the last one. -/
def leading : (start : Nat) → (taken : Nat) → List Char → Nat × Nat × Bool
  | n, taken, [] => (n, taken, false)
  | n, taken, c :: rest =>
    if maxWord < 10 * n + digitValue c then (n, taken, true)
    else leading (10 * n + digitValue c) (taken + 1) rest

/-- The double of a decimal with the digits `whole` before its point and `places` after it, times
`10^e`: the leading digits that fit into 64 bits, rounded to a double and scaled. A digit that
does not fit is dropped, and those after it up to the point or the exponent; each one dropped
before the point counts for the scale. -/
def scaled (whole places : List Char) (e : Int) : Option Float :=
  let (n, taken, _) := leading 0 0 whole
  let dropped := whole.length - taken
  let (n, after, _) := leading n 0 places
  scaleBy 4 n.toUInt64.toFloat (e + dropped - after)

end FormCheck.Decimal
