/-!
# The shortest decimal of a double

A finite double is `±m · 2^q` with a natural number `m` below `2^53`. Its neighbours lie at
distance `2^q`, except that just above a power of two the lower neighbour is half as far.

Among the decimals that read back as a given double, one has the fewest digits; of several with
that many digits it is the nearest to the double. Two that are equally near are told apart by a
`Tie`.

The decimals that read back as `m · 2^q` are those between the midpoints to its two neighbours,
the midpoints themselves included when `m` is even. Multiplied by four, the double and both
midpoints are whole numbers times `2^q`.

## Main definitions

* `Decimal.Binary` : what a double is: not a number, an infinity, or `±m · 2^q`.
* `Decimal.Binary.ofFloat` : the parts of a double, from its bits.
* `Decimal.Digits` : a natural number times a power of ten.
* `Decimal.shortest` : the shortest decimal of a positive double.
-/

namespace FormCheck.Decimal

/-! ### The parts of a double -/

/-- What a double is. -/
inductive Binary where
  /-- Not a number. -/
  | nan
  /-- An infinity. -/
  | infinite (negative : Bool)
  /-- The number `±m · 2^q`. `narrow` tells that the lower neighbour is only half as far as the
  upper one. -/
  | finite (negative : Bool) (m : Nat) (q : Int) (narrow : Bool)
  deriving DecidableEq, Repr

namespace Binary

/-- The parts of a double, from its bits. -/
def ofFloat (x : Float) : Binary :=
  let bits := x.toBits.toNat
  let negative := bits / Nat.pow 2 63 == 1
  let exponent : Nat := bits / Nat.pow 2 52 % Nat.pow 2 11
  let fraction : Nat := bits % Nat.pow 2 52
  if exponent = 2047 then
    if fraction = 0 then .infinite negative else .nan
  else if exponent = 0 then .finite negative fraction (-1074) false
  else
    .finite negative (Nat.pow 2 52 + fraction) ((exponent : Int) - 1075)
      (fraction == 0 && exponent > 1)

/-- The magnitude of `m · 2^q` when it is a whole number. -/
def whole? (m : Nat) (q : Int) : Option Nat :=
  if 0 ≤ q then some (m * Nat.pow 2 q.toNat)
  else if m % Nat.pow 2 (-q).toNat = 0 then some (m / Nat.pow 2 (-q).toNat)
  else none

end Binary

/-! ### Decimals -/

/-- The number `digits · 10^exponent`. -/
structure Digits where
  /-- The digits, read as one natural number. -/
  digits : Nat
  /-- The power of ten of the last digit. -/
  exponent : Int
  deriving DecidableEq, Repr

/-- Which of two equally near decimals is taken. -/
inductive Tie where
  /-- The larger one. -/
  | up
  /-- The one whose last digit is even. -/
  | even
  deriving DecidableEq, Repr

/-- The fraction `num / den` times a power of two. -/
def scaleTwo (num den : Nat) (q : Int) : Nat × Nat :=
  if 0 ≤ q then (num * Nat.pow 2 q.toNat, den) else (num, den * Nat.pow 2 (-q).toNat)

/-- The fraction `num / den` divided by a power of ten. -/
def descaleTen (num den : Nat) (k : Int) : Nat × Nat :=
  if 0 ≤ k then (num, den * Nat.pow 10 k.toNat) else (num * Nat.pow 10 (-k).toNat, den)

/-- The number of decimal digits of a natural number. -/
def digitCount (n : Nat) : Nat := (Nat.toDigits 10 n).length

/-- A whole number near the decimal logarithm of `num / den`, never above it and at most two
below. -/
def logTenBelow (num den : Nat) : Int :=
  (digitCount num : Int) - (digitCount den : Int) - 1

/-- Whether the grid point `point` lies between `low / den` and `high / den`, ends included or
not. -/
def within (closed : Bool) (low high den point : Nat) : Bool :=
  if closed then low ≤ point * den && point * den ≤ high
  else low < point * den && point * den < high

/-- The point of the grid of whole numbers that lies between `low / den` and `high / den` and is
the nearest to `num / den`, if there is one. -/
def nearestOnGrid (tie : Tie) (closed : Bool) (low num high den : Nat) : Option Nat :=
  let below := num / den
  let above := below + 1
  let belowIn := within closed low high den below && below ≠ 0
  let aboveIn := within closed low high den above
  if belowIn && aboveIn then
    let down := num - below * den
    let up := above * den - num
    if down < up then some below
    else if up < down then some above
    else match tie with
      | .up => some above
      | .even => if below % 2 = 0 then some below else some above
  else if belowIn then some below
  else if aboveIn then some above
  else none

/-- Tries the grids of step `10^k`, `10^(k-1)`, … until one has a point that reads back. -/
def searchGrid (tie : Tie) (closed : Bool) (low num high den : Nat) :
    (k : Int) → (steps : Nat) → Digits
  | k, 0 => ⟨(descaleTen num den k).1 / (descaleTen num den k).2, k⟩
  | k, steps + 1 =>
    let (num', den') := descaleTen num den k
    let low' := (descaleTen low den k).1
    let high' := (descaleTen high den k).1
    match nearestOnGrid tie closed low' num' high' den' with
    | some point => ⟨point, k⟩
    | none => searchGrid tie closed low num high den (k - 1) steps

/-- The shortest decimal of the positive double `m · 2^q`. The coarsest grid tried has a step
above the double itself, and twenty finer ones follow, among which the one with seventeen digits
always has a point that reads back. -/
def shortest (tie : Tie) (m : Nat) (q : Int) (narrow : Bool) : Digits :=
  let closed := m % 2 == 0
  let (num, den) := scaleTwo (4 * m) 4 q
  let low := (scaleTwo (4 * m - if narrow then 1 else 2) 4 q).1
  let high := (scaleTwo (4 * m + 2) 4 q).1
  searchGrid tie closed low num high den (logTenBelow num den + 2) 21

end FormCheck.Decimal
