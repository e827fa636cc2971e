import FormCheck.Decimal.Shortest

/-!
# Decimal layouts

The same digits can be written in several ways: with a point, with trailing zeros, with an
exponent.

## Main definitions

* `Decimal.positional` : digits with a point where it is needed and never an exponent.
* `Decimal.scientific` : one digit, a point, the other digits, an exponent.
* `Decimal.plain`, `Decimal.json` : the text of a double in the two layouts of this library.
-/

namespace FormCheck.Decimal

/-- The decimal digits of a natural number. -/
def digitsOf (n : Nat) : List Char := Nat.toDigits 10 n

/-- A text padded with zeros in front to at least `width` characters. -/
def padZeros (width : Nat) (s : List Char) : List Char :=
  List.replicate (width - s.length) '0' ++ s

/-- The decimal text of an integer. -/
def integer (n : Int) : List Char :=
  if n < 0 then '-' :: digitsOf n.natAbs else digitsOf n.natAbs

/-- Writes a decimal without an exponent. A whole number has no point. -/
def positional (d : Digits) : List Char :=
  let text := digitsOf d.digits
  if 0 ≤ d.exponent then text ++ List.replicate d.exponent.toNat '0'
  else
    let places := (-d.exponent).toNat
    let padded := padZeros (places + 1) text
    padded.take (padded.length - places) ++ '.' :: padded.drop (padded.length - places)

/-- Writes a decimal with one digit before the point and a signed exponent. A lone digit has no
point. -/
def scientific (d : Digits) : List Char :=
  let text := digitsOf d.digits
  let exponent := d.exponent + (text.length - 1 : Int)
  let mantissa :=
    match text with
    | first :: second :: rest => first :: '.' :: second :: rest
    | short => short
  mantissa ++ 'e' :: (if exponent < 0 then '-' else '+') :: digitsOf exponent.natAbs

/-- A text with a minus sign in front, or as it is. -/
def signed (negative : Bool) (s : List Char) : List Char :=
  if negative then '-' :: s else s

/-- The plain text of a double: its shortest digits without an exponent, a tie going up. -/
def plain (x : Float) : List Char :=
  match Binary.ofFloat x with
  | .nan => "NaN".toList
  | .infinite negative => signed negative "inf".toList
  | .finite negative m q narrow =>
    signed negative (if m = 0 then ['0'] else positional (shortest .up m q narrow))

/-- The JSON text of a double. A whole number ends in `.0`; below `10^-5` and from `10^16` on the
number has an exponent; a tie between shortest decimals goes to the even digit. What is not a
number and what is infinite is `null`. -/
def json (x : Float) : List Char :=
  match Binary.ofFloat x with
  | .nan => "null".toList
  | .infinite _ => "null".toList
  | .finite negative m q narrow =>
    if m = 0 then signed negative "0.0".toList
    else
      let d := shortest .even m q narrow
      let magnitude := d.exponent + ((digitsOf d.digits).length - 1 : Int)
      signed negative <|
        if magnitude < -5 || 16 ≤ magnitude then scientific d
        else if 0 ≤ d.exponent then positional d ++ ['.', '0']
        else positional d

end FormCheck.Decimal
