import FormCheck.Decimal.Reading

/-!
# JSON documents

A JSON document is kept as it is written: a number by its digits, a text by its characters and
escapes, an object by its members in order, repeated keys included. What is written may still have
no meaning, such as half of a surrogate pair or a number beyond all doubles; only the parts that
are used need one.

## Main definitions

* `Json` : a document as it is written.
* `Json.Piece` : a character or a code unit of a text.
* `Json.text?` : the text that pieces stand for.
* `Json.Number.value?` : the integer or the double that a number stands for.
-/

namespace FormCheck

namespace Json

/-- A part of a text: a character, or a code unit that is written as an escape. -/
inductive Piece where
  /-- A character, written as it is or as one of the short escapes. -/
  | char (c : Char)
  /-- A code unit of 16 bits, written as an escape with four digits. -/
  | unit (n : Nat)
  deriving DecidableEq, Repr

/-- A number as it is written. -/
structure Number where
  /-- Whether it has a minus sign. -/
  negative : Bool
  /-- The digits before the point. -/
  whole : List Char
  /-- The digits after the point, if there is a point. -/
  places : Option (List Char)
  /-- The exponent, if there is one. -/
  exponent : Option Int
  deriving DecidableEq, Repr

end Json

/-- A JSON document as it is written. -/
inductive Json where
  /-- Nothing. -/
  | null
  /-- A truth value. -/
  | bool (b : Bool)
  /-- A number. -/
  | number (n : Json.Number)
  /-- A text. -/
  | text (pieces : List Json.Piece)
  /-- An array. -/
  | array (items : List Json)
  /-- An object, with its members in order. -/
  | object (members : List (List Json.Piece × Json))
  deriving Inhabited

namespace Json

/-! ### Texts -/

/-- Whether a code unit is the first half of a surrogate pair. -/
def isHighHalf (n : Nat) : Bool := 0xD800 ≤ n && n ≤ 0xDBFF

/-- Whether a code unit is the second half of a surrogate pair. -/
def isLowHalf (n : Nat) : Bool := 0xDC00 ≤ n && n ≤ 0xDFFF

/-- The code point of a surrogate pair. -/
def joinHalves (high low : Nat) : Nat := 0x10000 + (high - 0xD800) * 0x400 + (low - 0xDC00)

/-- The text that pieces stand for. The halves of a surrogate pair have to stand next to each
other. -/
def text? : List Piece → Option (List Char)
  | [] => some []
  | .char c :: rest => (text? rest).map (c :: ·)
  | .unit high :: .unit low :: rest =>
    if isHighHalf high then
      if isLowHalf low then (text? rest).map (Char.ofNat (joinHalves high low) :: ·) else none
    else if isLowHalf high then none
    else (text? (.unit low :: rest)).map (Char.ofNat high :: ·)
  | .unit n :: rest =>
    if isHighHalf n || isLowHalf n then none else (text? rest).map (Char.ofNat n :: ·)

/-- The string that pieces stand for. -/
def string? (pieces : List Piece) : Option String :=
  (text? pieces).map String.ofList

/-! ### Numbers -/

/-- What a number stands for: an integer of 64 bits or a double. -/
inductive Numeric where
  /-- An integer. -/
  | whole (n : Int)
  /-- A double. -/
  | float (x : Float)

namespace Numeric

/-- The double nearest to an integer of at most 64 bits. -/
def ofWhole (n : Int) : Float :=
  let magnitude := n.natAbs.toUInt64.toFloat
  if n < 0 then -magnitude else magnitude

/-- A number as a double. -/
def toFloat : Numeric → Float
  | .whole n => ofWhole n
  | .float x => x

end Numeric

/-- What a number stands for. Without a point and an exponent it is an integer, as long as it fits
into 64 bits with or without a sign; the negative zero is a double. A number beyond all doubles
stands for nothing. -/
def Number.value? (n : Number) : Option Numeric :=
  let magnitude := Decimal.natOf n.whole
  let isInteger := n.places.isNone && n.exponent.isNone
  if isInteger && !n.negative && magnitude < Nat.pow 2 64 then some (.whole magnitude)
  else if isInteger && n.negative && 0 < magnitude && magnitude ≤ Nat.pow 2 63 then
    some (.whole (-(magnitude : Int)))
  else
    (Decimal.scaled n.whole (n.places.getD []) (n.exponent.getD 0)).map fun x =>
      .float (if n.negative then -x else x)

/-! ### Nesting -/

mutual

/-- How deep arrays and objects are nested in a document. -/
def depth : Json → Nat
  | .array items => depthItems items + 1
  | .object members => depthMembers members + 1
  | _ => 0

/-- The greatest depth among the items of an array. -/
def depthItems : List Json → Nat
  | [] => 0
  | item :: rest => max item.depth (depthItems rest)

/-- The greatest depth among the members of an object. -/
def depthMembers : List (List Piece × Json) → Nat
  | [] => 0
  | (_, value) :: rest => max value.depth (depthMembers rest)

end

/-- The greatest depth of nesting of a document that is read as a whole. -/
def depthLimit : Nat := 127

end Json

end FormCheck
