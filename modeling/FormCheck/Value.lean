import FormCheck.Json.Data

/-!
# Field values

A form submits a value for a field: nothing, a truth value, a number or a text. Rules look at the
text of a value only, so the number 24 and the text `24` are the same to them.

## Main definitions

* `Value` : a submitted value.
* `Value.toText` : the text that rules look at.
* `Value.json` : the JSON text of a value.
-/

namespace FormCheck

/-- A submitted value. -/
inductive Value where
  /-- Nothing. -/
  | null
  /-- A truth value. -/
  | bool (b : Bool)
  /-- A number. -/
  | number (x : Float)
  /-- A text. -/
  | text (s : String)
  deriving Inhabited

namespace Value

/-- The value of an integer, rounded to a double. -/
def ofInt (n : Int) : Value := .number (Json.Numeric.ofWhole n)

/-- The whole numbers below this one are all doubles, and so are their negatives. -/
def exactBound : Nat := Nat.pow 2 53

/-- The digits of a number that is whole and small enough to be exact. -/
def exactDigits? (x : Float) : Option (List Char) :=
  match Decimal.Binary.ofFloat x with
  | .finite negative m q _ =>
    match Decimal.Binary.whole? m q with
    | some n =>
      if n < exactBound then some (Decimal.integer (if negative then -(n : Int) else n)) else none
    | none => none
  | _ => none

/-- The text of a number: an exact whole number has its digits alone, also when it is a negative
zero, and any other number the shortest digits that determine it. -/
def numberText (x : Float) : List Char :=
  match exactDigits? x with
  | some digits => digits
  | none => Decimal.plain x

/-- The text of a value. -/
def toText : Value → String
  | .null => ""
  | .bool true => "true"
  | .bool false => "false"
  | .number x => String.ofList (numberText x)
  | .text s => s

/-- Whether nothing was submitted, or the empty text. -/
def isEmpty : Value → Bool
  | .null => true
  | .bool _ => false
  | .number _ => false
  | .text s => s == ""

/-- The JSON text of a value. -/
def json : Value → List Char
  | .null => "null".toList
  | .bool b => Json.writeBool b
  | .number x => Decimal.json x
  | .text s => Json.writeText s

/-- Whether two values are the same. What is not a number is not even the same as itself, and both
zeros are. -/
def same : Value → Value → Bool
  | .null, .null => true
  | .bool a, .bool b => a == b
  | .number x, .number y => x == y
  | .text s, .text t => s == t
  | _, _ => false

/-- The value that a JSON document writes by itself, if it is not an array or an object. -/
def ofJson? : Json → Option Value
  | .null => some .null
  | .bool b => some (.bool b)
  | .number n => n.value?.map fun x => .number x.toFloat
  | .text pieces => (Json.string? pieces).map .text
  | .array _ => none
  | .object _ => none

/-- The value of the meaning of a JSON document. An array or an object is kept as its JSON text. -/
def ofData : Json.Data → Value
  | .null => .null
  | .bool b => .bool b
  | .number n => .number n.toFloat
  | .text s => .text s
  | .array items => .text (String.ofList (Json.Data.array items).write)
  | .object members => .text (String.ofList (Json.Data.object members).write)

end Value

end FormCheck
