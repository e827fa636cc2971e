import FormCheck.Text.Basic
import FormCheck.Decimal.Reading

/-!
# Comparisons

Values are compared as they are, character by character. A list of candidates is one text with a
comma between neighbours, and blanks in it count.

Where order matters, a value is compared as the integer that it begins with. What follows the digits
does not count, so `42px` is read as 42 and `-7.9` as -7. A value that begins with no integer passes
no comparison. Integers are kept between the bounds of 63 bits: a longer run of digits stands for
the largest one. The length of a value is its number of characters, and it is compared with the
integer that the parameter begins with.

## Main definitions

* `Check.isPresent` : the value is not empty.
* `Check.isSame`, `Check.isOther` : the value is, or is not, that of another field.
* `Check.items`, `Check.isAmong` : the candidates of a list, and membership.
* `Check.leadingInteger?` : the integer that a text begins with.
* `Check.greaterThan`, `Check.atLeast`, `Check.lessThan`, `Check.atMost` : the comparisons.
* `Check.hasLength`, `Check.hasMinLength`, `Check.hasMaxLength` : the comparisons of lengths.
-/

namespace FormCheck.Check

/-! ### Presence, equality and membership -/

/-- Whether a value is not empty. -/
def isPresent (value : String) : Bool := value != ""

/-- Whether a value is the given text. -/
def isEqual (value expected : String) : Bool := value == expected

/-- Whether a value is not the given text. -/
def isNotEqual (value forbidden : String) : Bool := value != forbidden

/-- Whether a value is that of another field. It is not when that field is absent. -/
def isSame (value : String) (other : Option String) : Bool := other == some value

/-- Whether a value is not that of another field. It is not when that field is absent. -/
def isOther (value : String) (other : Option String) : Bool := other != some value

/-- The candidates of a list, as they stand between its commas. The empty list has one candidate,
the empty text. -/
def items (list : String) : List String :=
  (list.toList.splitOn ',').map String.ofList

/-- Whether a value is among the candidates of a list. -/
def isAmong (value list : String) : Bool := (items list).contains value

/-- Whether a value is not among the candidates of a list. -/
def isNotAmong (value list : String) : Bool := !isAmong value list

/-! ### Integers -/

/-- The largest integer that a text is read as. -/
def largestInteger : Nat := Nat.pow 2 63 - 1

/-- The integer of a run of digits that a text begins with, up to the largest one. -/
def leadingDigits? (negative : Bool) (s : List Char) : Option Int :=
  let digits := s.takeWhile Decimal.isDigit
  if digits.isEmpty then none
  else
    let magnitude : Int := min (Decimal.natOf digits) largestInteger
    some (if negative then -magnitude else magnitude)

/-- The integer of an optional sign and a run of digits. -/
def signedDigits? : List Char → Option Int
  | '-' :: rest => leadingDigits? true rest
  | '+' :: rest => leadingDigits? false rest
  | s => leadingDigits? false s

/-- The integer that a text begins with after leading blanks, if it begins with one. -/
def leadingInteger? (s : String) : Option Int :=
  signedDigits? (Text.trimStart s.toList)

/-- Whether two texts begin with integers that a relation holds between. -/
def compareIntegers (holds : Int → Int → Bool) (value bound : String) : Bool :=
  match leadingInteger? value, leadingInteger? bound with
  | some m, some n => holds m n
  | _, _ => false

/-- Whether the integer of `value` is greater than that of `bound`. -/
def greaterThan (value bound : String) : Bool :=
  compareIntegers (fun m n => n < m) value bound

/-- Whether the integer of `value` is at least that of `bound`. -/
def atLeast (value bound : String) : Bool :=
  compareIntegers (fun m n => n ≤ m) value bound

/-- Whether the integer of `value` is less than that of `bound`. -/
def lessThan (value bound : String) : Bool :=
  compareIntegers (fun m n => m < n) value bound

/-- Whether the integer of `value` is at most that of `bound`. -/
def atMost (value bound : String) : Bool :=
  compareIntegers (fun m n => m ≤ n) value bound

/-! ### Lengths -/

/-- The number of characters of a value, up to the largest integer that a parameter can name. -/
def lengthOf (value : String) : Int := min value.toList.length largestInteger

/-- Whether a relation holds between the length of a value and the integer of a parameter. -/
def compareLength (holds : Int → Int → Bool) (value param : String) : Bool :=
  match leadingInteger? param with
  | none => false
  | some n => holds (lengthOf value) n

/-- Whether a value has exactly so many characters. -/
def hasLength (value param : String) : Bool :=
  compareLength (fun length n => length == n) value param

/-- Whether a value has at least so many characters. -/
def hasMinLength (value param : String) : Bool :=
  compareLength (fun length n => n ≤ length) value param

/-- Whether a value has at most so many characters. -/
def hasMaxLength (value param : String) : Bool :=
  compareLength (fun length n => length ≤ n) value param

end FormCheck.Check
