import FormCheck.Decimal.Reading
import FormCheck.Text.Basic

/-!
# The shape of a value

Some rules look at the characters of a value alone, wherever the value comes from.

* Values of certain characters, of which there has to be at least one. Letters are those from `a` to
  `z` without regard to case. Two characters outside ASCII are such letters as well, because they
  differ from one only in case: the long s and the Kelvin sign.
* Values that as a whole are a number: a natural number, an integer, or a decimal.
* Mail addresses: a text without blanks in which an at sign stands after the first character, and a
  point after the character behind the at sign and before the last character.

## Main definitions

* `Check.isLetter` : the letters.
* `Check.isAlpha`, `Check.isAlphaNumeric`, … : values of certain characters.
* `Check.isNatural`, `Check.isPositive` : digits only, and among them one that is not zero.
* `Check.isInteger` : a natural number after an optional sign.
* `Check.isNumeric` : an integer, or a decimal with a point before its last digits.
* `Check.isEmail` : whether a value has the shape of a mail address.
-/

namespace FormCheck.Check

/-! ### Characters -/

/-- Whether a character is a letter from `a` to `z` when case does not count. -/
def isLetter (c : Char) : Bool := c.isAlpha || c == '\u017f' || c == '\u212a'

/-- Whether a character is such a letter or an ASCII digit. -/
def isLetterOrDigit (c : Char) : Bool := isLetter c || c.isDigit

/-- The punctuation marks that may stand in a punctuated value. -/
def punctuation : List Char :=
  ['~', '!', '#', '$', '%', '&', '*', '-', '_', '+', '=', '|', ':', '.']

/-- Whether a value has characters and all of them are of the class `admits`. -/
def consistsOf (admits : Char → Bool) (value : String) : Bool :=
  !value.toList.isEmpty && value.toList.all admits

/-- A value of letters. -/
def isAlpha (value : String) : Bool := consistsOf isLetter value

/-- A value of letters and spaces. -/
def isAlphaSpace (value : String) : Bool :=
  consistsOf (fun c => isLetter c || c == ' ') value

/-- A value of letters, digits, underscores and dashes. -/
def isAlphaDash (value : String) : Bool :=
  consistsOf (fun c => isLetterOrDigit c || c == '_' || c == '-') value

/-- A value of letters and digits. -/
def isAlphaNumeric (value : String) : Bool := consistsOf isLetterOrDigit value

/-- A value of letters, digits and spaces. -/
def isAlphaNumericSpace (value : String) : Bool :=
  consistsOf (fun c => isLetterOrDigit c || c == ' ') value

/-- A value of letters, digits, spaces and punctuation marks. -/
def isAlphaNumericPunct (value : String) : Bool :=
  consistsOf (fun c => isLetterOrDigit c || c == ' ' || punctuation.contains c) value

/-- A value of hexadecimal digits. -/
def isHex (value : String) : Bool := consistsOf Text.isHexDigit value

/-! ### Numbers -/

/-- Whether a text is a run of digits. -/
def isDigits (s : List Char) : Bool := !s.isEmpty && s.all Decimal.isDigit

/-- A text without the sign that it may begin with. -/
def dropSign : List Char → List Char
  | '-' :: rest => rest
  | '+' :: rest => rest
  | s => s

/-- Whether a text is a number without a sign: digits, or a point with digits after it and
possibly digits before it. -/
def isMagnitude (s : List Char) : Bool :=
  match s.dropWhile Decimal.isDigit with
  | [] => !s.isEmpty
  | '.' :: places => isDigits places
  | _ => false

/-- A value of digits. -/
def isNatural (value : String) : Bool := isDigits value.toList

/-- A value of digits, not all of them zeros. -/
def isPositive (value : String) : Bool :=
  isNatural value && value.toList.any (· != '0')

/-- A value that is an integer. -/
def isInteger (value : String) : Bool := isDigits (dropSign value.toList)

/-- A value that is an integer or a decimal. -/
def isNumeric (value : String) : Bool := isMagnitude (dropSign value.toList)

/-! ### Mail addresses -/

/-- Whether a text has a point in it, neither as its first nor as its last character. -/
def hasInnerPoint (s : List Char) : Bool := s.tail.dropLast.contains '.'

/-- Whether a text without blanks has the shape of a mail address. The first at sign after the
first character leaves the most room for the point. -/
def hasEmailShape (s : List Char) : Bool :=
  match s.tail.dropWhile (· != '@') with
  | [] => false
  | _ :: host => hasInnerPoint host

/-- Whether a value has the shape of a mail address. -/
def isEmail (value : String) : Bool :=
  !value.toList.any Text.isBlank && hasEmailShape value.toList

end FormCheck.Check
