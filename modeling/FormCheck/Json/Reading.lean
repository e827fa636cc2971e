import FormCheck.Json.Basic
import FormCheck.Text.Basic

/-!
# Reading JSON

Each reader takes the text after what it recognises and gives what it read with the rest of the
text.

## Main definitions

* `Json.read` : the document that a text writes.
-/

namespace FormCheck.Json

/-- Whether a character may stand between the parts of a document. -/
def isSpace (c : Char) : Bool := c == ' ' || c == '\t' || c == '\n' || c == '\r'

/-- The text after leading spaces. -/
def skipSpace (s : List Char) : List Char := s.dropWhile isSpace

/-- The character that a letter after a backslash stands for. -/
def shortEscape? : Char → Option Char
  | '"' => some '"'
  | '\\' => some '\\'
  | '/' => some '/'
  | 'b' => some '\x08'
  | 'f' => some '\x0c'
  | 'n' => some '\n'
  | 'r' => some '\r'
  | 't' => some '\t'
  | _ => none

/-- Reads a text after its opening quote. -/
def readText : List Char → Option (List Piece × List Char)
  | [] => none
  | '"' :: rest => some ([], rest)
  | '\\' :: 'u' :: a :: b :: c :: d :: rest =>
    if [a, b, c, d].all Text.isHexDigit then
      (readText rest).map fun (pieces, tail) => (.unit (Text.hexValue [a, b, c, d]) :: pieces, tail)
    else none
  | '\\' :: letter :: rest =>
    match shortEscape? letter with
    | none => none
    | some c => (readText rest).map fun (pieces, tail) => (.char c :: pieces, tail)
  | c :: rest =>
    if c.toNat < 0x20 || c == '\\' then none
    else (readText rest).map fun (pieces, tail) => (.char c :: pieces, tail)

/-- Reads the digits after a point, if there is a point. There has to be at least one. -/
def readPlaces : List Char → Option (Option (List Char) × List Char)
  | '.' :: rest =>
    let digits := rest.takeWhile Decimal.isDigit
    if digits.isEmpty then none else some (some digits, rest.dropWhile Decimal.isDigit)
  | s => some (none, s)

/-- Reads the digits of an exponent. There has to be at least one. -/
def readPower (negative : Bool) (s : List Char) : Option (Option Int × List Char) :=
  let digits := s.takeWhile Decimal.isDigit
  let n := Decimal.natOf digits
  if digits.isEmpty then none
  else some (some (if negative then -(n : Int) else n), s.dropWhile Decimal.isDigit)

/-- Reads an exponent, if there is one. -/
def readExponent : List Char → Option (Option Int × List Char)
  | c :: rest =>
    if c = 'e' ∨ c = 'E' then
      match rest with
      | '-' :: rest => readPower true rest
      | '+' :: rest => readPower false rest
      | rest => readPower false rest
    else some (none, c :: rest)
  | [] => some (none, [])

/-- Reads a number after its sign. Of several digits the first is not zero. -/
def readMagnitude (negative : Bool) (s : List Char) : Option (Number × List Char) :=
  let whole := s.takeWhile Decimal.isDigit
  if whole.isEmpty || (whole.head? == some '0' && whole.length != 1) then none
  else
    (readPlaces (s.dropWhile Decimal.isDigit)).bind fun (places, rest) =>
      (readExponent rest).map fun (exponent, tail) => (⟨negative, whole, places, exponent⟩, tail)

/-- Reads a number. -/
def readNumber : List Char → Option (Number × List Char)
  | '-' :: rest => readMagnitude true rest
  | s => readMagnitude false s

mutual

/-- Reads a value. `steps` bounds the number of values and may be the length of the text. -/
def readValue : (steps : Nat) → List Char → Option (Json × List Char)
  | 0, _ => none
  | steps + 1, s =>
    match skipSpace s with
    | 'n' :: 'u' :: 'l' :: 'l' :: rest => some (.null, rest)
    | 't' :: 'r' :: 'u' :: 'e' :: rest => some (.bool true, rest)
    | 'f' :: 'a' :: 'l' :: 's' :: 'e' :: rest => some (.bool false, rest)
    | '"' :: rest => (readText rest).map fun (pieces, tail) => (.text pieces, tail)
    | '[' :: rest =>
      match skipSpace rest with
      | ']' :: tail => some (.array [], tail)
      | rest => (readItems steps rest).map fun (items, tail) => (.array items, tail)
    | '\x7b' :: rest =>
      match skipSpace rest with
      | '\x7d' :: tail => some (.object [], tail)
      | rest => (readMembers steps rest).map fun (members, tail) => (.object members, tail)
    | s => (readNumber s).map fun (n, tail) => (.number n, tail)

/-- Reads the items of an array, of which there is at least one, and its closing bracket. -/
def readItems : (steps : Nat) → List Char → Option (List Json × List Char)
  | 0, _ => none
  | steps + 1, s =>
    (readValue steps s).bind fun (item, rest) =>
      match skipSpace rest with
      | ',' :: rest => (readItems steps rest).map fun (items, tail) => (item :: items, tail)
      | ']' :: tail => some ([item], tail)
      | _ => none

/-- Reads the members of an object, of which there is at least one, and its closing brace. -/
def readMembers : (steps : Nat) → List Char → Option (List (List Piece × Json) × List Char)
  | 0, _ => none
  | steps + 1, s =>
    match skipSpace s with
    | '"' :: rest =>
      (readText rest).bind fun (key, rest) =>
        match skipSpace rest with
        | ':' :: rest =>
          (readValue steps rest).bind fun (value, rest) =>
            match skipSpace rest with
            | ',' :: rest =>
              (readMembers steps rest).map fun (members, tail) => ((key, value) :: members, tail)
            | '\x7d' :: tail => some ([(key, value)], tail)
            | _ => none
        | _ => none
    | _ => none

end

/-- The document that a list of characters writes. -/
def readChars (s : List Char) : Option Json :=
  match readValue (s.length + 1) s with
  | some (value, rest) => if (skipSpace rest).isEmpty then some value else none
  | none => none

/-- The document that a text writes, with nothing but spaces around it. -/
def read (s : String) : Option Json := readChars s.toList

end FormCheck.Json
