import FormCheck.Toml.Text
import FormCheck.Toml.Basic
import FormCheck.Calendar.Moment

/-!
# Numbers and stamps in TOML

An integer is decimal with an optional sign, or hexadecimal, octal or binary after `0x`, `0o` or
`0b`. A float has a point with digits on both sides, or an exponent, or both. Single underscores
may stand between digits.

Each reader takes the text after what it recognises and gives what it read with the rest.

## Main definitions

* `Toml.readStamp` : reads a date, a time, or both.
* `Toml.readNumber` : reads an integer or a float.
-/

namespace FormCheck.Toml

/-! ### Stamps -/

/-- Reads a number of exactly `width` digits between two bounds. -/
def readExact (width low high : Nat) (s : List Char) : Option (Nat × List Char) :=
  let digits := s.take width
  let n := Decimal.natOf digits
  if digits.length = width ∧ digits.all Decimal.isDigit ∧ low ≤ n ∧ n ≤ high then
    some (n, s.drop width)
  else none

/-- Reads one character. -/
def readChar (p : Char → Bool) : List Char → Option (List Char)
  | c :: rest => if p c then some rest else none
  | [] => none

/-- Reads a day. -/
def readDay (s : List Char) : Option (Day × List Char) := do
  let (year, s) ← readExact 4 0 9999 s
  let s ← readChar (· == '-') s
  let (month, s) ← readExact 2 1 12 s
  let s ← readChar (· == '-') s
  let (day, s) ← readExact 2 1 (Calendar.daysInMonth year month) s
  some (⟨year, month, day⟩, s)

/-- Reads the fraction of a second, if there is one. What is less than a billionth is cut off. -/
def readFraction : List Char → Nat × List Char
  | '.' :: rest =>
    let digits := rest.takeWhile Decimal.isDigit
    if digits.isEmpty then (0, '.' :: rest)
    else
      let kept := digits.take 9
      (Decimal.natOf kept * Nat.pow 10 (9 - kept.length), rest.dropWhile Decimal.isDigit)
  | s => (0, s)

/-- Reads a time. -/
def readClock (s : List Char) : Option (Clock × List Char) := do
  let (hour, s) ← readExact 2 0 23 s
  let s ← readChar (· == ':') s
  let (minute, s) ← readExact 2 0 59 s
  let s ← readChar (· == ':') s
  let (second, s) ← readExact 2 0 60 s
  let (nanosecond, s) := readFraction s
  some (⟨hour, minute, second, nanosecond⟩, s)

/-- Reads an offset of hours and minutes. -/
def readMinutes (behind : Bool) (s : List Char) : Option (Offset × List Char) := do
  let (hour, s) ← readExact 2 0 23 s
  let s ← readChar (· == ':') s
  let (minute, s) ← readExact 2 0 59 s
  some (.minutes behind (60 * hour + minute), s)

/-- Reads an offset. -/
def readOffset : List Char → Option (Offset × List Char)
  | 'Z' :: rest => some (.universal, rest)
  | 'z' :: rest => some (.universal, rest)
  | '+' :: rest => readMinutes false rest
  | '-' :: rest => readMinutes true rest
  | _ => none

/-- Reads a time and possibly an offset after a day. -/
def readRest (day : Day) (s : List Char) : Option (Stamp × List Char) := do
  let s ← readChar (fun c => c == 'T' || c == 't' || c == ' ') s
  let (clock, s) ← readClock s
  match readOffset s with
  | some (offset, s) => some (⟨some day, some clock, some offset⟩, s)
  | none => some (⟨some day, some clock, none⟩, s)

/-- Reads a day with what belongs to it, or a time. -/
def readStamp (s : List Char) : Option (Stamp × List Char) :=
  match readDay s with
  | some (day, rest) => some ((readRest day rest).getD (⟨some day, none, none⟩, rest))
  | none => (readClock s).map fun (clock, rest) => (⟨none, some clock, none⟩, rest)

/-! ### Numbers -/

/-- Takes the digits that go on a run of digits, without the underscores between them. -/
def takeMore (p : Char → Bool) : List Char → List Char × List Char
  | [] => ([], [])
  | c :: rest =>
    if p c then
      let (digits, tail) := takeMore p rest
      (c :: digits, tail)
    else if c = '_' ∧ (rest.head?.any p) then takeMore p rest
    else ([], c :: rest)

/-- Takes a run of at least one digit, without the underscores between them. -/
def takeRun (p : Char → Bool) : List Char → Option (List Char × List Char)
  | c :: rest =>
    if p c then
      let (digits, tail) := takeMore p rest
      some (c :: digits, tail)
    else none
  | [] => none

/-- Takes the digits of a whole number: a zero alone, or digits of which the first is not zero. -/
def takeWhole : List Char → Option (List Char × List Char)
  | '0' :: rest => some (['0'], rest)
  | s => takeRun Decimal.isDigit s

/-- Takes a point and the digits after it. -/
def takePlaces : List Char → Option (List Char × List Char)
  | '.' :: rest => (takeRun Decimal.isDigit rest).map fun (digits, tail) => ('.' :: digits, tail)
  | _ => none

/-- Takes the digits of an exponent, after its sign. -/
def takePower (sign : List Char) (s : List Char) : Option (List Char × List Char) :=
  (takeRun Decimal.isDigit s).map fun (digits, tail) => ('e' :: sign ++ digits, tail)

/-- Takes an exponent. -/
def takeExponent : List Char → Option (List Char × List Char)
  | c :: rest =>
    if c = 'e' ∨ c = 'E' then
      match rest with
      | '-' :: rest => takePower ['-'] rest
      | '+' :: rest => takePower [] rest
      | rest => takePower [] rest
    else none
  | [] => none

/-- Takes what makes a number a float: places, an exponent, or both. -/
def takeFloating (s : List Char) : Option (List Char × List Char) :=
  match takePlaces s with
  | none => takeExponent s
  | some (places, rest) =>
    match takeExponent rest with
    | none => some (places, rest)
    | some (exponent, tail) => some (places ++ exponent, tail)

/-- The float that a text without underscores writes. One above all doubles is refused. -/
def float? (text : List Char) : Option Value :=
  (Decimal.read text).bind fun x => if x.isInf && 0.0 < x then none else some (.float x)

/-- The integer with a sign and digits, if it has at most 64 bits. -/
def integer? (negative : Bool) (magnitude : Nat) : Option Value :=
  if negative then if magnitude ≤ Nat.pow 2 63 then some (.integer (-(magnitude : Int))) else none
  else if magnitude < Nat.pow 2 63 then some (.integer magnitude) else none

/-- Reads a decimal number, or one of the two floats that are words, after its sign. -/
def readUnsigned (negative : Bool) (s : List Char) : Option (Value × List Char) :=
  match s with
  | 'i' :: 'n' :: 'f' :: rest =>
    some (.float (if negative then -(1.0 / 0.0) else 1.0 / 0.0), rest)
  | 'n' :: 'a' :: 'n' :: rest => some (.float (0.0 / 0.0), rest)
  | s =>
    (takeWhole s).bind fun (whole, rest) =>
      match takeFloating rest with
      | some (floating, tail) =>
        (float? ((if negative then ['-'] else []) ++ whole ++ floating)).map fun x => (x, tail)
      | none => (integer? negative (Decimal.natOf whole)).map fun n => (n, rest)

/-- Reads the digits of an integer in another base than ten. -/
def readBase (base : Nat) (p : Char → Bool) (s : List Char) : Option (Value × List Char) :=
  (takeRun p s).bind fun (digits, tail) =>
    let n := digits.foldl (fun n c => base * n + Text.hexValue [c]) 0
    (integer? false n).map fun n => (n, tail)

/-- Reads an integer or a float. -/
def readNumber : List Char → Option (Value × List Char)
  | '0' :: 'x' :: rest => readBase 16 Text.isHexDigit rest
  | '0' :: 'o' :: rest => readBase 8 (fun c => '0' ≤ c && c ≤ '7') rest
  | '0' :: 'b' :: rest => readBase 2 (fun c => c == '0' || c == '1') rest
  | '-' :: rest => readUnsigned true rest
  | '+' :: rest => readUnsigned false rest
  | s => readUnsigned false s

end FormCheck.Toml
