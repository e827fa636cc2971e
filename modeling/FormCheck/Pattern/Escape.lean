import FormCheck.Pattern.Flags
import FormCheck.Text.Basic
import FormCheck.Decimal.Reading

/-!
# Escapes in patterns

A backslash in a pattern starts an escape: a character that would otherwise be special, a control
character, a character by its number, a class, or a condition on a place.

Each reader takes the text after what it recognises and gives what it read with the rest of the
text, or nothing when the pattern is wrong.

## Main definitions

* `Pattern.skip` : the text after blanks and comments, where these do not count.
* `Pattern.Atom` : what an escape or a plain character stands for.
* `Pattern.readEscape` : reads an escape.
-/

namespace FormCheck.Pattern

/-- The text after leading blanks and comments. A comment runs from `#` to the end of its line. -/
def skipComments : (inComment : Bool) → List Char → List Char
  | _, [] => []
  | inComment, c :: rest =>
    if inComment then skipComments (c ≠ '\n') rest
    else if Text.isBlank c then skipComments false rest
    else if c = '#' then skipComments true rest
    else c :: rest

/-- The text after leading blanks and comments, where these do not count. -/
def skip (f : Flags) (s : List Char) : List Char :=
  if f.verbose then skipComments false s else s

/-- Takes characters as long as they satisfy `p`, with blanks and comments between them. `steps`
bounds the number of characters and may be the length of the text. -/
def takeSpaced (f : Flags) (p : Char → Bool) : (steps : Nat) → List Char → List Char × List Char
  | 0, s => ([], s)
  | _ + 1, [] => ([], [])
  | steps + 1, c :: rest =>
    if p c then
      let (taken, tail) := takeSpaced f p steps (skip f rest)
      (c :: taken, tail)
    else ([], c :: rest)

/-- What an escape or a plain character stands for. -/
inductive Atom where
  /-- A character. `byte` tells that it was written as `\x` with two digits. -/
  | literal (c : Char) (byte : Bool)
  /-- A class of characters. -/
  | set (s : CodeSet)
  /-- A condition on a place. -/
  | look (condition : Look)
  deriving DecidableEq, Repr

/-- The character with the given number, if it is one. -/
def charOfCode? (n : Nat) : Option Char :=
  if h : n.isValidChar then some (Char.ofNatAux n h) else none

/-- Takes exactly `count` hexadecimal digits. -/
def takeHex (f : Flags) : (count : Nat) → List Char → Option (List Char × List Char)
  | 0, s => some ([], s)
  | _ + 1, [] => none
  | count + 1, c :: rest =>
    if Text.isHexDigit c then
      (takeHex f count (skip f rest)).map fun (digits, tail) => (c :: digits, tail)
    else none

/-- Reads a character by its number: `width` digits, or any number of digits in braces. -/
def readHex (f : Flags) (width : Nat) (s : List Char) : Option (Atom × List Char) :=
  match skip f s with
  | '\x7b' :: rest =>
    match takeSpaced f Text.isHexDigit rest.length (skip f rest) with
    | ([], _) => none
    | (digits, '}' :: tail) =>
      (charOfCode? (Text.hexValue digits)).map fun c => (.literal c false, skip f tail)
    | _ => none
  | s =>
    (takeHex f width s).bind fun (digits, tail) =>
      (charOfCode? (Text.hexValue digits)).map fun c => (.literal c (width = 2), tail)

/-- Splits a text at the first occurrence of a separator. -/
def splitAt? (separator : List Char) : List Char → Option (List Char × List Char)
  | [] => none
  | c :: rest =>
    if separator.isPrefixOf (c :: rest) then some ([], (c :: rest).drop separator.length)
    else (splitAt? separator rest).map fun (before, after) => (c :: before, after)

/-- The class that the text between the braces of a property escape names, and whether it names
the complement of it. -/
def propertyClass? (name : List Char) : Option (CodeSet × Bool) :=
  match splitAt? ['!', '='] name with
  | some (property, value) =>
    (valueClass? (looseName property) (looseName value)).map (·, true)
  | none =>
    match splitAt? [':'] name <|> splitAt? ['='] name with
    | some (property, value) =>
      (valueClass? (looseName property) (looseName value)).map (·, false)
    | none => (namedClass? (looseName name)).map (·, false)

/-- Reads the name of a property, one letter or any text in braces, and gives its class. -/
def readProperty (f : Flags) (negated : Bool) (s : List Char) : Option (Atom × List Char) :=
  let named := match skip f s with
    | [] => none
    | '\x7b' :: rest =>
      match takeSpaced f (· ≠ '}') rest.length (skip f rest) with
      | (name, '}' :: tail) => (propertyClass? name).map (·, tail)
      | _ => none
    | c :: rest =>
      if c = '\\' then none
      else (namedClass? (looseName [c])).map fun s => ((s, false), skip f rest)
  named.bind fun ((set, complement), tail) =>
    if f.unicode then (f.finishClass (negated != complement) set).map fun s => (.set s, tail)
    else none

/-- The condition that a word in braces after `\b` stands for. -/
def wordCondition? (ascii : Bool) (name : String) : Option Look :=
  match name with
  | "start" => some (.wordStart ascii)
  | "end" => some (.wordEnd ascii)
  | "start-half" => some (.wordStartHalf ascii)
  | "end-half" => some (.wordEndHalf ascii)
  | _ => none

/-- Whether a character can stand in the name of a condition. -/
def isConditionChar (c : Char) : Bool := c.isAlpha || c == '-'

/-- Reads what follows `\b`: a condition in braces, or nothing that belongs to it. Braces that
start with neither a letter nor a hyphen are left to a repetition. -/
def readWordEdge (f : Flags) (s : List Char) : Option (Atom × List Char) :=
  let plain := some (Atom.look (.wordEdge !f.unicode), s)
  match s with
  | '\x7b' :: rest =>
    match skip f rest with
    | [] => none
    | c :: tail =>
      if !isConditionChar c then plain
      else match takeSpaced f isConditionChar (tail.length + 1) (c :: tail) with
        | (name, '}' :: tail) =>
          (wordCondition? (!f.unicode) (String.ofList name)).map fun l => (.look l, tail)
        | _ => none
  | _ => plain

/-- The control character that a letter after a backslash stands for. -/
def controlChar? : Char → Option Char
  | 'a' => some '\x07'
  | 'f' => some '\x0c'
  | 't' => some '\t'
  | 'n' => some '\n'
  | 'r' => some '\r'
  | 'v' => some '\x0b'
  | _ => none

/-- Whether a character stands for itself after a backslash: every ASCII character except letters,
digits and angle brackets. -/
def isEscapable (c : Char) : Bool :=
  c.toNat < 0x80 && !c.isAlphanum && c != '<' && c != '>'

/-- Reads an escape after its backslash. -/
def readEscape (f : Flags) : List Char → Option (Atom × List Char)
  | [] => none
  | c :: rest =>
    match c with
    | 'x' => readHex f 2 rest
    | 'u' => readHex f 4 rest
    | 'U' => readHex f 8 rest
    | 'p' => readProperty f false rest
    | 'P' => readProperty f true rest
    | 'd' | 's' | 'w' => (f.shorthandClass c false).map fun s => (.set s, rest)
    | 'D' | 'S' | 'W' => (f.shorthandClass c.toLower true).map fun s => (.set s, rest)
    | 'A' => some (.look .textStart, rest)
    | 'z' => some (.look .textEnd, rest)
    | 'b' => readWordEdge f rest
    | 'B' => some (.look (.noWordEdge !f.unicode), rest)
    | '<' => some (.look (.wordStart !f.unicode), rest)
    | '>' => some (.look (.wordEnd !f.unicode), rest)
    | c =>
      if isEscapable c then some (.literal c false, rest)
      else (controlChar? c).map fun c => (.literal c false, rest)

end FormCheck.Pattern
