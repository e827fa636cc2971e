import FormCheck.Text.Basic
import FormCheck.Decimal.Reading

/-!
# Texts and keys in TOML

A text stands between quotes or, over several lines, between triple quotes. Between apostrophes
instead of quotes a backslash has no meaning. A key is one or more parts between points, each of
them a text on one line or a bare word.

Each reader takes the text after what it recognises and gives what it read with the rest.

## Main definitions

* `Toml.readString` : reads a text in any of the four forms.
* `Toml.readKey` : reads a key.
-/

namespace FormCheck.Toml

/-- Whether a character is a space or a tab. -/
def isBlank (c : Char) : Bool := c == ' ' || c == '\t'

/-- The text after leading spaces and tabs. -/
def skipBlanks (s : List Char) : List Char := s.dropWhile isBlank

/-- Whether a character may stand in a text or a comment as it is: not a control character, except
the tab. -/
def isPlain (c : Char) : Bool := c == '\t' || (0x20 ≤ c.toNat && c.toNat != 0x7F)

/-- The text after a line break, if it begins with one. -/
def lineBreak? : List Char → Option (List Char)
  | '\n' :: rest => some rest
  | '\r' :: '\n' :: rest => some rest
  | _ => none

/-! ### Texts on one line -/

/-- The character that a letter after a backslash stands for. -/
def shortEscape? : Char → Option Char
  | 'b' => some '\x08'
  | 't' => some '\t'
  | 'n' => some '\n'
  | 'f' => some '\x0c'
  | 'r' => some '\r'
  | '"' => some '"'
  | '\\' => some '\\'
  | _ => none

/-- The character with the number that hexadecimal digits write. -/
def numbered? (digits : List Char) : Option Char :=
  let n := Text.hexValue digits
  if digits.all Text.isHexDigit then
    if h : n.isValidChar then some (Char.ofNatAux n h) else none
  else none

/-- The character that the text after a backslash stands for, and how long that text is. -/
def escape? : List Char → Option (Char × Nat)
  | 'u' :: rest =>
    if 4 ≤ rest.length then (numbered? (rest.take 4)).map fun c => (c, 5) else none
  | 'U' :: rest =>
    if 8 ≤ rest.length then (numbered? (rest.take 8)).map fun c => (c, 9) else none
  | letter :: _ => (shortEscape? letter).map fun c => (c, 1)
  | [] => none

/-- Reads a text after its opening quote. The first `skip` characters belong to an escape that has
been read already. -/
def readQuoted : (skip : Nat) → List Char → Option (List Char × List Char)
  | _, [] => none
  | skip + 1, _ :: rest => readQuoted skip rest
  | 0, c :: rest =>
    if c = '"' then some ([], rest)
    else if c = '\\' then
      (escape? rest).bind fun (e, length) =>
        (readQuoted length rest).map fun (text, tail) => (e :: text, tail)
    else if isPlain c then (readQuoted 0 rest).map fun (text, tail) => (c :: text, tail)
    else none

/-- Reads a text after its opening apostrophe. -/
def readVerbatim (s : List Char) : Option (List Char × List Char) :=
  match s.dropWhile fun c => isPlain c && c != '\'' with
  | '\'' :: rest => some (s.takeWhile fun c => isPlain c && c != '\'', rest)
  | _ => none

/-! ### Texts over several lines -/

/-- Reads the end of a text over several lines after three marks. Up to two more marks belong to
the text. -/
def readEnd (mark : Char) : List Char → List Char × List Char
  | c :: d :: rest =>
    if c = mark then if d = mark then ([c, d], rest) else ([c], d :: rest) else ([], c :: d :: rest)
  | [c] => if c = mark then ([c], []) else ([], [c])
  | [] => ([], [])

/-- Whether a text begins with three marks. -/
def atEnd (mark : Char) (s : List Char) : Bool := [mark, mark, mark].isPrefixOf s

/-- What a reader of texts over several lines leaves out next. -/
inductive Skip where
  /-- So many characters. -/
  | count (n : Nat)
  /-- Blanks and line breaks. -/
  | space
  deriving DecidableEq, Repr

namespace Skip

/-- Whether the next character is left out, given the text after it. -/
def covers (skip : Skip) (c : Char) (rest : List Char) : Bool :=
  match skip with
  | .count n => n != 0
  | .space => isBlank c || c == '\n' || (c == '\r' && rest.head? == some '\n')

/-- What is left out after one more character. -/
def next : Skip → Skip
  | .count n => .count (n - 1)
  | .space => .space

end Skip

/-- Reads a text over several lines after its opening quotes. Every line break is read as a single
character. A backslash at the end of a line leaves out the blanks and line breaks after it. -/
def readQuotedLines : (skip : Skip) → List Char → Option (List Char × List Char)
  | _, [] => none
  | skip, c :: rest =>
    if skip.covers c rest then readQuotedLines skip.next rest
    else if atEnd '"' (c :: rest) then some (readEnd '"' (rest.drop 2))
    else if c = '\\' then
      if (lineBreak? (skipBlanks rest)).isSome then readQuotedLines .space rest
      else
        (escape? rest).bind fun (e, length) =>
          (readQuotedLines (.count length) rest).map fun (text, tail) => (e :: text, tail)
    else if c = '\r' ∧ rest.head? = some '\n' then readQuotedLines (.count 0) rest
    else if c = '\n' || isPlain c then
      (readQuotedLines (.count 0) rest).map fun (text, tail) => (c :: text, tail)
    else none

/-- Reads a text over several lines after its opening apostrophes. Every line break is read as a
single character. -/
def readVerbatimLines : List Char → Option (List Char × List Char)
  | [] => none
  | c :: rest =>
    if atEnd '\'' (c :: rest) then some (readEnd '\'' (rest.drop 2))
    else if c = '\r' ∧ rest.head? = some '\n' then readVerbatimLines rest
    else if c = '\n' || isPlain c then
      (readVerbatimLines rest).map fun (text, tail) => (c :: text, tail)
    else none

/-- The text without the line break that it may begin with. -/
def skipLineBreak (s : List Char) : List Char := (lineBreak? s).getD s

/-- Reads a text in any of the four forms. -/
def readString : List Char → Option (List Char × List Char)
  | '"' :: '"' :: '"' :: rest => readQuotedLines (.count 0) (skipLineBreak rest)
  | '"' :: rest => readQuoted 0 rest
  | '\'' :: '\'' :: '\'' :: rest => readVerbatimLines (skipLineBreak rest)
  | '\'' :: rest => readVerbatim rest
  | _ => none

/-! ### Keys -/

/-- Whether a character may stand in a bare word. -/
def isBare (c : Char) : Bool := c.isAlphanum || c == '_' || c == '-'

/-- Reads a part of a key. -/
def readPart : List Char → Option (String × List Char)
  | '"' :: rest => (readQuoted 0 rest).map fun (text, tail) => (String.ofList text, tail)
  | '\'' :: rest => (readVerbatim rest).map fun (text, tail) => (String.ofList text, tail)
  | s =>
    let word := s.takeWhile isBare
    if word.isEmpty then none else some (String.ofList word, s.dropWhile isBare)

/-- The greatest number of parts of a key and of values around each other. -/
def depthLimit : Nat := 79

/-- Reads a key of at most so many parts, with the blanks around them: all parts but the last, and
the last one. -/
def readParts : (most : Nat) → List Char → Option ((List String × String) × List Char)
  | 0, _ => none
  | most + 1, s =>
    (readPart (skipBlanks s)).bind fun (part, rest) =>
      match skipBlanks rest with
      | '.' :: rest =>
        (readParts most rest).map fun ((path, key), tail) => ((part :: path, key), tail)
      | tail => some (([], part), tail)

/-- Reads a key, with the blanks around its parts. -/
def readKey (s : List Char) : Option ((List String × String) × List Char) :=
  readParts depthLimit s

end FormCheck.Toml
