import FormCheck.Pattern.Expr
import FormCheck.Unicode.Property
import FormCheck.Unicode.Script
import FormCheck.Unicode.CaseFold

/-!
# Flags and classes of patterns

What a character or a class in a pattern stands for depends on flags that the pattern sets: whether
case counts, whether classes know all of Unicode, and so on.

## Main definitions

* `Pattern.Flags` : the flags in force at some place of a pattern.
* `Pattern.Flags.letter` : the set of characters that a literal character stands for.
* `Pattern.Flags.finishClass` : a class made insensitive to case and negated as asked.
* `Pattern.namedClass?`, `Pattern.valueClass?` : classes by the name of a Unicode property.
-/

namespace FormCheck.Pattern

/-- The flags in force at some place of a pattern. -/
structure Flags where
  /-- Characters that differ only in case count as equal. -/
  ignoreCase : Bool
  /-- The signs `^` and `$` also stand for the ends of lines. -/
  multiLine : Bool
  /-- A point also stands for a line feed. -/
  dotAll : Bool
  /-- A carriage return ends a line as well. -/
  returns : Bool
  /-- Classes and case know all of Unicode and not only ASCII. -/
  unicode : Bool
  /-- Blanks and comments in the pattern do not count. -/
  verbose : Bool
  deriving DecidableEq, Repr

/-- The ASCII letters with the other case, when `s` has a letter in one of them. -/
def asciiCaseClosed (s : CodeSet) : CodeSet :=
  let touched := (List.range 26).filter fun i => s.contains (0x41 + i) || s.contains (0x61 + i)
  s.union (CodeSet.ofRanges (touched.flatMap fun i => [(0x41 + i, 0x41 + i), (0x61 + i, 0x61 + i)]))

namespace Flags

/-- A set with all characters that count as equal to its members. -/
def folded (f : Flags) (s : CodeSet) : CodeSet :=
  if f.ignoreCase then if f.unicode then s.caseClosed else asciiCaseClosed s else s

/-- The set of characters that a literal character stands for. -/
def letter (f : Flags) (c : Char) : CodeSet := f.folded (.single c.toNat)

/-- A class made insensitive to case where case does not count, and then negated if asked for.
Without Unicode a class may only hold ASCII characters, and so it cannot be negated. -/
def finishClass (f : Flags) (negated : Bool) (s : CodeSet) : Option CodeSet :=
  let closed := f.folded s
  if f.unicode then some (if negated then closed.compl else closed)
  else if negated then none else some closed

/-- The class of any character. Without Unicode there is none. -/
def dot (f : Flags) : Option CodeSet :=
  if !f.unicode then none
  else if f.dotAll then some CodeSet.all
  else if f.returns then some (CodeSet.ofRanges [(10, 10), (13, 13)]).compl
  else some (CodeSet.single 10).compl

/-- The condition that `^` stands for. -/
def lineStart (f : Flags) : Look :=
  if f.multiLine then if f.returns then .returnLineStart else .lineStart else .textStart

/-- The condition that `$` stands for. -/
def lineEnd (f : Flags) : Look :=
  if f.multiLine then if f.returns then .returnLineEnd else .lineEnd else .textEnd

/-- The class of decimal digits, of blanks or of word characters, by the letter of its escape. -/
def shorthand (f : Flags) (kind : Char) : CodeSet :=
  match kind, f.unicode with
  | 'd', true => Unicode.decimalDigits
  | 'd', false => .range 0x30 0x39
  | 's', true => Unicode.whiteSpace
  | 's', false => .ofRanges [(9, 13), (32, 32)]
  | _, true => Unicode.wordCharacters
  | _, false => .ofRanges [(0x30, 0x39), (0x41, 0x5A), (0x5F, 0x5F), (0x61, 0x7A)]

/-- The class of decimal digits, of blanks or of word characters, negated if asked for. -/
def shorthandClass (f : Flags) (kind : Char) (negated : Bool) : Option CodeSet :=
  if !negated then some (f.shorthand kind)
  else if f.unicode then some (f.shorthand kind).compl
  else none

end Flags

/-- The ASCII class with the given name. -/
def asciiClass? (name : String) : Option CodeSet :=
  match name with
  | "alnum" => some (.ofRanges [(0x30, 0x39), (0x41, 0x5A), (0x61, 0x7A)])
  | "alpha" => some (.ofRanges [(0x41, 0x5A), (0x61, 0x7A)])
  | "ascii" => some (.range 0 0x7F)
  | "blank" => some (.ofRanges [(9, 9), (32, 32)])
  | "cntrl" => some (.ofRanges [(0, 31), (127, 127)])
  | "digit" => some (.range 0x30 0x39)
  | "graph" => some (.range 0x21 0x7E)
  | "lower" => some (.range 0x61 0x7A)
  | "print" => some (.range 0x20 0x7E)
  | "punct" => some (.ofRanges [(0x21, 0x2F), (0x3A, 0x40), (0x5B, 0x60), (0x7B, 0x7E)])
  | "space" => some (.ofRanges [(9, 13), (32, 32)])
  | "upper" => some (.range 0x41 0x5A)
  | "word" => some (.ofRanges [(0x30, 0x39), (0x41, 0x5A), (0x5F, 0x5F), (0x61, 0x7A)])
  | "xdigit" => some (.ofRanges [(0x30, 0x39), (0x41, 0x46), (0x61, 0x66)])
  | _ => none

/-- The name of a property or a value in lower case, without blanks, hyphens, underscores and
characters outside ASCII, and without a leading `is`. The name `isc` stands for itself. -/
def looseName (name : List Char) : String :=
  let isPrefixed := match name with
    | c :: d :: _ => c.toLower == 'i' && d.toLower == 's'
    | _ => false
  let body := if isPrefixed then name.drop 2 else name
  let kept := (body.filter fun c => c.toNat < 0x80 && c != ' ' && c != '_' && c != '-').map
    Char.toLower
  String.ofList (if isPrefixed && kept == ['c'] then ['i', 's', 'c'] else kept)

/-- The class of a binary property, a general category or a script, by name. Three names belong
both to a category and to a property without a class of its own; the category counts. -/
def namedClass? (name : String) : Option CodeSet :=
  Unicode.property? name <|> Unicode.category? name <|> Unicode.script? name

/-- The class of a value of a property with named values. -/
def valueClass? (property value : String) : Option CodeSet :=
  match property with
  | "gc" | "generalcategory" => Unicode.category? value
  | "sc" | "script" => Unicode.script? value
  | "scx" | "scriptextensions" => Unicode.scriptExtension? value
  | _ => none

end FormCheck.Pattern
