import FormCheck.Unicode.Property

/-!
# Quoted text

Names appear in logs and listings as quoted texts in which every character can be seen. A quote, a
backslash and the common control characters are escaped by a letter; a character that is not
printable, or that would merge with the one before it, is escaped by its number.

## Main definitions

* `Text.quoted` : the quoted form of a text.
-/

namespace FormCheck.Text

/-- The characters that cannot be seen: controls, format characters, unassigned ones and all
separators but the space. -/
def invisible : CodeSet :=
  (Unicode.inCategories ["Cc", "Cf", "Cs", "Co", "Cn", "Zl", "Zp", "Zs"]).diff (.single 0x20)

/-- The characters that merge with the one before them. -/
def merging : CodeSet := (Unicode.listedProperty? "graphemeextend").getD .empty

/-- The characters that stand for a character between quotes. -/
def escapeChar (c : Char) : List Char :=
  match c with
  | '\x00' => ['\\', '0']
  | '\t' => ['\\', 't']
  | '\r' => ['\\', 'r']
  | '\n' => ['\\', 'n']
  | '\\' => ['\\', '\\']
  | '"' => ['\\', '"']
  | c =>
    if c.toNat < 0x7F ∧ 0x20 ≤ c.toNat then [c]
    else if merging.contains c.toNat || invisible.contains c.toNat then
      ['\\', 'u', '\x7b'] ++ Nat.toDigits 16 c.toNat ++ ['\x7d']
    else [c]

/-- The quoted form of a text. -/
def quoted (s : String) : String :=
  String.ofList ('"' :: s.toList.flatMap escapeChar ++ ['"'])

/-- A list of texts in their quoted forms, between brackets and with commas between them. -/
def quotedList (l : List String) : String :=
  "[" ++ String.intercalate ", " (l.map quoted) ++ "]"

/-- An optional text with its quoted form. -/
def quotedOption : Option String → String
  | none => "None"
  | some s => "Some(" ++ quoted s ++ ")"

end FormCheck.Text
