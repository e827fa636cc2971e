import FormCheck.Table
import FormCheck.Decimal.Layout

/-!
# Writing JSON

JSON is written without spaces. In a text only the quote, the backslash and the control characters
below the space are escaped, by a short escape where there is one.

## Main definitions

* `Json.writeText` : a text between quotes.
* `Json.writeArray`, `Json.writeObject`, `Json.writeTable` : the parts of a document put together.
-/

namespace FormCheck.Json

/-- What stands for a character between quotes. -/
def writeChar (c : Char) : List Char :=
  match c with
  | '"' => ['\\', '"']
  | '\\' => ['\\', '\\']
  | '\x08' => ['\\', 'b']
  | '\x0c' => ['\\', 'f']
  | '\n' => ['\\', 'n']
  | '\r' => ['\\', 'r']
  | '\t' => ['\\', 't']
  | c =>
    if c.toNat < 0x20 then
      ['\\', 'u', '0', '0', Nat.digitChar (c.toNat / 16), Nat.digitChar (c.toNat % 16)]
    else [c]

/-- A text between quotes. -/
def writeText (s : String) : List Char :=
  '"' :: s.toList.flatMap writeChar ++ ['"']

/-- A truth value. -/
def writeBool (b : Bool) : List Char := if b then "true".toList else "false".toList

/-- Texts with a comma between neighbours. -/
def commas : List (List Char) → List Char
  | [] => []
  | [s] => s
  | s :: rest => s ++ ',' :: commas rest

/-- An array of written items. -/
def writeArray (items : List (List Char)) : List Char := '[' :: commas items ++ [']']

/-- A member of an object: its key and its written value. -/
def writeMember (member : String × List Char) : List Char :=
  writeText member.1 ++ ':' :: member.2

/-- An object of keys and written values. -/
def writeObject (members : List (String × List Char)) : List Char :=
  '\x7b' :: commas (members.map writeMember) ++ ['\x7d']

/-- A table whose values `write` writes, in its order. -/
def writeTable {α : Type} (write : α → List Char) (t : Table α) : List Char :=
  writeObject (t.entries.map fun entry => (entry.1, write entry.2))

end FormCheck.Json
