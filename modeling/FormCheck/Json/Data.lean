import FormCheck.Json.Basic
import FormCheck.Json.Writing

/-!
# The meaning of JSON documents

An object is read as a table when all its members have the same kind of value. A key that comes
again keeps its place and takes the last value.

The meaning of a document is what its parts stand for. An object means each key once, with its last
value, in the order of the keys; two keys are compared character by character.

## Main definitions

* `Json.tableOf?` : the table that a document writes.
* `Json.textTable?` : the table of texts that a document writes.
* `Json.Data` : the meaning of a document.
* `Json.data?` : the meaning of a document, if it has one.
* `Json.Data.write` : the text that writes a meaning.
-/

namespace FormCheck.Json

/-! ### Tables -/

/-- The members of an object, each value read by `read`. -/
def members? {α : Type} (read : Json → Option α) :
    List (List Piece × Json) → Option (List (String × α))
  | [] => some []
  | (key, value) :: rest => do
    some ((← string? key, ← read value) :: (← members? read rest))

/-- The table that a document writes, with `read` reading its values. -/
def tableOf? {α : Type} (read : Json → Option α) : Json → Option (Table α)
  | .object members => (members? read members).map Table.ofList
  | _ => none

/-- The string that a document writes. -/
def asString? : Json → Option String
  | .text pieces => string? pieces
  | _ => none

/-- The table of texts that a document writes. -/
def textTable? (j : Json) : Option (Table String) := tableOf? asString? j

/-! ### Meaning -/

/-- The meaning of a document. -/
inductive Data where
  /-- Nothing. -/
  | null
  /-- A truth value. -/
  | bool (b : Bool)
  /-- A number. -/
  | number (n : Numeric)
  /-- A text. -/
  | text (s : String)
  /-- An array. -/
  | array (items : List Data)
  /-- An object, with its keys in order. -/
  | object (members : List (String × Data))

/-- The pairs of a list by key, each key once with its last value. -/
def sorted {α : Type} (l : List (String × α)) : List (String × α) :=
  (Table.ofList l).entries.mergeSort fun a b => a.1 ≤ b.1

mutual

/-- The meaning of a document whatever its depth. -/
def meaning? : Json → Option Data
  | .null => some .null
  | .bool b => some (.bool b)
  | .number n => n.value?.map .number
  | .text pieces => (string? pieces).map .text
  | .array items => (meaningItems? items).map .array
  | .object members => (meaningMembers? members).map fun l => .object (sorted l)

/-- The meanings of the items of an array. -/
def meaningItems? : List Json → Option (List Data)
  | [] => some []
  | item :: rest => do some ((← meaning? item) :: (← meaningItems? rest))

/-- The meanings of the members of an object, in the order in which they are written. -/
def meaningMembers? : List (List Piece × Json) → Option (List (String × Data))
  | [] => some []
  | (key, value) :: rest => do
    some ((← string? key, ← meaning? value) :: (← meaningMembers? rest))

end

/-- The meaning of a document that is not nested too deeply. -/
def data? (j : Json) : Option Data :=
  if j.depth ≤ depthLimit then meaning? j else none

/-- The text of a number. -/
def Numeric.write : Numeric → List Char
  | .whole n => Decimal.integer n
  | .float x => Decimal.json x

mutual

/-- The text that writes a meaning. -/
def Data.write : Data → List Char
  | .null => "null".toList
  | .bool b => writeBool b
  | .number n => n.write
  | .text s => writeText s
  | .array items => writeArray (writeItems items)
  | .object members => writeObject (writeMembers members)

/-- The texts of the items of an array. -/
def writeItems : List Data → List (List Char)
  | [] => []
  | item :: rest => item.write :: writeItems rest

/-- The keys and the texts of the members of an object. -/
def writeMembers : List (String × Data) → List (String × List Char)
  | [] => []
  | (key, value) :: rest => (key, value.write) :: writeMembers rest

end

end FormCheck.Json
