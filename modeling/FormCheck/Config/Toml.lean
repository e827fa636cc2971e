import FormCheck.Config.Basic
import FormCheck.Toml.Reading

/-!
# Configurations in TOML

A configuration in TOML is a document with the fields as entries. A choice of words may be written
as the word or as a table with the word as its only key and an empty array or table under it. Where
a table is expected, a date or a time counts as a table with one entry.

## Main definitions

* `Config.ofTomlText?` : the configuration that a text writes.
-/

namespace FormCheck.Config

/-- The key under which a date or a time stands when it counts as a table. -/
def stampKey : String := "$__toml_private_datetime"

/-- The entries of a value that is or counts as a table. -/
def entries? : Toml.Value → Option (List (String × Toml.Value))
  | .table entries => some entries
  | .stamp s => some [(stampKey, .text s.write)]
  | _ => none

/-- The entries of a table, each of them read by `read`. -/
def readEach? {α : Type} (read : Toml.Value → Option α) :
    List (String × Toml.Value) → Option (List (String × α))
  | [] => some []
  | (key, value) :: rest => do
    some ((key, ← read value) :: (← readEach? read rest))

/-- The table that a value writes, with `read` reading what stands under its keys. -/
def tableOfToml? {α : Type} (read : Toml.Value → Option α) (v : Toml.Value) : Option (Table α) :=
  (entries? v).bind fun entries => (readEach? read entries).map Table.ofList

/-- A text. -/
def textOfToml? : Toml.Value → Option String
  | .text s => some s
  | _ => none

/-- A truth value. -/
def boolOfToml? : Toml.Value → Option Bool
  | .bool b => some b
  | _ => none

/-- The substitution that a value writes. -/
def placeholdersOfToml? : Toml.Value → Option Substitution
  | .text s => Substitution.ofName? s
  | .table [(key, .table [])] => Substitution.ofName? key
  | .table [(key, .array [])] => Substitution.ofName? key
  | _ => none

/-- How the values in a TOML document are read. -/
def tomlDecoder : Decoder Toml.Value where
  rules? := tableOfToml? textOfToml?
  messages? := tableOfToml? (tableOfToml? textOfToml?)
  stop? := fun v => (boolOfToml? v).map some
  placeholders? := placeholdersOfToml?
  strict? := boolOfToml?

/-- The configuration that a TOML text writes. -/
def ofTomlText? (s : String) : Option Config := (Toml.read s).bind (ofFields? tomlDecoder)

end FormCheck.Config
