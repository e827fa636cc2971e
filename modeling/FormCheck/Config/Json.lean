import FormCheck.Config.Basic
import FormCheck.Json.Reading
import FormCheck.Json.Data

/-!
# Configurations in JSON

A configuration in JSON is an object of its fields, or an array of their values in order. A choice
of words may be written as the word or as an object with the word as its only key and no value.

## Main definitions

* `Config.ofJson?` : the configuration that a document writes.
* `Config.ofJsonText?` : the configuration that a text writes.
-/

namespace FormCheck.Config

/-- An optional truth value. -/
def stopOfJson? : Json → Option (Option Bool)
  | .null => some none
  | .bool b => some (some b)
  | _ => none

/-- The substitution that a document writes. -/
def placeholdersOfJson? : Json → Option Substitution
  | .text pieces => (Json.string? pieces).bind Substitution.ofName?
  | .object [(key, .null)] => (Json.string? key).bind Substitution.ofName?
  | _ => none

/-- A truth value. -/
def strictOfJson? : Json → Option Bool
  | .bool b => some b
  | _ => none

/-- How the values in a JSON document are read. -/
def jsonDecoder : Decoder Json where
  rules? := Json.textTable?
  messages? := Json.tableOf? Json.textTable?
  stop? := stopOfJson?
  placeholders? := placeholdersOfJson?
  strict? := strictOfJson?

/-- The configuration that a JSON document writes. -/
def ofJson? : Json → Option Config
  | .object members => (Json.members? some members).bind (ofFields? jsonDecoder)
  | .array items => ofValues? jsonDecoder items
  | _ => none

/-- The configuration that a JSON text writes. -/
def ofJsonText? (s : String) : Option Config := (Json.read s).bind ofJson?

end FormCheck.Config
