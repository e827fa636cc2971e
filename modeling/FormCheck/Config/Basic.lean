import FormCheck.Json.Writing
import FormCheck.Message.Template

/-!
# Configurations

A configuration holds what a validator is set up with. In a file it has up to five fields. Each may
be missing and then has its default; two of them have a second spelling; a field that is given
twice, in whichever spelling, is an error; and fields that nobody knows are left alone.

The formats of files differ in what their values look like. A `Config.Decoder` says how the values
of a format are read, and `Config.ofFields?` does the rest.

## Main definitions

* `Config` : a configuration.
* `Config.ofFields?` : the configuration that named values write.
* `Config.json` : the JSON text of a configuration.
-/

namespace FormCheck

/-- The specs of fields by their names, in order of evaluation. -/
abbrev FieldRules := Table String

/-- What a validator is set up with. -/
structure Config where
  /-- The spec of each field. -/
  rules : FieldRules
  /-- The message templates given for single fields and rules. -/
  messages : Overrides
  /-- Whether a field stops at its first failing rule. Without an answer each way to validate has
  its own. -/
  stopOnFirstError : Option Bool
  /-- Which occurrences of a placeholder are replaced. -/
  substitution : Substitution
  /-- Whether specs may name only rules that some provider knows. -/
  strict : Bool
  deriving DecidableEq

namespace Config

/-- The configuration in which nothing is given. -/
def default : Config := ⟨.empty, .empty, none, .first, false⟩

instance : Inhabited Config := ⟨default⟩

/-- Whether a configuration is the default one. -/
def isDefault (c : Config) : Bool := c == default

/-- The fields of a configuration. -/
inductive Field where
  /-- The spec of each field of a form. -/
  | rules
  /-- The message templates. -/
  | messages
  /-- Whether to stop at the first failing rule. -/
  | stop
  /-- Which occurrences of a placeholder are replaced. -/
  | placeholders
  /-- Whether specs may name only known rules. -/
  | strict
  deriving DecidableEq, Repr

/-- The field with a given name. Two fields have a second spelling. -/
def Field.ofName? (name : String) : Option Field :=
  if name = "rules" then some .rules
  else if name = "error_messages" ∨ name = "errorMessages" then some .messages
  else if name = "stop_on_first_error" ∨ name = "stopOnFirstError" then some .stop
  else if name = "placeholders" then some .placeholders
  else if name = "strict" then some .strict
  else none

/-! ### Reading -/

/-- How the values of a format are read. -/
structure Decoder (α : Type) where
  /-- Reads the specs of fields. -/
  rules? : α → Option FieldRules
  /-- Reads message templates. -/
  messages? : α → Option Overrides
  /-- Reads whether to stop, where an empty value stands for no answer. -/
  stop? : α → Option (Option Bool)
  /-- Reads which occurrences are replaced. -/
  placeholders? : α → Option Substitution
  /-- Reads whether only known rules may be named. -/
  strict? : α → Option Bool

/-- The fields given so far. -/
structure Draft where
  /-- The specs of fields. -/
  rules : Option FieldRules := none
  /-- The message templates. -/
  messages : Option Overrides := none
  /-- Whether to stop. -/
  stop : Option (Option Bool) := none
  /-- Which occurrences are replaced. -/
  placeholders : Option Substitution := none
  /-- Whether only known rules may be named. -/
  strict : Option Bool := none
  deriving DecidableEq

namespace Draft

/-- The draft in which nothing is given. -/
def empty : Draft := {}

/-- The configuration of a draft, with defaults for what is not given. -/
def config (d : Draft) : Config where
  rules := d.rules.getD .empty
  messages := d.messages.getD .empty
  stopOnFirstError := d.stop.getD none
  substitution := d.placeholders.getD .first
  strict := d.strict.getD false

/-- Whether a field has been given. -/
def has (d : Draft) : Field → Bool
  | .rules => d.rules.isSome
  | .messages => d.messages.isSome
  | .stop => d.stop.isSome
  | .placeholders => d.placeholders.isSome
  | .strict => d.strict.isSome

/-- Sets a field to what a value writes. -/
def set {α : Type} (decoder : Decoder α) (d : Draft) (value : α) : Field → Option Draft
  | .rules => (decoder.rules? value).map fun x => { d with rules := some x }
  | .messages => (decoder.messages? value).map fun x => { d with messages := some x }
  | .stop => (decoder.stop? value).map fun x => { d with stop := some x }
  | .placeholders => (decoder.placeholders? value).map fun x => { d with placeholders := some x }
  | .strict => (decoder.strict? value).map fun x => { d with strict := some x }

/-- Gives a field, which must not have been given before. -/
def give {α : Type} (decoder : Decoder α) (d : Draft) (field : Field) (value : α) :
    Option Draft :=
  if d.has field then none else d.set decoder value field

/-- Gives the fields that named values write, one after another. -/
def giveAll {α : Type} (decoder : Decoder α) : Draft → List (String × α) → Option Draft
  | d, [] => some d
  | d, (name, value) :: rest =>
    match Field.ofName? name with
    | none => giveAll decoder d rest
    | some field => (d.give decoder field value).bind fun d => giveAll decoder d rest

/-- Gives fields in the order in which values come. There may not be more values than fields. -/
def giveInOrder {α : Type} (decoder : Decoder α) : Draft → List Field → List α → Option Draft
  | d, _, [] => some d
  | _, [], _ :: _ => none
  | d, field :: fields, value :: rest =>
    (d.give decoder field value).bind fun d => giveInOrder decoder d fields rest

end Draft

/-- The configuration that named values write. -/
def ofFields? {α : Type} (decoder : Decoder α) (fields : List (String × α)) : Option Config :=
  (Draft.empty.giveAll decoder fields).map Draft.config

/-- The fields in their order. -/
def fieldOrder : List Field := [.rules, .messages, .stop, .placeholders, .strict]

/-- The configuration that values without names write, in the order of the fields. -/
def ofValues? {α : Type} (decoder : Decoder α) (l : List α) : Option Config :=
  (Draft.empty.giveInOrder decoder fieldOrder l).map Draft.config

/-! ### Writing -/

/-- The JSON text of an optional truth value. -/
def writeOption : Option Bool → List Char
  | none => "null".toList
  | some b => Json.writeBool b

/-- The JSON text of a configuration, with all its fields in order. -/
def json (c : Config) : List Char :=
  Json.writeObject [
    ("rules", Json.writeTable Json.writeText c.rules),
    ("error_messages", Json.writeTable (Json.writeTable Json.writeText) c.messages),
    ("stop_on_first_error", writeOption c.stopOnFirstError),
    ("placeholders", Json.writeText c.substitution.name),
    ("strict", Json.writeBool c.strict)]

end Config

end FormCheck
