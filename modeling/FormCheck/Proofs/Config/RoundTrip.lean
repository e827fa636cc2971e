import FormCheck.Config.Json
import FormCheck.Outcome
import FormCheck.Proofs.Json.Written

/-!
# Reading back configurations and messages

A configuration is written with all its fields under their first spelling, and the messages of a
validation as objects of objects. Reading such a text gives back what was written, with the entries
of every table in the same order, so that a configuration that is stored and loaded evaluates the
same rules in the same order.

## Main definitions

* `Config.document` : the document that a configuration is written as.

## Main results

* `Config.writes_json`, `Config.ofJson?_document` : the text of a configuration writes its document,
  and this document is read as the configuration.
* `ofJson?_read_json` : configurations and messages are read back from their own texts.
-/

namespace FormCheck

namespace Config

open Json

/-- The document of an optional truth value. -/
def stopDocument : Option Bool → Json
  | none => .null
  | some b => .bool b

/-- The fields of a configuration by name. -/
def fields (c : Config) : List (String × Json) := [
  ("rules", ofTable ofString c.rules),
  ("error_messages", ofTable (ofTable ofString) c.messages),
  ("stop_on_first_error", stopDocument c.stopOnFirstError),
  ("placeholders", ofString c.substitution.name),
  ("strict", .bool c.strict)]

/-- The document that a configuration is written as. -/
def document (c : Config) : Json := .object (ofMembers c.fields)

/-! ### Values of fields -/

theorem ofName?_name (s : Substitution) : Substitution.ofName? s.name = some s := by
  cases s <;> decide

theorem placeholdersOfJson?_ofString (s : Substitution) :
    placeholdersOfJson? (ofString s.name) = some s := by
  rw [ofString, placeholdersOfJson?, string?_piecesOf, Option.bind_some, ofName?_name]

theorem stopOfJson?_stopDocument (stop : Option Bool) :
    stopOfJson? (stopDocument stop) = some stop := by
  cases stop <;> rfl

theorem messages?_ofTable (messages : Overrides) :
    tableOf? textTable? (ofTable (ofTable ofString) messages) = some messages :=
  tableOf?_ofTable textTable?_ofTable messages

/-! ### Configurations -/

/-- A field that has not been given takes its value, and the remaining fields are given next. -/
theorem Draft.giveAll_cons {α : Type} {decoder : Decoder α} {d next : Draft} {name : String}
    {field : Field} {value : α} (hname : Field.ofName? name = some field)
    (hnew : d.has field = false) (hset : d.set decoder value field = some next)
    (rest : List (String × α)) :
    d.giveAll decoder ((name, value) :: rest) = next.giveAll decoder rest := by
  simp only [giveAll, hname, give, hnew, Bool.false_eq_true, if_false, hset, Option.bind_some]

/-- Every field is given once, and what was written is what is given. -/
theorem giveAll_fields (c : Config) : Draft.empty.giveAll jsonDecoder c.fields = some
    ⟨some c.rules, some c.messages, some c.stopOnFirstError, some c.substitution,
      some c.strict⟩ := by
  have hrules (d : Draft) : d.set jsonDecoder (ofTable ofString c.rules) .rules =
      some { d with rules := some c.rules } := by
    simp only [Draft.set, jsonDecoder, textTable?_ofTable, Option.map_some]
  have hmessages (d : Draft) : d.set jsonDecoder (ofTable (ofTable ofString) c.messages) .messages =
      some { d with messages := some c.messages } := by
    simp only [Draft.set, jsonDecoder, messages?_ofTable, Option.map_some]
  have hstop (d : Draft) : d.set jsonDecoder (stopDocument c.stopOnFirstError) .stop =
      some { d with stop := some c.stopOnFirstError } := by
    simp only [Draft.set, jsonDecoder, stopOfJson?_stopDocument, Option.map_some]
  have hplaceholders (d : Draft) : d.set jsonDecoder (ofString c.substitution.name) .placeholders =
      some { d with placeholders := some c.substitution } := by
    simp only [Draft.set, jsonDecoder, placeholdersOfJson?_ofString, Option.map_some]
  have hstrict (d : Draft) : d.set jsonDecoder (.bool c.strict) .strict =
      some { d with strict := some c.strict } := rfl
  refine (Draft.giveAll_cons (by decide) rfl (hrules _) _).trans ?_
  refine (Draft.giveAll_cons (by decide) rfl (hmessages _) _).trans ?_
  refine (Draft.giveAll_cons (by decide) rfl (hstop _) _).trans ?_
  refine (Draft.giveAll_cons (by decide) rfl (hplaceholders _) _).trans ?_
  exact Draft.giveAll_cons (by decide) rfl (hstrict _) []

theorem ofFields?_fields (c : Config) : ofFields? jsonDecoder c.fields = some c := by
  rw [ofFields?, giveAll_fields]
  rfl

theorem ofJson?_document (c : Config) : ofJson? c.document = some c := by
  have hmembers : members? some (ofMembers c.fields) = some c.fields :=
    members?_ofMembers (List.forall₂_same.mpr fun _ _ => ⟨rfl, rfl⟩)
  rw [document, ofJson?, hmembers, Option.bind_some, ofFields?_fields]

theorem writes_stop (stop : Option Bool) : Writes (writeOption stop) (stopDocument stop) := by
  cases stop with
  | none => exact writes_null
  | some b => exact writes_bool b

theorem writes_json (c : Config) : Writes c.json c.document := by
  refine writes_object (.cons ⟨rfl, ?rules⟩ (.cons ⟨rfl, ?messages⟩ (.cons ⟨rfl, ?stop⟩
    (.cons ⟨rfl, ?placeholders⟩ (.cons ⟨rfl, ?strict⟩ .nil)))))
  case rules => exact writes_textTable c.rules
  case messages => exact writes_table writes_textTable c.messages
  case stop => exact writes_stop c.stopOnFirstError
  case placeholders => exact writes_text c.substitution.name
  case strict => exact writes_bool c.strict

theorem ofJsonText?_json (c : Config) : ofJsonText? (String.ofList c.json) = some c := by
  rw [ofJsonText?, c.writes_json.read_eq, Option.bind_some, ofJson?_document]

end Config

/-! ### Messages -/

theorem FieldErrors.writes_json (errors : FieldErrors) :
    Json.Writes errors.json (Json.ofTable Json.ofString errors) :=
  Json.writes_textTable errors

theorem ErrorMap.writes_json (errors : ErrorMap) :
    Json.Writes errors.json (Json.ofTable (Json.ofTable Json.ofString) errors) :=
  Json.writes_table FieldErrors.writes_json errors

/-- Configurations, the messages of a field and those of all fields are read back from their own
texts, whatever characters occur in them: the same settings, and every table with the same entries
in the same order. -/
theorem ofJson?_read_json :
    (∀ c : Config, Config.ofJsonText? (String.ofList c.json) = some c) ∧
    (∀ errors : FieldErrors,
      (Json.read (String.ofList errors.json)).bind FieldErrors.ofJson? = some errors) ∧
    ∀ errors : ErrorMap,
      (Json.read (String.ofList errors.json)).bind ErrorMap.ofJson? = some errors := by
  refine ⟨Config.ofJsonText?_json, fun errors => ?_, fun errors => ?_⟩
  · rw [errors.writes_json.read_eq, Option.bind_some]
    exact Json.textTable?_ofTable errors
  · rw [errors.writes_json.read_eq, Option.bind_some]
    exact Json.tableOf?_ofTable Json.textTable?_ofTable errors

end FormCheck
