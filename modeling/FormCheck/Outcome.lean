import FormCheck.Json.Writing
import FormCheck.Json.Data

/-!
# Outcomes

The outcome of a validation lists what failed: for each field the rules that failed, and for each
of them a message. Fields and rules come in the order in which they failed first.

## Main definitions

* `FieldErrors`, `ErrorMap` : the messages of one field, and of all fields.
* `FieldOutcome`, `Outcome` : the outcome for one field, and for all fields.
* `FieldErrors.html`, `ErrorMap.html` : the messages as a list in HTML.
-/

namespace FormCheck

/-- The messages of one field by the rules that failed. -/
abbrev FieldErrors := Table String

/-- The messages of the fields that failed. -/
abbrev ErrorMap := Table FieldErrors

/-- Texts as a list in HTML. They are put in as they are. -/
def htmlList (texts : List String) : String :=
  "<ul>" ++ String.join (texts.map fun text => "<li>" ++ text ++ "</li>") ++ "</ul>"

namespace FieldErrors

/-- The message of the rule that failed first. -/
def first? (errors : FieldErrors) : Option String := errors.values.head?

/-- The messages as a list in HTML. -/
def html (errors : FieldErrors) : String := htmlList errors.values

/-- The JSON text of the messages. -/
def json (errors : FieldErrors) : List Char := Json.writeTable Json.writeText errors

/-- The messages that a JSON object of texts writes. -/
def ofJson? (j : Json) : Option FieldErrors := Json.textTable? j

end FieldErrors

namespace ErrorMap

/-- Enters the messages of a field, if there are any. -/
def record (errors : ErrorMap) (field : String) (fieldErrors : FieldErrors) : ErrorMap :=
  if fieldErrors.isEmpty then errors else errors.insert field fieldErrors

/-- The message of a field and a rule. -/
def message? (errors : ErrorMap) (field rule : String) : Option String :=
  (errors.get? field).bind fun fieldErrors => fieldErrors.get? rule

/-- The messages of all fields as one list in HTML. -/
def html (errors : ErrorMap) : String := htmlList (errors.values.flatMap Table.values)

/-- The JSON text of the messages of all fields. -/
def json (errors : ErrorMap) : List Char := Json.writeTable FieldErrors.json errors

/-- The messages that a JSON object of objects writes. A field without messages is kept. -/
def ofJson? (j : Json) : Option ErrorMap := Json.tableOf? Json.textTable? j

end ErrorMap

/-! ### Outcomes -/

/-- The outcome for several fields. -/
structure Outcome where
  /-- The messages of the fields that failed. -/
  errors : ErrorMap
  deriving DecidableEq

namespace Outcome

/-- Whether no field failed. -/
def isValid (outcome : Outcome) : Bool := outcome.errors.isEmpty

/-- The first message of a field. -/
def error? (outcome : Outcome) (field : String) : Option String :=
  (outcome.errors.get? field).bind FieldErrors.first?

/-- The JSON text of an outcome. -/
def json (outcome : Outcome) : List Char :=
  Json.writeObject [
    ("is_valid", Json.writeBool outcome.isValid),
    ("errors", outcome.errors.json)]

end Outcome

/-- How the validation of a field ended. -/
inductive FieldState where
  /-- No rule failed, or the value was empty and may be so. -/
  | passed
  /-- The value was empty and not required. -/
  | skipped
  /-- At least one rule failed. -/
  | failed
  deriving DecidableEq, Repr

/-- The name of a state. -/
def FieldState.name : FieldState → String
  | .passed => "passed"
  | .skipped => "skipped_empty"
  | .failed => "failed"

/-- The outcome for one field. -/
structure FieldOutcome where
  /-- How the validation ended. -/
  state : FieldState
  /-- The messages of the rules that failed. -/
  errors : FieldErrors
  deriving DecidableEq

namespace FieldOutcome

/-- The outcome of a field that passed. -/
def passed : FieldOutcome := ⟨.passed, .empty⟩

/-- The outcome of a field that was skipped. -/
def skipped : FieldOutcome := ⟨.skipped, .empty⟩

/-- The outcome of a field whose rules were evaluated: it failed if there are messages. -/
def ofErrors (errors : FieldErrors) : FieldOutcome :=
  ⟨if errors.isEmpty then .passed else .failed, errors⟩

/-- Whether a field did not fail. One that was skipped did not. -/
def isValid (outcome : FieldOutcome) : Bool := outcome.state != .failed

/-- The JSON text of an outcome. -/
def json (outcome : FieldOutcome) : List Char :=
  Json.writeObject [
    ("state", Json.writeText outcome.state.name),
    ("errors", outcome.errors.json)]

end FieldOutcome

end FormCheck
