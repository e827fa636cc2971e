import FormCheck.Validator.Field
import FormCheck.Config.Basic
import FormCheck.Element
import FormCheck.Form

/-!
# Validators

A validator knows the specs of fields and validates in three ways: all fields of a form at once,
one value alone, or the elements of a form on a screen. A form as a whole reports every failing
rule of a field, and the other two stop at the first; a validator may be told to do otherwise.

## Main definitions

* `Validator` : the rules, specs and messages to validate with.
* `Validator.validate`, `Validator.validateWith` : all fields of a form.
* `Validator.validateValue` : one value.
* `Validator.validateElement`, `Validator.validateForm` : the elements of a form.
* `Validator.checkRules` : whether all specs name rules that some provider knows.
-/

namespace FormCheck

/-- The rules, specs and messages to validate with. -/
structure Validator where
  /-- Who knows the rules. -/
  registry : Registry
  /-- The spec of each field. -/
  rules : FieldRules
  /-- The message templates given for single fields and rules. -/
  messages : Overrides
  /-- Whether a field stops at its first failing rule, if this has been decided. -/
  stopOnFirstError : Option Bool
  /-- Which occurrences of a placeholder are replaced. -/
  substitution : Substitution

/-- What an observer of a form is told about an element. -/
inductive Signal where
  /-- An element passed, or was skipped. -/
  | pass (e : Element)
  /-- An element failed. -/
  | fail (e : Element) (errors : FieldErrors)
  deriving DecidableEq

/-- What an observer is told about an element with a given outcome. -/
def Signal.ofOutcome (e : Element) (outcome : FieldOutcome) : Signal :=
  if outcome.isValid then .pass e else .fail e outcome.errors

/-- The outcome for the elements of a form, with what an observer is told about them. -/
structure FormReport where
  /-- The outcome for the form. -/
  outcome : Outcome
  /-- What an observer is told, in order. -/
  signals : List Signal
  deriving DecidableEq

/-- The name and the spec of an element that is validated: neither is missing or empty. -/
def Element.assignment? (e : Element) : Option (String × String) :=
  match e.name, e.spec with
  | some name, some spec => if name = "" ∨ spec = "" then none else some (name, spec)
  | _, _ => none

namespace Examiner

/-- Validates fields in order, each with its text in a source, and records their messages. -/
def evaluateFields (examiner : Examiner) (source : Source) :
    ErrorMap → List (String × String) → Logged ErrorMap
  | errors, [] => ⟨errors, []⟩
  | errors, (field, spec) :: rest =>
    let outcome := examiner.evaluateField ⟨field, source.textOf field, source⟩ spec
    (evaluateFields examiner source (errors.record field outcome.result.errors) rest).after
      outcome.events

end Examiner

namespace Validator

/-- The validator with the built-in rules and no specs. -/
def default : Validator := ⟨.builtIn, .empty, .empty, none, .first⟩

instance : Inhabited Validator := ⟨default⟩

variable (v : Validator)

/-- The mode of a validation: what has been decided, or else the given one. -/
def modeOr (mode : Mode) : Mode :=
  match v.stopOnFirstError with
  | some true => .shortCircuit
  | some false => .accumulate
  | none => mode

/-- The examiner with the given message templates. -/
def examiner (overrides : Overrides) (mode : Mode) : Examiner :=
  ⟨v.registry, ⟨overrides, v.substitution⟩, v.modeOr mode⟩

/-! ### All fields of a form -/

/-- Validates all fields of a form with specs and message templates for this time only. Without
templates those of the validator apply. A field without a value counts as empty, and a value
without a spec does not count. -/
def validateWith (source : Source) (rules : FieldRules) (messages : Option Overrides) :
    Logged Outcome :=
  let examiner := v.examiner (messages.getD v.messages) .accumulate
  (examiner.evaluateFields source .empty rules.entries).map Outcome.mk

/-- Validates all fields of a form. -/
def validate (source : Source) : Logged Outcome := v.validateWith source v.rules none

/-! ### One value -/

/-- The field under which the messages for a single value are reported. -/
def valueField : String := "value"

/-- The message templates for a single value: those given, or else those of the validator for the
field of single values. -/
def valueOverrides (messages : Option RuleMessages) : Overrides :=
  match messages, v.messages.get? valueField with
  | some messages, _ => Table.ofList [(valueField, messages)]
  | none, some messages => Table.ofList [(valueField, messages)]
  | none, none => .empty

/-- Validates a value without any other fields. -/
def validateValue (value spec : String) (messages : Option RuleMessages) : Logged Outcome :=
  let examiner := v.examiner (v.valueOverrides messages) .shortCircuit
  (examiner.evaluateField ⟨valueField, value, .none⟩ spec).map fun outcome =>
    ⟨ErrorMap.record .empty valueField outcome.errors⟩

/-! ### Elements -/

/-- Validates an element, if it has a name and a spec. -/
def validateElement (e : Element) (source : Source) : Logged (Option FieldOutcome) :=
  match e.assignment? with
  | none => ⟨none, []⟩
  | some (name, spec) =>
    ((v.examiner v.messages .shortCircuit).evaluateField
      ⟨name, e.effectiveValue, source⟩ spec).map some

/-- The report after one more element, which has a name and a spec if it has an outcome. -/
def addElement (report : FormReport) (e : Element) (outcome : Option FieldOutcome) :
    FormReport :=
  match e.name, outcome with
  | some name, some outcome =>
    ⟨⟨report.outcome.errors.record name outcome.errors⟩,
      report.signals ++ [Signal.ofOutcome e outcome]⟩
  | _, _ => report

/-- Validates elements in order and adds them to a report. -/
def validateElements (source : Source) : FormReport → List Element → Logged FormReport
  | report, [] => ⟨report, []⟩
  | report, e :: rest =>
    let outcome := v.validateElement e source
    (validateElements source (addElement report e outcome.result) rest).after outcome.events

/-- Validates the elements of a form, each of which sees the values of the others. -/
def validateForm (elements : List Element) : Logged FormReport :=
  v.validateElements (Source.ofElements elements) ⟨⟨.empty⟩, []⟩ elements

/-! ### Checking specs -/

/-- The first rule of a spec that no provider knows. Markers need no provider. -/
def unknownRule? (spec : String) : Option Rule :=
  (properRules (Spec.rules spec)).find? fun r => !v.registry.contains r.name

/-- Checks that all rules of a spec are known. -/
def checkSpec (field spec : String) : Except SetupError Unit :=
  match v.unknownRule? spec with
  | none => .ok ()
  | some r => .error (.unknownRule field r.name)

/-- Checks specs one after another. -/
def checkAll : List (String × String) → Except SetupError Unit
  | [] => .ok ()
  | (field, spec) :: rest =>
    match v.checkSpec field spec with
    | .ok () => checkAll rest
    | .error e => .error e

/-- Checks that the specs of all fields name known rules only. -/
def checkRules : Except SetupError Unit := v.checkAll v.rules.entries

end Validator

end FormCheck
