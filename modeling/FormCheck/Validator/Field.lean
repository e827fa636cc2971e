import FormCheck.Requirement
import FormCheck.Message.Template
import FormCheck.Outcome
import FormCheck.Event
import FormCheck.Registry.Basic

/-!
# Validating one field

The markers of a spec decide first: an empty value may pass, or be skipped. Otherwise the other
rules are evaluated in order, and the messages of those that fail are collected. A rule that no
provider knows passes.

## Main definitions

* `Examiner` : the rules and messages of one validation.
* `Subject` : a field with its value and the values of the other fields.
* `Examiner.evaluateField` : the outcome for a field under a spec.
-/

namespace FormCheck

/-- Whether a field goes on after its first failing rule. -/
inductive Mode where
  /-- All rules are evaluated. -/
  | accumulate
  /-- The first failing rule is the last one evaluated. -/
  | shortCircuit
  deriving DecidableEq, Repr

/-- The rules and messages of one validation. -/
structure Examiner where
  /-- Who knows the rules. -/
  registry : Registry
  /-- The messages. -/
  catalog : Catalog
  /-- Whether a field goes on after its first failing rule. -/
  mode : Mode

/-- A field with its value and the values of the other fields. -/
structure Subject where
  /-- The name of the field. -/
  field : String
  /-- The value of the field. -/
  value : String
  /-- The values of the other fields. -/
  source : Source

/-- The rules of a list that are not markers. -/
def properRules (rules : List Rule) : List Rule := rules.filter fun r => !isMarker r.name

namespace Examiner

variable (examiner : Examiner) (subject : Subject)

/-- Whether a subject fails a rule. A rule that no provider knows does not fail. -/
def fails (r : Rule) : Bool :=
  match examiner.registry.resolve? r.name with
  | none => false
  | some predicate => !predicate subject.value r.param subject.source

/-- The message for a rule that a subject fails. -/
def failure (r : Rule) : String :=
  examiner.catalog.message subject.field r.name r.param subject.value

/-- The events of evaluating a rule. -/
def ruleEvents (r : Rule) : List Event :=
  match examiner.registry.resolve? r.name with
  | none => [.unknown subject.field r.name]
  | some predicate =>
    if predicate subject.value r.param subject.source then
      [.evaluated subject.field r.name r.param true]
    else
      [.evaluated subject.field r.name r.param false,
        .failed subject.field r.name (examiner.failure subject r)]

/-- Evaluates rules in order and adds the messages of those that fail. -/
def evaluateRules : FieldErrors → List Rule → Logged FieldErrors
  | errors, [] => ⟨errors, []⟩
  | errors, r :: rest =>
    let events := examiner.ruleEvents subject r
    if examiner.fails subject r then
      let errors := errors.insert r.name (examiner.failure subject r)
      match examiner.mode with
      | .shortCircuit => ⟨errors, events⟩
      | .accumulate => (evaluateRules errors rest).after events
    else (evaluateRules errors rest).after events

/-- The outcome for a subject under a list of rules. -/
def evaluateParsed (rules : List Rule) : Logged FieldOutcome :=
  if permitsEmpty rules subject.value then ⟨.passed, [.permitted subject.field]⟩
  else
    match gate rules subject.value subject.source with
    | .skip => ⟨.skipped, [.skipped subject.field]⟩
    | .evaluate =>
      (examiner.evaluateRules subject .empty (properRules rules)).map FieldOutcome.ofErrors

/-- The outcome for a subject under a spec. -/
def evaluateField (spec : String) : Logged FieldOutcome :=
  examiner.evaluateParsed subject (Spec.rules spec)

end Examiner

end FormCheck
