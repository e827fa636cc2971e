import FormCheck.Proofs.Validator.Messages
import FormCheck.Proofs.Validator.SideBySide

/-!
# Templates and texts

Message templates are looked up only when a rule has failed, so they have no say in what fails. Two
catalogs, which may differ in all templates and in the way to fill them in, leave the same fields
failing, and under each of them the same rules, all in the same order. The text for a field and a
rule is made from one template. Hence two catalogs that fill in alike give the same text wherever
they agree on this template, whatever they hold for other fields and for other rules.

## Main definitions

* `Catalog.AgreesOn` : two catalogs fill in the same template for a field and a rule.
* `FieldErrors.SameRules` : the messages of a field for the same rules.
* `FieldOutcome.SameButTexts`, `Outcome.SameButTexts` : outcomes that differ in their texts only.
* `Validator.withTemplates` : a validator with other templates.

## Main results

* `Examiner.sameButTexts_evaluateField` : the outcomes of a field under two catalogs.
* `Validator.withTemplates_sameButTexts` : the outcomes of whatever is validated.
-/

namespace FormCheck

/-! ### Catalogs -/

/-- Two catalogs fill in alike, and for a field and a rule they are given the same template or both
none. -/
def Catalog.AgreesOn (first second : Catalog) (field rule : String) : Prop :=
  first.substitution = second.substitution ∧
    first.overrides.template? field rule = second.overrides.template? field rule

/-- A text depends on no other template than that of its field and rule. -/
theorem Catalog.AgreesOn.message_eq {first second : Catalog} {field rule : String}
    (h : first.AgreesOn second field rule) (param : Option String) (value : String) :
    first.message field rule param value = second.message field rule param value := by
  rw [message, message, templateFor, templateFor, h.1, h.2]

/-! ### Outcomes -/

/-- The messages of a field under two catalogs: they are for the same rules in the same order, and
a rule has the same message if the catalogs agree on it. -/
def FieldErrors.SameRules (first second : Catalog) (field : String) :
    FieldErrors → FieldErrors → Prop :=
  Table.Rel fun rule message other => first.AgreesOn second field rule → message = other

/-- Two outcomes of a field differ in their texts only. -/
structure FieldOutcome.SameButTexts (first second : Catalog) (field : String)
    (outcome other : FieldOutcome) : Prop where
  /-- The field ends in the same way. -/
  state_eq : outcome.state = other.state
  /-- The same rules fail in the same order. -/
  rules_eq : outcome.errors.keys = other.errors.keys
  /-- A rule has the same message if the catalogs agree on it. -/
  message_eq : ∀ rule, first.AgreesOn second field rule →
    outcome.errors.get? rule = other.errors.get? rule

/-- Two outcomes for several fields differ in their texts only. -/
structure Outcome.SameButTexts (first second : Catalog) (outcome other : Outcome) : Prop where
  /-- Both are valid or both are not. -/
  isValid_eq : outcome.isValid = other.isValid
  /-- The same fields fail in the same order. -/
  fields_eq : outcome.errors.keys = other.errors.keys
  /-- The same rules fail for a field in the same order. -/
  rules_eq : ∀ field,
    (outcome.errors.get? field).map Table.keys = (other.errors.get? field).map Table.keys
  /-- A field and a rule have the same message if the catalogs agree on them. -/
  message_eq : ∀ field rule, first.AgreesOn second field rule →
    outcome.errors.message? field rule = other.errors.message? field rule

section Outcomes

variable {first second : Catalog} {field : String}

theorem FieldErrors.SameRules.get?_eq {errors other : FieldErrors}
    (h : SameRules first second field errors other) {rule : String}
    (hagrees : first.AgreesOn second field rule) : errors.get? rule = other.get? rule := by
  have hrel := Table.Rel.rel_get? h rule
  generalize errors.get? rule = message, other.get? rule = message' at hrel
  cases hrel with
  | none => rfl
  | some heq => rw [heq hagrees]

theorem FieldErrors.SameRules.sameButTexts {errors other : FieldErrors}
    (h : SameRules first second field errors other) :
    FieldOutcome.SameButTexts first second field (.ofErrors errors) (.ofErrors other) where
  state_eq := by rw [FieldOutcome.ofErrors, FieldOutcome.ofErrors, Table.Rel.isEmpty_eq h]
  rules_eq := h.keys_eq
  message_eq _ := h.get?_eq

theorem FieldOutcome.SameButTexts.refl (outcome : FieldOutcome) :
    SameButTexts first second field outcome outcome :=
  ⟨rfl, rfl, fun _ _ => rfl⟩

theorem FieldOutcome.SameButTexts.sameRules {outcome other : FieldOutcome}
    (h : SameButTexts first second field outcome other) :
    FieldErrors.SameRules first second field outcome.errors other.errors where
  keys_eq := h.rules_eq
  rel rule a b ha hb hagrees := by
    rw [h.message_eq rule hagrees, hb] at ha
    exact (Option.some.inj ha).symm

theorem FieldOutcome.SameButTexts.relFound {outcome other : FieldOutcome}
    (h : SameButTexts first second field outcome other) :
    FieldErrors.RelFound (FieldErrors.SameRules first second field) outcome.errors other.errors :=
  ⟨Table.Rel.isEmpty_eq h.sameRules, fun _ => h.sameRules⟩

theorem Outcome.SameButTexts.of_rel {outcome other : Outcome}
    (h : Table.Rel (FieldErrors.SameRules first second) outcome.errors other.errors) :
    SameButTexts first second outcome other where
  isValid_eq := h.isEmpty_eq
  fields_eq := h.keys_eq
  rules_eq field := by
    have hrel := h.rel_get? field
    generalize outcome.errors.get? field = errors, other.errors.get? field = errors' at hrel
    cases hrel with
    | none => rfl
    | some hrules => exact congrArg some hrules.keys_eq
  message_eq field rule hagrees := by
    have hrel := h.rel_get? field
    rw [ErrorMap.message?, ErrorMap.message?]
    generalize outcome.errors.get? field = errors, other.errors.get? field = errors' at hrel
    cases hrel with
    | none => rfl
    | some hrules => exact hrules.get?_eq hagrees

end Outcomes

/-! ### Fields -/

namespace Examiner

variable (examiner : Examiner) (first second : Catalog) (subject : Subject)

/-- The failing rules of a list leave messages under the same names with any two catalogs. -/
theorem sameRules_ofList_entries (rules : List Rule) :
    FieldErrors.SameRules first second subject.field
      (Table.ofList (entries { examiner with catalog := first } subject rules))
      (Table.ofList (entries { examiner with catalog := second } subject rules)) := by
  refine Table.rel_empty.insertAll ?_
  -- The failing rules do not depend on the catalog.
  change List.Forall₂ _ ((rules.filter (examiner.fails subject)).map _)
    ((rules.filter (examiner.fails subject)).map _)
  rw [List.forall₂_map_left_iff, List.forall₂_map_right_iff, List.forall₂_same]
  exact fun r _ => ⟨rfl, fun hagrees => hagrees.message_eq r.param subject.value⟩

/-- A field ends in the same way with any two catalogs, and if it fails the same rules fail. -/
theorem sameButTexts_evaluateField (spec : String) :
    FieldOutcome.SameButTexts first second subject.field
      (evaluateField { examiner with catalog := first } subject spec).result
      (evaluateField { examiner with catalog := second } subject spec).result := by
  refine rel_result_evaluateField (.refl _) (.refl _) ?_
  have hrules := examiner.sameRules_ofList_entries first second subject
    (examiner.evaluatedRules subject (properRules (Spec.rules spec)))
  exact hrules.sameButTexts

end Examiner

/-! ### Validators -/

namespace Validator

variable (v : Validator)

/-- A validator with other templates and another way to fill them in. -/
def withTemplates (messages : Overrides) (substitution : Substitution) : Validator :=
  { v with messages := messages, substitution := substitution }

/-- The templates that a validation is given, and the mode in which they are filled in, make no
difference but in the texts. Whether a field, a form with specs, a value, an element or a form on a
screen is valid does not depend on them, nor do the failing fields, the failing rules of each and
the order of both. Moreover, if templates are filled in alike, the text for a field and a rule
depends on no template but the one that is given for this field and this rule. -/
theorem withTemplates_sameButTexts (messages messages' : Overrides)
    (substitution substitution' : Substitution) :
    let first := v.withTemplates messages substitution
    let second := v.withTemplates messages' substitution'
    (∀ mode subject spec,
      FieldOutcome.SameButTexts ⟨messages, substitution⟩ ⟨messages', substitution'⟩ subject.field
        ((first.examiner messages mode).evaluateField subject spec).result
        ((second.examiner messages' mode).evaluateField subject spec).result) ∧
    (∀ source rules given given',
      Outcome.SameButTexts ⟨given.getD messages, substitution⟩
        ⟨given'.getD messages', substitution'⟩
        (first.validateWith source rules given).result
        (second.validateWith source rules given').result) ∧
    (∀ value spec given given',
      Outcome.SameButTexts ⟨first.valueOverrides given, substitution⟩
        ⟨second.valueOverrides given', substitution'⟩
        (first.validateValue value spec given).result
        (second.validateValue value spec given').result) ∧
    (∀ e source,
      Option.Rel (fun outcome other => ∃ name ∈ e.name,
          FieldOutcome.SameButTexts ⟨messages, substitution⟩ ⟨messages', substitution'⟩ name
            outcome other)
        (first.validateElement e source).result (second.validateElement e source).result) ∧
    ∀ elements,
      Outcome.SameButTexts ⟨messages, substitution⟩ ⟨messages', substitution'⟩
        (first.validateForm elements).result.outcome
        (second.validateForm elements).result.outcome := by
  intro first second
  -- The two examiners of any validation differ in their catalogs only.
  have hfield (overrides overrides' : Overrides) (mode : Mode) (subject : Subject) (spec : String) :
      FieldOutcome.SameButTexts ⟨overrides, substitution⟩ ⟨overrides', substitution'⟩ subject.field
        ((first.examiner overrides mode).evaluateField subject spec).result
        ((second.examiner overrides' mode).evaluateField subject spec).result :=
    (first.examiner overrides mode).sameButTexts_evaluateField _ _ subject spec
  refine ⟨?field, ?form, ?value, ?element, ?screen⟩
  case field => exact hfield messages messages'
  case form =>
    intro source rules given given'
    refine .of_rel (rel_errors_validateWith_of_relFound fun field spec _ => ?_)
    exact (hfield _ _ _ ⟨field, source.textOf field, source⟩ spec).relFound
  case value =>
    intro value spec given given'
    refine .of_rel (rel_errors_validateValue_of_relFound ?_)
    exact (hfield _ _ _ ⟨valueField, value, .none⟩ spec).relFound
  case element =>
    intro e source
    refine rel_validateElement_of_forall fun name spec hname _ => ?_
    exact ⟨name, hname, hfield _ _ _ ⟨name, e.effectiveValue, source⟩ spec⟩
  case screen =>
    intro elements
    refine .of_rel (rel_errors_validateForm_of_relFound fun e _ name spec _ _ => ?_)
    exact (hfield _ _ _ ⟨name, e.effectiveValue, Source.ofElements elements⟩ spec).relFound

-- A template without any text leaves a rule failing and says nothing about other fields.
example :
    let v := Validator.default.withTemplates (.ofList [("a", .ofList [("integer", "")])]) .first
    let errors := (v.validateWith (.ofTable (.ofList [("a", "x"), ("b", "x")]))
      (.ofList [("a", "integer"), ("b", "integer")]) none).result.errors
    errors.message? "a" "integer" = some "" ∧
      errors.message? "b" "integer" = some "The b field must contain an integer." := by
  decide +kernel

end Validator

end FormCheck
