import FormCheck.Proofs.Validator.Signals

/-!
# Two validations side by side

Whether a field is exempt or spared is seen from its value and from its spec, so two examiners part
ways only where rules are evaluated. A validator puts together what is found out about single fields
and does nothing else with it. So if two validators find messages for the same fields, and these are
related, then the messages of their outcomes are for the same fields in the same order, and are
related too. What is related to what is left open.

## Main definitions

* `FieldErrors.RelFound` : messages of two fields that are related if there are any.

## Main results

* `Examiner.rel_result_evaluateField` : two examiners compared on the rules of a field.
* `Validator.rel_errors_validateWith_of_relFound`, `Validator.rel_errors_validateValue_of_relFound`,
  `Validator.rel_validateElement_of_forall`, `Validator.rel_errors_validateForm_of_relFound` : what
  is related for every field is related for the whole.
-/

namespace FormCheck

/-! ### Fields -/

/-- What relates two fields that pass, two that are skipped, and the evaluations of the rules of a
field by two examiners, relates the outcomes of the field. -/
theorem Examiner.rel_result_evaluateField {P : FieldOutcome → FieldOutcome → Prop}
    {first second : Examiner} {subject : Subject} {spec : String} (passed : P .passed .passed)
    (skipped : P .skipped .skipped)
    (evaluated :
      let rules := properRules (Spec.rules spec)
      P (.ofErrors (Table.ofList (first.entries subject (first.evaluatedRules subject rules))))
        (.ofErrors (Table.ofList (second.entries subject (second.evaluatedRules subject rules))))) :
    P (first.evaluateField subject spec).result (second.evaluateField subject spec).result := by
  by_cases hexempt : IsExempt (Spec.rules spec) subject.value
  · rw [evaluateField_of_exempt _ subject hexempt, evaluateField_of_exempt _ subject hexempt]
    exact passed
  by_cases hspared : IsSpared (Spec.rules spec) subject.value subject.source
  · rw [evaluateField_of_spared _ subject hexempt hspared,
      evaluateField_of_spared _ subject hexempt hspared]
    exact skipped
  · rw [evaluateField_of_evaluated _ subject hexempt hspared,
      evaluateField_of_evaluated _ subject hexempt hspared]
    exact evaluated

/-! ### Validators -/

/-- Two fields have messages or have none alike, and the messages are related if there are any. -/
def FieldErrors.RelFound (R : FieldErrors → FieldErrors → Prop) (errors other : FieldErrors) :
    Prop :=
  errors.isEmpty = other.isEmpty ∧ (errors.isEmpty = false → R errors other)

theorem FieldErrors.RelFound.rel_finding? {R : String → FieldErrors → FieldErrors → Prop}
    {field : String} {errors other : FieldErrors} (h : RelFound (R field) errors other) :
    Option.Rel (fun a b => a.1 = b.1 ∧ R a.1 a.2 b.2) (finding? field errors)
      (finding? field other) := by
  obtain ⟨hempty, hrel⟩ := h
  rw [finding?, finding?, ← hempty]
  cases hfound : errors.isEmpty with
  | true => exact .none
  | false => exact .some ⟨rfl, hrel hfound⟩

namespace Validator

variable {v w : Validator} {R : String → FieldErrors → FieldErrors → Prop}

theorem rel_errors_validateWith_of_relFound {source : Source} {rules : FieldRules}
    {messages messages' : Option Overrides}
    (h : ∀ field spec, rules.get? field = some spec → FieldErrors.RelFound (R field)
      ((v.batchExaminer messages).visit source (field, spec)).result.errors
      ((w.batchExaminer messages').visit source (field, spec)).result.errors) :
    Table.Rel R (v.validateWith source rules messages).result.errors
      (w.validateWith source rules messages').result.errors := by
  rw [validateWith_eq, validateWith_eq]
  refine Table.rel_ofList_filterMap fun entry hentry => ?_
  exact (h entry.1 entry.2 (Table.get?_eq_some_iff.mpr hentry)).rel_finding?

theorem rel_errors_validateValue_of_relFound {value spec : String}
    {messages messages' : Option RuleMessages}
    (h : FieldErrors.RelFound (R valueField)
      ((v.examiner (v.valueOverrides messages) .shortCircuit).evaluateField
        ⟨valueField, value, .none⟩ spec).result.errors
      ((w.examiner (w.valueOverrides messages') .shortCircuit).evaluateField
        ⟨valueField, value, .none⟩ spec).result.errors) :
    Table.Rel R (v.validateValue value spec messages).result.errors
      (w.validateValue value spec messages').result.errors := by
  simp only [validateValue, Logged.map, ErrorMap.record_eq]
  exact Table.rel_ofList_toList h.rel_finding?

theorem rel_validateElement_of_forall {P : FieldOutcome → FieldOutcome → Prop}
    {e : Element} {source : Source}
    (h : ∀ name spec, e.name = some name → e.spec = some spec →
      P (v.elementExaminer.evaluateField ⟨name, e.effectiveValue, source⟩ spec).result
        (w.elementExaminer.evaluateField ⟨name, e.effectiveValue, source⟩ spec).result) :
    Option.Rel P (v.validateElement e source).result (w.validateElement e source).result := by
  cases hassigned : e.assignment? with
  | none =>
    rw [validateElement_of_assignment?_eq_none _ source hassigned,
      validateElement_of_assignment?_eq_none _ source hassigned]
    exact .none
  | some entry =>
    obtain ⟨hname, hspec, -, -⟩ := Element.assignment?_eq_some_iff.mp hassigned
    rw [result_validateElement _ source hassigned, result_validateElement _ source hassigned]
    exact .some (h _ _ hname hspec)

theorem rel_errors_validateForm_of_relFound {elements : List Element}
    (h : ∀ e ∈ elements, ∀ name spec, e.name = some name → e.spec = some spec →
      FieldErrors.RelFound (R name)
        (v.elementExaminer.evaluateField
          ⟨name, e.effectiveValue, Source.ofElements elements⟩ spec).result.errors
        (w.elementExaminer.evaluateField
          ⟨name, e.effectiveValue, Source.ofElements elements⟩ spec).result.errors) :
    Table.Rel R (v.validateForm elements).result.outcome.errors
      (w.validateForm elements).result.outcome.errors := by
  rw [result_validateForm, result_validateForm, List.filterMap_filterMap, List.filterMap_filterMap]
  refine Table.rel_ofList_filterMap fun e he => ?_
  cases hassigned : e.assignment? with
  | none =>
    rw [signal?_of_assignment?_eq_none _ _ hassigned, signal?_of_assignment?_eq_none _ _ hassigned]
    exact .none
  | some entry =>
    obtain ⟨hname, hspec, -, -⟩ := Element.assignment?_eq_some_iff.mp hassigned
    rw [bind_failure?_signal? _ _ hassigned, bind_failure?_signal? _ _ hassigned]
    exact (h e he _ _ hname hspec).rel_finding?

end Validator

end FormCheck
