import FormCheck.Proofs.Validator.Influence

/-!
# A value by itself

A value is validated by itself as if it were the only field of a form, under a name of its own. The
two validations differ in what they read and in which messages they are given. A value alone has no
fields beside it, whereas the one field of a form is among the fields that its own rules may name;
and of the messages of the validator only those for single values are kept. Neither makes a
difference unless some rule names the field itself.

## Main definitions

* `Spec.IsSilentOn` : no rule of a spec refers to a field.

## Main results

* `Source.agreeUnder_of_isSilentOn` : a field that no rule refers to has no influence.
* `Examiner.evaluateField_congr_templates` : only the templates of the field itself matter.
* `Validator.validateValue_eq_validateWith` : a value is validated as a form with one field.
-/

namespace FormCheck

/-! ### A field that no rule refers to -/

/-- No rule of a spec refers to a field: no marker lists it, and no rule compares the value with
it. -/
structure Spec.IsSilentOn (spec field : String) : Prop where
  /-- No marker lists the field. -/
  notMem_fieldNames : ∀ r ∈ Spec.rules spec,
    r.name = "required_with" ∨ r.name = "required_without" →
      ∀ list ∈ r.param, field ∉ fieldNames list
  /-- The value is not compared with the field. -/
  trimmed_ne : ∀ r ∈ Spec.rules spec, r.name = "matches" ∨ r.name = "differs" →
    ∀ other ∈ r.param, Text.trimmed other ≠ field

/-- Two sources that differ in one field agree on all that the rules of a spec read, if none of them
refers to this field. -/
theorem Source.agreeUnder_of_isSilentOn {spec field : String} (hsilent : Spec.IsSilentOn spec field)
    {s t : Source} (h : ∀ other ≠ field, s.valueOf other = t.valueOf other) :
    Source.AgreeUnder spec s t where
  isFilled_eq r hr hname list hlist other hother := by
    have hne : other ≠ field := fun heq =>
      hsilent.notMem_fieldNames r hr hname list hlist (heq ▸ hother)
    rw [isFilled, isFilled, h other hne]
  valueOf_eq r hr hname other hother := h _ (hsilent.trimmed_ne r hr hname other hother)

/-! ### Templates for other fields -/

/-- Two catalogs with the same templates for a field have the same outcome and the same events for
it, whatever they hold for other fields. -/
theorem Examiner.evaluateField_congr_templates (examiner : Examiner) (subject : Subject)
    {overrides : Overrides}
    (h : overrides.get? subject.field = examiner.catalog.overrides.get? subject.field)
    (spec : String) :
    evaluateField { examiner with catalog := ⟨overrides, examiner.catalog.substitution⟩ }
        subject spec =
      examiner.evaluateField subject spec := by
  let other : Examiner := { examiner with catalog := ⟨overrides, examiner.catalog.substitution⟩ }
  have hfailure (r : Rule) : other.failure subject r = examiner.failure subject r := by
    simp only [other, failure, Catalog.message, Catalog.templateFor, Overrides.template?, h]
  have hevents (r : Rule) : other.ruleEvents subject r = examiner.ruleEvents subject r := by
    unfold ruleEvents
    rw [hfailure]
  have hrules : other.evaluateRules subject .empty (properRules (Spec.rules spec)) =
      examiner.evaluateRules subject .empty (properRules (Spec.rules spec)) := by
    refine evaluateRules_ext ?_ (fun r _ => ?_) .empty
    · rfl
    · exact ⟨rfl, hevents r, hfailure r⟩
  change other.evaluateField subject spec = examiner.evaluateField subject spec
  simp only [evaluateField, evaluateParsed, hrules]

namespace Validator

variable (v : Validator)

/-- The messages for single values are those of a form whose only messages are the given ones, or of
any form without messages of its own. -/
theorem get?_valueOverrides (messages : Option RuleMessages) :
    (v.valueOverrides messages).get? valueField =
      ((messages.map fun m => Table.ofList [(valueField, m)]).getD v.messages).get? valueField := by
  unfold valueOverrides
  cases messages with
  | some messages => rfl
  | none =>
    cases h : v.messages.get? valueField with
    | some messages => exact h.symm
    | none => exact h.symm

/-- A form with one field is validated by one visit. -/
theorem validateWith_singleton (source : Source) (field spec : String)
    (messages : Option Overrides) :
    v.validateWith source (Table.ofList [(field, spec)]) messages =
      ((v.batchExaminer messages).visit source (field, spec)).map fun outcome =>
        ⟨ErrorMap.record .empty field outcome.errors⟩ := by
  simp only [validateWith, Table.entries_singleton, Examiner.evaluateFields, Logged.after,
    List.append_nil]
  rfl

/-- If it has been decided whether to stop, and with the built-in rules alone, a value is validated
as a form whose one field is named like single values and has this value, provided that no rule
refers to this field: the outcome and the events are the same. Messages that are given for the value
are the form's messages for this field; otherwise those of the validator apply to both. -/
theorem validateValue_eq_validateWith {v : Validator} (hbuiltIn : v.registry = .builtIn)
    {stop : Bool} (hstop : v.stopOnFirstError = some stop) {value spec : String}
    (hsilent : Spec.IsSilentOn spec valueField) (messages : Option RuleMessages) :
    v.validateValue value spec messages =
      v.validateWith (Source.ofTable (Table.ofList [(valueField, value)]))
        (Table.ofList [(valueField, spec)])
        (messages.map fun m => Table.ofList [(valueField, m)]) := by
  let source := Source.ofTable (Table.ofList [(valueField, value)])
  let overrides := (messages.map fun m => Table.ofList [(valueField, m)]).getD v.messages
  have hmode : v.modeOr .shortCircuit = v.modeOr .accumulate := by
    unfold modeOr
    rw [hstop]
    cases stop <;> rfl
  have hagree : Source.AgreeUnder spec .none source := by
    refine Source.agreeUnder_of_isSilentOn hsilent fun other hother => ?_
    have hget := Table.get?_insert .empty valueField other value
    rw [if_neg hother] at hget
    exact hget.symm
  have hsource := Examiner.evaluateField_congr_source
    (show (v.examiner (v.valueOverrides messages) .shortCircuit).registry = .builtIn from hbuiltIn)
    hagree valueField value
  have htemplates := (v.examiner overrides .accumulate).evaluateField_congr_templates
    ⟨valueField, value, source⟩ (v.get?_valueOverrides messages) spec
  have hvisit : (v.examiner (v.valueOverrides messages) .shortCircuit).evaluateField
        ⟨valueField, value, .none⟩ spec =
      (v.examiner overrides .accumulate).evaluateField ⟨valueField, value, source⟩ spec := by
    rw [hsource, ← htemplates, examiner, hmode]
    rfl
  rw [validateWith_singleton, validateValue, hvisit]
  rfl

/-- Markers and comparisons that name other fields, in lists with blanks, and messages for this time
and those of the validator. -/
theorem validateValue_eq_validateWith_other_fields :
    let v : Validator :=
      { Validator.default with
        stopOnFirstError := some false
        messages := Table.ofList [("value", Table.ofList [("integer", "No number.")])] }
    let spec := "required_with[ code , note]|required_without[values]|matches[ code ]|integer"
    let own : RuleMessages := Table.ofList [("matches", "\x7bfield\x7d differs.")]
    let form := fun messages => v.validateWith (Source.ofTable (Table.ofList [("value", "ab")]))
      (Table.ofList [("value", spec)]) messages
    Spec.IsSilentOn spec "value" ∧
      v.validateValue "ab" spec (some own) = form (some (Table.ofList [("value", own)])) ∧
      v.validateValue "ab" spec none = form none ∧
      (form none).result.errors.message? "value" "integer" = some "No number." ∧
      (form (some (Table.ofList [("value", own)]))).result.errors.message? "value" "matches" =
        some "value differs." := by
  intro v spec own form
  have hsilent : Spec.IsSilentOn spec "value" := ⟨by decide +kernel, by decide +kernel⟩
  have hvalue : ∀ messages, v.validateValue "ab" spec messages = _ :=
    validateValue_eq_validateWith rfl rfl hsilent
  exact ⟨hsilent, hvalue (some own), hvalue none, by decide +kernel, by decide +kernel⟩

end Validator

end FormCheck
