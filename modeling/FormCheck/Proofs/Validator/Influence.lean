import FormCheck.Proofs.Registry.Reading
import FormCheck.Proofs.Validator.Batch
import FormCheck.Proofs.Validator.Ending

/-!
# What may influence a field

With the built-in rules the result for a field depends on little of what was submitted: on the
text of the field, on whether the fields are filled that its markers list, and on the values of the
fields with which it is compared. Two submissions that agree on this much have the same result for
the field, whatever else they hold.

## Main definitions

* `Source.AgreeUnder` : two sources agree on all that the rules of a spec read of other fields.

## Main results

* `Examiner.evaluateField_congr_source` : the evaluation of a field reads nothing else.
* `Validator.validateWith_congr` : nothing else has an influence on a field of a form.
-/

namespace FormCheck

/-- Two sources agree on all that the rules of a spec read of other fields. -/
structure Source.AgreeUnder (spec : String) (s t : Source) : Prop where
  /-- Of the fields that a marker lists the same are filled. One that is absent is not. -/
  isFilled_eq : ∀ r ∈ Spec.rules spec, r.name = "required_with" ∨ r.name = "required_without" →
    ∀ list ∈ r.param, ∀ other ∈ fieldNames list, s.isFilled other = t.isFilled other
  /-- A field with which the value is compared has the same value, or is absent from both. -/
  valueOf_eq : ∀ r ∈ Spec.rules spec, r.name = "matches" ∨ r.name = "differs" →
    ∀ other ∈ r.param, s.valueOf (Text.trimmed other) = t.valueOf (Text.trimmed other)

namespace Examiner

variable {examiner : Examiner} {spec : String} {s t : Source}

/-- The predicate of a rule holds of a value in both sources or in neither. -/
theorem predicate_congr (hbuiltIn : examiner.registry = .builtIn)
    (h : Source.AgreeUnder spec s t) {r : Rule} (hr : r ∈ Spec.rules spec)
    {predicate : Predicate} (hresolve : examiner.registry.resolve? r.name = some predicate)
    (value : String) : predicate value r.param s = predicate value r.param t := by
  rw [hbuiltIn] at hresolve
  rcases Registry.isLocal_or_readsParam_of_resolve?_builtIn hresolve with hlocal | ⟨hname, hreads⟩
  · exact hlocal value r.param s t
  · exact hreads value r.param s t (h.valueOf_eq r hr hname)

/-- What is found of a rule is the same for both sources. -/
theorem evaluation_congr (hbuiltIn : examiner.registry = .builtIn)
    (h : Source.AgreeUnder spec s t) (field value : String) {r : Rule}
    (hr : r ∈ Spec.rules spec) :
    examiner.fails ⟨field, value, s⟩ r = examiner.fails ⟨field, value, t⟩ r ∧
      examiner.ruleEvents ⟨field, value, s⟩ r = examiner.ruleEvents ⟨field, value, t⟩ r := by
  unfold fails ruleEvents
  cases hresolve : examiner.registry.resolve? r.name with
  | none => exact ⟨rfl, rfl⟩
  | some predicate =>
    have hpredicate := predicate_congr hbuiltIn h hr hresolve value
    simp only [hpredicate, failure, and_self]

/-- A field with the same value has the same outcome and the same events in both sources. -/
theorem evaluateField_congr_source (hbuiltIn : examiner.registry = .builtIn)
    (h : Source.AgreeUnder spec s t) (field value : String) :
    examiner.evaluateField ⟨field, value, s⟩ spec =
      examiner.evaluateField ⟨field, value, t⟩ spec := by
  have hgate := gate_congr value h.isFilled_eq
  have hrules : examiner.evaluateRules ⟨field, value, s⟩ .empty (properRules (Spec.rules spec)) =
      examiner.evaluateRules ⟨field, value, t⟩ .empty (properRules (Spec.rules spec)) := by
    refine evaluateRules_ext ?_ (fun r hr => ?_) .empty
    · rfl
    · obtain ⟨hfails, hevents⟩ :=
        evaluation_congr hbuiltIn h field value (mem_properRules.mp hr).1
      exact ⟨hfails, hevents, rfl⟩
  simp only [evaluateField, evaluateParsed, hgate, hrules]

end Examiner

/-- With the built-in rules alone, a field has the same messages for two submissions in which its
text is the same and which agree on what its rules read, whatever else is validated with it, with
whatever messages and in whatever mode; and a form with this field alone has the same outcome. -/
theorem Validator.validateWith_congr {v : Validator} (hbuiltIn : v.registry = .builtIn)
    {field spec : String} {s t : Source} (htext : s.textOf field = t.textOf field)
    (h : Source.AgreeUnder spec s t) {rules : FieldRules} (hrules : rules.get? field = some spec)
    (messages : Option Overrides) :
    (v.validateWith s rules messages).result.errors.get? field =
        (v.validateWith t rules messages).result.errors.get? field ∧
      v.validateWith s (Table.ofList [(field, spec)]) messages =
        v.validateWith t (Table.ofList [(field, spec)]) messages := by
  have hvisit : (v.batchExaminer messages).visit s (field, spec) =
      (v.batchExaminer messages).visit t (field, spec) := by
    rw [Examiner.visit, Examiner.visit, ← htext]
    exact Examiner.evaluateField_congr_source hbuiltIn h field _
  have hfinding : (v.batchExaminer messages).finding? s (field, spec) =
      (v.batchExaminer messages).finding? t (field, spec) := by
    rw [Examiner.finding?, Examiner.finding?, hvisit]
  constructor
  · rw [get?_validateWith _ _ _ _ hrules, get?_validateWith _ _ _ _ hrules, hfinding]
  · rw [validateWith_eq, validateWith_eq, Table.entries_singleton]
    simp only [List.filterMap_cons, List.filterMap_nil, List.flatMap_cons, List.flatMap_nil,
      hfinding, hvisit]

/-- An empty field that is absent, another text in a field that only has to be filled, and a field
that no rule names make no difference. -/
theorem Validator.validateWith_congr_other_fields :
    let spec := "required_with[code, terms]|matches[ code ]|min_length[3]"
    let rules : FieldRules := Table.ofList [("code", "integer"), ("copy", spec)]
    let s := Source.ofTable (Table.ofList [("code", "ab"), ("terms", "yes"), ("copy", "")])
    let t := Source.ofTable (Table.ofList [("note", "x"), ("terms", "on"), ("code", "ab")])
    Validator.default.registry = .builtIn ∧ s.textOf "copy" = t.textOf "copy" ∧
      Source.AgreeUnder spec s t ∧ rules.get? "copy" = some spec ∧
      (Validator.default.validateWith s rules none).result.errors.get? "copy" =
        (Validator.default.validateWith t rules none).result.errors.get? "copy" ∧
      Validator.default.validateWith s (Table.ofList [("copy", spec)]) none =
        Validator.default.validateWith t (Table.ofList [("copy", spec)]) none ∧
      ((Validator.default.validateWith t rules none).result.errors.get? "copy").map Table.keys =
        some ["matches", "min_length"] := by
  intro spec rules s t
  have hbuiltIn : Validator.default.registry = .builtIn := rfl
  have htext : s.textOf "copy" = t.textOf "copy" := by decide
  have hagree : Source.AgreeUnder spec s t := ⟨by decide +kernel, by decide +kernel⟩
  have hrules : rules.get? "copy" = some spec := by decide
  obtain ⟨hget, halone⟩ := validateWith_congr hbuiltIn htext hagree hrules none
  exact ⟨hbuiltIn, htext, hagree, hrules, hget, halone, by decide +kernel⟩

end FormCheck
