import FormCheck.Proofs.Spec.Lists
import FormCheck.Proofs.Validator.Batch
import FormCheck.Proofs.Validator.Ending

/-!
# Fields that are required on a condition

A spec such as `required_with[street,city]|required` requires a value on a condition: here, that two
other fields are filled. The marker does not fail by itself. It decides whether an empty value goes
on to the rule `required`, which then fails. From the text of the spec to the one message this takes
a bar that separates and bars that do not, a list cut at commas, a requirement that must not spare
the field when it is met, and fields that may be empty or absent.

## Main definitions

* `IsListable` : names of fields that may stand in the list of a marker.
* `Outcome.FailsExactlyIf` : a field has certain messages on a condition, and otherwise none.

## Main results

* `fieldNames_intercalate` : a list of names is read back from a marker.
* `Spec.rules_marked` : a marker with a list in front of `required` is read as these two rules.
* `Validator.validateWith_required` : the condition on which a field is required.
-/

namespace FormCheck

/-! ### Lists of names -/

/-- A name of a field that may stand in the list of a marker: no blank is at its ends, and it has
neither commas nor brackets nor backslashes. -/
structure IsListable (name : String) : Prop where
  /-- The name begins with no blank. -/
  head_not_blank : ∀ c ∈ name.toList.head?, Text.isBlank c = false
  /-- The name ends with no blank. -/
  last_not_blank : ∀ c ∈ name.toList.getLast?, Text.isBlank c = false
  /-- No character ends the name or the list or escapes what follows. -/
  not_special : ∀ c ∈ name.toList, c ∉ [',', '[', ']', '\\']

instance (name : String) : Decidable (IsListable name) :=
  decidable_of_iff
    (name.toList.head?.any Text.isBlank = false ∧ name.toList.getLast?.any Text.isBlank = false ∧
      name.toList.all (fun c => !([',', '[', ']', '\\'].contains c)) = true)
    (by
      simp only [Option.any_eq_false, List.all_eq_true, Bool.not_eq_true', List.contains_eq_mem,
        decide_eq_false_iff_not]
      exact ⟨fun ⟨hhead, hlast, hspecial⟩ => ⟨hhead, hlast, hspecial⟩,
        fun h => ⟨h.head_not_blank, h.last_not_blank, h.not_special⟩⟩)

/-- A name that may stand in the list of a marker is a text that may stand in any list. -/
theorem IsListable.isItem {name : String} (h : IsListable name) : IsItem name := h.not_special

/-- The names of a list are read back. -/
theorem fieldNames_intercalate {names : List String} (hlistable : ∀ name ∈ names, IsListable name)
    (hne : names ≠ []) : fieldNames (",".intercalate names) = names := by
  have htrim : ∀ name ∈ names, String.ofList (Text.trim name.toList) = name := by
    intro name hname
    have h := hlistable name hname
    rw [Text.trim_eq_self h.head_not_blank h.last_not_blank, String.ofList_toList]
  have hsplit := splitOn_intercalate (fun name hname => (hlistable name hname).isItem) hne
  rw [fieldNames, hsplit, List.map_map]
  exact (List.map_congr_left htrim).trans (List.map_id' names)

/-- The name of a marker may be written in a spec. -/
theorem Rule.isWritable_marker (marker : Marker) : IsWritable ⟨marker.name, none⟩ := by
  cases marker <;> exact isWritable_bare (by decide) (by decide)

namespace Spec

/-- A marker with a list in front of `required` is read as these two rules. -/
theorem rules_marked {marker : Marker} {names : List String}
    (hlistable : ∀ name ∈ names, IsListable name) :
    Spec.rules (marker.name ++ "[" ++ ",".intercalate names ++ "]|required") =
      [⟨marker.name, some (",".intercalate names)⟩, ⟨"required", none⟩] := by
  have hparam := isEnclosed_intercalate fun name hname => (hlistable name hname).isItem
  generalize ",".intercalate names = list at hparam
  have hmarker : Rule.IsWritable ⟨marker.name, some list⟩ :=
    (Rule.isWritable_marker marker).withParam hparam
  have hrequired : Rule.IsWritable ⟨"required", none⟩ :=
    Rule.isWritable_bare (by decide) (by decide)
  have hne : marker.name ≠ "required" := by cases marker <;> decide
  have hwrite : marker.name ++ "[" ++ list ++ "]|required" =
      write [⟨marker.name, some list⟩, ⟨"required", none⟩] := by
    refine String.toList_inj.mp ?_
    simp [write, join, Rule.write]
  rw [hwrite]
  refine rules_write ?_ ?_
  · simp [hne]
  · simp [hmarker, hrequired]

end Spec

/-! ### Filled and empty fields -/

namespace Source

variable {source : Source} {name : String}

theorem isFilled_iff : source.isFilled name = true ↔ ∃ text ∈ source.valueOf name, text ≠ "" := by
  unfold isFilled
  cases source.valueOf name <;> simp

theorem isFilled_eq_false_iff :
    source.isFilled name = false ↔ ∀ text ∈ source.valueOf name, text = "" := by
  unfold isFilled
  cases source.valueOf name <;> simp

theorem textOf_eq_empty_iff :
    source.textOf name = "" ↔ ∀ text ∈ source.valueOf name, text = "" := by
  unfold textOf
  cases source.valueOf name <;> simp

end Source

/-! ### A marker in front of `required` -/

/-- A single rule is evaluated in both modes. -/
theorem Examiner.evaluatedRules_singleton (examiner : Examiner) (subject : Subject) (r : Rule) :
    examiner.evaluatedRules subject [r] = [r] := by
  unfold evaluatedRules
  cases examiner.mode with
  | accumulate => rfl
  | shortCircuit => simp [upToFirst]

/-- What a marker with a list asks for when it is the only one. -/
def Marker.demands (marker : Marker) (source : Source) (list : String) : Bool :=
  match marker with
  | .permitEmpty => false
  | .requiredWith => source.allFilled list
  | .requiredWithout => source.noneFilled list

section Marked

variable {marker : Marker} {list : String}

theorem isSpared_marked_iff (hmarker : marker ≠ .permitEmpty) {value : String} {source : Source} :
    IsSpared [⟨marker.name, some list⟩, ⟨"required", none⟩] value source ↔
      value = "" ∧ marker.demands source list = false := by
  rw [← gate_eq_skip_iff, gate_eq_skip_iff_requirements]
  cases marker with
  | permitEmpty => exact absurd rfl hmarker
  | requiredWith =>
    simp [requirements, markerLists, Rule.isMarkedBy, Marker.name, Marker.demands]
  | requiredWithout =>
    simp [requirements, markerLists, Rule.isMarkedBy, Marker.name, Marker.demands]

theorem not_isExempt_marked (hmarker : marker ≠ .permitEmpty) (value : String) :
    ¬ IsExempt [⟨marker.name, some list⟩, ⟨"required", none⟩] value := by
  cases marker with
  | permitEmpty => exact absurd rfl hmarker
  | requiredWith => simp [IsExempt, Marker.name]
  | requiredWithout => simp [IsExempt, Marker.name]

theorem properRules_marked :
    properRules [⟨marker.name, some list⟩, ⟨"required", none⟩] = [⟨"required", none⟩] := by
  cases marker <;> rfl

/-- The built-in rule `required` fails for empty values. -/
theorem Examiner.fails_required_iff {examiner : Examiner} (hbuiltIn : examiner.registry = .builtIn)
    {subject : Subject} :
    examiner.fails subject ⟨"required", none⟩ = true ↔ subject.value = "" := by
  have hresolve : examiner.registry.resolve? "required" = some (.ofValue Check.isPresent) := by
    rw [hbuiltIn]
    rfl
  simp [fails, hresolve, Predicate.ofValue, Check.isPresent]

/-- Behind a marker with a list the rule `required` fails if the value is empty and the marker asks
for one. -/
theorem Examiner.errors_evaluateField_marked {examiner : Examiner}
    (hbuiltIn : examiner.registry = .builtIn) (hmarker : marker ≠ .permitEmpty) {spec : String}
    (hrules : Spec.rules spec = [⟨marker.name, some list⟩, ⟨"required", none⟩])
    (subject : Subject) :
    (examiner.evaluateField subject spec).result.errors =
      if subject.value = "" ∧ marker.demands subject.source list = true then
        Table.ofList [examiner.entry subject ⟨"required", none⟩]
      else .empty := by
  have hexempt : ¬ IsExempt (Spec.rules spec) subject.value :=
    hrules ▸ not_isExempt_marked hmarker subject.value
  by_cases hspared : IsSpared (Spec.rules spec) subject.value subject.source
  · rw [examiner.evaluateField_of_spared subject hexempt hspared]
    rw [hrules, isSpared_marked_iff hmarker] at hspared
    simp [hspared, FieldOutcome.skipped]
  · rw [examiner.evaluateField_of_evaluated subject hexempt hspared, hrules, properRules_marked,
      evaluatedRules_singleton]
    rw [hrules, isSpared_marked_iff hmarker] at hspared
    by_cases hvalue : subject.value = ""
    · have hfails := (fails_required_iff hbuiltIn).mpr hvalue
      have hdemands : marker.demands subject.source list = true := by simpa [hvalue] using hspared
      rw [if_pos ⟨hvalue, hdemands⟩, entries_cons_of_fails _ _ hfails]
      rfl
    · have hfails := mt (fails_required_iff hbuiltIn).mp hvalue
      rw [if_neg fun h => hvalue h.1, entries_cons_of_not_fails _ _ hfails]
      rfl

end Marked

/-! ### Forms -/

/-- In the outcome for a form a field has exactly the given messages if a condition holds, and none
if it does not. -/
structure Outcome.FailsExactlyIf (outcome : Outcome) (field : String) (errors : FieldErrors)
    (condition : Prop) : Prop where
  /-- On the condition there are these messages. -/
  errors_iff : outcome.errors.get? field = some errors ↔ condition
  /-- Otherwise there are none. -/
  none_iff : outcome.errors.get? field = none ↔ ¬ condition

theorem Outcome.failsExactlyIf_of_get?_eq {outcome : Outcome} {field : String}
    {errors : FieldErrors} {condition : Prop} [Decidable condition]
    (h : outcome.errors.get? field = if condition then some errors else none) :
    outcome.FailsExactlyIf field errors condition := by
  constructor
  · rw [h]
    split <;> simp [*]
  · rw [h]
    split <;> simp [*]

namespace Validator

variable {v : Validator} {names : List String}

/-- A field with a marker in front of `required` fails on its condition in any form. -/
theorem failsExactlyIf_marked (hbuiltIn : v.registry = .builtIn)
    (hlistable : ∀ name ∈ names, IsListable name) {marker : Marker}
    (hmarker : marker ≠ .permitEmpty) {rules : FieldRules} {field : String}
    (hrules : rules.get? field =
      some (marker.name ++ "[" ++ ",".intercalate names ++ "]|required"))
    (source : Source) (messages : Option Overrides) :
    (v.validateWith source rules messages).result.FailsExactlyIf field
      (Table.ofList [("required", (Catalog.mk (messages.getD v.messages) v.substitution).message
        field "required" none "")])
      (source.textOf field = "" ∧ marker.demands source (",".intercalate names) = true) := by
  have herrors := Examiner.errors_evaluateField_marked
    (show (v.batchExaminer messages).registry = .builtIn from hbuiltIn) hmarker
    (Spec.rules_marked hlistable) ⟨field, source.textOf field, source⟩
  refine Outcome.failsExactlyIf_of_get?_eq ?_
  rw [v.get?_validateWith source rules messages hrules, Examiner.finding?, Examiner.visit, herrors]
  split
  · next hcondition =>
    rw [Examiner.entry, Examiner.failure, hcondition.1]
    rfl
  · rfl

/-- With the built-in rules alone, a field of any form that has the spec
`required_with[..]|required` has no message other than that of `required`, and has it if and only if
the field is absent or empty and every listed field is present with a value that is not empty. Under
the spec `required_without[..]|required` it has this message if and only if the field is absent or
empty and every listed field is so too. -/
theorem validateWith_required (hbuiltIn : v.registry = .builtIn) (hne : names ≠ [])
    (hlistable : ∀ name ∈ names, IsListable name) (source : Source) (field : String)
    (messages : Option Overrides) :
    let list := ",".intercalate names
    let catalog : Catalog := ⟨messages.getD v.messages, v.substitution⟩
    let required : FieldErrors :=
      Table.ofList [("required", catalog.message field "required" none "")]
    (∀ rules : FieldRules, rules.get? field = some ("required_with[" ++ list ++ "]|required") →
      (v.validateWith source rules messages).result.FailsExactlyIf field required
        ((∀ text ∈ source.valueOf field, text = "") ∧
          ∀ name ∈ names, ∃ text ∈ source.valueOf name, text ≠ "")) ∧
    ∀ rules : FieldRules, rules.get? field = some ("required_without[" ++ list ++ "]|required") →
      (v.validateWith source rules messages).result.FailsExactlyIf field required
        ((∀ text ∈ source.valueOf field, text = "") ∧
          ∀ name ∈ names, ∀ text ∈ source.valueOf name, text = "") := by
  intro list catalog required
  have hnames : fieldNames (",".intercalate names) = names := fieldNames_intercalate hlistable hne
  constructor
  · intro rules hrules
    have h := failsExactlyIf_marked hbuiltIn hlistable
      (show Marker.requiredWith ≠ .permitEmpty by decide) hrules source messages
    simpa only [Marker.demands, Source.allFilled, hnames, List.all_eq_true, Source.isFilled_iff,
      Source.textOf_eq_empty_iff] using h
  · intro rules hrules
    have h := failsExactlyIf_marked hbuiltIn hlistable
      (show Marker.requiredWithout ≠ .permitEmpty by decide) hrules source messages
    simpa only [Marker.demands, Source.noneFilled, hnames, List.all_eq_true, Bool.not_eq_true',
      Source.isFilled_eq_false_iff, Source.textOf_eq_empty_iff] using h

/-- A name with a bar in a list, beside a field that is absent, and a field that is empty. -/
theorem validateWith_required_bar :
    let source := Source.ofTable (Table.ofList [("a|b", "x"), ("city", "Rom"), ("note", "")])
    let run := fun rules =>
      (Validator.default.validateWith source (Table.ofList rules) none).result
    let required : FieldErrors := .ofList [("required", "The zip field is required.")]
    (∀ name ∈ ["a|b", "city"], IsListable name) ∧ (∀ name ∈ ["note", "a|b"], IsListable name) ∧
      (run [("zip", "required_with[a|b,city]|required")]).errors.get? "zip" = some required ∧
      (run [("zip", "required_without[note,a|b]|required")]).errors.get? "zip" = none := by
  intro source run required
  have hwith : ∀ name ∈ ["a|b", "city"], IsListable name := by decide
  have hwithout : ∀ name ∈ ["note", "a|b"], IsListable name := by decide
  obtain ⟨hrequired, -⟩ := validateWith_required (v := .default) rfl (List.cons_ne_nil _ _) hwith
    source "zip" none
  obtain ⟨-, hspared⟩ := validateWith_required (v := .default) rfl (List.cons_ne_nil _ _) hwithout
    source "zip" none
  refine ⟨hwith, hwithout, ?_, ?_⟩
  · exact (hrequired (.ofList [("zip", "required_with[a|b,city]|required")])
      (by decide)).errors_iff.mpr ⟨by decide, by decide⟩
  · exact (hspared (.ofList [("zip", "required_without[note,a|b]|required")])
      (by decide)).none_iff.mpr fun h => absurd h (by decide)

end Validator

end FormCheck
