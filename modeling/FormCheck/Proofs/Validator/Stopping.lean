import FormCheck.Proofs.Validator.Messages
import FormCheck.Proofs.Validator.SideBySide

/-!
# Stopping at the first failing rule

A validator may be told to stop a field at its first failing rule, or to go on. This decides how
much is said about a field that fails and never whether it fails: a field that stops has the message
that comes first when it goes on. Only if a rule fails twice under one name do the two differ in the
message, since the later message takes the place of the earlier one.

## Main definitions

* `Validator.withStop` : a validator for which it has been decided whether to stop.
* `Registry.refused` : the failing rules of a spec.
* `FieldErrors.IsFirstOf` : the message of the first failing rule among those of all.
* `FieldOutcome.SameVerdict` : outcomes that differ only in how much they say about a failure.

## Main results

* `Examiner.sameVerdict_evaluateField` : a field has the same verdict in both modes.
* `Validator.withStop_sameVerdict` : so has whatever a validator validates.
-/

namespace FormCheck

instance (registry : Registry) (subject : Subject) : DecidablePred (registry.Refuses subject) :=
  fun r => decidable_of_iff
    (Examiner.fails ⟨registry, ⟨.empty, .first⟩, .accumulate⟩ subject r = true)
    (Examiner.fails_iff _ subject)

/-- The rules of a spec that a subject fails, in order: those that are no markers and are
refused. -/
def Registry.refused (registry : Registry) (subject : Subject) (spec : String) : List Rule :=
  (Spec.rules spec).filter fun r => isMarker r.name = false ∧ registry.Refuses subject r

/-- The messages of a field that stops beside those of the same field when it goes on, for the list
of its failing rules. The field that stops has a message of the first failing rule only, the other
one has messages of this rule first, and the message is the same unless a further failing rule has
the same name. -/
inductive FieldErrors.IsFirstOf : List Rule → FieldErrors → FieldErrors → Prop
  /-- At least one rule has to fail. -/
  | intro {first : Rule} {others : List Rule} {message : String} {stopped full : FieldErrors}
      (hstopped : stopped.entries = [(first.name, message)])
      (hfull : full.keys.head? = some first.name)
      (hmessage : (∀ other ∈ others, other.name ≠ first.name) →
        full.get? first.name = some message) :
      IsFirstOf (first :: others) stopped full

/-- The outcome of a field that stops beside that of the same field when it goes on: it ends in the
same way, and if it fails the one message is the first of the others. -/
inductive FieldOutcome.SameVerdict (failing : List Rule) : FieldOutcome → FieldOutcome → Prop
  /-- Both pass. -/
  | passed : SameVerdict failing .passed .passed
  /-- Both are skipped. -/
  | skipped : SameVerdict failing .skipped .skipped
  /-- Both fail. -/
  | failed {stopped full : FieldErrors} (h : FieldErrors.IsFirstOf failing stopped full) :
      SameVerdict failing ⟨.failed, stopped⟩ ⟨.failed, full⟩

/-! ### Fields -/

theorem FieldErrors.IsFirstOf.isEmpty_eq_false {failing : List Rule} {stopped full : FieldErrors}
    (h : IsFirstOf failing stopped full) : stopped.isEmpty = false ∧ full.isEmpty = false := by
  obtain ⟨hstopped, hfull, -⟩ := h
  constructor
  · rw [Table.isEmpty, hstopped, List.isEmpty_cons]
  · rw [Table.isEmpty_eq_isEmpty_keys]
    cases hkeys : full.keys with
    | nil => simp [hkeys] at hfull
    | cons => rfl

theorem FieldErrors.IsFirstOf.sameVerdict {failing : List Rule} {stopped full : FieldErrors}
    (h : IsFirstOf failing stopped full) :
    FieldOutcome.SameVerdict failing (.ofErrors stopped) (.ofErrors full) := by
  rw [FieldOutcome.ofErrors, FieldOutcome.ofErrors, h.isEmpty_eq_false.1, h.isEmpty_eq_false.2]
  exact .failed h

theorem FieldOutcome.SameVerdict.relFound {failing : List Rule} {stopped full : FieldOutcome}
    (h : SameVerdict failing stopped full) {R : FieldErrors → FieldErrors → Prop}
    (hR : ∀ first all, FieldErrors.IsFirstOf failing first all → R first all) :
    FieldErrors.RelFound R stopped.errors full.errors := by
  cases h with
  | passed => exact ⟨rfl, fun hfound => nomatch hfound⟩
  | skipped => exact ⟨rfl, fun hfound => nomatch hfound⟩
  | @failed stopped full h =>
    exact ⟨h.isEmpty_eq_false.1.trans h.isEmpty_eq_false.2.symm, fun _ => hR stopped full h⟩

namespace Examiner

variable (examiner : Examiner) (subject : Subject)

theorem filter_fails_properRules (spec : String) :
    (properRules (Spec.rules spec)).filter (examiner.fails subject) =
      examiner.registry.refused subject spec := by
  rw [properRules, List.filter_filter, Registry.refused]
  refine List.filter_congr fun r _ => ?_
  rw [Bool.eq_iff_iff, Bool.and_eq_true, decide_eq_true_iff, fails_iff, Bool.not_eq_true', and_comm]

/-- The first of the failing rules of a list has its message in both modes. -/
theorem isFirstOf_ofList_entries {rules others : List Rule} {first : Rule}
    (h : rules.filter (examiner.fails subject) = first :: others) :
    FieldErrors.IsFirstOf (first :: others)
      (Table.ofList (examiner.entries subject (upToFirst (examiner.fails subject) rules)))
      (Table.ofList (examiner.entries subject rules)) := by
  have hstopped := examiner.entries_ofList_entries_upToFirst subject rules
  rw [h, List.head?_cons, Option.toList_some, List.map_singleton] at hstopped
  refine .intro hstopped ?_ fun hother => ?_
  · rw [keys_ofList_entries, h, List.map_cons, List.eraseDups_cons]
    rfl
  · have hsame : (first :: others).filter (fun r => r.name = first.name) = [first] := by
      rw [List.filter_cons_of_pos (by simp), List.filter_eq_nil_iff.mpr]
      simpa using hother
    rw [get?_ofList_entries, h, hsame]
    rfl

/-- Whether a field stops at its first failing rule or goes on, the verdict is the same. -/
theorem sameVerdict_evaluateField (spec : String) :
    FieldOutcome.SameVerdict (examiner.registry.refused subject spec)
      (evaluateField { examiner with mode := .shortCircuit } subject spec).result
      (evaluateField { examiner with mode := .accumulate } subject spec).result := by
  rw [← filter_fails_properRules]
  refine rel_result_evaluateField .passed .skipped ?_
  generalize properRules (Spec.rules spec) = rules
  -- What is left of the two modes is whether the rules are cut off behind the first failing one.
  change FieldOutcome.SameVerdict (rules.filter (examiner.fails subject))
    (.ofErrors (Table.ofList (examiner.entries subject (upToFirst (examiner.fails subject) rules))))
    (.ofErrors (Table.ofList (examiner.entries subject rules)))
  cases hfailing : rules.filter (examiner.fails subject) with
  | nil =>
    rw [entries, entries, filter_upToFirst, hfailing]
    exact .passed
  | cons first others => exact (examiner.isFirstOf_ofList_entries subject hfailing).sameVerdict

end Examiner

/-! ### Validators -/

namespace Validator

variable (v : Validator)

/-- A validator for which it has been decided whether a field stops at its first failing rule. -/
def withStop (stop : Bool) : Validator := { v with stopOnFirstError := some stop }

theorem sameVerdict_withStop (overrides : Overrides) (mode : Mode) (subject : Subject)
    (spec : String) :
    FieldOutcome.SameVerdict (v.registry.refused subject spec)
      (((v.withStop true).examiner overrides mode).evaluateField subject spec).result
      (((v.withStop false).examiner overrides mode).evaluateField subject spec).result :=
  (v.examiner overrides mode).sameVerdict_evaluateField subject spec

theorem rel_errors_validateWith (source : Source) (rules : FieldRules)
    (messages : Option Overrides) :
    Table.Rel (fun field first all => ∃ spec, rules.get? field = some spec ∧
        FieldErrors.IsFirstOf (v.registry.refused ⟨field, source.textOf field, source⟩ spec)
          first all)
      ((v.withStop true).validateWith source rules messages).result.errors
      ((v.withStop false).validateWith source rules messages).result.errors :=
  rel_errors_validateWith_of_relFound fun _ spec hspec =>
    (v.sameVerdict_withStop _ _ _ _).relFound fun _ _ h => ⟨spec, hspec, h⟩

theorem rel_errors_validateValue (value spec : String) (messages : Option RuleMessages) :
    Table.Rel (fun _ => FieldErrors.IsFirstOf
        (v.registry.refused ⟨valueField, value, .none⟩ spec))
      ((v.withStop true).validateValue value spec messages).result.errors
      ((v.withStop false).validateValue value spec messages).result.errors :=
  rel_errors_validateValue_of_relFound ((v.sameVerdict_withStop _ _ _ _).relFound fun _ _ h => h)

theorem rel_validateElement (e : Element) (source : Source) :
    Option.Rel (fun stopped full => ∃ name spec, e.name = some name ∧ e.spec = some spec ∧
        FieldOutcome.SameVerdict
          (v.registry.refused ⟨name, e.effectiveValue, source⟩ spec) stopped full)
      ((v.withStop true).validateElement e source).result
      ((v.withStop false).validateElement e source).result :=
  rel_validateElement_of_forall fun name spec hname hspec =>
    ⟨name, spec, hname, hspec, v.sameVerdict_withStop _ _ _ _⟩

theorem rel_errors_validateForm (elements : List Element) :
    Table.Rel (fun field first all => ∃ e ∈ elements, ∃ spec,
        e.name = some field ∧ e.spec = some spec ∧
        FieldErrors.IsFirstOf (v.registry.refused
          ⟨field, e.effectiveValue, Source.ofElements elements⟩ spec) first all)
      ((v.withStop true).validateForm elements).result.outcome.errors
      ((v.withStop false).validateForm elements).result.outcome.errors :=
  rel_errors_validateForm_of_relFound fun e he _ spec hname hspec =>
    (v.sameVerdict_withStop _ _ _ _).relFound fun _ _ h => ⟨e, he, spec, hname, hspec, h⟩

/-- Whatever a validator validates has the same verdict whether fields stop at their first failing
rule or go on. A field ends in the same way. A form with specs or on a screen, a value and an
element are valid or not alike, and the same fields fail in the same order. A failing field that
stops has one message; it is of the rule that comes first when the field goes on, and it is the same
message unless another failing rule of the spec has the same name. -/
theorem withStop_sameVerdict :
    (∀ overrides mode subject spec,
      FieldOutcome.SameVerdict (v.registry.refused subject spec)
        (((v.withStop true).examiner overrides mode).evaluateField subject spec).result
        (((v.withStop false).examiner overrides mode).evaluateField subject spec).result) ∧
    (∀ source rules messages,
      let stopped := ((v.withStop true).validateWith source rules messages).result
      let full := ((v.withStop false).validateWith source rules messages).result
      stopped.isValid = full.isValid ∧
        Table.Rel (fun field first all => ∃ spec, rules.get? field = some spec ∧
            FieldErrors.IsFirstOf
              (v.registry.refused ⟨field, source.textOf field, source⟩ spec) first all)
          stopped.errors full.errors) ∧
    (∀ value spec messages,
      let stopped := ((v.withStop true).validateValue value spec messages).result
      let full := ((v.withStop false).validateValue value spec messages).result
      stopped.isValid = full.isValid ∧
        Table.Rel (fun _ => FieldErrors.IsFirstOf
            (v.registry.refused ⟨valueField, value, .none⟩ spec))
          stopped.errors full.errors) ∧
    (∀ e source,
      Option.Rel (fun stopped full => ∃ name spec, e.name = some name ∧ e.spec = some spec ∧
          FieldOutcome.SameVerdict
            (v.registry.refused ⟨name, e.effectiveValue, source⟩ spec) stopped full)
        ((v.withStop true).validateElement e source).result
        ((v.withStop false).validateElement e source).result) ∧
    ∀ elements,
      let stopped := ((v.withStop true).validateForm elements).result.outcome
      let full := ((v.withStop false).validateForm elements).result.outcome
      stopped.isValid = full.isValid ∧
        Table.Rel (fun field first all => ∃ e ∈ elements, ∃ spec,
            e.name = some field ∧ e.spec = some spec ∧
            FieldErrors.IsFirstOf (v.registry.refused
              ⟨field, e.effectiveValue, Source.ofElements elements⟩ spec) first all)
          stopped.errors full.errors := by
  refine ⟨v.sameVerdict_withStop, fun source rules messages => ?_, fun value spec messages => ?_,
    v.rel_validateElement, fun elements => ?_⟩
  · have hrel := v.rel_errors_validateWith source rules messages
    exact ⟨hrel.isEmpty_eq, hrel⟩
  · have hrel := v.rel_errors_validateValue value spec messages
    exact ⟨hrel.isEmpty_eq, hrel⟩
  · have hrel := v.rel_errors_validateForm elements
    exact ⟨hrel.isEmpty_eq, hrel⟩

-- A rule that fails twice under one name has another message when the field goes on.
example :
    let errors := fun stop => ((Validator.default.withStop stop).validateValue "abc"
      "min_length[5]|integer|min_length[8]" none).result.errors
    (errors true).message? "value" "min_length" ≠ (errors false).message? "value" "min_length" := by
  decide +kernel

end Validator

end FormCheck
