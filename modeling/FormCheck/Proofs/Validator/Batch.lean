import FormCheck.Validator.Basic
import FormCheck.Proofs.Table

/-!
# The fields of a form, one after another

The fields of a form are visited in order, and the messages of each are entered into one table that
grows from visit to visit. A visit reads the source but never the table, so what a field adds is
what it would add if it were the only one with a spec. The order of the specs decides the order of
the answers and nothing else.

## Main definitions

* `Examiner.visit` : the evaluation of a field with a spec.
* `Examiner.finding?` : what a field with a spec adds to the messages of a form.

## Main results

* `Examiner.evaluateFields_eq` : the messages and events of evaluating a list of fields.
* `Validator.entries_validateWith` : the messages of validating a form.
* `Validator.validateWith_fieldwise` : every field is validated by itself.
-/

namespace FormCheck

/-! ### Messages that are kept -/

/-- The entry for the messages of a field. There is none without messages. -/
def FieldErrors.finding? (field : String) (errors : FieldErrors) : Option (String × FieldErrors) :=
  if errors.isEmpty then none else some (field, errors)

theorem FieldErrors.finding?_eq_some_iff {field : String} {errors : FieldErrors}
    {entry : String × FieldErrors} :
    FieldErrors.finding? field errors = some entry ↔ entry = (field, errors) ∧ errors ≠ .empty := by
  rw [finding?, ne_eq, ← Table.isEmpty_iff]
  split
  · next h => simp [h]
  · next h => simp [h, eq_comm]

theorem ErrorMap.record_eq (errors : ErrorMap) (field : String) (fieldErrors : FieldErrors) :
    errors.record field fieldErrors =
      errors.insertAll (FieldErrors.finding? field fieldErrors).toList := by
  rw [record, FieldErrors.finding?]
  split <;> rfl

/-! ### Visits -/

namespace Examiner

variable (examiner : Examiner) (source : Source)

/-- The evaluation of a field with a spec, whose text is in a source. -/
def visit (entry : String × String) : Logged FieldOutcome :=
  examiner.evaluateField ⟨entry.1, source.textOf entry.1, source⟩ entry.2

/-- What a field with a spec adds to the messages of a form, if it adds any. -/
def finding? (entry : String × String) : Option (String × FieldErrors) :=
  FieldErrors.finding? entry.1 (examiner.visit source entry).result.errors

/-- Every field adds its events, and its messages if it has any. -/
theorem evaluateFields_eq (errors : ErrorMap) (fields : List (String × String)) :
    examiner.evaluateFields source errors fields =
      ⟨errors.insertAll (fields.filterMap (examiner.finding? source)),
        fields.flatMap fun entry => (examiner.visit source entry).events⟩ := by
  -- The table grows from field to field, so the induction is for every table.
  induction fields generalizing errors with
  | nil => rfl
  | cons entry rest ih =>
    rw [Table.filterMap_cons_eq_append, Table.insertAll_append, evaluateFields, ih,
      ErrorMap.record_eq]
    rfl

/-- Fields add messages under their own names and in their own order. -/
theorem map_fst_findings_sublist (fields : List (String × String)) :
    ((fields.filterMap (examiner.finding? source)).map Prod.fst).Sublist
      (fields.map Prod.fst) := by
  have hkeys : ∀ entry, ∀ found ∈ examiner.finding? source entry, some entry.1 = some found.1 := by
    intro entry found hfound
    rw [(FieldErrors.finding?_eq_some_iff.mp hfound).1]
  have hsublist := Table.map_fst_filterMap_sublist hkeys fields
  rwa [List.filterMap_eq_map'] at hsublist

end Examiner

/-! ### Forms -/

namespace Validator

variable (v : Validator) (source : Source) (rules : FieldRules) (messages : Option Overrides)

/-- The examiner of the fields of a form. -/
def batchExaminer : Examiner := v.examiner (messages.getD v.messages) .accumulate

theorem validateWith_eq :
    v.validateWith source rules messages =
      ⟨⟨Table.ofList (rules.entries.filterMap ((v.batchExaminer messages).finding? source))⟩,
        rules.entries.flatMap fun entry =>
          ((v.batchExaminer messages).visit source entry).events⟩ := by
  simp only [validateWith, Examiner.evaluateFields_eq]
  rfl

/-- The messages of a form are what its fields add, in the order of their specs. -/
theorem entries_validateWith :
    (v.validateWith source rules messages).result.errors.entries =
      rules.entries.filterMap ((v.batchExaminer messages).finding? source) := by
  rw [validateWith_eq]
  exact Table.entries_ofList
    (((v.batchExaminer messages).map_fst_findings_sublist source _).nodup rules.keys_nodup)

/-- The messages of a form with one field are what this field adds. -/
theorem entries_validateWith_singleton (entry : String × String) :
    (v.validateWith source (Table.ofList [entry]) messages).result.errors.entries =
      ((v.batchExaminer messages).finding? source entry).toList := by
  rw [entries_validateWith, Table.entries_singleton, List.filterMap_cons]
  cases (v.batchExaminer messages).finding? source entry <;> rfl

/-- The messages of a field in a form are what the field adds. -/
theorem get?_validateWith {field spec : String} (h : rules.get? field = some spec) :
    (v.validateWith source rules messages).result.errors.get? field =
      ((v.batchExaminer messages).finding? source (field, spec)).map Prod.snd := by
  refine Option.ext fun errors => ?_
  rw [Table.get?_eq_some_iff, entries_validateWith, List.mem_filterMap, Option.map_eq_some_iff]
  constructor
  · rintro ⟨⟨other, otherSpec⟩, hentry, hfinding⟩
    obtain rfl : field = other :=
      congrArg Prod.fst (FieldErrors.finding?_eq_some_iff.mp hfinding).1
    rw [← Table.get?_eq_some_iff, h] at hentry
    obtain rfl := Option.some.inj hentry
    exact ⟨_, hfinding, rfl⟩
  · rintro ⟨found, hfinding, rfl⟩
    refine ⟨(field, spec), Table.get?_eq_some_iff.mp h, ?_⟩
    rw [hfinding, (FieldErrors.finding?_eq_some_iff.mp hfinding).1]

/-- A field without messages has no entry. -/
theorem ne_empty_of_mem_entries_validateWith {entry : String × FieldErrors}
    (h : entry ∈ (v.validateWith source rules messages).result.errors.entries) :
    entry.2 ≠ .empty := by
  rw [entries_validateWith, List.mem_filterMap] at h
  obtain ⟨visited, -, hfinding⟩ := h
  obtain ⟨rfl, hne⟩ := FieldErrors.finding?_eq_some_iff.mp hfinding
  exact hne

/-- The messages of a form with one field are under the name of this field. -/
theorem keys_validateWith_singleton_sublist (entry : String × String) :
    (v.validateWith source (Table.ofList [entry]) messages).result.errors.keys.Sublist
      [entry.1] := by
  rw [Table.keys, entries_validateWith]
  exact (v.batchExaminer messages).map_fst_findings_sublist source [entry]

theorem isValid_validateWith_iff :
    (v.validateWith source rules messages).result.isValid = true ↔
      ∀ entry ∈ rules.entries, (v.batchExaminer messages).finding? source entry = none := by
  rw [Outcome.isValid, Table.isEmpty, entries_validateWith, List.isEmpty_iff,
    List.filterMap_eq_nil_iff]

theorem isValid_validateWith_singleton_iff (entry : String × String) :
    (v.validateWith source (Table.ofList [entry]) messages).result.isValid = true ↔
      (v.batchExaminer messages).finding? source entry = none := by
  rw [isValid_validateWith_iff, Table.entries_singleton, List.forall_mem_singleton]

/-- The order of the specs decides the order of the messages and nothing else. -/
theorem entries_validateWith_perm {reordered : FieldRules}
    (h : reordered.entries.Perm rules.entries) :
    (v.validateWith source reordered messages).result.errors.entries.Perm
      (v.validateWith source rules messages).result.errors.entries := by
  rw [entries_validateWith, entries_validateWith]
  exact h.filterMap _

/-- The messages of specs that follow each other do so too. -/
theorem entries_validateWith_of_append {first second : FieldRules}
    (h : rules.entries = first.entries ++ second.entries) :
    (v.validateWith source rules messages).result.errors.entries =
      (v.validateWith source first messages).result.errors.entries ++
        (v.validateWith source second messages).result.errors.entries := by
  rw [entries_validateWith, entries_validateWith, entries_validateWith, h, List.filterMap_append]

end Validator

/-- Every field is validated by itself. The messages of a form are those that its fields have when
each is validated alone, one after another in the order of the specs; there are no entries without
messages, and the form is valid when every field is. So another order of the specs only brings the
same messages of the same fields into another order, and the messages of specs that follow each
other do so too. -/
theorem Validator.validateWith_fieldwise (v : Validator) (source : Source) (rules : FieldRules)
    (messages : Option Overrides) :
    let run := fun rules : FieldRules => (v.validateWith source rules messages).result
    let alone := fun entry : String × String => run (Table.ofList [entry])
    (run rules).errors.entries = rules.entries.flatMap (fun entry => (alone entry).errors.entries) ∧
      (∀ entry ∈ rules.entries, (alone entry).errors.keys.Sublist [entry.1]) ∧
      (∀ entry ∈ (run rules).errors.entries, entry.2 ≠ .empty) ∧
      ((run rules).isValid = true ↔ ∀ entry ∈ rules.entries, (alone entry).isValid = true) ∧
      (∀ reordered : FieldRules, reordered.entries.Perm rules.entries →
        (run reordered).errors.entries.Perm (run rules).errors.entries ∧
          ∀ field, (run reordered).errors.get? field = (run rules).errors.get? field) ∧
      ∀ first second : FieldRules, rules.entries = first.entries ++ second.entries →
        (run rules).errors.entries =
          (run first).errors.entries ++ (run second).errors.entries := by
  intro run alone
  refine ⟨?concatenation, ?ownName, ?nonempty, ?valid, ?reordering, ?splitting⟩
  case concatenation =>
    have halone (entry : String × String) : (alone entry).errors.entries =
        ((v.batchExaminer messages).finding? source entry).toList :=
      v.entries_validateWith_singleton source messages entry
    rw [v.entries_validateWith, List.filterMap_eq_flatMap_toList]
    simp only [halone]
  case ownName =>
    exact fun entry _ => v.keys_validateWith_singleton_sublist source messages entry
  case nonempty =>
    exact fun entry hentry => v.ne_empty_of_mem_entries_validateWith source rules messages hentry
  case valid =>
    rw [v.isValid_validateWith_iff]
    exact forall₂_congr fun entry _ =>
      (v.isValid_validateWith_singleton_iff source messages entry).symm
  case reordering =>
    intro reordered hperm
    have hentries := v.entries_validateWith_perm source rules messages hperm
    exact ⟨hentries, Table.get?_eq_of_perm hentries⟩
  case splitting =>
    exact fun first second happend =>
      v.entries_validateWith_of_append source rules messages happend

/-- The fields that fail, one of them for the value of the other, change places with their specs. -/
theorem Validator.validateWith_fieldwise_reordered :
    let source := Source.ofTable (Table.ofList [("age", "x"), ("copy", "y")])
    let rules : FieldRules :=
      Table.ofList [("age", "integer"), ("name", "permit_empty|alpha"), ("copy", "matches[age]")]
    let reordered : FieldRules :=
      Table.ofList [("copy", "matches[age]"), ("name", "permit_empty|alpha"), ("age", "integer")]
    let run := fun rules : FieldRules => (Validator.default.validateWith source rules none).result
    reordered.entries.Perm rules.entries ∧
      (run reordered).errors.entries.Perm (run rules).errors.entries ∧
      (run rules).errors.keys = ["age", "copy"] ∧
      (run reordered).errors.keys = ["copy", "age"] := by
  intro source rules reordered run
  have hperm : reordered.entries.Perm rules.entries := by decide
  obtain ⟨-, -, -, -, hreordered, -⟩ := Validator.default.validateWith_fieldwise source rules none
  exact ⟨hperm, (hreordered reordered hperm).1, by decide +kernel, by decide +kernel⟩

end FormCheck
