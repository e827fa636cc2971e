import FormCheck.Proofs.Spec.Lists
import FormCheck.Proofs.Validator.Batch
import FormCheck.Proofs.Validator.Ending

/-!
# Membership in a list

The rules `in_list` and `not_in_list` compare a value with the texts of a list. The list reaches
them as it was written: the bars in it do not separate rules, the blanks around its texts are kept,
and an empty value is compared like any other, since a spec without markers spares no value.

## Main results

* `Spec.rules_param` : a name with a parameter in brackets is read as one rule.
* `Validator.isValid_validateValue_iff_of_unmarked` : under a spec without markers a value is valid
  if none of the rules is refused.
* `Validator.validateValue_list` : the values that are valid under the two rules.
-/

namespace FormCheck

/-! ### Lists of candidates -/

namespace Check

variable {candidates : List String}

/-- The candidates of a list are read back. -/
theorem items_intercalate (hitems : ∀ item ∈ candidates, IsItem item) (hne : candidates ≠ []) :
    items (",".intercalate candidates) = candidates := by
  have hofList : String.ofList ∘ String.toList = id := funext fun _ => String.ofList_toList
  rw [items, splitOn_intercalate hitems hne, List.map_map, hofList, List.map_id]

theorem isAmong_intercalate_iff (hitems : ∀ item ∈ candidates, IsItem item)
    (hne : candidates ≠ []) {value : String} :
    isAmong value (",".intercalate candidates) = true ↔ value ∈ candidates := by
  rw [isAmong, items_intercalate hitems hne, List.contains_iff_mem]

end Check

/-! ### Specs of one rule -/

/-- A name with a parameter in brackets is read as one rule. -/
theorem Spec.rules_param {name param : String} (hname : Rule.IsWritable ⟨name, none⟩)
    (hparam : IsEnclosed param.toList) :
    Spec.rules (name ++ "[" ++ param ++ "]") = [⟨name, some param⟩] := by
  have hwrite : name ++ "[" ++ param ++ "]" = write [⟨name, some param⟩] := by
    refine String.toList_inj.mp ?_
    simp [write, join, Rule.write]
  rw [hwrite]
  refine rules_write (List.nodup_singleton _) ?_
  simpa using hname.withParam hparam

/-! ### Specs without markers -/

section Unmarked

variable {rules : List Rule} (hunmarked : ∀ r ∈ rules, isMarker r.name = false)

include hunmarked

theorem not_isExempt_of_unmarked (value : String) : ¬ IsExempt rules value := by
  rintro ⟨-, r, hr, hname⟩
  have h := hunmarked r hr
  rw [hname] at h
  exact absurd h (by decide)

theorem markerLists_of_unmarked (marker : Marker) : markerLists rules marker = [] := by
  rw [markerLists_eq_nil_iff]
  intro r hr hname
  have h := hunmarked r hr
  rw [hname] at h
  cases marker <;> exact absurd h (by decide)

theorem not_isSpared_of_unmarked (value : String) (source : Source) :
    ¬ IsSpared rules value source := by
  rintro ⟨-, hlists⟩
  rw [if_pos (markerLists_of_unmarked hunmarked .requiredWith)] at hlists
  exact hlists.1 (markerLists_of_unmarked hunmarked .requiredWithout)

/-- Under rules that are no markers a field fails if and only if one of them is refused. -/
theorem Ending.eq_failed_iff_of_unmarked {registry : Registry} {subject : Subject}
    {state : FieldState} (h : Ending registry subject rules state) :
    state = .failed ↔ ∃ r ∈ rules, registry.Refuses subject r := by
  cases h with
  | exempt hexempt => exact absurd hexempt (not_isExempt_of_unmarked hunmarked subject.value)
  | spared _ hspared =>
    exact absurd hspared (not_isSpared_of_unmarked hunmarked subject.value subject.source)
  | failed _ _ hrefused =>
    obtain ⟨r, hr, -, hrefused⟩ := hrefused
    exact iff_of_true rfl ⟨r, hr, hrefused⟩
  | passed _ _ hnone =>
    refine iff_of_false (by decide) ?_
    rintro ⟨r, hr, hrefused⟩
    exact hnone ⟨r, hr, hunmarked r hr, hrefused⟩

end Unmarked

namespace Validator

variable {v : Validator} {value spec : String}

/-- A value is valid if it has no messages. -/
theorem isValid_validateValue_iff (messages : Option RuleMessages) :
    (v.validateValue value spec messages).result.isValid = true ↔
      ((v.examiner (v.valueOverrides messages) .shortCircuit).evaluateField
        ⟨valueField, value, .none⟩ spec).result.errors = .empty := by
  rw [Outcome.isValid, validateValue]
  simp only [Logged.map, ErrorMap.record_eq]
  change (Table.ofList _).isEmpty = true ↔ _
  rw [Table.isEmpty_ofList, FieldErrors.finding?, ← Table.isEmpty_iff]
  split
  · next h => simp [h]
  · next h => simp [h]

/-- Under a spec without markers a value is valid if and only if none of the rules is refused. -/
theorem isValid_validateValue_iff_of_unmarked
    (hunmarked : ∀ r ∈ Spec.rules spec, isMarker r.name = false)
    (messages : Option RuleMessages) :
    (v.validateValue value spec messages).result.isValid = true ↔
      ∀ r ∈ Spec.rules spec, ¬ v.registry.Refuses ⟨valueField, value, .none⟩ r := by
  let examiner := v.examiner (v.valueOverrides messages) .shortCircuit
  have hending := examiner.ending_evaluateField ⟨valueField, value, .none⟩ spec
  have herrors := examiner.errors_ne_empty_iff ⟨valueField, value, .none⟩ spec
  rw [hending.eq_failed_iff_of_unmarked hunmarked] at herrors
  rw [isValid_validateValue_iff, ← not_iff_not, ← Ne, herrors]
  push Not
  rfl

/-- Under one rule with a parameter, a value is valid if and only if the rule's check holds of the
two. -/
theorem isValid_validateValue_param_iff {name param : String} {check : String → String → Bool}
    (hresolve : v.registry.resolve? name = some (.ofParam check)) (hmarker : isMarker name = false)
    (hname : Rule.IsWritable ⟨name, none⟩) (hparam : Spec.IsEnclosed param.toList)
    (messages : Option RuleMessages) :
    (v.validateValue value (name ++ "[" ++ param ++ "]") messages).result.isValid = true ↔
      check value param = true := by
  have hrules := Spec.rules_param hname hparam
  rw [isValid_validateValue_iff_of_unmarked (by simpa [hrules] using hmarker), hrules]
  simp [Registry.Refuses, hresolve, Predicate.ofParam]

/-- With the built-in rules alone, the values that are valid under `in_list` with a list of texts
are these texts, and those that are valid under `not_in_list` are all others. -/
theorem validateValue_list (hbuiltIn : v.registry = .builtIn) {candidates : List String}
    (hne : candidates ≠ []) (hitems : ∀ item ∈ candidates, IsItem item) (value : String)
    (messages : Option RuleMessages) :
    let list := ",".intercalate candidates
    ((v.validateValue value ("in_list[" ++ list ++ "]") messages).result.isValid = true ↔
      value ∈ candidates) ∧
    ((v.validateValue value ("not_in_list[" ++ list ++ "]") messages).result.isValid = true ↔
      value ∉ candidates) := by
  intro list
  have hlist : Spec.IsEnclosed list.toList := Spec.isEnclosed_intercalate hitems
  have hamong : Check.isAmong value list = true ↔ value ∈ candidates :=
    Check.isAmong_intercalate_iff hitems hne
  have hin : Rule.IsWritable ⟨"in_list", none⟩ := Rule.isWritable_bare (by decide) (by decide)
  have hnotIn : Rule.IsWritable ⟨"not_in_list", none⟩ :=
    Rule.isWritable_bare (by decide) (by decide)
  constructor
  · have hresolve : v.registry.resolve? "in_list" = some (.ofParam Check.isAmong) := by
      rw [hbuiltIn]
      rfl
    exact (isValid_validateValue_param_iff hresolve rfl hin hlist messages).trans hamong
  · have hresolve : v.registry.resolve? "not_in_list" = some (.ofParam Check.isNotAmong) := by
      rw [hbuiltIn]
      rfl
    refine (isValid_validateValue_param_iff hresolve rfl hnotIn hlist messages).trans ?_
    rw [Check.isNotAmong, Bool.not_eq_true', ← Bool.not_eq_true, hamong]

/-- A list with blanks, a bar and an empty text, and the list of one empty text. -/
theorem validateValue_list_blanks :
    let candidates := ["", " b", "x|y", "grün"]
    (∀ item ∈ candidates, IsItem item) ∧ IsItem "" ∧
      (default.validateValue "x|y" "in_list[, b,x|y,grün]" none).result.isValid = true ∧
      (default.validateValue "b" "in_list[, b,x|y,grün]" none).result.isValid = false ∧
      (default.validateValue "" "not_in_list[, b,x|y,grün]" none).result.isValid = false ∧
      (default.validateValue "" "in_list[]" none).result.isValid = true := by
  intro candidates
  have hitems : ∀ item ∈ candidates, IsItem item := by decide
  have hitem : IsItem "" := by decide
  have hlist := validateValue_list (v := default) rfl (List.cons_ne_nil _ _) hitems
  have hsingle := validateValue_list (v := default) rfl (List.cons_ne_nil "" [])
    (List.forall_mem_singleton.mpr hitem) "" none
  refine ⟨hitems, hitem, (hlist "x|y" none).1.mpr (by decide), ?_, ?_, hsingle.1.mpr (by decide)⟩
  · exact Bool.eq_false_iff.mpr (mt (hlist "b" none).1.mp (by decide))
  · exact Bool.eq_false_iff.mpr (mt (hlist "" none).2.mp (by decide))

end Validator

end FormCheck
