import FormCheck.Proofs.Spec.Tokens
import FormCheck.Proofs.Validator.Ending

/-!
# Specs without their markers

The markers of a spec say when an empty value is not looked at. For a value that is not empty they
say nothing, and a spec may be written without them: its other tokens, joined by bars, are read as
the same rules, also where a token is not well formed, and every field has the same outcome.

## Main definitions

* `Spec.withoutMarkers` : the spec of the tokens that are no markers.

## Main results

* `Spec.rules_withoutMarkers` : the rules that are left are those that are no markers.
* `Examiner.evaluateField_withoutMarkers` : a value that is not empty has the same outcome.
-/

namespace FormCheck

theorem properRules_properRules (rules : List Rule) :
    properRules (properRules rules) = properRules rules :=
  List.filter_eq_self.mpr fun _ hr => (List.mem_filter.mp hr).2

namespace Spec

/-- The spec of the tokens that are no markers. -/
def withoutMarkers (spec : String) : String :=
  "|".intercalate ((tokens spec).filter fun token =>
    (Rule.read token).name ∉ ["permit_empty", "required_with", "required_without"])

/-- The rules that are left are those that are no markers. -/
theorem rules_withoutMarkers (spec : String) :
    rules (withoutMarkers spec) = properRules (rules spec) := by
  rw [rules, withoutMarkers, tokens_intercalate_of_sublist List.filter_sublist, properRules, rules,
    List.filter_map]
  refine congrArg (List.map Rule.read) (List.filter_congr fun token _ => ?_)
  rw [Function.comp_apply, Bool.eq_iff_iff, decide_eq_true_iff, Bool.not_eq_true',
    isMarker_eq_false_iff]

end Spec

/-- For a value that is not empty the markers of a spec do not matter: the same outcome and the same
events follow from the spec without them, in every mode and with all messages. -/
theorem Examiner.evaluateField_withoutMarkers (examiner : Examiner) {subject : Subject}
    (hvalue : subject.value ≠ "") (spec : String) :
    examiner.evaluateField subject (Spec.withoutMarkers spec) =
      examiner.evaluateField subject spec := by
  have hexempt (rules : List Rule) : ¬ IsExempt rules subject.value := fun h => hvalue h.1
  have hspared (rules : List Rule) : ¬ IsSpared rules subject.value subject.source :=
    fun h => hvalue h.1
  rw [examiner.evaluateField_of_evaluated subject (hexempt _) (hspared _),
    examiner.evaluateField_of_evaluated subject (hexempt _) (hspared _),
    Spec.rules_withoutMarkers, properRules_properRules]

/-- Markers among tokens that end with a backslash or leave a bracket open. -/
theorem Examiner.evaluateField_withoutMarkers_unclosed :
    let spec := "permit_empty|hex |required_with[a|b]|x\\|in_list[a|permit_empty"
    let examiner : Examiner := ⟨.builtIn, ⟨.empty, .first⟩, .accumulate⟩
    let subject : Subject := ⟨"size", "xyz", .none⟩
    subject.value ≠ "" ∧
      Spec.withoutMarkers spec = "hex|x\\|in_list[a|permit_empty" ∧
      examiner.evaluateField subject (Spec.withoutMarkers spec) =
        examiner.evaluateField subject spec := by
  intro spec examiner subject
  have hvalue : subject.value ≠ "" := by decide
  exact ⟨hvalue, by decide +kernel, examiner.evaluateField_withoutMarkers hvalue spec⟩

end FormCheck
