import FormCheck.Proofs.Validator.Ending
import FormCheck.Proofs.Validator.Messages

/-!
# The order of the rules of a spec

The order in which a spec names its rules decides the order of the messages, which message a name
that fails twice is left with, and where a field stops. It does not decide whether the field fails.
A field is exempt or spared because of which markers there are, and it fails because of which of its
other rules are refused; both are questions about the members of the list of rules, so that not
even the number of times a rule is named plays a part.

## Main results

* `isExempt_congr`, `isSpared_congr`, `Ending.congr` : lists with the same rules decide alike.
* `Examiner.mem_keys_evaluateField_iff` : the names with messages when all rules are evaluated.
* `Examiner.evaluateField_perm` : specs with the same rules in another order have the same verdict.
-/

namespace FormCheck

/-! ### Lists with the same rules -/

section SameRules

variable {rules reordered : List Rule} (h : ∀ r, r ∈ rules ↔ r ∈ reordered)

include h

theorem isExempt_congr (value : String) : IsExempt rules value ↔ IsExempt reordered value := by
  simp only [IsExempt, h]

theorem mem_markerLists_congr (marker : Marker) (list : String) :
    list ∈ markerLists rules marker ↔ list ∈ markerLists reordered marker := by
  simp only [mem_markerLists, h]

theorem markerLists_eq_nil_congr (marker : Marker) :
    markerLists rules marker = [] ↔ markerLists reordered marker = [] := by
  simp only [List.eq_nil_iff_forall_not_mem, mem_markerLists_congr h]

theorem isSpared_congr (value : String) (source : Source) :
    IsSpared rules value source ↔ IsSpared reordered value source := by
  simp only [IsSpared, ne_eq, markerLists_eq_nil_congr h, mem_markerLists_congr h]

/-- The validation of a field ends alike under lists with the same rules. -/
theorem Ending.congr {registry : Registry} {subject : Subject} {state : FieldState}
    (hending : Ending registry subject rules state) :
    Ending registry subject reordered state := by
  have hexempt := isExempt_congr h subject.value
  have hspared := isSpared_congr h subject.value subject.source
  cases hending with
  | exempt hyes => exact .exempt (hexempt.mp hyes)
  | spared hno hyes => exact .spared (mt hexempt.mpr hno) (hspared.mp hyes)
  | failed hno hno' hrefused =>
    refine .failed (mt hexempt.mpr hno) (mt hspared.mpr hno') ?_
    simpa only [h] using hrefused
  | passed hno hno' hrefused =>
    refine .passed (mt hexempt.mpr hno) (mt hspared.mpr hno') ?_
    simpa only [h] using hrefused

end SameRules

/-! ### Specs with the same rules -/

namespace Examiner

variable (examiner : Examiner) (subject : Subject)

/-- When all rules are evaluated, the names with messages are those of the rules that are refused
and are no markers. -/
theorem mem_keys_evaluateField_iff (hmode : examiner.mode = .accumulate) (spec name : String) :
    name ∈ (examiner.evaluateField subject spec).result.errors.keys ↔
      ¬ IsExempt (Spec.rules spec) subject.value ∧
        ¬ IsSpared (Spec.rules spec) subject.value subject.source ∧
        ∃ r ∈ Spec.rules spec, r.name = name ∧ isMarker r.name = false ∧
          examiner.registry.Refuses subject r := by
  refine examiner.evaluateField_cases subject spec ?exempt ?spared ?evaluated
  case exempt =>
    intro hexempt
    exact iff_of_false List.not_mem_nil fun h => h.1 hexempt
  case spared =>
    intro _ hspared
    exact iff_of_false List.not_mem_nil fun h => h.2.1 hspared
  case evaluated =>
    intro hexempt hspared
    simp only [FieldOutcome.ofErrors, evaluatedRules, hmode, keys_ofList_entries,
      List.mem_eraseDups, List.mem_map, List.mem_filter, mem_properRules, fails_iff]
    constructor
    · rintro ⟨r, ⟨⟨hr, hmarker⟩, hrefused⟩, hname⟩
      exact ⟨hexempt, hspared, r, hr, hname, hmarker, hrefused⟩
    · rintro ⟨-, -, r, hr, hname, hmarker, hrefused⟩
      exact ⟨r, ⟨⟨hr, hmarker⟩, hrefused⟩, hname⟩

/-- Two specs with the same rules in another order have the same verdict. A field ends in the same
way under both, whether it stops at its first failing rule or goes on; and if it goes on, the same
names have messages, possibly in another order. -/
theorem evaluateField_perm {spec reordered : String}
    (h : (Spec.rules spec).Perm (Spec.rules reordered)) :
    (∀ mode mode' : Mode,
      (evaluateField { examiner with mode := mode } subject spec).result.state =
        (evaluateField { examiner with mode := mode' } subject reordered).result.state) ∧
    (evaluateField { examiner with mode := .accumulate } subject spec).result.errors.keys.Perm
      (evaluateField { examiner with mode := .accumulate } subject
        reordered).result.errors.keys := by
  have hrules : ∀ r, r ∈ Spec.rules spec ↔ r ∈ Spec.rules reordered := fun _ => h.mem_iff
  constructor
  · intro mode mode'
    have hending := (ending_evaluateField { examiner with mode := mode } subject spec).congr hrules
    exact hending.unique (ending_evaluateField { examiner with mode := mode' } subject reordered)
  · refine (List.perm_ext_iff_of_nodup (Table.keys_nodup _) (Table.keys_nodup _)).mpr fun name => ?_
    have hexempt := isExempt_congr hrules subject.value
    have hspared := isSpared_congr hrules subject.value subject.source
    change name ∈ Table.keys _ ↔ name ∈ Table.keys _
    rw [mem_keys_evaluateField_iff _ _ rfl, mem_keys_evaluateField_iff _ _ rfl, hexempt, hspared]
    simp only [hrules]

/-- A marker, a rule that nobody knows and one that fails twice change places: the same names fail,
in another order. -/
theorem evaluateField_perm_marker_moved :
    let provider : Provider :=
      ⟨"own", fun rule => if rule = "even" then none else some fun _ param _ => param == none⟩
    let examiner : Examiner := ⟨⟨[provider], by simp⟩, ⟨.empty, .first⟩, .accumulate⟩
    let spec := "max[5]|even|hex[]|permit_empty|max[8]"
    let reordered := "permit_empty|hex[]|max[8]|even|max[5]"
    let run := fun mode spec =>
      (evaluateField { examiner with mode := mode } ⟨"size", "abc", .none⟩ spec).result
    (Spec.rules spec).Perm (Spec.rules reordered) ∧
      (run .accumulate spec).state = (run .shortCircuit reordered).state ∧
      (run .accumulate spec).errors.keys.Perm (run .accumulate reordered).errors.keys ∧
      (run .accumulate spec).errors.keys = ["max", "hex"] := by
  intro provider examiner spec reordered run
  have hperm : (Spec.rules spec).Perm (Spec.rules reordered) := by decide +kernel
  obtain ⟨hstate, hkeys⟩ := examiner.evaluateField_perm ⟨"size", "abc", .none⟩ hperm
  exact ⟨hperm, hstate .accumulate .shortCircuit, hkeys, by decide +kernel⟩

end Examiner

end FormCheck
