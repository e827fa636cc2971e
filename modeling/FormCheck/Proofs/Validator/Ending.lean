import FormCheck.Proofs.Validator.Evaluation

/-!
# How the validation of a field ends

A field is exempt, spared or evaluated, and an evaluated field passes or fails. Which of these
happens depends on its markers, on the fields that they list and on the predicates of its other
rules; it does not depend on the mode or on the messages.

## Main definitions

* `Ending` : the ways in which the validation of a field ends.
* `Event.rule?` : the rule that an event is about.

## Main results

* `Examiner.evaluateRules_congr` : only the predicates of the rules in question matter.
* `Examiner.evaluateField_endings` : the outcome of a field is its ending.
-/

namespace FormCheck

/-- The ways in which the validation of a field under a list of rules ends. -/
inductive Ending (registry : Registry) (subject : Subject) (rules : List Rule) :
    FieldState → Prop
  /-- An empty value that may be so passes. -/
  | exempt (h : IsExempt rules subject.value) : Ending registry subject rules .passed
  /-- An empty value that is not required is skipped. -/
  | spared (hexempt : ¬ IsExempt rules subject.value)
      (h : IsSpared rules subject.value subject.source) : Ending registry subject rules .skipped
  /-- Otherwise a rule that is no marker may be refused. -/
  | failed (hexempt : ¬ IsExempt rules subject.value)
      (hspared : ¬ IsSpared rules subject.value subject.source)
      (h : ∃ r ∈ rules, isMarker r.name = false ∧ registry.Refuses subject r) :
      Ending registry subject rules .failed
  /-- If none is, the field passes. -/
  | passed (hexempt : ¬ IsExempt rules subject.value)
      (hspared : ¬ IsSpared rules subject.value subject.source)
      (h : ¬ ∃ r ∈ rules, isMarker r.name = false ∧ registry.Refuses subject r) :
      Ending registry subject rules .passed

/-- A field ends in one way. -/
theorem Ending.unique {registry : Registry} {subject : Subject} {rules : List Rule}
    {s t : FieldState} (hs : Ending registry subject rules s)
    (ht : Ending registry subject rules t) : s = t := by
  cases hs <;> cases ht <;> first | rfl | contradiction

/-- The rule that an event is about, if it is about one. -/
def Event.rule? : Event → Option String
  | .permitted _ => none
  | .skipped _ => none
  | .unknown _ rule => some rule
  | .evaluated _ rule _ _ => some rule
  | .failed _ rule _ => some rule

theorem mem_properRules {rules : List Rule} {r : Rule} :
    r ∈ properRules rules ↔ r ∈ rules ∧ isMarker r.name = false := by
  simp [properRules]

namespace Examiner

variable (examiner : Examiner) (subject : Subject)

/-- All events of a rule are about this rule. -/
theorem rule?_of_mem_ruleEvents {r : Rule} {e : Event} (h : e ∈ examiner.ruleEvents subject r) :
    e.rule? = some r.name := by
  unfold ruleEvents at h
  split at h
  · rw [List.mem_singleton] at h
    subst h
    rfl
  · split at h
    · rw [List.mem_singleton] at h
      subst h
      rfl
    · rw [List.mem_cons, List.mem_singleton] at h
      rcases h with rfl | rfl <;> rfl

theorem mem_of_mem_evaluatedRules {rules : List Rule} {r : Rule}
    (h : r ∈ examiner.evaluatedRules subject rules) : r ∈ rules := by
  unfold evaluatedRules at h
  split at h
  · exact h
  · exact (upToFirst_isPrefix _ rules).subset h

/-- In both modes an evaluated rule fails if any rule does. -/
theorem exists_fails_evaluatedRules_iff (rules : List Rule) :
    (∃ r ∈ examiner.evaluatedRules subject rules, examiner.fails subject r = true) ↔
      ∃ r ∈ rules, examiner.fails subject r = true := by
  constructor
  · rintro ⟨r, hr, hfails⟩
    exact ⟨r, examiner.mem_of_mem_evaluatedRules subject hr, hfails⟩
  · rintro ⟨r, hr, hfails⟩
    unfold evaluatedRules
    split
    · exact ⟨r, hr, hfails⟩
    · have hmem : r ∈ rules.filter (examiner.fails subject) := List.mem_filter.mpr ⟨hr, hfails⟩
      obtain ⟨first, rest, hfirst⟩ := List.exists_cons_of_ne_nil (List.ne_nil_of_mem hmem)
      have hkept : first ∈ (upToFirst (examiner.fails subject) rules).filter
          (examiner.fails subject) := by
        rw [filter_upToFirst, hfirst]
        exact List.mem_singleton_self first
      exact ⟨first, List.mem_filter.mp hkept⟩

/-- In both modes there are no messages if no rule is refused that is no marker. -/
theorem isEmpty_ofList_entries_iff {rules : List Rule} :
    (Table.ofList (examiner.entries subject
        (examiner.evaluatedRules subject (properRules rules)))).isEmpty = true ↔
      ¬ ∃ r ∈ rules, isMarker r.name = false ∧ examiner.registry.Refuses subject r := by
  have hentries (l : List Rule) : (examiner.entries subject l).isEmpty = true ↔
      ¬ ∃ r ∈ l, examiner.fails subject r = true := by
    rw [List.isEmpty_iff, entries, List.map_eq_nil_iff, List.filter_eq_nil_iff]
    push Not
    rfl
  rw [Table.isEmpty_ofList, hentries, exists_fails_evaluatedRules_iff]
  simp only [mem_properRules, fails_iff, and_assoc]

/-! ### Other registries -/

section Congruence

variable {registry : Registry}

theorem fails_congr {r : Rule}
    (h : registry.resolve? r.name = examiner.registry.resolve? r.name) :
    fails { examiner with registry := registry } subject r = examiner.fails subject r := by
  simp only [fails, h]

theorem ruleEvents_congr {r : Rule}
    (h : registry.resolve? r.name = examiner.registry.resolve? r.name) :
    ruleEvents { examiner with registry := registry } subject r =
      examiner.ruleEvents subject r := by
  simp only [ruleEvents, h, failure]

/-- Two registries with the same predicates for the rules of a list evaluate it alike. -/
theorem evaluateRules_congr (errors : FieldErrors) {rules : List Rule}
    (h : ∀ r ∈ rules, registry.resolve? r.name = examiner.registry.resolve? r.name) :
    evaluateRules { examiner with registry := registry } subject errors rules =
      examiner.evaluateRules subject errors rules := by
  refine evaluateRules_ext ?_ (fun r hr => ?_) errors
  · rfl
  · exact ⟨examiner.fails_congr subject (h r hr), examiner.ruleEvents_congr subject (h r hr), rfl⟩

/-- Two registries with the same predicates for all rules but the markers evaluate every field
alike. -/
theorem evaluateField_congr (spec : String)
    (h : ∀ name, isMarker name = false →
      registry.resolve? name = examiner.registry.resolve? name) :
    evaluateField { examiner with registry := registry } subject spec =
      examiner.evaluateField subject spec := by
  have hrules : ∀ r ∈ properRules (Spec.rules spec),
      registry.resolve? r.name = examiner.registry.resolve? r.name :=
    fun r hr => h r.name (mem_properRules.mp hr).2
  simp only [evaluateField, evaluateParsed, evaluateRules_congr examiner subject _ hrules]

end Congruence

/-! ### Endings -/

/-- The validation of a field ends as its markers and its other rules say. -/
theorem ending_evaluateField (spec : String) :
    Ending examiner.registry subject (Spec.rules spec)
      (examiner.evaluateField subject spec).result.state := by
  refine examiner.evaluateField_cases subject spec .exempt .spared fun hexempt hspared => ?_
  simp only [FieldOutcome.ofErrors]
  split
  · next h =>
    exact .passed hexempt hspared ((examiner.isEmpty_ofList_entries_iff subject).mp h)
  · next h =>
    exact .failed hexempt hspared
      (not_not.mp (mt (examiner.isEmpty_ofList_entries_iff subject).mpr h))

/-- A field has messages if and only if it failed. -/
theorem errors_ne_empty_iff (spec : String) :
    (examiner.evaluateField subject spec).result.errors ≠ .empty ↔
      (examiner.evaluateField subject spec).result.state = .failed := by
  refine examiner.evaluateField_cases subject spec ?_ ?_ ?_
  · intro _
    simp [FieldOutcome.passed]
  · intro _ _
    simp [FieldOutcome.skipped]
  · intro _ _
    simp only [FieldOutcome.ofErrors, ne_eq, ← Table.isEmpty_iff]
    split
    · next h => simp [h]
    · next h => simp [h]

/-- No event is about a marker. -/
theorem not_isMarker_of_mem_events (spec : String) :
    ∀ e ∈ (examiner.evaluateField subject spec).events, ∀ name ∈ e.rule?,
      isMarker name = false := by
  refine examiner.evaluateField_cases subject spec ?_ ?_ ?_
  · simp [Event.rule?]
  · simp [Event.rule?]
  · intro _ _ e he name hname
    obtain ⟨r, hr, he⟩ := List.mem_flatMap.mp he
    have hproper := examiner.mem_of_mem_evaluatedRules subject hr
    rw [examiner.rule?_of_mem_ruleEvents subject he, Option.mem_some_iff] at hname
    rw [← hname]
    exact (mem_properRules.mp hproper).2

/-- A message is about a rule of the spec that is no marker and is refused. -/
theorem refuses_of_mem_keys (spec : String) :
    ∀ name ∈ (examiner.evaluateField subject spec).result.errors.keys,
      ∃ r ∈ Spec.rules spec, r.name = name ∧ isMarker name = false ∧
        examiner.registry.Refuses subject r := by
  refine examiner.evaluateField_cases subject spec ?_ ?_ ?_
  · intro _ name h
    exact absurd h List.not_mem_nil
  · intro _ _ name h
    exact absurd h List.not_mem_nil
  · intro _ _ name h
    simp only [FieldOutcome.ofErrors, Table.keys_ofList, List.mem_eraseDups, entries,
      List.map_map, List.mem_map, List.mem_filter] at h
    obtain ⟨r, ⟨hr, hfails⟩, rfl⟩ := h
    obtain ⟨hmem, hmarker⟩ := mem_properRules.mp (examiner.mem_of_mem_evaluatedRules subject hr)
    exact ⟨r, hmem, rfl, hmarker, (examiner.fails_iff subject).mp hfails⟩

/-- A field that is exempt or spared is validated without any rule being looked up. -/
theorem evaluateField_of_exempt_or_spared {spec : String}
    (h : IsExempt (Spec.rules spec) subject.value ∨
      IsSpared (Spec.rules spec) subject.value subject.source) :
    (∀ e ∈ (examiner.evaluateField subject spec).events, e.rule? = none) ∧
      ∀ registry, evaluateField { examiner with registry := registry } subject spec =
        examiner.evaluateField subject spec := by
  by_cases hexempt : IsExempt (Spec.rules spec) subject.value
  · simp [evaluateField_of_exempt _ subject hexempt, Event.rule?]
  · have hspared := h.resolve_left hexempt
    simp [evaluateField_of_spared _ subject hexempt hspared, Event.rule?]

/-- The validation of a field ends in exactly one way, which its markers and its other rules
determine, and has messages if and only if the field failed. A field that is exempt or spared asks
nobody about a rule; nobody is ever asked about a marker; and only a rule that somebody knows and
refuses gets a message. -/
theorem evaluateField_endings (spec : String) :
    let rules := Spec.rules spec
    let run := examiner.evaluateField subject spec
    (∀ state, run.result.state = state ↔ Ending examiner.registry subject rules state) ∧
      (run.result.errors ≠ .empty ↔ run.result.state = .failed) ∧
      (IsExempt rules subject.value ∨ IsSpared rules subject.value subject.source →
        (∀ e ∈ run.events, e.rule? = none) ∧
          ∀ registry, evaluateField { examiner with registry := registry } subject spec = run) ∧
      (∀ registry,
        (∀ name, isMarker name = false →
          registry.resolve? name = examiner.registry.resolve? name) →
        evaluateField { examiner with registry := registry } subject spec = run) ∧
      (∀ e ∈ run.events, ∀ name ∈ e.rule?, isMarker name = false) ∧
      ∀ name ∈ run.result.errors.keys, ∃ r ∈ rules, r.name = name ∧ isMarker name = false ∧
        examiner.registry.Refuses subject r := by
  intro rules run
  have hending := examiner.ending_evaluateField subject spec
  exact ⟨fun state => ⟨fun h => h ▸ hending, hending.unique⟩,
    examiner.errors_ne_empty_iff subject spec,
    examiner.evaluateField_of_exempt_or_spared subject,
    fun registry => examiner.evaluateField_congr subject spec,
    examiner.not_isMarker_of_mem_events subject spec,
    examiner.refuses_of_mem_keys subject spec⟩

end Examiner

end FormCheck
