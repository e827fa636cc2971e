import FormCheck.Validator.Field
import FormCheck.Proofs.Requirement
import FormCheck.Proofs.Table

/-!
# The rules of a field, one after another

Evaluating rules in order is described without the loop: by the list of the rules that are
evaluated, which is all of them or ends at the first failing one, and by what each of them adds to
the messages and to the events. The two modes differ in that list only.

## Main definitions

* `upToFirst` : a list up to its first element with a property.
* `Examiner.evaluatedRules` : the rules of a list that are evaluated.
* `Registry.Refuses` : a provider knows a rule, and a subject does not meet it.
* `Examiner.report` : the event that says what became of a rule.

## Main results

* `Examiner.evaluateRules_eq` : the messages and events of evaluating a list of rules.
* `Examiner.filter_isReport_flatMap_ruleEvents` : every rule that is evaluated is reported once.
* `Examiner.evaluateField_of_exempt`, `Examiner.evaluateField_of_spared`,
  `Examiner.evaluateField_of_evaluated` : the three ways to evaluate a field.
-/

namespace FormCheck

/-! ### Up to the first -/

section UpToFirst

variable {α : Type*} (p : α → Bool)

/-- A list up to its first element with a property, this one included. A list without such an
element is kept whole. -/
def upToFirst : List α → List α
  | [] => []
  | a :: l => if p a then [a] else a :: upToFirst l

theorem upToFirst_isPrefix (l : List α) : upToFirst p l <+: l := by
  induction l with
  | nil => exact List.prefix_rfl
  | cons a l ih =>
    rw [upToFirst]
    split
    · exact List.prefix_append [a] l
    · exact (List.prefix_cons_inj a).mpr ih

/-- Of the elements with the property only the first is kept. -/
theorem filter_upToFirst (l : List α) : (upToFirst p l).filter p = (l.filter p).head?.toList := by
  induction l with
  | nil => rfl
  | cons a l ih =>
    rw [upToFirst]
    split
    · next h => simp [h]
    · next h => rw [List.filter_cons_of_neg h, List.filter_cons_of_neg h, ih]

end UpToFirst

/-! ### Events of rules -/

/-- Whether an event says what became of a rule. -/
def Event.isReport : Event → Bool
  | .unknown _ _ => true
  | .evaluated _ _ _ _ => true
  | _ => false

/-! ### Failing rules -/

/-- A provider knows a rule, and its predicate does not hold of a subject. -/
def Registry.Refuses (registry : Registry) (subject : Subject) (r : Rule) : Prop :=
  ∃ predicate, registry.resolve? r.name = some predicate ∧
    predicate subject.value r.param subject.source = false

namespace Examiner

variable (examiner : Examiner) (subject : Subject)

theorem fails_iff {r : Rule} :
    examiner.fails subject r = true ↔ examiner.registry.Refuses subject r := by
  unfold fails Registry.Refuses
  cases examiner.registry.resolve? r.name <;> simp

/-- The rules of a list that are evaluated: all, or those up to the first failing one. -/
def evaluatedRules (rules : List Rule) : List Rule :=
  match examiner.mode with
  | .accumulate => rules
  | .shortCircuit => upToFirst (examiner.fails subject) rules

/-- What a failing rule adds to the messages. -/
def entry (r : Rule) : String × String := (r.name, examiner.failure subject r)

/-- What the failing rules of a list add to the messages. -/
def entries (rules : List Rule) : List (String × String) :=
  (rules.filter (examiner.fails subject)).map (examiner.entry subject)

theorem evaluatedRules_cons (r : Rule) (rest : List Rule) :
    examiner.evaluatedRules subject (r :: rest) =
      if examiner.fails subject r ∧ examiner.mode = .shortCircuit then [r]
      else r :: examiner.evaluatedRules subject rest := by
  unfold evaluatedRules
  cases examiner.mode <;> simp [upToFirst]

theorem entries_cons_of_fails {r : Rule} (h : examiner.fails subject r = true) (rest : List Rule) :
    examiner.entries subject (r :: rest) =
      examiner.entry subject r :: examiner.entries subject rest := by
  rw [entries, List.filter_cons_of_pos h, List.map_cons, entries]

theorem entries_cons_of_not_fails {r : Rule} (h : ¬ examiner.fails subject r = true)
    (rest : List Rule) :
    examiner.entries subject (r :: rest) = examiner.entries subject rest := by
  rw [entries, List.filter_cons_of_neg h, entries]

/-- Every rule that is evaluated adds its events, and a message if it fails. -/
theorem evaluateRules_eq (errors : FieldErrors) (rules : List Rule) :
    examiner.evaluateRules subject errors rules =
      ⟨errors.insertAll (examiner.entries subject (examiner.evaluatedRules subject rules)),
        (examiner.evaluatedRules subject rules).flatMap (examiner.ruleEvents subject)⟩ := by
  induction rules generalizing errors with
  | nil =>
    unfold evaluatedRules
    cases examiner.mode <;> rfl
  | cons r rest ih =>
    rw [evaluateRules, evaluatedRules_cons]
    by_cases hfails : examiner.fails subject r = true
    · have hentries := examiner.entries_cons_of_fails subject hfails
      cases hmode : examiner.mode with
      | accumulate =>
        simp only [hfails, reduceCtorEq, and_false, if_false, if_true, ih, hentries, Logged.after,
          List.flatMap_cons]
        rfl
      | shortCircuit =>
        simp only [hfails, and_self, if_true, hentries, List.flatMap_singleton]
        rfl
    · have hentries := examiner.entries_cons_of_not_fails subject hfails
      simp only [hfails, false_and, if_false, ih, hentries, Logged.after, List.flatMap_cons,
        Bool.false_eq_true]

/-! ### Reports -/

/-- The events of a rule that fails are its evaluation and its failure. Any other rule has one
event, which is not a failure and does not call for one. -/
theorem ruleEvents_cases (r : Rule) :
    (examiner.fails subject r = true ∧ examiner.ruleEvents subject r =
      [.evaluated subject.field r.name r.param false,
        .failed subject.field r.name (examiner.failure subject r)]) ∨
    examiner.fails subject r = false ∧ ∃ e, examiner.ruleEvents subject r = [e] ∧
      (e = .unknown subject.field r.name ∨ e = .evaluated subject.field r.name r.param true) := by
  unfold fails ruleEvents
  cases examiner.registry.resolve? r.name with
  | none => exact .inr ⟨rfl, _, rfl, .inl rfl⟩
  | some predicate =>
    cases h : predicate subject.value r.param subject.source with
    | true => exact .inr ⟨by simp [h], _, by simp [h], .inr rfl⟩
    | false => exact .inl ⟨by simp [h], by simp [h]⟩

/-- The report of a rule: that it was evaluated, and whether it was met, or that no provider knows
it. -/
def report (r : Rule) : Event :=
  match examiner.registry.resolve? r.name with
  | none => .unknown subject.field r.name
  | some predicate =>
    .evaluated subject.field r.name r.param (predicate subject.value r.param subject.source)

/-- Among the events of a rule there is one report, that of the rule. -/
theorem filter_isReport_ruleEvents (r : Rule) :
    (examiner.ruleEvents subject r).filter Event.isReport = [examiner.report subject r] := by
  unfold ruleEvents report
  cases examiner.registry.resolve? r.name with
  | none => rfl
  | some predicate =>
    dsimp only
    cases predicate subject.value r.param subject.source <;> rfl

/-- The reports among the events of rules are those of the rules, one for each and in order. -/
theorem filter_isReport_flatMap_ruleEvents (rules : List Rule) :
    (rules.flatMap (examiner.ruleEvents subject)).filter Event.isReport =
      rules.map (examiner.report subject) := by
  simp only [List.filter_flatMap, filter_isReport_ruleEvents, List.map_eq_flatMap]

/-! ### Examiners side by side -/

/-- Two examiners of the same mode that find the same of every rule of a list evaluate it alike. -/
theorem evaluateRules_ext {examiner other : Examiner} {subject counterpart : Subject}
    (hmode : examiner.mode = other.mode) {rules : List Rule}
    (h : ∀ r ∈ rules, examiner.fails subject r = other.fails counterpart r ∧
      examiner.ruleEvents subject r = other.ruleEvents counterpart r ∧
      examiner.failure subject r = other.failure counterpart r) (errors : FieldErrors) :
    examiner.evaluateRules subject errors rules =
      other.evaluateRules counterpart errors rules := by
  induction rules generalizing errors with
  | nil => rfl
  | cons r rest ih =>
    rw [List.forall_mem_cons] at h
    obtain ⟨⟨hfails, hevents, hfailure⟩, hrest⟩ := h
    simp only [evaluateRules, hfails, hevents, hfailure, hmode, ih hrest]

/-! ### The three ways to evaluate a field -/

theorem evaluateField_of_exempt {spec : String}
    (h : IsExempt (Spec.rules spec) subject.value) :
    examiner.evaluateField subject spec = ⟨.passed, [.permitted subject.field]⟩ := by
  rw [evaluateField, evaluateParsed, if_pos (permitsEmpty_iff.mpr h)]

theorem evaluateField_of_spared {spec : String}
    (hexempt : ¬ IsExempt (Spec.rules spec) subject.value)
    (h : IsSpared (Spec.rules spec) subject.value subject.source) :
    examiner.evaluateField subject spec = ⟨.skipped, [.skipped subject.field]⟩ := by
  rw [evaluateField, evaluateParsed, if_neg (mt permitsEmpty_iff.mp hexempt),
    gate_eq_skip_iff.mpr h]

/-- A field that is neither exempt nor spared is evaluated: its messages and events are those of
its rules that are no markers. -/
theorem evaluateField_of_evaluated {spec : String}
    (hexempt : ¬ IsExempt (Spec.rules spec) subject.value)
    (hspared : ¬ IsSpared (Spec.rules spec) subject.value subject.source) :
    examiner.evaluateField subject spec =
      ⟨.ofErrors (Table.ofList (examiner.entries subject
          (examiner.evaluatedRules subject (properRules (Spec.rules spec))))),
        (examiner.evaluatedRules subject (properRules (Spec.rules spec))).flatMap
          (examiner.ruleEvents subject)⟩ := by
  have hgate : gate (Spec.rules spec) subject.value subject.source = .evaluate := by
    cases h : gate (Spec.rules spec) subject.value subject.source with
    | evaluate => rfl
    | skip => exact absurd (gate_eq_skip_iff.mp h) hspared
  rw [evaluateField, evaluateParsed, if_neg (mt permitsEmpty_iff.mp hexempt), hgate]
  simp only [evaluateRules_eq]
  rfl

/-- What holds of exempt, of spared and of evaluated fields holds of every field. -/
@[elab_as_elim]
theorem evaluateField_cases {motive : Logged FieldOutcome → Prop} (spec : String)
    (exempt : IsExempt (Spec.rules spec) subject.value →
      motive ⟨.passed, [.permitted subject.field]⟩)
    (spared : ¬ IsExempt (Spec.rules spec) subject.value →
      IsSpared (Spec.rules spec) subject.value subject.source →
      motive ⟨.skipped, [.skipped subject.field]⟩)
    (evaluated : ¬ IsExempt (Spec.rules spec) subject.value →
      ¬ IsSpared (Spec.rules spec) subject.value subject.source →
      motive ⟨.ofErrors (Table.ofList (examiner.entries subject
          (examiner.evaluatedRules subject (properRules (Spec.rules spec))))),
        (examiner.evaluatedRules subject (properRules (Spec.rules spec))).flatMap
          (examiner.ruleEvents subject)⟩) :
    motive (examiner.evaluateField subject spec) := by
  by_cases hexempt : IsExempt (Spec.rules spec) subject.value
  · rw [examiner.evaluateField_of_exempt subject hexempt]
    exact exempt hexempt
  · by_cases hspared : IsSpared (Spec.rules spec) subject.value subject.source
    · rw [examiner.evaluateField_of_spared subject hexempt hspared]
      exact spared hexempt hspared
    · rw [examiner.evaluateField_of_evaluated subject hexempt hspared]
      exact evaluated hexempt hspared

end Examiner

end FormCheck
