import FormCheck.Proofs.Validator.Evaluation

/-!
# The messages of an evaluated field

A spec may name a rule several times with different parameters, and several of them may fail. The
messages are kept under the names of the rules, so the failing rules do not correspond to messages
one by one: a name stands where it failed first, and has the message of the rule that failed last.
A field that stops at its first failing rule has no more than the message of this rule.

## Main results

* `Examiner.filter_isReport_evaluateField` : which rules are evaluated, and that each is reported
  once.
* `Examiner.evaluateField_messages` : which rules are evaluated and which messages they leave.
-/

namespace FormCheck.Examiner

variable (examiner : Examiner) (subject : Subject)

/-- The names under which there are messages: each where it failed first. -/
theorem keys_ofList_entries (rules : List Rule) :
    (Table.ofList (examiner.entries subject rules)).keys =
      ((rules.filter (examiner.fails subject)).map Rule.name).eraseDups := by
  rw [Table.keys_ofList, entries, List.map_map]
  rfl

/-- The message under a name: that of the last failing rule with this name. -/
theorem get?_ofList_entries (rules : List Rule) (name : String) :
    (Table.ofList (examiner.entries subject rules)).get? name =
      (((rules.filter (examiner.fails subject)).filter fun r => r.name = name).getLast?).map
        (examiner.failure subject) := by
  rw [Table.get?_ofList, entries, List.filter_map, List.getLast?_map, Option.map_map]
  rfl

/-- If rules are evaluated up to the first failing one, the only message is that of this rule. -/
theorem entries_ofList_entries_upToFirst (rules : List Rule) :
    (Table.ofList (examiner.entries subject (upToFirst (examiner.fails subject) rules))).entries =
      (rules.filter (examiner.fails subject)).head?.toList.map (examiner.entry subject) := by
  rw [Table.entries_ofList, entries, filter_upToFirst]
  rw [entries, filter_upToFirst]
  cases (rules.filter (examiner.fails subject)).head? <;> simp

/-- The reports on a field that is neither exempt nor spared: one for each rule that is evaluated,
in the order of the spec. -/
theorem filter_isReport_evaluateField {spec : String}
    (hexempt : ¬ IsExempt (Spec.rules spec) subject.value)
    (hspared : ¬ IsSpared (Spec.rules spec) subject.value subject.source) :
    (examiner.evaluateField subject spec).events.filter Event.isReport =
      (examiner.evaluatedRules subject (properRules (Spec.rules spec))).map
        (examiner.report subject) := by
  rw [examiner.evaluateField_of_evaluated subject hexempt hspared]
  exact examiner.filter_isReport_flatMap_ruleEvents subject _

/-- The messages of a field that is neither exempt nor spared. All its rules that are no markers
are evaluated, or those up to the first failing one; each that is evaluated is reported once and in
order. If all are evaluated, the names of the failing rules stand where they failed first, each
with the message of the rule that failed last under this name. -/
theorem evaluateField_messages (spec : String)
    (hexempt : ¬ IsExempt (Spec.rules spec) subject.value)
    (hspared : ¬ IsSpared (Spec.rules spec) subject.value subject.source) :
    let proper := (Spec.rules spec).filter fun r => !isMarker r.name
    let failing := proper.filter (examiner.fails subject)
    let message := fun r : Rule =>
      examiner.catalog.message subject.field r.name r.param subject.value
    let run := examiner.evaluateField subject spec
    match examiner.mode with
    | .accumulate =>
      run.events = proper.flatMap (examiner.ruleEvents subject) ∧
        run.result.errors.keys = (failing.map Rule.name).eraseDups ∧
        ∀ name, run.result.errors.get? name =
          ((failing.filter fun r => r.name = name).getLast?).map message
    | .shortCircuit =>
      upToFirst (examiner.fails subject) proper <+: proper ∧
        run.events =
          (upToFirst (examiner.fails subject) proper).flatMap (examiner.ruleEvents subject) ∧
        run.result.errors.entries =
          failing.head?.toList.map fun r => (r.name, message r) := by
  intro proper failing message run
  have hrun : run = _ := examiner.evaluateField_of_evaluated subject hexempt hspared
  rw [hrun]
  cases hmode : examiner.mode with
  | accumulate =>
    simp only [evaluatedRules, hmode]
    exact ⟨rfl, examiner.keys_ofList_entries subject proper,
      examiner.get?_ofList_entries subject proper⟩
  | shortCircuit =>
    simp only [evaluatedRules, hmode]
    exact ⟨upToFirst_isPrefix _ proper, rfl,
      examiner.entries_ofList_entries_upToFirst subject proper⟩

/-- A name that fails twice with different parameters stands first and has the later message. -/
theorem evaluateField_messages_repeated :
    ((Examiner.mk .builtIn ⟨.empty, .first⟩ .accumulate).evaluateField ⟨"code", "abc", .none⟩
        "min_length[5]|integer|min_length[8]").result.errors.keys = ["min_length", "integer"] ∧
      ((Examiner.mk .builtIn ⟨.empty, .first⟩ .accumulate).evaluateField ⟨"code", "abc", .none⟩
        "min_length[5]|integer|min_length[8]").result.errors.get? "min_length" =
        some "The code field must be at least 8 characters in length." := by
  have hvalue : "abc" ≠ "" := by decide
  obtain ⟨-, hkeys, hget⟩ := evaluateField_messages
    (Examiner.mk .builtIn ⟨.empty, .first⟩ .accumulate) ⟨"code", "abc", .none⟩
    "min_length[5]|integer|min_length[8]" (fun h => hvalue h.1) (fun h => hvalue h.1)
  exact ⟨hkeys.trans (by decide +kernel), (hget "min_length").trans (by decide +kernel)⟩

end FormCheck.Examiner
