import FormCheck.Proofs.Validator.Batch
import FormCheck.Proofs.Validator.Ending

/-!
# What a log tells

A validation returns messages and leaves a log, and the log alone tells the whole story. Entering
the failures of a log one after another makes up the messages again, in the same order. A rule that
does not pass is followed by its failure, and there are no other failures. A field that is exempt or
spared has one event, which says so, and none besides.

The events of a field stand together and no field is visited twice. Messages are therefore entered
under a field as long as its events last, and never again.

## Main definitions

* `Event.replay` : the messages that the failures of a log make up.
* `Event.Paired` : every rule that does not pass is followed by its failure.
* `Event.TellsOf` : a log tells the story of visits to fields.

## Main results

* `Examiner.replay_story` : the failures of visits to fields make up the messages of the fields.
* `Validator.log_tellsOf` : the log of a form and the log of a value tell their story.
-/

namespace FormCheck

/-! ### Entering failures -/

/-- Enters the message of a rule under a field. -/
def ErrorMap.enter (errors : ErrorMap) (field rule message : String) : ErrorMap :=
  errors.insert field (((errors.get? field).getD .empty).insert rule message)

namespace ErrorMap

/-- Enters the messages of rules under a field, one after another. -/
def enterAll (errors : ErrorMap) (field : String) (entries : List (String × String)) : ErrorMap :=
  entries.foldl (fun errors entry => errors.enter field entry.1 entry.2) errors

theorem enterAll_concat (errors : ErrorMap) (field : String) (entries : List (String × String))
    (entry : String × String) :
    errors.enterAll field (entries ++ [entry]) =
      (errors.enterAll field entries).enter field entry.1 entry.2 := by
  rw [enterAll, enterAll, List.foldl_concat]

/-- The messages that are entered under a new field are those of a table of its own. -/
theorem enterAll_eq_record {errors : ErrorMap} {field : String} (h : field ∉ errors.keys)
    (entries : List (String × String)) :
    errors.enterAll field entries = errors.record field (Table.ofList entries) := by
  have hnew : errors.get? field = none := Table.get?_eq_none_of_notMem h
  induction entries using List.reverseRecOn with
  | nil => rfl
  | append_singleton entries entry ih =>
    have hne : (Table.ofList (entries ++ [entry])).isEmpty = false := by
      rw [Table.isEmpty_ofList]
      simp
    rw [enterAll_concat, ih, record, record, hne, Table.isEmpty_ofList, Table.ofList_concat]
    cases entries with
    | nil =>
      rw [List.isEmpty_nil, if_pos rfl, enter, hnew]
      rfl
    | cons first rest =>
      rw [List.isEmpty_cons, if_neg Bool.false_ne_true, if_neg Bool.false_ne_true, enter,
        Table.get?_insert, if_pos rfl, Option.getD_some, Table.insert_insert]

/-- Recording the messages of a field adds no other field. -/
theorem eq_or_mem_of_mem_keys_record {errors : ErrorMap} {field other : String}
    {fieldErrors : FieldErrors} (h : other ∈ (errors.record field fieldErrors).keys) :
    other = field ∨ other ∈ errors.keys := by
  rw [record] at h
  split at h
  · exact .inr h
  · rw [Table.keys_insert] at h
    split at h
    · exact .inr h
    · rcases List.mem_append.mp h with hmem | hmem
      · exact .inr hmem
      · exact .inl (List.mem_singleton.mp hmem)

end ErrorMap

namespace Event

/-- The field that an event is about. -/
def field : Event → String
  | .permitted field => field
  | .skipped field => field
  | .unknown field _ => field
  | .evaluated field _ _ _ => field
  | .failed field _ _ => field

/-- The messages after an event: those of a failure are entered, and other events add none. -/
def enterFailure (errors : ErrorMap) : Event → ErrorMap
  | .failed field rule message => errors.enter field rule message
  | _ => errors

/-- The messages that the failures of a log make up when they are entered one after another. -/
def replay (errors : ErrorMap) (log : List Event) : ErrorMap := log.foldl enterFailure errors

theorem replay_append (errors : ErrorMap) (log log' : List Event) :
    replay errors (log ++ log') = replay (replay errors log) log' :=
  List.foldl_append

/-! ### Failures behind their rules -/

/-- A log in which every rule that does not pass is followed by its failure, and in which there are
no other failures. -/
inductive Paired : List Event → Prop
  /-- Nothing happened. -/
  | nil : Paired []
  /-- An event that is neither a failure nor calls for one. -/
  | cons {e : Event} {log : List Event}
      (hpassed : ∀ field rule param, e ≠ .evaluated field rule param false)
      (hfailed : ∀ field rule message, e ≠ .failed field rule message) (h : Paired log) :
      Paired (e :: log)
  /-- A rule that does not pass, and its failure. -/
  | pair {field rule : String} {param : Option String} {message : String} {log : List Event}
      (h : Paired log) :
      Paired (.evaluated field rule param false :: .failed field rule message :: log)

namespace Paired

variable {log log' : List Event}

theorem append (h : Paired log) (h' : Paired log') : Paired (log ++ log') := by
  induction h with
  | nil => exact h'
  | cons hpassed hfailed _ ih => exact .cons hpassed hfailed ih
  | pair _ ih => exact .pair ih

theorem flatMap {α : Type*} {f : α → List Event} {l : List α} (h : ∀ a ∈ l, Paired (f a)) :
    Paired (l.flatMap f) := by
  induction l with
  | nil => exact .nil
  | cons a l ih =>
    rw [List.forall_mem_cons] at h
    exact h.1.append (ih h.2)

theorem followed (h : Paired log) {i : Nat} {field rule : String} {param : Option String}
    (hi : log[i]? = some (.evaluated field rule param false)) :
    ∃ message, log[i + 1]? = some (.failed field rule message) := by
  induction h generalizing i with
  | nil => exact nomatch hi
  | cons hpassed _ _ ih =>
    cases i with
    | zero => exact absurd (Option.some.inj hi) (hpassed _ _ _)
    | succ i => exact ih hi
  | @pair _ _ _ message _ _ ih =>
    match i with
    | 0 =>
      cases hi
      exact ⟨message, rfl⟩
    | 1 => exact nomatch hi
    | i + 2 => exact ih hi

theorem preceded (h : Paired log) {i : Nat} {field rule message : String}
    (hi : log[i]? = some (.failed field rule message)) :
    ∃ j param, i = j + 1 ∧ log[j]? = some (.evaluated field rule param false) := by
  induction h generalizing i with
  | nil => exact nomatch hi
  | cons _ hfailed _ ih =>
    cases i with
    | zero => exact absurd (Option.some.inj hi) (hfailed _ _ _)
    | succ i =>
      obtain ⟨j, param, rfl, hj⟩ := ih hi
      exact ⟨j + 1, param, rfl, hj⟩
  | @pair _ _ param _ _ _ ih =>
    match i with
    | 0 => exact nomatch hi
    | 1 =>
      cases hi
      exact ⟨0, param, rfl, rfl⟩
    | i + 2 =>
      obtain ⟨j, param, rfl, hj⟩ := ih hi
      exact ⟨j + 2, param, rfl, hj⟩

end Paired

/-! ### Stories -/

/-- A log tells the story of visits to fields, each of them with its spec, that left messages. -/
structure TellsOf (log : List Event) (visits : List (Subject × String)) (errors : ErrorMap) :
    Prop where
  /-- The failures make up the messages. -/
  replay_eq : replay .empty log = errors
  /-- A rule that does not pass is followed by its failure at once. -/
  followed : ∀ i field rule param, log[i]? = some (.evaluated field rule param false) →
    ∃ message, log[i + 1]? = some (.failed field rule message)
  /-- Every failure follows a rule that does not pass. -/
  preceded : ∀ i field rule message, log[i]? = some (.failed field rule message) →
    ∃ j param, i = j + 1 ∧ log[j]? = some (.evaluated field rule param false)
  /-- The log says of a field that its empty value is permitted if and only if it is exempt. -/
  permitted_iff : ∀ visit ∈ visits,
    .permitted visit.1.field ∈ log ↔ IsExempt (Spec.rules visit.2) visit.1.value
  /-- It says of a field that it is skipped if and only if it is not exempt and is spared. -/
  skipped_iff : ∀ visit ∈ visits, .skipped visit.1.field ∈ log ↔
    ¬ IsExempt (Spec.rules visit.2) visit.1.value ∧
      IsSpared (Spec.rules visit.2) visit.1.value visit.1.source
  /-- It says nothing else of such a field. -/
  alone : ∀ visit ∈ visits, ∀ e ∈ log, e = .permitted visit.1.field ∨ e = .skipped visit.1.field →
    log.filter (fun other => other.field = visit.1.field) = [e]
  /-- It says nothing of other fields. -/
  visited : ∀ e ∈ log, ∃ visit ∈ visits, visit.1.field = e.field

end Event

/-! ### The events of a field -/

namespace Examiner

variable (examiner : Examiner) (subject : Subject)

/-- All events of a rule are about the field. -/
theorem field_of_mem_ruleEvents {r : Rule} {e : Event} (h : e ∈ examiner.ruleEvents subject r) :
    e.field = subject.field := by
  obtain ⟨-, hevents⟩ | ⟨-, other, hevents, rfl | rfl⟩ := examiner.ruleEvents_cases subject r
  · rw [hevents, List.mem_cons, List.mem_singleton] at h
    rcases h with rfl | rfl <;> rfl
  · rw [hevents, List.mem_singleton] at h
    rw [h]
    rfl
  · rw [hevents, List.mem_singleton] at h
    rw [h]
    rfl

theorem paired_ruleEvents (r : Rule) : Event.Paired (examiner.ruleEvents subject r) := by
  obtain ⟨-, hevents⟩ | ⟨-, e, hevents, rfl | rfl⟩ := examiner.ruleEvents_cases subject r
  · rw [hevents]
    exact .pair .nil
  · rw [hevents]
    exact .cons (by simp) (by simp) .nil
  · rw [hevents]
    exact .cons (by simp) (by simp) .nil

/-- The failures among the events of rules are those of the failing rules. -/
theorem replay_ruleEvents (errors : ErrorMap) (rules : List Rule) :
    Event.replay errors (rules.flatMap (examiner.ruleEvents subject)) =
      errors.enterAll subject.field (examiner.entries subject rules) := by
  induction rules generalizing errors with
  | nil => rfl
  | cons r rest ih =>
    rw [List.flatMap_cons, Event.replay_append, ih]
    obtain ⟨hfails, hevents⟩ | ⟨hfails, e, hevents, rfl | rfl⟩ :=
      examiner.ruleEvents_cases subject r
    · rw [hevents, examiner.entries_cons_of_fails subject hfails]
      rfl
    · rw [hevents, examiner.entries_cons_of_not_fails subject (by simp [hfails])]
      rfl
    · rw [hevents, examiner.entries_cons_of_not_fails subject (by simp [hfails])]
      rfl

/-- The failures of a field that has no messages yet make up its messages. -/
theorem replay_evaluateField {errors : ErrorMap} (h : subject.field ∉ errors.keys)
    (spec : String) :
    Event.replay errors (examiner.evaluateField subject spec).events =
      errors.record subject.field (examiner.evaluateField subject spec).result.errors := by
  refine examiner.evaluateField_cases subject spec (fun _ => rfl) (fun _ _ => rfl) fun _ _ => ?_
  exact (examiner.replay_ruleEvents subject errors _).trans (ErrorMap.enterAll_eq_record h _)

theorem paired_evaluateField (spec : String) :
    Event.Paired (examiner.evaluateField subject spec).events := by
  refine examiner.evaluateField_cases subject spec ?_ ?_ ?_
  · exact fun _ => .cons (by simp) (by simp) .nil
  · exact fun _ _ => .cons (by simp) (by simp) .nil
  · exact fun _ _ => .flatMap fun r _ => examiner.paired_ruleEvents subject r

/-- All events of a field are about it. -/
theorem field_of_mem_events (spec : String) :
    ∀ e ∈ (examiner.evaluateField subject spec).events, e.field = subject.field := by
  refine examiner.evaluateField_cases subject spec ?_ ?_ ?_
  · rintro _ e (_ | ⟨_, ⟨⟩⟩)
    rfl
  · rintro _ _ e (_ | ⟨_, ⟨⟩⟩)
    rfl
  · intro _ _ e he
    obtain ⟨r, -, he⟩ := List.mem_flatMap.mp he
    exact examiner.field_of_mem_ruleEvents subject he

/-- No event of a rule says that the field is permitted or skipped. -/
theorem not_mem_ruleEvents {r : Rule} {e : Event} (h : e.rule? = none) :
    e ∉ examiner.ruleEvents subject r := by
  intro hmem
  rw [examiner.rule?_of_mem_ruleEvents subject hmem] at h
  exact nomatch h

theorem permitted_mem_events_iff (spec : String) :
    .permitted subject.field ∈ (examiner.evaluateField subject spec).events ↔
      IsExempt (Spec.rules spec) subject.value := by
  refine examiner.evaluateField_cases subject spec ?_ ?_ ?_
  · exact fun hexempt => ⟨fun _ => hexempt, fun _ => List.mem_singleton_self _⟩
  · exact fun hexempt _ => ⟨fun h => by simp at h, fun h => absurd h hexempt⟩
  · refine fun hexempt _ => ⟨fun h => ?_, fun h => absurd h hexempt⟩
    obtain ⟨r, -, hmem⟩ := List.mem_flatMap.mp h
    exact absurd hmem (examiner.not_mem_ruleEvents subject rfl)

theorem skipped_mem_events_iff (spec : String) :
    .skipped subject.field ∈ (examiner.evaluateField subject spec).events ↔
      ¬ IsExempt (Spec.rules spec) subject.value ∧
        IsSpared (Spec.rules spec) subject.value subject.source := by
  refine examiner.evaluateField_cases subject spec ?_ ?_ ?_
  · exact fun hexempt => ⟨fun h => by simp at h, fun h => absurd hexempt h.1⟩
  · exact fun hexempt hspared =>
      ⟨fun _ => ⟨hexempt, hspared⟩, fun _ => List.mem_singleton_self _⟩
  · refine fun _ hspared => ⟨fun h => ?_, fun h => absurd h.2 hspared⟩
    obtain ⟨r, -, hmem⟩ := List.mem_flatMap.mp h
    exact absurd hmem (examiner.not_mem_ruleEvents subject rfl)

/-- A field that is permitted or skipped has no other event. -/
theorem events_eq_singleton {spec : String} {e : Event}
    (hmem : e ∈ (examiner.evaluateField subject spec).events) (hrule : e.rule? = none) :
    (examiner.evaluateField subject spec).events = [e] := by
  revert hmem
  refine examiner.evaluateField_cases subject spec ?_ ?_ ?_
  · exact fun _ hmem => by rw [List.mem_singleton.mp hmem]
  · exact fun _ _ hmem => by rw [List.mem_singleton.mp hmem]
  · intro _ _ hmem
    obtain ⟨r, -, hmem⟩ := List.mem_flatMap.mp hmem
    exact absurd hmem (examiner.not_mem_ruleEvents subject hrule)

/-! ### Visits -/

/-- The events of visits to fields, each with its spec. -/
def story (visits : List (Subject × String)) : List Event :=
  visits.flatMap fun visit => (examiner.evaluateField visit.1 visit.2).events

/-- The messages that visits to fields leave, where there are any. -/
def findings (visits : List (Subject × String)) : List (String × FieldErrors) :=
  visits.filterMap fun visit => FieldErrors.finding? visit.1.field
    (examiner.evaluateField visit.1 visit.2).result.errors

variable {visits : List (Subject × String)}

/-- The failures of visits to fields without messages make up the messages that the visits leave,
provided that no field is visited twice. -/
theorem replay_story (hdistinct : (visits.map fun visit => visit.1.field).Nodup) {errors : ErrorMap}
    (hnew : ∀ visit ∈ visits, visit.1.field ∉ errors.keys) :
    Event.replay errors (examiner.story visits) = errors.insertAll (examiner.findings visits) := by
  -- After a visit its field has messages, but no later visit is to this field.
  induction visits generalizing errors with
  | nil => rfl
  | cons visit rest ih =>
    rw [List.map_cons, List.nodup_cons] at hdistinct
    rw [List.forall_mem_cons] at hnew
    obtain ⟨hfield, hdistinct⟩ := hdistinct
    have hvisit := examiner.replay_evaluateField visit.1 hnew.1 visit.2
    rw [ErrorMap.record_eq] at hvisit
    rw [story, List.flatMap_cons, Event.replay_append, hvisit, findings,
      Table.filterMap_cons_eq_append, Table.insertAll_append]
    refine ih hdistinct fun later hlater hmem => ?_
    rw [← ErrorMap.record_eq] at hmem
    rcases ErrorMap.eq_or_mem_of_mem_keys_record hmem with hsame | hold
    · exact hfield (hsame ▸ List.mem_map_of_mem hlater)
    · exact hnew.2 later hlater hold

/-- Of the events of visits to distinct fields, those about a field are those of its visit. -/
theorem filter_story (hdistinct : (visits.map fun visit => visit.1.field).Nodup)
    {visit : Subject × String} (h : visit ∈ visits) :
    (examiner.story visits).filter (fun e => e.field = visit.1.field) =
      (examiner.evaluateField visit.1 visit.2).events := by
  induction visits with
  | nil => exact absurd h List.not_mem_nil
  | cons first rest ih =>
    rw [List.map_cons, List.nodup_cons] at hdistinct
    obtain ⟨hfirst, hdistinct⟩ := hdistinct
    have hfields := examiner.field_of_mem_events first.1 first.2
    rw [story, List.flatMap_cons, List.filter_append]
    rcases List.mem_cons.mp h with rfl | hrest
    · have hown : ∀ e ∈ (examiner.evaluateField visit.1 visit.2).events,
          decide (e.field = visit.1.field) = true :=
        fun e he => decide_eq_true (hfields e he)
      have hothers : ∀ e ∈ examiner.story rest, ¬ decide (e.field = visit.1.field) = true := by
        intro e he hsame
        obtain ⟨other, hother, he⟩ := List.mem_flatMap.mp he
        rw [examiner.field_of_mem_events other.1 other.2 e he, decide_eq_true_iff] at hsame
        exact hfirst (hsame ▸ List.mem_map_of_mem hother)
      rw [List.filter_eq_self.mpr hown]
      exact (congrArg _ (List.filter_eq_nil_iff.mpr hothers)).trans (List.append_nil _)
    · have hothers : ∀ e ∈ (examiner.evaluateField first.1 first.2).events,
          ¬ decide (e.field = visit.1.field) = true := by
        intro e he hsame
        rw [hfields e he, decide_eq_true_iff] at hsame
        exact hfirst (hsame ▸ List.mem_map_of_mem hrest)
      rw [List.filter_eq_nil_iff.mpr hothers]
      exact ih hdistinct hrest

/-- What a log says of a field is what its visit says. -/
theorem mem_story_iff (hdistinct : (visits.map fun visit => visit.1.field).Nodup)
    {visit : Subject × String} (h : visit ∈ visits) {e : Event} (he : e.field = visit.1.field) :
    e ∈ examiner.story visits ↔ e ∈ (examiner.evaluateField visit.1 visit.2).events := by
  rw [← examiner.filter_story hdistinct h, List.mem_filter, decide_eq_true_iff]
  exact (and_iff_left he).symm

/-- The events of visits to distinct fields tell their story. -/
theorem story_tellsOf (hdistinct : (visits.map fun visit => visit.1.field).Nodup) :
    Event.TellsOf (examiner.story visits) visits (Table.ofList (examiner.findings visits)) := by
  have hpaired : Event.Paired (examiner.story visits) :=
    .flatMap fun visit _ => examiner.paired_evaluateField visit.1 visit.2
  constructor
  case replay_eq => exact examiner.replay_story hdistinct fun _ _ => List.not_mem_nil
  case followed => exact fun _ _ _ _ => hpaired.followed
  case preceded => exact fun _ _ _ _ => hpaired.preceded
  case permitted_iff =>
    intro visit hvisit
    rw [examiner.mem_story_iff hdistinct hvisit rfl]
    exact examiner.permitted_mem_events_iff visit.1 visit.2
  case skipped_iff =>
    intro visit hvisit
    rw [examiner.mem_story_iff hdistinct hvisit rfl]
    exact examiner.skipped_mem_events_iff visit.1 visit.2
  case alone =>
    intro visit hvisit e he hkind
    have hfield : e.field = visit.1.field := by rcases hkind with rfl | rfl <;> rfl
    have hrule : e.rule? = none := by rcases hkind with rfl | rfl <;> rfl
    rw [examiner.mem_story_iff hdistinct hvisit hfield] at he
    rw [examiner.filter_story hdistinct hvisit]
    exact examiner.events_eq_singleton visit.1 he hrule
  case visited =>
    intro e he
    obtain ⟨visit, hvisit, he⟩ := List.mem_flatMap.mp he
    exact ⟨visit, hvisit, (examiner.field_of_mem_events visit.1 visit.2 e he).symm⟩

end Examiner

/-! ### Forms and values -/

/-- The visits to the fields of a form with specs, each field with its text in a source. -/
def FieldRules.visits (rules : FieldRules) (source : Source) : List (Subject × String) :=
  rules.entries.map fun entry => (⟨entry.1, source.textOf entry.1, source⟩, entry.2)

namespace Validator

variable (v : Validator)

theorem validateWith_tellsOf (source : Source) (rules : FieldRules)
    (messages : Option Overrides) :
    let run := v.validateWith source rules messages
    Event.TellsOf run.events (rules.visits source) run.result.errors := by
  intro run
  have hdistinct : ((rules.visits source).map fun visit => visit.1.field).Nodup := by
    rw [FieldRules.visits, List.map_map]
    exact rules.keys_nodup
  have hrun : run = ⟨⟨Table.ofList ((v.batchExaminer messages).findings (rules.visits source))⟩,
      (v.batchExaminer messages).story (rules.visits source)⟩ := by
    rw [Examiner.findings, Examiner.story, FieldRules.visits, List.filterMap_map, List.flatMap_map]
    exact v.validateWith_eq source rules messages
  rw [hrun]
  exact (v.batchExaminer messages).story_tellsOf hdistinct

theorem validateValue_tellsOf (value spec : String) (messages : Option RuleMessages) :
    let run := v.validateValue value spec messages
    Event.TellsOf run.events [(⟨valueField, value, .none⟩, spec)] run.result.errors := by
  intro run
  let examiner := v.examiner (v.valueOverrides messages) .shortCircuit
  let visits : List (Subject × String) := [(⟨valueField, value, .none⟩, spec)]
  have hrun : run = ⟨⟨Table.ofList (examiner.findings visits)⟩, examiner.story visits⟩ := by
    have hfindings : examiner.findings visits = (FieldErrors.finding? valueField
        (examiner.evaluateField ⟨valueField, value, .none⟩ spec).result.errors).toList := by
      rw [Examiner.findings, Table.filterMap_cons_eq_append, List.filterMap_nil, List.append_nil]
    rw [hfindings, Examiner.story, List.flatMap_singleton]
    simp only [run, validateValue, ErrorMap.record_eq]
    rfl
  rw [hrun]
  exact examiner.story_tellsOf (List.nodup_singleton _)

/-- The log of a validation tells the whole story, for a form with its own specs or with those given
for this time and for a single value. The failures, entered in order, make up the messages of the
outcome. Every rule that does not pass is followed at once by its failure and there are no other
failures. The log says of a field that its empty value is permitted or that it is skipped if and
only if this is so, and then says nothing else of the field. -/
theorem log_tellsOf :
    (∀ source,
      let run := v.validate source
      Event.TellsOf run.events (v.rules.visits source) run.result.errors) ∧
    (∀ source rules messages,
      let run := v.validateWith source rules messages
      Event.TellsOf run.events (rules.visits source) run.result.errors) ∧
    ∀ value spec messages,
      let run := v.validateValue value spec messages
      Event.TellsOf run.events [(⟨valueField, value, .none⟩, spec)] run.result.errors :=
  ⟨fun source => v.validateWith_tellsOf source v.rules none, v.validateWith_tellsOf,
    v.validateValue_tellsOf⟩

-- A rule that fails twice under one name keeps its place and takes the newer message.
example :
    let log := (Validator.default.validateWith (Source.ofTable (Table.ofList [("code", "abc")]))
      (Table.ofList [("code", "min_length[5]|integer|min_length[8]")]) none).events
    log.length = 6 ∧ ((Event.replay .empty log).get? "code").map Table.keys =
      some ["min_length", "integer"] := by
  decide +kernel

end Validator

end FormCheck
