import FormCheck.Proofs.Validator.Elements
import FormCheck.Proofs.Validator.Ending
import Mathlib.Data.List.Forall2

/-!
# What the observer of a form is told

While the elements of a form are validated, an observer is told about each of them, and the failures
are entered into the messages of the form. So the messages are what the observer was told, entered
one after another: an element that fails replaces the messages of an earlier one with the same name.

## Main definitions

* `Element.IsValidated` : an element has a name and a spec.
* `Validator.Tells` : what an observer is to be told about an element.
* `Signal.failure?` : the messages that come with a signal.

## Main results

* `Validator.result_validateElements` : the outcome of a form is what the observer was told.
* `Validator.validateForm_signals` : the observer is told about every element once.
* `Validator.validateForm_lastFailure` : of the failures under a name the last one is kept.
-/

namespace FormCheck

/-- An element is validated if it has a name and a spec, neither of them empty. -/
def Element.IsValidated (e : Element) : Prop :=
  (∃ name ∈ e.name, name ≠ "") ∧ ∃ spec ∈ e.spec, spec ≠ ""

instance : DecidablePred Element.IsValidated := fun e =>
  inferInstanceAs (Decidable ((∃ name ∈ e.name, name ≠ "") ∧ ∃ spec ∈ e.spec, spec ≠ ""))

theorem Element.isValidated_iff {e : Element} :
    e.IsValidated ↔ ∃ entry, e.assignment? = some entry := by
  simp only [Prod.exists, assignment?_eq_some_iff, IsValidated, Option.mem_def]
  constructor
  · rintro ⟨⟨name, hname, hname'⟩, spec, hspec, hspec'⟩
    exact ⟨name, spec, hname, hspec, hname', hspec'⟩
  · rintro ⟨name, spec, hname, hspec, hname', hspec'⟩
    exact ⟨⟨name, hname, hname'⟩, spec, hspec, hspec'⟩

/-- The name and the messages of the element that a signal says has failed. -/
def Signal.failure? : Signal → Option (String × FieldErrors)
  | .pass _ => none
  | .fail e errors => e.name.map fun name => (name, errors)

/-- If an outcome has messages just when it is a failure, the signal of the outcome says what is
entered into the messages of the form. -/
theorem Signal.failure?_ofOutcome {e : Element} {name : String} (hname : e.name = some name)
    {outcome : FieldOutcome} (h : outcome.errors ≠ .empty ↔ outcome.state = .failed) :
    (Signal.ofOutcome e outcome).failure? = FieldErrors.finding? name outcome.errors := by
  rw [ofOutcome, FieldOutcome.isValid, FieldErrors.finding?]
  by_cases hfailed : outcome.state = .failed
  · have hne : ¬ outcome.errors.isEmpty = true := mt Table.isEmpty_iff.mp (h.mpr hfailed)
    simp [hfailed, hne, failure?, hname]
  · have hempty : outcome.errors = .empty := not_not.mp (mt h.mp hfailed)
    simp [hfailed, failure?, Table.isEmpty_iff.mpr hempty]

namespace Validator

variable (v : Validator) (source : Source)

/-- What an observer is to be told about an element with a name and a spec: that it failed, and with
which messages, if the validation of its effective value ends so, and otherwise that it passed. -/
inductive Tells (e : Element) : Signal → Prop
  /-- The element passes or is skipped. -/
  | pass {name spec : String} (hname : e.name = some name) (hspec : e.spec = some spec)
      (h : ¬ Ending v.registry ⟨name, e.effectiveValue, source⟩ (Spec.rules spec) .failed) :
      Tells e (.pass e)
  /-- The element fails. -/
  | fail {name spec : String} {errors : FieldErrors} (hname : e.name = some name)
      (hspec : e.spec = some spec)
      (h : Ending v.registry ⟨name, e.effectiveValue, source⟩ (Spec.rules spec) .failed)
      (hresult : (v.validateElement e source).result = some ⟨.failed, errors⟩)
      (hne : errors ≠ .empty) : Tells e (.fail e errors)

/-- What an observer is told about an element when it is validated, if it is. -/
def signal? (e : Element) : Option Signal :=
  (v.validateElement e source).result.map (Signal.ofOutcome e)

/-! ### One element -/

section Element

variable {e : Element} {name spec : String}

theorem result_validateElement (h : e.assignment? = some (name, spec)) :
    (v.validateElement e source).result =
      some (v.elementExaminer.evaluateField ⟨name, e.effectiveValue, source⟩ spec).result := by
  rw [v.validateElement_of_assignment?_eq_some source h]
  rfl

theorem signal?_of_assignment?_eq_none (h : e.assignment? = none) : v.signal? source e = none := by
  rw [signal?, v.validateElement_of_assignment?_eq_none source h]
  rfl

theorem signal?_of_assignment?_eq_some (h : e.assignment? = some (name, spec)) :
    v.signal? source e = some (Signal.ofOutcome e
      (v.elementExaminer.evaluateField ⟨name, e.effectiveValue, source⟩ spec).result) := by
  rw [signal?, v.result_validateElement source h]
  rfl

/-- What an element adds to the messages of a form are the messages of its outcome. -/
theorem bind_failure?_signal? (h : e.assignment? = some (name, spec)) :
    (v.signal? source e).bind Signal.failure? = FieldErrors.finding? name
      (v.elementExaminer.evaluateField ⟨name, e.effectiveValue, source⟩ spec).result.errors := by
  rw [v.signal?_of_assignment?_eq_some source h, Option.bind_some]
  exact Signal.failure?_ofOutcome (Element.assignment?_eq_some_iff.mp h).1
    (v.elementExaminer.errors_ne_empty_iff ⟨name, e.effectiveValue, source⟩ spec)

/-- What is told about an element that is validated is what is to be told. -/
theorem tells_ofOutcome (h : e.assignment? = some (name, spec)) :
    v.Tells source e (Signal.ofOutcome e
      (v.elementExaminer.evaluateField ⟨name, e.effectiveValue, source⟩ spec).result) := by
  obtain ⟨hname, hspec, -, -⟩ := Element.assignment?_eq_some_iff.mp h
  have hresult := v.result_validateElement source h
  have hending : Ending v.registry _ _ _ :=
    v.elementExaminer.ending_evaluateField ⟨name, e.effectiveValue, source⟩ spec
  have herrors := v.elementExaminer.errors_ne_empty_iff ⟨name, e.effectiveValue, source⟩ spec
  generalize (v.elementExaminer.evaluateField ⟨name, e.effectiveValue, source⟩ spec).result =
    outcome at hresult hending herrors
  obtain ⟨state, errors⟩ := outcome
  rw [Signal.ofOutcome, FieldOutcome.isValid]
  by_cases hfailed : state = .failed
  · subst hfailed
    exact .fail hname hspec hending hresult (herrors.mpr rfl)
  · rw [if_pos (bne_iff_ne.mpr hfailed)]
    exact .pass hname hspec fun h => hfailed (hending.unique h)

theorem tells_of_signal?_eq_some {s : Signal} (h : v.signal? source e = some s) :
    v.Tells source e s := by
  cases hassigned : e.assignment? with
  | none =>
    rw [v.signal?_of_assignment?_eq_none source hassigned] at h
    exact nomatch h
  | some entry =>
    rw [v.signal?_of_assignment?_eq_some source hassigned] at h
    rw [← Option.some.inj h]
    exact v.tells_ofOutcome source hassigned

/-- Nothing is told about an element if and only if it is not validated. -/
theorem signal?_eq_none_iff : v.signal? source e = none ↔ ¬ e.IsValidated := by
  rw [Element.isValidated_iff]
  cases h : e.assignment? with
  | none => simp [v.signal?_of_assignment?_eq_none source h]
  | some entry => simp [v.signal?_of_assignment?_eq_some source h]

/-- One more element adds to a report what the observer is told about it. -/
theorem addElement_eq (report : FormReport) (e : Element) :
    addElement report e (v.validateElement e source).result =
      ⟨⟨report.outcome.errors.insertAll ((v.signal? source e).toList.filterMap Signal.failure?)⟩,
        report.signals ++ (v.signal? source e).toList⟩ := by
  cases h : e.assignment? with
  | none =>
    rw [v.validateElement_of_assignment?_eq_none source h, addElement_none,
      v.signal?_of_assignment?_eq_none source h, Option.toList_none, List.append_nil]
    rfl
  | some entry =>
    obtain ⟨name, spec⟩ := entry
    have hname := (Element.assignment?_eq_some_iff.mp h).1
    rw [v.result_validateElement source h, addElement_some report hname, ErrorMap.record_eq,
      ← v.bind_failure?_signal? source h, v.signal?_of_assignment?_eq_some source h]
    rfl

end Element

/-! ### All elements -/

/-- The observer is told about one element after another, and the messages of the form are what it
was told, entered one after another. -/
theorem result_validateElements (report : FormReport) (elements : List Element) :
    (v.validateElements source report elements).result =
      ⟨⟨report.outcome.errors.insertAll
          ((elements.filterMap (v.signal? source)).filterMap Signal.failure?)⟩,
        report.signals ++ elements.filterMap (v.signal? source)⟩ := by
  -- Each element is added to the report of those before it, so the induction is for every report.
  induction elements generalizing report with
  | nil =>
    rw [List.filterMap_nil, List.append_nil]
    rfl
  | cons e rest ih =>
    rw [Table.filterMap_cons_eq_append, List.filterMap_append, Table.insertAll_append,
      ← List.append_assoc]
    have hstep := v.addElement_eq source report e
    exact (ih _).trans (by rw [hstep])

theorem result_validateForm (elements : List Element) :
    (v.validateForm elements).result =
      ⟨⟨Table.ofList ((elements.filterMap (v.signal? (Source.ofElements elements))).filterMap
          Signal.failure?)⟩,
        elements.filterMap (v.signal? (Source.ofElements elements))⟩ :=
  v.result_validateElements (Source.ofElements elements) ⟨⟨.empty⟩, []⟩ elements

/-- The messages of a form are what its observer was told, entered one after another. -/
theorem errors_validateForm (elements : List Element) :
    (v.validateForm elements).result.outcome.errors =
      Table.ofList ((v.validateForm elements).result.signals.filterMap Signal.failure?) := by
  rw [result_validateForm]

/-- The observer is told what it is to be told, about the elements that are validated and in their
order. -/
theorem forall₂_tells (elements : List Element) :
    List.Forall₂ (v.Tells source) (elements.filter fun e => e.IsValidated)
      (elements.filterMap (v.signal? source)) := by
  induction elements with
  | nil => exact .nil
  | cons e rest ih =>
    cases h : v.signal? source e with
    | none =>
      have hnot : ¬ e.IsValidated := (v.signal?_eq_none_iff source).mp h
      rwa [List.filter_cons_of_neg (by simpa using hnot), List.filterMap_cons_none h]
    | some s =>
      have hvalidated : e.IsValidated := by
        by_contra hnot
        exact nomatch h.symm.trans ((v.signal?_eq_none_iff source).mpr hnot)
      rw [List.filter_cons_of_pos (by simpa using hvalidated), List.filterMap_cons_some h]
      exact .cons (v.tells_of_signal?_eq_some source h) ih

theorem tells_of_mem_signals {elements : List Element} {s : Signal}
    (h : s ∈ (v.validateForm elements).result.signals) :
    ∃ e ∈ elements, v.Tells (Source.ofElements elements) e s := by
  rw [result_validateForm] at h
  obtain ⟨e, he, hs⟩ := List.mem_filterMap.mp h
  exact ⟨e, he, v.tells_of_signal?_eq_some _ hs⟩

/-- A signal is a failure if and only if it has messages for the form. -/
theorem failure?_eq_none_iff {elements : List Element} {s : Signal}
    (h : s ∈ (v.validateForm elements).result.signals) :
    s.failure? = none ↔ ∀ e errors, s ≠ .fail e errors := by
  obtain ⟨e, -, htells⟩ := v.tells_of_mem_signals h
  cases htells with
  | pass => simp [Signal.failure?]
  | fail hname => simp [Signal.failure?, hname]

theorem isValid_validateForm_iff {elements : List Element} :
    (v.validateForm elements).result.outcome.isValid = true ↔
      ∀ e errors, .fail e errors ∉ (v.validateForm elements).result.signals := by
  rw [Outcome.isValid, errors_validateForm, Table.isEmpty_ofList, List.isEmpty_iff,
    List.filterMap_eq_nil_iff]
  constructor
  · intro h e errors hmem
    exact (v.failure?_eq_none_iff hmem).mp (h _ hmem) e errors rfl
  · intro h s hmem
    exact (v.failure?_eq_none_iff hmem).mpr fun e errors hs => h e errors (hs ▸ hmem)

/-- The observer of a form is told exactly one thing about every element with a name and a spec, in
the order of the elements: that it failed, and with which messages, if its validation by itself ends
so among the values of the whole form, and otherwise that it passed. The form is valid if and only
if no element failed, and its messages are for the names of the failed elements, each of them at the
place of its first failure. -/
theorem validateForm_signals (elements : List Element) :
    let report := (v.validateForm elements).result
    List.Forall₂ (v.Tells (Source.ofElements elements))
        (elements.filter fun e => e.IsValidated) report.signals ∧
      (report.outcome.isValid = true ↔ ∀ e errors, .fail e errors ∉ report.signals) ∧
      report.outcome.errors.keys =
        ((report.signals.filterMap Signal.failure?).map Prod.fst).eraseDups := by
  intro report
  refine ⟨?told, v.isValid_validateForm_iff, ?names⟩
  case told =>
    have hsignals : report.signals = _ := congrArg FormReport.signals (v.result_validateForm _)
    rw [hsignals]
    exact v.forall₂_tells _ elements
  case names =>
    have herrors : report.outcome.errors = _ := v.errors_validateForm elements
    rw [herrors, Table.keys_ofList]

/-! ### Several failures under one name -/

theorem get?_errors_validateForm (elements : List Element) (name : String) :
    (v.validateForm elements).result.outcome.errors.get? name =
      (((v.validateForm elements).result.signals.filterMap Signal.failure?).filter
        fun failure => failure.1 = name).getLast?.map Prod.snd := by
  rw [errors_validateForm, Table.get?_ofList]

/-- If names are distinct, every failure is kept as it is. -/
theorem entries_errors_validateForm {elements : List Element}
    (h : (elements.filterMap Element.name).Nodup) :
    (v.validateForm elements).result.outcome.errors.entries =
      (v.validateForm elements).result.signals.filterMap Signal.failure? := by
  rw [errors_validateForm]
  refine Table.entries_ofList (List.Sublist.nodup ?_ h)
  rw [result_validateForm, List.filterMap_filterMap]
  refine Table.map_fst_filterMap_sublist (fun e failure hfailure => ?_) elements
  obtain ⟨s, hs, hfailure⟩ := Option.bind_eq_some_iff.mp hfailure
  cases v.tells_of_signal?_eq_some _ hs with
  | pass => exact nomatch hfailure
  | fail =>
    obtain ⟨name, hname, rfl⟩ := Option.map_eq_some_iff.mp hfailure
    exact hname

/-- Of the failures under a name a form keeps the last one and nothing of those before it. All are
kept if no two elements share a name. -/
theorem validateForm_lastFailure (elements : List Element) :
    let report := (v.validateForm elements).result
    (∀ name, report.outcome.errors.get? name =
        ((report.signals.filterMap Signal.failure?).filter
          fun failure => failure.1 = name).getLast?.map Prod.snd) ∧
      ((elements.filterMap Element.name).Nodup → ∀ e errors, .fail e errors ∈ report.signals →
        ∀ name ∈ e.name, report.outcome.errors.get? name = some errors) := by
  intro report
  refine ⟨v.get?_errors_validateForm elements, fun hnames e errors hfail name hname => ?_⟩
  rw [Table.get?_eq_some_iff, v.entries_errors_validateForm hnames]
  exact List.mem_filterMap.mpr ⟨_, hfail, by rw [Signal.failure?, hname]; rfl⟩

/-- If the names are distinct the failure of an element is found under its name, with other failures
and elements without a name beside it. -/
theorem validateForm_lastFailure_distinct_names :
    let code : Element := ⟨some "code", "abc", some "integer|max_length[2]", .field⟩
    let terms : Element := ⟨some "terms", "yes", some "required", .checkbox false⟩
    let elements := [code, ⟨none, "", some "required", .field⟩, terms]
    let errors : FieldErrors := .ofList [("integer", "The code field must contain an integer.")]
    let report := (Validator.default.validateForm elements).result
    (elements.filterMap Element.name).Nodup ∧ .fail code errors ∈ report.signals ∧
      report.outcome.errors.get? "code" = some errors ∧
      report.outcome.errors.keys = ["code", "terms"] := by
  intro code terms elements errors report
  have hnames : (elements.filterMap Element.name).Nodup := by decide
  have hfail : .fail code errors ∈ report.signals := by decide +kernel
  have hkept := (Validator.default.validateForm_lastFailure elements).2 hnames code errors hfail
  exact ⟨hnames, hfail, hkept "code" rfl, by decide +kernel⟩

/-- In a group of two checkboxes that both fail, the observer is told about the first one what the
outcome does not say. -/
theorem not_forall_failure_kept :
    ¬ ∀ (v : Validator) (elements : List Element) (e : Element) (name rule : String)
        (errors : FieldErrors), .fail e errors ∈ (v.validateForm elements).result.signals →
      e.name = some name → rule ∈ errors.keys →
        ∃ kept, (v.validateForm elements).result.outcome.errors.get? name = some kept ∧
          rule ∈ kept.keys := by
  intro h
  let red : Element := ⟨some "color", "red", some "required", .checkbox false⟩
  let blue : Element := ⟨some "color", "blue", some "min_length[5]", .checkbox true⟩
  obtain ⟨kept, hkept, hrule⟩ := h .default [red, blue] red "color" "required"
    (.ofList [("required", "The color field is required.")]) (by decide +kernel) rfl (by decide)
  have hlast : (Validator.default.validateForm [red, blue]).result.outcome.errors.get? "color" =
      some (.ofList [("min_length",
        "The color field must be at least 5 characters in length.")]) := by
    decide +kernel
  obtain rfl := Option.some.inj (hlast.symm.trans hkept)
  exact absurd hrule (by decide)

end Validator

end FormCheck
