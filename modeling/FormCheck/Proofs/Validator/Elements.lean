import FormCheck.Proofs.Element
import FormCheck.Proofs.Validator.Batch

/-!
# Forms on a screen and submitted forms

The elements of a form are validated one after another, each with its own value, while the fields
of submitted data are validated with the values found under their names. If no two elements share a
name the two come to the same: what is validated are the elements with a name and a spec, and under
a name stands the value of its element. Only the mode could make a difference, since elements stop
at their first failing rule and fields do not, unless this has been decided for both.

## Main definitions

* `FieldRules.ofElements` : the specs of the elements that are validated.

## Main results

* `Validator.validateElements_eq` : validating elements is evaluating the fields they stand for.
* `Validator.validateForm_eq_validateWith` : a form and its data are validated alike.
-/

namespace FormCheck

theorem Logged.map_after {α β : Type} (f : α → β) (earlier : List Event) (x : Logged α) :
    (x.after earlier).map f = (x.map f).after earlier := rfl

/-- The specs of the elements that are validated, by their names. -/
def FieldRules.ofElements (elements : List Element) : FieldRules :=
  Table.ofList (elements.filterMap Element.assignment?)

theorem Element.assignment?_eq_some_iff {e : Element} {name spec : String} :
    e.assignment? = some (name, spec) ↔
      e.name = some name ∧ e.spec = some spec ∧ name ≠ "" ∧ spec ≠ "" := by
  unfold assignment?
  cases e.name with
  | none => simp
  | some n =>
    cases e.spec with
    | none => simp
    | some s =>
      by_cases h : n = "" ∨ s = ""
      · simp only [h, if_true, reduceCtorEq, Option.some.injEq, false_iff]
        rintro ⟨rfl, rfl, hname, hspec⟩
        exact h.elim hname hspec
      · simp only [h, if_false, Option.some.injEq, Prod.mk.injEq]
        rw [not_or] at h
        constructor
        · rintro ⟨rfl, rfl⟩
          exact ⟨rfl, rfl, h⟩
        · rintro ⟨rfl, rfl, -⟩
          exact ⟨rfl, rfl⟩

theorem FieldRules.entries_ofElements {elements : List Element}
    (h : (elements.filterMap Element.name).Nodup) :
    (ofElements elements).entries = elements.filterMap Element.assignment? := by
  refine Table.entries_ofList (List.Sublist.nodup ?_ h)
  exact Table.map_fst_filterMap_sublist
    (fun e entry hentry => (Element.assignment?_eq_some_iff.mp hentry).1) elements

namespace Validator

variable (v : Validator) (source : Source)

/-- The examiner of the elements of a form. -/
def elementExaminer : Examiner := v.examiner v.messages .shortCircuit

theorem validateElement_of_assignment?_eq_none {e : Element} (h : e.assignment? = none) :
    v.validateElement e source = ⟨none, []⟩ := by
  rw [validateElement, h]

/-- An element that is validated is evaluated like a field with its effective value. -/
theorem validateElement_of_assignment?_eq_some {e : Element} {name spec : String}
    (h : e.assignment? = some (name, spec)) :
    v.validateElement e source =
      (v.elementExaminer.evaluateField ⟨name, e.effectiveValue, source⟩ spec).map some := by
  rw [validateElement, h]
  rfl

/-- An element whose value stands under its name in a source is validated by a visit. -/
theorem validateElement_eq_visit {e : Element} {name spec : String}
    (h : e.assignment? = some (name, spec)) (htext : source.textOf name = e.effectiveValue) :
    v.validateElement e source = (v.elementExaminer.visit source (name, spec)).map some := by
  rw [v.validateElement_of_assignment?_eq_some source h, Examiner.visit, htext]

theorem addElement_none (report : FormReport) (e : Element) :
    addElement report e none = report := by
  unfold addElement
  cases e.name <;> rfl

theorem addElement_some (report : FormReport) {e : Element} {name : String}
    (hname : e.name = some name) (outcome : FieldOutcome) :
    addElement report e (some outcome) =
      ⟨⟨report.outcome.errors.record name outcome.errors⟩,
        report.signals ++ [Signal.ofOutcome e outcome]⟩ := by
  unfold addElement
  rw [hname]

/-- Validating elements is evaluating the fields that they stand for. -/
theorem validateElements_eq {elements : List Element}
    (htext : ∀ e ∈ elements, ∀ name ∈ e.name, source.textOf name = e.effectiveValue)
    (report : FormReport) :
    (v.validateElements source report elements).map FormReport.outcome =
      (v.elementExaminer.evaluateFields source report.outcome.errors
        (elements.filterMap Element.assignment?)).map Outcome.mk := by
  -- An element that is not validated leaves the report as it is and stands for no field.
  induction elements generalizing report with
  | nil => rfl
  | cons e rest ih =>
    rw [List.forall_mem_cons] at htext
    rw [validateElements, Logged.map_after, ih htext.2]
    cases hassigned : e.assignment? with
    | none =>
      rw [v.validateElement_of_assignment?_eq_none source hassigned, addElement_none,
        List.filterMap_cons_none hassigned]
      rfl
    | some entry =>
      have hname := (Element.assignment?_eq_some_iff.mp hassigned).1
      rw [v.validateElement_eq_visit source hassigned (htext.1 _ hname),
        List.filterMap_cons_some hassigned]
      simp only [Logged.map, addElement_some report hname]
      rfl

/-- If it has been decided whether to stop at the first failing rule, elements and fields are
examined alike. -/
theorem elementExaminer_eq_batchExaminer {stop : Bool} (h : v.stopOnFirstError = some stop) :
    v.elementExaminer = v.batchExaminer none := by
  unfold elementExaminer batchExaminer examiner modeOr
  rw [h]
  cases stop <;> rfl

/-- A form on a screen whose elements have distinct names is validated like the data that it would
submit, with the specs that its elements carry: with the same outcome and by the same events. -/
theorem validateForm_eq_validateWith {stop : Bool} (hstop : v.stopOnFirstError = some stop)
    {elements : List Element} (hnames : (elements.filterMap Element.name).Nodup) :
    (v.validateForm elements).map FormReport.outcome =
      v.validateWith (Form.ofElements elements).source (.ofElements elements) none := by
  have htext : ∀ e ∈ elements, ∀ name ∈ e.name,
      (Source.ofElements elements).textOf name = e.effectiveValue := by
    intro e he name hname
    have hvalue : (Source.ofElements elements).valueOf name = some e.effectiveValue :=
      Element.valueIn_of_mem hnames he hname
    rw [Source.textOf, hvalue, Option.getD_some]
  rw [validateForm, v.validateElements_eq _ htext, v.elementExaminer_eq_batchExaminer hstop,
    ← FieldRules.entries_ofElements hnames, Source.ofElements_eq hnames]
  rfl

/-- An unchecked checkbox counts as empty and an element without a name does not count, on the
screen as in the data. -/
theorem validateForm_eq_validateWith_checkbox :
    let v : Validator := { Validator.default with stopOnFirstError := some false }
    let elements : List Element := [
      ⟨some "code", "abc", some "integer|max_length[2]", .field⟩,
      ⟨some "terms", "yes", some "required", .checkbox false⟩,
      ⟨none, "abc", some "integer", .field⟩,
      ⟨some "copy", "abc", some "matches[code]", .field⟩]
    v.stopOnFirstError = some false ∧ (elements.filterMap Element.name).Nodup ∧
      (v.validateForm elements).map FormReport.outcome =
        v.validateWith (Form.ofElements elements).source (.ofElements elements) none ∧
      (v.validateForm elements).result.outcome.errors.keys = ["code", "terms"] := by
  intro v elements
  have hstop : v.stopOnFirstError = some false := rfl
  have hnames : (elements.filterMap Element.name).Nodup := by decide
  exact ⟨hstop, hnames, v.validateForm_eq_validateWith hstop hnames, by decide +kernel⟩

end Validator

end FormCheck
