import FormCheck.Element
import FormCheck.Form
import FormCheck.Proofs.Table

/-!
# The elements of a form as form data

If no two elements of a form share a name, each name stands for the value of one element. The form
then reads like form data with these values, in which the value of an unchecked checkbox is the
empty text.

## Main definitions

* `Form.ofElements` : the values of the named elements of a form.

## Main results

* `Element.valueIn_of_mem` : the value under the name of an element is that of the element.
* `Source.ofElements_eq` : elements with distinct names read like form data.
-/

namespace FormCheck

/-- The values of the named elements of a form, by their names. -/
def Form.ofElements (elements : List Element) : Form :=
  Table.ofList (elements.filterMap fun e =>
    e.name.map fun name => (name, Value.text e.effectiveValue))

variable {elements : List Element} {e : Element} {name : String}

namespace Element

theorem isNamed_iff : e.isNamed name = true ↔ e.name = some name := by
  simp [isNamed]

/-- If names are distinct, an element is the only one with its name. -/
theorem filter_isNamed (h : (elements.filterMap Element.name).Nodup) (he : e ∈ elements)
    (hname : e.name = some name) : elements.filter (isNamed name) = [e] := by
  induction elements with
  | nil => exact absurd he List.not_mem_nil
  | cons first rest ih =>
    rcases List.mem_cons.mp he with rfl | hrest
    · rw [List.filterMap_cons_some hname, List.nodup_cons] at h
      rw [List.filter_cons_of_pos (isNamed_iff.mpr hname), List.filter_eq_nil_iff.mpr]
      intro other hother hsame
      exact h.1 (List.mem_filterMap.mpr ⟨other, hother, isNamed_iff.mp hsame⟩)
    · have hmem : name ∈ rest.filterMap Element.name :=
        List.mem_filterMap.mpr ⟨e, hrest, hname⟩
      have hfirst : ¬ first.isNamed name = true := by
        intro hsame
        rw [List.filterMap_cons_some (isNamed_iff.mp hsame), List.nodup_cons] at h
        exact h.1 hmem
      have hsublist := (List.sublist_cons_self first rest).filterMap Element.name
      rw [List.filter_cons_of_neg hfirst]
      exact ih (hsublist.nodup h) hrest

/-- If names are distinct, the value under the name of an element is that of the element. -/
theorem valueIn_of_mem (h : (elements.filterMap Element.name).Nodup) (he : e ∈ elements)
    (hname : e.name = some name) : valueIn elements name = some e.effectiveValue := by
  rw [valueIn, filter_isNamed h he hname, effectiveValue]
  by_cases hsubmits : e.submits = true <;> simp [hsubmits]

theorem valueIn_eq_none (h : name ∉ elements.filterMap Element.name) :
    valueIn elements name = none := by
  have hfilter : elements.filter (isNamed name) = [] :=
    List.filter_eq_nil_iff.mpr fun e he hsame =>
      h (List.mem_filterMap.mpr ⟨e, he, isNamed_iff.mp hsame⟩)
  rw [valueIn, hfilter]

end Element

namespace Form

theorem entries_ofElements (h : (elements.filterMap Element.name).Nodup) :
    (ofElements elements).entries = elements.filterMap fun e =>
      e.name.map fun name => (name, Value.text e.effectiveValue) := by
  refine Table.entries_ofList (List.Sublist.nodup ?_ h)
  refine Table.map_fst_filterMap_sublist (fun e entry hentry => ?_) elements
  obtain ⟨name, hname, rfl⟩ := Option.map_eq_some_iff.mp hentry
  exact hname

theorem get?_ofElements_of_mem (h : (elements.filterMap Element.name).Nodup) (he : e ∈ elements)
    (hname : e.name = some name) :
    (ofElements elements).get? name = some (.text e.effectiveValue) := by
  rw [Table.get?_eq_some_iff, entries_ofElements h]
  exact List.mem_filterMap.mpr ⟨e, he, by rw [hname]; rfl⟩

theorem get?_ofElements_eq_none (h : (elements.filterMap Element.name).Nodup)
    (hname : name ∉ elements.filterMap Element.name) :
    (ofElements elements).get? name = none := by
  rw [Option.eq_none_iff_forall_ne_some]
  intro value hvalue
  rw [Table.get?_eq_some_iff, entries_ofElements h] at hvalue
  obtain ⟨e, he, hentry⟩ := List.mem_filterMap.mp hvalue
  obtain ⟨_, hmem, hpair⟩ := Option.map_eq_some_iff.mp hentry
  obtain ⟨rfl, -⟩ := Prod.mk.inj hpair
  exact hname (List.mem_filterMap.mpr ⟨e, he, hmem⟩)

theorem valueOf_source (form : Form) (name : String) :
    form.source.valueOf name = (form.get? name).map Value.toText := rfl

end Form

/-- If names are distinct, the elements of a form read like form data with their values. -/
theorem Source.ofElements_eq (h : (elements.filterMap Element.name).Nodup) :
    Source.ofElements elements = (Form.ofElements elements).source := by
  ext1
  funext name
  rw [Form.valueOf_source]
  by_cases hmem : name ∈ elements.filterMap Element.name
  · obtain ⟨e, he, hname⟩ := List.mem_filterMap.mp hmem
    rw [Form.get?_ofElements_of_mem h he hname]
    exact Element.valueIn_of_mem h he hname
  · rw [Form.get?_ofElements_eq_none h hmem]
    exact Element.valueIn_eq_none hmem

end FormCheck
