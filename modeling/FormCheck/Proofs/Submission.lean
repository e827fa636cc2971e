import FormCheck.Proofs.Element
import Mathlib.Logic.Relation

/-!
# Live elements read as the form that they submit

A form on a screen submits the values of its named elements, without those of unchecked checkboxes.
What a rule reads under a name is the first value that the form submits under it, and the empty text
under a name that only unchecked checkboxes have. All that an unchecked checkbox decides is whether
there is an element with its name at all.

## Main definitions

* `Element.submitted` : what a form submits, in order.
* `Element.BoxEdit` : a form with an unchecked checkbox more or less, or in another place.

## Main results

* `Element.valueIn_of_exists` : the value under a name is the first one submitted.
* `Element.submitted_of_boxEdits` : what a form submits does not change with its unchecked boxes.
* `Source.valueOf_ofElements` : reading, and forms that differ in unchecked checkboxes.
-/

namespace FormCheck

variable {elements edited : List Element} {e : Element} {name : String}

namespace Element

/-! ### What is submitted -/

/-- What an element submits: its value under its name. An unchecked checkbox and an element without
a name submit nothing. -/
def posted? (e : Element) : Option (String × String) :=
  if e.submits then e.name.map fun name => (name, e.value) else none

/-- The entries that a form submits, in the order of its elements. -/
def submitted (elements : List Element) : List (String × String) :=
  elements.filterMap posted?

theorem posted?_of_not_submits (h : e.submits = false) : e.posted? = none := by
  simp [posted?, h]

theorem posted?_eq_some_iff {entry : String × String} :
    e.posted? = some entry ↔ e.submits = true ∧ e.name = some entry.1 ∧ e.value = entry.2 := by
  rw [posted?, Option.ite_none_right_eq_some, Option.map_eq_some_iff]
  refine and_congr_right fun _ => ⟨?_, ?_⟩
  · rintro ⟨name, hname, rfl⟩
    exact ⟨hname, rfl⟩
  · rintro ⟨hname, hvalue⟩
    exact ⟨entry.1, hname, Prod.ext rfl hvalue⟩

/-- An element with another name submits nothing under a name. -/
theorem lookup_submitted_cons_of_ne (h : e.name ≠ some name) (rest : List Element) :
    Table.lookup name (submitted (e :: rest)) = Table.lookup name (submitted rest) := by
  rw [submitted, List.filterMap_cons]
  cases hentry : e.posted? with
  | none => rfl
  | some entry =>
    have hother : entry.1 ≠ name := by
      rintro rfl
      exact h (posted?_eq_some_iff.mp hentry).2.1
    simp only [Table.lookup, if_neg hother]
    rfl

/-- The first value that is submitted under a name is that of the first element with this name that
submits one. -/
theorem lookup_submitted (elements : List Element) (name : String) :
    Table.lookup name (submitted elements) =
      ((elements.filter (isNamed name)).find? submits).map Element.value := by
  induction elements with
  | nil => rfl
  | cons e rest ih =>
    by_cases hname : e.name = some name
    · rw [List.filter_cons_of_pos (isNamed_iff.mpr hname), List.find?_cons, submitted]
      cases hsubmits : e.submits with
      | true =>
        have hentry : e.posted? = some (name, e.value) :=
          posted?_eq_some_iff.mpr ⟨hsubmits, hname, rfl⟩
        rw [List.filterMap_cons_some hentry, Table.lookup, if_pos rfl]
        rfl
      | false =>
        rw [List.filterMap_cons_none (posted?_of_not_submits hsubmits)]
        exact ih
    · rw [List.filter_cons_of_neg (mt isNamed_iff.mp hname), lookup_submitted_cons_of_ne hname, ih]

/-! ### What is read -/

theorem filter_isNamed_eq_nil_iff :
    elements.filter (isNamed name) = [] ↔ ∀ e ∈ elements, e.name ≠ some name := by
  rw [List.filter_eq_nil_iff]
  exact forall₂_congr fun e _ => not_congr isNamed_iff

theorem valueIn_eq_none_iff :
    valueIn elements name = none ↔ ∀ e ∈ elements, e.name ≠ some name := by
  rw [← filter_isNamed_eq_nil_iff, valueIn]
  split
  · next hnil => exact iff_of_true rfl hnil
  · next hne =>
    refine iff_of_false ?_ hne
    split <;> exact Option.some_ne_none _

/-- Under the name of an element stands the first value that is submitted under this name, or the
empty text if there is none. -/
theorem valueIn_of_exists (h : ∃ e ∈ elements, e.name = some name) :
    valueIn elements name = some ((Table.lookup name (submitted elements)).getD "") := by
  obtain ⟨e, he, hname⟩ := h
  have hgroup : elements.filter (isNamed name) ≠ [] :=
    fun hnil => filter_isNamed_eq_nil_iff.mp hnil e he hname
  rw [lookup_submitted, valueIn]
  split
  · next hnil => exact absurd hnil hgroup
  · split <;> next hfirst => rw [hfirst]; rfl

/-! ### Unchecked checkboxes -/

/-- A form becomes another one by an unchecked checkbox that is added, removed or moved to another
place. -/
inductive BoxEdit : List Element → List Element → Prop
  /-- A checkbox is added. -/
  | add (before after : List Element) {box : Element} (h : box.submits = false) :
      BoxEdit (before ++ after) (before ++ box :: after)
  /-- A checkbox is removed. -/
  | remove (before after : List Element) {box : Element} (h : box.submits = false) :
      BoxEdit (before ++ box :: after) (before ++ after)
  /-- A checkbox is moved to a later place. -/
  | moveDown (before between after : List Element) {box : Element} (h : box.submits = false) :
      BoxEdit (before ++ box :: (between ++ after)) (before ++ (between ++ box :: after))
  /-- A checkbox is moved to an earlier place. -/
  | moveUp (before between after : List Element) {box : Element} (h : box.submits = false) :
      BoxEdit (before ++ (between ++ box :: after)) (before ++ box :: (between ++ after))

/-- An unchecked checkbox may be left out of what is submitted, wherever it stands. -/
theorem submitted_append_cons {box : Element} (h : box.submits = false)
    (before after : List Element) :
    submitted (before ++ box :: after) = submitted (before ++ after) := by
  rw [submitted, submitted, List.filterMap_append, List.filterMap_append,
    List.filterMap_cons_none (posted?_of_not_submits h)]

/-- A change of one unchecked checkbox does not change what is submitted. -/
theorem BoxEdit.submitted_eq (h : BoxEdit elements edited) :
    submitted edited = submitted elements := by
  cases h with
  | add before after hbox => exact submitted_append_cons hbox before after
  | remove before after hbox => exact (submitted_append_cons hbox before after).symm
  | moveDown before between after hbox =>
    rw [← List.append_assoc, submitted_append_cons hbox, submitted_append_cons hbox,
      List.append_assoc]
  | moveUp before between after hbox =>
    rw [← List.append_assoc before between (_ :: _), submitted_append_cons hbox,
      submitted_append_cons hbox, List.append_assoc]

/-- Changes of unchecked checkboxes do not change what is submitted. -/
theorem submitted_of_boxEdits (h : Relation.ReflTransGen BoxEdit elements edited) :
    submitted edited = submitted elements := by
  induction h with
  | refl => rfl
  | tail _ hedit ih => exact hedit.submitted_eq.trans ih

end Element

/-- A name that no element has is absent, and any other name reads as the first value that the form
submits under it, or as the empty text if there is none. So unchecked checkboxes may be added,
removed and moved at will: if there is an element with a name before and after, the name reads the
same. -/
theorem Source.valueOf_ofElements (elements : List Element) (name : String) :
    ((Source.ofElements elements).valueOf name = .none ↔ ∀ e ∈ elements, e.name ≠ some name) ∧
    ((∃ e ∈ elements, e.name = some name) → (Source.ofElements elements).valueOf name =
      some ((Table.lookup name (Element.submitted elements)).getD "")) ∧
    ∀ edited, Relation.ReflTransGen Element.BoxEdit elements edited →
      (∃ e ∈ elements, e.name = some name) → (∃ e ∈ edited, e.name = some name) →
      (Source.ofElements edited).valueOf name = (Source.ofElements elements).valueOf name := by
  refine ⟨Element.valueIn_eq_none_iff, Element.valueIn_of_exists, ?_⟩
  intro edited hedits hbefore hafter
  have hread : Element.valueIn edited name = Element.valueIn elements name := by
    rw [Element.valueIn_of_exists hbefore, Element.valueIn_of_exists hafter,
      Element.submitted_of_boxEdits hedits]
  exact hread

/-- A group reads as its first checked box, also without its unchecked box in front and with another
one at the end. -/
theorem Source.valueOf_ofElements_group :
    let box (value : String) (checked : Bool) : Element :=
      ⟨some "color", value, .none, .checkbox checked⟩
    let note : Element := ⟨some "note", "x", .none, .field⟩
    let elements := [box "red" false, note, box "blue" true, box "green" true]
    let edited := [note, box "blue" true, box "green" true, box "white" false]
    Relation.ReflTransGen Element.BoxEdit elements edited ∧
      (∃ e ∈ elements, e.name = some "color") ∧ (∃ e ∈ edited, e.name = some "color") ∧
      (Source.ofElements elements).valueOf "color" = some "blue" ∧
      (Source.ofElements edited).valueOf "color" =
        (Source.ofElements elements).valueOf "color" := by
  intro box note elements edited
  have hremove : Element.BoxEdit elements [note, box "blue" true, box "green" true] :=
    .remove [] _ rfl
  have hadd : Element.BoxEdit [note, box "blue" true, box "green" true] edited :=
    .add [note, box "blue" true, box "green" true] [] rfl
  have hedits : Relation.ReflTransGen Element.BoxEdit elements edited :=
    (Relation.ReflTransGen.single hremove).tail hadd
  have hbefore : ∃ e ∈ elements, e.name = some "color" := by decide
  have hafter : ∃ e ∈ edited, e.name = some "color" := by decide
  obtain ⟨-, hvalue, hsame⟩ := Source.valueOf_ofElements elements "color"
  exact ⟨hedits, hbefore, hafter, (hvalue hbefore).trans (by decide),
    hsame edited hedits hbefore hafter⟩

end FormCheck
