import FormCheck.Proofs.Spec.RoundTrip

/-!
# Lists in parameters

A parameter may hold a list of texts, with a comma between neighbours. As long as no text has
commas, brackets or backslashes in it, brackets close over the list and it falls into the same texts
again. Bars and blanks may stand anywhere in the list, and its texts may be empty.

## Main definitions

* `IsItem` : texts that may stand in a list.

## Main results

* `splitOn_intercalate` : a list of texts is cut into these texts.
* `Spec.isEnclosed_intercalate` : brackets close over a list of texts.
-/

namespace FormCheck

/-- A text that may stand in a list: it has neither commas nor brackets nor backslashes. -/
def IsItem (text : String) : Prop := ∀ c ∈ text.toList, c ∉ [',', '[', ']', '\\']

instance (text : String) : Decidable (IsItem text) :=
  decidable_of_iff (text.toList.all (fun c => !([',', '[', ']', '\\'].contains c)) = true)
    (by
      simp only [List.all_eq_true, Bool.not_eq_true', List.contains_eq_mem,
        decide_eq_false_iff_not]
      rfl)

/-- The characters of texts with a separator between neighbours. -/
theorem mem_of_mem_intercalate {α : Type*} {sep : List α} {l : List (List α)} {a : α}
    (h : a ∈ sep.intercalate l) : a ∈ sep ∨ ∃ part ∈ l, a ∈ part := by
  induction l with
  | nil => exact absurd h List.not_mem_nil
  | cons part l ih =>
    by_cases hl : l = []
    · rw [hl, List.intercalate_singleton] at h
      exact .inr ⟨part, List.mem_cons_self, h⟩
    · rw [List.intercalate_cons_of_ne_nil hl, List.mem_append, List.mem_append] at h
      rcases h with (hpart | hsep) | hrest
      · exact .inr ⟨part, List.mem_cons_self, hpart⟩
      · exact .inl hsep
      · obtain hsep | ⟨other, hother, ha⟩ := ih hrest
        · exact .inl hsep
        · exact .inr ⟨other, List.mem_cons_of_mem part hother, ha⟩

section Items

variable {items : List String} (hitems : ∀ item ∈ items, IsItem item)

include hitems

/-- A list is cut into its texts. The list of one empty text is empty, and so is cut into one. -/
theorem splitOn_intercalate (hne : items ≠ []) :
    (",".intercalate items).toList.splitOn ',' = items.map String.toList := by
  have hcomma : ∀ part ∈ items.map String.toList, ',' ∉ part :=
    List.forall_mem_map.mpr fun item hitem hmem => hitems item hitem ',' hmem (by decide)
  rw [String.toList_intercalate]
  exact List.splitOn_intercalate ',' hcomma (by simpa using hne)

/-- A list has neither brackets nor backslashes. -/
theorem notMem_intercalate {c : Char} (hc : c ∈ ['[', ']', '\\']) :
    c ∉ (",".intercalate items).toList := by
  rw [String.toList_intercalate]
  intro hmem
  rcases mem_of_mem_intercalate hmem with hsep | ⟨part, hpart, hmem⟩
  · have hcomma : c = ',' := List.mem_singleton.mp hsep
    subst hcomma
    exact absurd hc (by decide)
  · obtain ⟨item, hitem, rfl⟩ := List.mem_map.mp hpart
    exact hitems item hitem c hmem (List.mem_cons_of_mem ',' hc)

/-- Brackets close over a list. -/
theorem Spec.isEnclosed_intercalate : IsEnclosed (",".intercalate items).toList :=
  isEnclosed_of_notMem (notMem_intercalate hitems (by decide))
    (notMem_intercalate hitems (by decide)) (notMem_intercalate hitems (by decide))

end Items

end FormCheck
