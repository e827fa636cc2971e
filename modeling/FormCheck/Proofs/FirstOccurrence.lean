import Mathlib.Data.List.Induction
import Mathlib.Data.List.Nodup

/-!
# First occurrences

Tokens, failing rules and failing fields are listed without repetitions, each at the place where it
occurred first. Such a list grows at its end: one more element either occurred before and changes
nothing, or comes last.

## Main results

* `eraseDups_concat` : first occurrences after one more element.
* `eraseDups_append_eraseDups`, `eraseDups_map` : first occurrences in two lists in a row, and under
  other names.
* `eraseDups_eq_self`, `nodup_eraseDups` : the lists without repetitions are those that consist of
  first occurrences.
-/

namespace FormCheck

variable {α : Type*} [BEq α] [LawfulBEq α]

/-- First occurrences after one more element. -/
theorem eraseDups_concat (l : List α) (x : α) :
    (l ++ [x]).eraseDups = if x ∈ l then l.eraseDups else l.eraseDups ++ [x] := by
  rw [List.eraseDups_append]
  by_cases h : x ∈ l <;> simp [List.removeAll, h, List.eraseDups_cons]

/-- A list without repetitions consists of first occurrences. -/
theorem eraseDups_eq_self {l : List α} (h : l.Nodup) : l.eraseDups = l := by
  induction l using List.reverseRecOn with
  | nil => rfl
  | append_singleton l x ih =>
    have hx : x ∉ l := fun hmem => List.disjoint_of_nodup_append h hmem (List.mem_singleton_self x)
    rw [eraseDups_concat, if_neg hx, ih h.of_append_left]

theorem nodup_eraseDups (l : List α) : l.eraseDups.Nodup := by
  induction l using List.reverseRecOn with
  | nil => exact List.nodup_nil
  | append_singleton l x ih =>
    rw [eraseDups_concat]
    split
    · exact ih
    · next hx =>
      rw [← List.concat_eq_append]
      exact ih.concat fun hmem => hx (List.mem_eraseDups.mp hmem)

/-- First occurrences in two lists in a row may be looked for in each list before. -/
theorem eraseDups_append_eraseDups (k l : List α) :
    (k.eraseDups ++ l.eraseDups).eraseDups = (k ++ l).eraseDups := by
  induction l using List.reverseRecOn with
  | nil => rw [List.eraseDups_nil, List.append_nil, List.append_nil,
      eraseDups_eq_self (nodup_eraseDups k)]
  | append_singleton l x ih =>
    rw [eraseDups_concat, ← List.append_assoc, eraseDups_concat, ← ih]
    by_cases hl : x ∈ l
    · rw [if_pos hl, if_pos (List.mem_append_right k hl)]
    · rw [if_neg hl, ← List.append_assoc, eraseDups_concat]
      simp only [List.mem_append, List.mem_eraseDups]

/-- First occurrences under names that tell apart. -/
theorem eraseDups_map {β : Type*} [BEq β] [LawfulBEq β] {f : α → β} (hf : Function.Injective f)
    (l : List α) : (l.map f).eraseDups = l.eraseDups.map f := by
  induction l using List.reverseRecOn with
  | nil => rfl
  | append_singleton l x ih =>
    have hmem : f x ∈ l.map f ↔ x ∈ l := List.mem_map_of_injective hf
    rw [List.map_append, List.map_singleton, eraseDups_concat, eraseDups_concat, ih]
    by_cases h : x ∈ l
    · rw [if_pos (hmem.mpr h), if_pos h]
    · rw [if_neg (mt hmem.mp h), if_neg h, List.map_append, List.map_singleton]

/-- First occurrences of which the last is left out come from the list without its last element. -/
theorem mem_of_mem_dropLast_eraseDups_concat {l : List α} {x a : α}
    (h : a ∈ (l ++ [x]).eraseDups.dropLast) : a ∈ l := by
  rw [eraseDups_concat] at h
  split at h
  · exact List.mem_eraseDups.mp (List.dropLast_subset _ h)
  · rw [List.dropLast_concat] at h
    exact List.mem_eraseDups.mp h

end FormCheck
