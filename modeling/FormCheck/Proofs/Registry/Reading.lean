import FormCheck.Registry.Basic
import FormCheck.Proofs.Table

/-!
# What rules read of other fields

A predicate is given the values of all fields of a form. The built-in ones hardly look at them: all
but two look at nothing but the value and the parameter, and these two look up the one field that
the parameter names.

## Main definitions

* `Predicate.IsLocal` : a predicate looks at no field.
* `Predicate.ReadsParam` : a predicate looks at no field but the one that its parameter names.

## Main results

* `Registry.isLocal_or_readsParam_of_resolve?_builtIn` : what the built-in rules read.
-/

namespace FormCheck

namespace Predicate

/-- A predicate does not depend on the values of other fields. -/
def IsLocal (predicate : Predicate) : Prop :=
  ∀ value param s t, predicate value param s = predicate value param t

/-- A predicate depends on no other field than the one that its parameter names. -/
def ReadsParam (predicate : Predicate) : Prop :=
  ∀ value param (s t : Source),
    (∀ field ∈ param, s.valueOf (Text.trimmed field) = t.valueOf (Text.trimmed field)) →
      predicate value param s = predicate value param t

theorem isLocal_ofValue (check : String → Bool) : IsLocal (.ofValue check) :=
  fun _ _ _ _ => rfl

theorem isLocal_ofParam (check : String → String → Bool) : IsLocal (.ofParam check) :=
  fun _ _ _ _ => rfl

theorem isLocal_ofOptionalParam (check : String → Option String → Bool) :
    IsLocal (.ofOptionalParam check) :=
  fun _ _ _ _ => rfl

theorem readsParam_ofOtherField (check : String → Option String → Bool) :
    ReadsParam (.ofOtherField check) := by
  intro value param s t h
  unfold ofOtherField
  cases param with
  | none => rfl
  | some field =>
    rw [Option.bind_some, Option.bind_some, h field rfl]

end Predicate

theorem isLocal_or_readsParam_of_mem_builtInPredicates :
    ∀ entry ∈ builtInPredicates,
      entry.2.IsLocal ∨ (entry.1 = "matches" ∨ entry.1 = "differs") ∧ entry.2.ReadsParam := by
  simp [builtInPredicates, Predicate.isLocal_ofValue, Predicate.isLocal_ofParam,
    Predicate.isLocal_ofOptionalParam, Predicate.readsParam_ofOtherField]

/-- The built-in rules read no other field, except for the two that compare fields; these read the
field that their parameter names. -/
theorem Registry.isLocal_or_readsParam_of_resolve?_builtIn {name : String} {predicate : Predicate}
    (h : Registry.builtIn.resolve? name = some predicate) :
    predicate.IsLocal ∨ (name = "matches" ∨ name = "differs") ∧ predicate.ReadsParam := by
  have hget : builtInRules.rules.get? name = some predicate := by
    simpa [resolve?, builtIn, RuleSet.provider] using h
  exact isLocal_or_readsParam_of_mem_builtInPredicates _ (Table.mem_of_get?_ofList hget)

end FormCheck
