import FormCheck.Proofs.Spec.Tokens

/-!
# Specs put together

Two specs are put together with a bar between them. If the first opens as many brackets as it
closes, the bar separates, and the tokens are those of the first spec followed by the new ones of
the second. The tokens of a spec, put together in the same way, are a spec in normal form: it has
the same tokens and the same rules, without blanks, empty pieces and repetitions between them.

## Main definitions

* `Spec.normalForm` : the tokens of a spec with a bar between neighbours.

## Main results

* `Spec.tokensOf_append_bar` : the tokens of two specs with a bar between them.
* `Spec.tokens_append_normalForm` : specs compose, and a spec in normal form reads like the spec.
-/

namespace FormCheck.Spec

/-- The tokens of a spec with a bar between neighbours. -/
def normalForm (spec : String) : String := "|".intercalate (tokens spec)

/-- The tokens of two specs with a bar between them, if the first leaves no bracket open: a token of
the second that the first has too does not count again. -/
theorem tokensOf_append_bar {s : List Char} (h : IsLevel s) (t : List Char) :
    tokensOf (s ++ '|' :: t) = (tokensOf s ++ tokensOf t).eraseDups := by
  rw [tokensOf, pieces_append_bar h, List.map_append, List.filter_append,
    ← eraseDups_append_eraseDups]
  rfl

theorem tokens_normalForm (spec : String) : tokens (normalForm spec) = tokens spec :=
  tokens_intercalate_of_sublist (List.Sublist.refl _)

/-- Specs compose: with a bar behind a spec that opens as many brackets as it closes, the tokens are
its own, followed by those of the second spec that are new. And every spec, be it well formed or
not, has the tokens and the rules of its normal form. -/
theorem tokens_append_normalForm :
    (∀ first second : String, IsLevel first.toList →
      tokens (first ++ "|" ++ second) = (tokens first ++ tokens second).eraseDups) ∧
    ∀ spec : String,
      tokens (normalForm spec) = tokens spec ∧ rules (normalForm spec) = rules spec := by
  constructor
  · intro first second h
    have hchars : (first ++ "|" ++ second).toList = first.toList ++ '|' :: second.toList := by
      simp [String.toList_append]
    rw [tokens, hchars, tokensOf_append_bar h, tokens, tokens, ← List.map_append,
      eraseDups_map fun _ _ => String.ofList_injective]
  · intro spec
    exact ⟨tokens_normalForm spec, by rw [rules, tokens_normalForm, rules]⟩

/-- A first spec whose balance falls below zero and which ends with a backslash, and a second one
that repeats a token, has an empty piece and leaves a bracket open. -/
theorem tokens_append_normalForm_stray :
    let first := "a]|b[|x|x\\"
    let second := " x |y||[z| "
    IsLevel first.toList ∧
      tokens (first ++ "|" ++ second) = (tokens first ++ tokens second).eraseDups ∧
      normalForm (first ++ "|" ++ second) = "a]|b[|x|x\\|y|[z|" ∧
      tokens (normalForm (first ++ "|" ++ second)) = tokens (first ++ "|" ++ second) := by
  intro first second
  have hlevel : IsLevel first.toList := by decide
  exact ⟨hlevel, tokens_append_normalForm.1 first second hlevel, by decide +kernel,
    (tokens_append_normalForm.2 _).1⟩

end FormCheck.Spec
