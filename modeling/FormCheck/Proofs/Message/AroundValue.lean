import FormCheck.Proofs.Message.Filling

/-!
# The text around a value

If only the first placeholder of each kind is replaced, a message consists of the value and of a
text before and a text after it. Neither depends on the value, as long as the value is nothing but
text. But the parameter is filled in last, in a text that holds the value already: a value that has
a placeholder for it, or completes one, takes the parameter away from its own place.

## Main definitions

* `textBeforeValue`, `textAfterValue` : the text around the value before the parameter is filled in.
* `StaysApart` : a value takes no part in the placeholder that the parameter replaces.

## Main results

* `substitute_first_around_value` : the text around a value that stays apart does not depend on it.
* `not_forall_text_around_value` : without this condition it may depend on it.
-/

namespace FormCheck

/-- Replacing one kind of placeholder leaves those of another kind in the text. -/
theorem Placeholder.isInfix_replace_first {p q : Placeholder} (h : p ≠ q) (new : String)
    {s : List Char} (hs : p.mark <:+: s) : p.mark <:+: Substitution.first.replace q new s := by
  induction s with
  | nil => exact absurd (List.infix_nil.mp hs) p.mark_ne_nil
  | cons c s ih =>
    by_cases hq : q.mark <+: c :: s
    · obtain ⟨rest, hrest⟩ := hq
      rw [← hrest] at hs ⊢
      rw [Substitution.replace_first_mark_append]
      exact ((isPassed_mark h rest).isInfix hs).trans (List.suffix_append _ _).isInfix
    · rcases List.infix_cons_iff.mp hs with ⟨rest, hrest⟩ | hinfix
      · rw [← hrest, Substitution.replace_append_of_isPassed _ _ (isPassed_mark h.symm rest)]
        exact (List.prefix_append _ _).isInfix
      · have hcons : Substitution.first.replace q new (c :: s) =
            c :: Substitution.first.replace q new s := Text.replaceFirst_cons _ hq
        rw [hcons]
        exact List.infix_cons (ih hinfix)

/-! ### The place of the value -/

/-- The text before the value in a message whose parameter has not been filled in. -/
def textBeforeValue (template field : String) : List Char :=
  Text.before Placeholder.value.mark (Substitution.first.replace .field field template.toList)

/-- The text after the value in a message whose parameter has not been filled in. -/
def textAfterValue (template field : String) : List Char :=
  Text.after Placeholder.value.mark (Substitution.first.replace .field field template.toList)

/-- A value takes no part in the placeholder that the parameter replaces: either there is one in the
text before the value, or none begins before the text after it. -/
def StaysApart (template field value : String) : Prop :=
  Placeholder.param.mark <:+: textBeforeValue template field ∨
    Text.IsPassed Placeholder.param.mark (textBeforeValue template field ++ value.toList)
      (textAfterValue template field)

variable {template field : String}

theorem replace_value_eq (h : Placeholder.value.mark <:+: template.toList) (field value : String) :
    Substitution.first.replace .value value
        (Substitution.first.replace .field field template.toList) =
      textBeforeValue template field ++ value.toList ++ textAfterValue template field :=
  Text.replaceFirst_eq _ (Placeholder.mark_ne_nil _)
    (Placeholder.isInfix_replace_first (by decide) field h)

/-- The parameter is filled in before the value if there is a placeholder for it. -/
theorem replace_param_of_isInfix
    (h : Placeholder.param.mark <:+: textBeforeValue template field) (value param : String) :
    Substitution.first.replace .param param
        (textBeforeValue template field ++ value.toList ++ textAfterValue template field) =
      Substitution.first.replace .param param (textBeforeValue template field) ++ value.toList ++
        textAfterValue template field := by
  rw [List.append_assoc, List.append_assoc]
  exact Text.replaceFirst_append_of_isInfix _ (Placeholder.mark_ne_nil _) h _

/-- A template that has a placeholder for the value, and of each kind only the first is replaced:
there is a text before and a text after the value, and neither depends on the value, provided that
the value takes no part in the placeholder for the parameter if there is a parameter. -/
theorem substitute_first_around_value (h : Placeholder.value.mark <:+: template.toList)
    (field : String) (param : Option String) :
    ∃ before after : String, ∀ value : String,
      param = none ∨ StaysApart template field value →
        substitute .first template field value param = before ++ value ++ after := by
  have hstring (a b : List Char) (value : String) :
      String.ofList (a ++ value.toList ++ b) = String.ofList a ++ value ++ String.ofList b := by
    rw [String.ofList_append, String.ofList_append, String.ofList_toList]
  cases param with
  | none =>
    refine ⟨.ofList (textBeforeValue template field), .ofList (textAfterValue template field),
      fun value _ => ?_⟩
    rw [substitute_none, replace_value_eq h, hstring]
  | some param =>
    by_cases hbefore : Placeholder.param.mark <:+: textBeforeValue template field
    · refine ⟨.ofList (Substitution.first.replace .param param (textBeforeValue template field)),
        .ofList (textAfterValue template field), fun value _ => ?_⟩
      rw [substitute_some, replace_value_eq h, replace_param_of_isInfix hbefore, hstring]
    · refine ⟨.ofList (textBeforeValue template field),
        .ofList (Substitution.first.replace .param param (textAfterValue template field)),
        fun value hvalue => ?_⟩
      have hpassed := (hvalue.resolve_left (Option.some_ne_none param)).resolve_left hbefore
      rw [substitute_some, replace_value_eq h,
        Substitution.replace_append_of_isPassed _ _ hpassed, hstring]

/-- A value with a brace behind which the parameter follows, and a value that is the placeholder for
a parameter that comes before it. -/
theorem substitute_first_around_value_braces :
    let below := "You are only \x7bvalue\x7d. Minimum age requirement is \x7bparam\x7d"
    let above := "At least \x7bparam\x7d, not \x7bvalue\x7d"
    Placeholder.value.mark <:+: below.toList ∧ Placeholder.value.mark <:+: above.toList ∧
      StaysApart below "age" "17" ∧ StaysApart below "age" "\x7bparam" ∧
      StaysApart above "age" "\x7bparam\x7d" ∧
      (∃ before after : String,
        substitute .first below "age" "17" (some "18") = before ++ "17" ++ after ∧
        substitute .first below "age" "\x7bparam" (some "18") = before ++ "\x7bparam" ++ after) ∧
      ∃ before after : String,
        substitute .first above "age" "\x7bparam\x7d" (some "18") =
          before ++ "\x7bparam\x7d" ++ after := by
  intro below above
  have hbelow : Placeholder.value.mark <:+: below.toList :=
    ⟨"You are only ".toList, ". Minimum age requirement is \x7bparam\x7d".toList, by decide +kernel⟩
  have habove : Placeholder.value.mark <:+: above.toList :=
    ⟨"At least \x7bparam\x7d, not ".toList, [], by decide +kernel⟩
  have hnumber : StaysApart below "age" "17" := .inr (by decide +kernel)
  have hbrace : StaysApart below "age" "\x7bparam" := .inr (by decide +kernel)
  have hmark : StaysApart above "age" "\x7bparam\x7d" :=
    .inl ⟨"At least ".toList, ", not ".toList, by decide +kernel⟩
  obtain ⟨before, after, hall⟩ := substitute_first_around_value hbelow "age" (some "18")
  obtain ⟨before', after', hall'⟩ := substitute_first_around_value habove "age" (some "18")
  exact ⟨hbelow, habove, hnumber, hbrace, hmark,
    ⟨before, after, hall _ (.inr hnumber), hall _ (.inr hbrace)⟩,
    before', after', hall' _ (.inr hmark)⟩

/-- A value that is the placeholder for the parameter gets the parameter itself, and the placeholder
of the template stays. So the text around a value may depend on it. -/
theorem not_forall_text_around_value :
    ¬ ∀ template field : String, ∀ param : Option String,
      Placeholder.value.mark <:+: template.toList → '\x7b' ∉ field.toList →
        ∃ before after : String, ∀ value : String,
          substitute .first template field value param = before ++ value ++ after := by
  intro h
  obtain ⟨before, after, hall⟩ := h
    "You are only \x7bvalue\x7d. Minimum age requirement is \x7bparam\x7d" "age" (some "18")
    ⟨"You are only ".toList, ". Minimum age requirement is \x7bparam\x7d".toList, by decide +kernel⟩
    (by decide)
  have hempty : before.toList ++ after.toList =
      "You are only . Minimum age requirement is 18".toList := by
    have heq := congrArg String.toList (hall "")
    simp only [String.toList_append, String.toList_empty, List.append_nil] at heq
    rw [← heq]
    decide +kernel
  have hmark : before.toList ++ "\x7bparam\x7d".toList ++ after.toList =
      "You are only 18. Minimum age requirement is \x7bparam\x7d".toList := by
    have heq := congrArg String.toList (hall "\x7bparam\x7d")
    simp only [String.toList_append] at heq
    rw [← heq]
    decide +kernel
  -- The two messages end differently, so nothing comes after the value. But then the first message
  -- is the beginning of the second.
  by_cases hafter : after.toList = []
  · rw [hafter, List.append_nil] at hempty hmark
    rw [hempty] at hmark
    exact absurd hmark (by decide +kernel)
  · have hlast (l : List Char) : (l ++ after.toList).getLast? = after.toList.getLast? :=
      List.getLast?_append_of_ne_nil l hafter
    have hfirst := hlast before.toList
    have hsecond := hlast (before.toList ++ "\x7bparam\x7d".toList)
    rw [hempty] at hfirst
    rw [hmark, ← hfirst] at hsecond
    exact absurd hsecond (by decide +kernel)

end FormCheck
