import FormCheck.Text.Basic
import Mathlib.Data.List.Infix

/-!
# Where a part is replaced

A part of a text is replaced where it begins. What stands before the place where it begins first is
passed over, and so is every text in which it does not begin, also not with an end in what follows.

## Main definitions

* `Text.IsPassed` : a part does not begin in the first of two texts in a row.
* `Text.before`, `Text.after` : a text around the first occurrence of a part.

## Main results

* `Text.replaceFirst_cons`, `Text.replaceAll_cons` : a character at which the part does not begin
  stays.
* `Text.replaceFirst_append_self`, `Text.replaceAll_append_self` : the part at the beginning.
* `Text.replaceFirst_append_of_isInfix` : a part of the first text is replaced there.
* `Text.replaceFirst_eq` : the first occurrence is replaced, and the text around it stays.
-/

namespace FormCheck.Text

variable {part a b s : List Char} (new : List Char)

/-! ### One place -/

theorem replaceFirst_cons {c : Char} (h : ¬ part <+: c :: s) :
    replaceFirst part new (c :: s) = c :: replaceFirst part new s := by
  rw [replaceFirst, if_neg (by rwa [List.isPrefixOf_iff_prefix])]

theorem replaceAll_cons {c : Char} (h : ¬ part <+: c :: s) :
    replaceAll part new (c :: s) = c :: replaceAll part new s := by
  rw [replaceAll, replaceAfter, if_neg (by rwa [List.isPrefixOf_iff_prefix]), replaceAll]

theorem replaceAfter_append (s : List Char) :
    replaceAfter part new a.length (a ++ s) = replaceAll part new s := by
  induction a with
  | nil => rfl
  | cons c a ih => exact ih

theorem replaceFirst_append_self (hpart : part ≠ []) (s : List Char) :
    replaceFirst part new (part ++ s) = new ++ s := by
  obtain ⟨c, rest, rfl⟩ := List.exists_cons_of_ne_nil hpart
  have hprefix : (c :: rest).isPrefixOf (c :: (rest ++ s)) = true :=
    List.isPrefixOf_iff_prefix.mpr (List.prefix_append (c :: rest) s)
  rw [List.cons_append, replaceFirst, if_pos hprefix, ← List.cons_append, List.drop_left]

theorem replaceAll_append_self (hpart : part ≠ []) (s : List Char) :
    replaceAll part new (part ++ s) = new ++ replaceAll part new s := by
  obtain ⟨c, rest, rfl⟩ := List.exists_cons_of_ne_nil hpart
  have hprefix : (c :: rest).isPrefixOf (c :: (rest ++ s)) = true :=
    List.isPrefixOf_iff_prefix.mpr (List.prefix_append (c :: rest) s)
  rw [List.cons_append, replaceAll, replaceAfter, if_pos hprefix, List.length_cons,
    Nat.add_sub_cancel, replaceAfter_append]

/-! ### Texts that are passed over -/

/-- A part does not begin in the first of two texts in a row. -/
def IsPassed (part a b : List Char) : Prop := ∀ i < a.length, ¬ part <+: (a ++ b).drop i

instance : Decidable (IsPassed part a b) :=
  inferInstanceAs (Decidable (∀ i < a.length, ¬ part <+: (a ++ b).drop i))

theorem isPassed_cons {c : Char} :
    IsPassed part (c :: a) b ↔ ¬ part <+: c :: (a ++ b) ∧ IsPassed part a b := by
  constructor
  · intro h
    refine ⟨h 0 (Nat.zero_lt_succ _), fun i hi => ?_⟩
    exact h (i + 1) (Nat.succ_lt_succ hi)
  · rintro ⟨hc, ha⟩ i hi
    cases i with
    | zero => exact hc
    | succ i => exact ha i (Nat.lt_of_succ_lt_succ hi)

/-- A part that does not begin in the first of two texts in a row occurs in the second if it occurs
at all. -/
theorem IsPassed.isInfix (h : IsPassed part a b) (hpart : part <:+: a ++ b) : part <:+: b := by
  induction a with
  | nil => exact hpart
  | cons c a ih =>
    obtain ⟨hc, ha⟩ := isPassed_cons.mp h
    exact ih ha ((List.infix_cons_iff.mp hpart).resolve_left hc)

/-! ### The first occurrence -/

/-- The text before the first occurrence of a part. -/
def before (part : List Char) : List Char → List Char
  | [] => []
  | c :: rest => if part.isPrefixOf (c :: rest) then [] else c :: before part rest

/-- The text after the first occurrence of a part. -/
def after (part s : List Char) : List Char := s.drop ((before part s).length + part.length)

/-- The first occurrence of a part is replaced, and the text around it stays. -/
theorem replaceFirst_eq (hpart : part ≠ []) (h : part <:+: s) :
    replaceFirst part new s = before part s ++ new ++ after part s := by
  unfold after
  induction s with
  | nil => exact absurd (List.infix_nil.mp h) hpart
  | cons c s ih =>
    by_cases hc : part <+: c :: s
    · rw [replaceFirst, before, if_pos (List.isPrefixOf_iff_prefix.mpr hc),
        if_pos (List.isPrefixOf_iff_prefix.mpr hc), List.length_nil, Nat.zero_add, List.nil_append]
    · rw [replaceFirst_cons new hc, before, if_neg (by rwa [List.isPrefixOf_iff_prefix]),
        ih ((List.infix_cons_iff.mp h).resolve_left hc), List.length_cons, Nat.succ_add,
        List.drop_succ_cons]
      rfl

/-- A part of the first of two texts in a row is replaced there, and the second stays. -/
theorem replaceFirst_append_of_isInfix (hpart : part ≠ []) (h : part <:+: a) (b : List Char) :
    replaceFirst part new (a ++ b) = replaceFirst part new a ++ b := by
  induction a with
  | nil => exact absurd (List.infix_nil.mp h) hpart
  | cons c a ih =>
    by_cases hc : part <+: c :: a
    · obtain ⟨rest, hrest⟩ := hc
      rw [← hrest, List.append_assoc, replaceFirst_append_self new hpart,
        replaceFirst_append_self new hpart, List.append_assoc]
    · -- The part may not begin here and end in the second text either: it is no longer than `a`.
      have hlength : part.length ≤ (c :: a).length := h.length_le
      have hcb : ¬ part <+: c :: (a ++ b) := fun hprefix =>
        hc (List.prefix_of_prefix_length_le hprefix (List.prefix_append (c :: a) b) hlength)
      rw [List.cons_append, replaceFirst_cons new hcb, replaceFirst_cons new hc,
        ih ((List.infix_cons_iff.mp h).resolve_left hc), List.cons_append]

end FormCheck.Text
