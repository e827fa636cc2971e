import FormCheck.Spec.Basic
import Mathlib.Data.List.Induction

/-!
# Escaped and open brackets

A bracket is escaped when the run of backslashes right before it has odd length. The scan for
separating bars knows nothing of runs: it carries a flag and a balance from one character to the
next. Here both are read off the text that has been scanned, so that statements about specs can
speak of runs and of numbers of brackets.

## Main definitions

* `Spec.IsEscaping` : a text escapes a bracket that follows it.
* `Spec.unescaped` : how often a character occurs in a text without being escaped.
* `Spec.depth` : how many more brackets a text opens than it closes.

## Main results

* `Spec.decide_isEscaping_concat`, `Spec.depth_concat` : the flag and the balance of the scan are
  those of the text read so far.
* `Spec.unescaped_append` : numbers of brackets add up, unless the first text escapes the first
  character of the second.
-/

namespace FormCheck.Spec

/-- The number of backslashes that a text ends with. -/
def backslashRun (s : List Char) : Nat := (s.reverse.takeWhile (· = '\\')).length

/-- A text escapes a bracket that follows it if it ends with an odd number of backslashes. -/
def IsEscaping (s : List Char) : Prop := backslashRun s % 2 = 1

instance (s : List Char) : Decidable (IsEscaping s) :=
  inferInstanceAs (Decidable (backslashRun s % 2 = 1))

/-- How often a character occurs in a text without being escaped. -/
def unescaped (c : Char) (s : List Char) : Nat :=
  (List.range s.length).countP fun i => s[i]? = some c ∧ ¬ IsEscaping (s.take i)

/-- How many more brackets a text opens than it closes. Escaped ones do not count. -/
def depth (s : List Char) : Int := unescaped '[' s - unescaped ']' s

/-- A text opens as many brackets as it closes. Escaped ones do not count. -/
def IsLevel (s : List Char) : Prop := unescaped '[' s = unescaped ']' s

instance (s : List Char) : Decidable (IsLevel s) :=
  inferInstanceAs (Decidable (unescaped '[' s = unescaped ']' s))

theorem isLevel_iff_depth_eq_zero {s : List Char} : IsLevel s ↔ depth s = 0 := by
  unfold IsLevel depth
  omega

/-! ### The empty text -/

theorem not_isEscaping_nil : ¬ IsEscaping [] := by decide

theorem unescaped_nil (c : Char) : unescaped c [] = 0 := rfl

/-! ### One more character -/

theorem backslashRun_concat (s : List Char) (c : Char) :
    backslashRun (s ++ [c]) = if c = '\\' then backslashRun s + 1 else 0 := by
  by_cases h : c = '\\' <;> simp [backslashRun, h]

theorem isEscaping_concat (s : List Char) (c : Char) :
    IsEscaping (s ++ [c]) ↔ c = '\\' ∧ ¬ IsEscaping s := by
  unfold IsEscaping
  rw [backslashRun_concat]
  split
  · next h =>
    simp only [h, true_and]
    omega
  · next h => simp [h]

/-- The flag of the scan after one more character. -/
theorem decide_isEscaping_concat (s : List Char) (c : Char) :
    decide (IsEscaping (s ++ [c])) = escapes (decide (IsEscaping s)) c := by
  by_cases h : c = '\\' <;> simp [isEscaping_concat, escapes, h]

theorem unescaped_concat (c : Char) (s : List Char) (x : Char) :
    unescaped c (s ++ [x]) =
      unescaped c s + if x = c ∧ ¬ IsEscaping s then 1 else 0 := by
  have hold : ∀ i ∈ List.range s.length,
      (decide ((s ++ [x])[i]? = some c ∧ ¬ IsEscaping ((s ++ [x]).take i)) = true ↔
        decide (s[i]? = some c ∧ ¬ IsEscaping (s.take i)) = true) := by
    intro i hi
    have hlt : i < s.length := List.mem_range.mp hi
    rw [List.getElem?_append_left hlt, List.take_append_of_le_length (Nat.le_of_lt hlt)]
  unfold unescaped
  rw [List.length_append, List.length_singleton, List.range_succ, List.countP_append,
    List.countP_congr hold, List.countP_singleton]
  simp

/-- The balance of the scan after one more character. -/
theorem depth_concat (s : List Char) (c : Char) :
    depth (s ++ [c]) = depth s + weight (decide (IsEscaping s)) c := by
  have hne : ('[' : Char) ≠ ']' := by decide
  unfold depth weight
  rw [unescaped_concat, unescaped_concat]
  by_cases he : IsEscaping s
  · simp [he]
  · by_cases ho : c = '['
    · subst ho
      simp only [he, hne, not_false_eq_true, and_true, if_true, if_false, decide_false,
        Bool.false_eq_true]
      omega
    · by_cases hc : c = ']'
      · subst hc
        simp only [he, hne.symm, not_false_eq_true, and_true, if_true, if_false, decide_false,
          Bool.false_eq_true]
        omega
      · simp [he, ho, hc]

/-! ### Two texts in a row -/

theorem isEscaping_append {a : List Char} (ha : ¬ IsEscaping a) (b : List Char) :
    IsEscaping (a ++ b) ↔ IsEscaping b := by
  induction b using List.reverseRecOn with
  | nil => simpa using iff_of_false ha not_isEscaping_nil
  | append_singleton b c ih => rw [← List.append_assoc, isEscaping_concat, isEscaping_concat, ih]

theorem unescaped_append (c : Char) {a : List Char} (ha : ¬ IsEscaping a) (b : List Char) :
    unescaped c (a ++ b) = unescaped c a + unescaped c b := by
  induction b using List.reverseRecOn with
  | nil => simp [unescaped_nil]
  | append_singleton b x ih =>
    rw [← List.append_assoc, unescaped_concat, unescaped_concat, ih, Nat.add_assoc]
    simp only [isEscaping_append ha]

theorem depth_append {a : List Char} (ha : ¬ IsEscaping a) (b : List Char) :
    depth (a ++ b) = depth a + depth b := by
  unfold depth
  rw [unescaped_append _ ha, unescaped_append _ ha]
  omega

end FormCheck.Spec
