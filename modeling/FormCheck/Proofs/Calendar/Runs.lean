import FormCheck.Calendar.Format
import Mathlib.Data.List.Chain

/-!
# Formats run by run

A format falls into maximal runs of one repeated character, and what is written in the format is
what is written for its runs, one after another. In a run of a letter that stands for a part of a
moment, as many letters as make up the padded form stand together from the left, and each letter
that is left over stands for itself: for the part as it is or, in a run of `Y`, for the letter.

## Main definitions

* `Calendar.Run`, `Calendar.runs` : a run of one character, and the maximal runs of a text.
* `Calendar.IsRuns` : runs that make up a text and are maximal in it.
* `Calendar.Run.render` : what a run of a format is written as.

## Main results

* `Calendar.isRuns_runs` : the runs of a text are its maximal runs.
* `Calendar.tokens_replicate_append` : the parts of a run do not depend on what follows it.
* `Calendar.format_eq_flatMap_runs` : a format is written run by run.
-/

namespace FormCheck.Calendar

open Decimal (integer digitsOf padZeros)

/-! ### Runs -/

/-- A run of one repeated character. -/
structure Run where
  /-- The character. -/
  char : Char
  /-- How many times it stands in a row. -/
  length : Nat
  length_pos : 0 < length

/-- The text that a run is. -/
def Run.text (r : Run) : List Char := List.replicate r.length r.char

/-- The runs of a text after one more character is put in front of it. -/
def pushRun (c : Char) : List Run → List Run
  | [] => [⟨c, 1, Nat.one_pos⟩]
  | r :: rs =>
    if c = r.char then ⟨c, r.length + 1, Nat.succ_pos _⟩ :: rs else ⟨c, 1, Nat.one_pos⟩ :: r :: rs

/-- The maximal runs of a text. -/
def runs (s : List Char) : List Run := s.foldr pushRun []

/-- Runs make up a text and are maximal in it: neighbours are runs of different characters. -/
structure IsRuns (rs : List Run) (s : List Char) : Prop where
  flatMap_text : rs.flatMap Run.text = s
  isChain : rs.IsChain fun r r' => r.char ≠ r'.char

theorem isRuns_nil : IsRuns [] [] := ⟨rfl, .nil⟩

/-- One more character makes the first run longer or is a run of its own. -/
theorem IsRuns.push {rs : List Run} {s : List Char} (h : IsRuns rs s) (c : Char) :
    IsRuns (pushRun c rs) (c :: s) := by
  obtain ⟨rfl, hchain⟩ := h
  cases rs with
  | nil => exact ⟨rfl, .singleton _⟩
  | cons r rs =>
    by_cases hc : c = r.char
    · subst hc
      rw [pushRun, if_pos rfl]
      exact ⟨rfl, (List.isChain_cons.mpr (List.isChain_cons.mp hchain))⟩
    · rw [pushRun, if_neg hc]
      exact ⟨rfl, hchain.cons_cons hc⟩

theorem isRuns_runs (s : List Char) : IsRuns (runs s) s := by
  induction s with
  | nil => exact isRuns_nil
  | cons c s ih => exact ih.push c

/-- After a run there is another character or the end of the text. -/
theorem IsRuns.head?_ne {r : Run} {rs : List Run} {s : List Char} (h : IsRuns (r :: rs) s) :
    (rs.flatMap Run.text).head? ≠ some r.char := by
  cases rs with
  | nil => exact nofun
  | cons r' rs =>
    have hne : r.char ≠ r'.char := (List.isChain_cons_cons.mp h.isChain).1
    have hhead : ((r' :: rs).flatMap Run.text).head? = some r'.char := by
      obtain ⟨k, hk⟩ := Nat.exists_eq_add_of_lt r'.length_pos
      simp [Run.text, hk, List.replicate_succ]
    rw [hhead]
    exact fun heq => hne (Option.some.inj heq).symm

theorem IsRuns.tail {r : Run} {rs : List Run} {s : List Char} (h : IsRuns (r :: rs) s) :
    IsRuns rs (rs.flatMap Run.text) :=
  ⟨rfl, h.isChain.tail⟩

/-! ### What runs are written as -/

/-- What `k` letters are written as when each group of `size` letters, from the left, is written as
`full` and each letter that is left over as `single`. -/
def inGroups (size : Nat) (full single : List Char) (k : Nat) : List Char :=
  (List.replicate (k / size) full).flatten ++ (List.replicate (k % size) single).flatten

/-- What `k` letters are written as when they stand for a number, in pairs with two digits. -/
def inPairs (n k : Nat) : List Char := inGroups 2 (twoDigits true n) (twoDigits false n) k

/-- What a run of a format is written as. -/
def Run.render (m : Moment) (r : Run) : List Char :=
  match r.char with
  | 'Y' => inGroups 4 (integer m.date.year) ['Y'] r.length
  | 'M' => inPairs m.date.month r.length
  | 'D' => inPairs m.date.day r.length
  | 'H' => inPairs m.time.hour r.length
  | 'h' => inPairs m.time.hour12 r.length
  | 'm' => inPairs m.time.minute r.length
  | 's' => inPairs m.time.second r.length
  | 'S' =>
    inGroups 3 (padZeros 3 (digitsOf m.time.millisecond)) (digitsOf m.time.millisecond) r.length
  | 'A' => (List.replicate r.length (if 12 ≤ m.time.hour then ['P', 'M'] else ['A', 'M'])).flatten
  | 'a' => (List.replicate r.length (if 12 ≤ m.time.hour then ['p', 'm'] else ['a', 'm'])).flatten
  | c => List.replicate r.length c

/-! ### The parts of a run -/

/-- How a letter is read in a format: how many of them stand together, for which part, and for which
part a letter stands that is left over. -/
structure Grouping where
  /-- The number of letters that stand together. -/
  size : Nat
  /-- The part that they stand for. -/
  full : Token
  /-- The part that a single letter stands for. -/
  single : Token

/-- How each character is read in a format. -/
def groupingOf (c : Char) : Grouping :=
  match c with
  | 'Y' => ⟨4, .year, .literal 'Y'⟩
  | 'S' => ⟨3, .millisecond true, .millisecond false⟩
  | 'M' => ⟨2, .month true, .month false⟩
  | 'D' => ⟨2, .day true, .day false⟩
  | 'H' => ⟨2, .hour true, .hour false⟩
  | 'h' => ⟨2, .hour12 true, .hour12 false⟩
  | 'm' => ⟨2, .minute true, .minute false⟩
  | 's' => ⟨2, .second true, .second false⟩
  | 'A' => ⟨1, .half true, .half true⟩
  | 'a' => ⟨1, .half false, .half false⟩
  | c => ⟨1, .literal c, .literal c⟩

theorem size_groupingOf_pos (c : Char) : 0 < (groupingOf c).size := by
  unfold groupingOf
  split <;> exact Nat.succ_pos _

/-- Letters that stand together are one part. -/
theorem tokens_group (c : Char) (rest : List Char) :
    tokens (List.replicate (groupingOf c).size c ++ rest) =
      (groupingOf c).full :: tokens rest := by
  unfold groupingOf
  split
  case h_11 =>
    show tokens (c :: rest) = _
    rw [tokens]
    all_goals simp_all
  all_goals rfl

/-- A letter is left over if those that it would stand together with do not follow. -/
theorem tokens_single {c : Char} {rest : List Char}
    (h : ∀ tail, rest ≠ List.replicate ((groupingOf c).size - 1) c ++ tail) :
    tokens (c :: rest) = (groupingOf c).single :: tokens rest := by
  unfold groupingOf at h ⊢
  split at h
  -- A letter that stands alone is never left over.
  case h_9 => exact absurd rfl (h rest)
  case h_10 => exact absurd rfl (h rest)
  case h_11 => exact absurd rfl (h rest)
  all_goals
    rw [tokens]
    all_goals simp_all [List.replicate_succ]

section Letters

variable {c : Char} {rest : List Char} (hrest : rest.head? ≠ some c)

include hrest

/-- Letters that are too few to stand together are left over. -/
theorem tokens_leftOver {k : Nat} (hk : k < (groupingOf c).size) :
    tokens (List.replicate k c ++ rest) =
      List.replicate k (groupingOf c).single ++ tokens rest := by
  induction k with
  | zero => rfl
  | succ k ih =>
    have hfew (tail : List Char) :
        List.replicate k c ++ rest ≠ List.replicate ((groupingOf c).size - 1) c ++ tail := by
      intro heq
      obtain ⟨n, hn⟩ : ∃ n, (groupingOf c).size - 1 = k + (n + 1) :=
        ⟨(groupingOf c).size - 1 - (k + 1), by omega⟩
      rw [hn, List.replicate_add, List.append_assoc, List.append_cancel_left_eq] at heq
      rw [heq] at hrest
      exact hrest rfl
    rw [List.replicate_succ, List.cons_append, tokens_single hfew, ih (by omega)]
    rfl

theorem tokens_groups_append (q : Nat) {k : Nat} (hk : k < (groupingOf c).size) :
    tokens (List.replicate ((groupingOf c).size * q + k) c ++ rest) =
      List.replicate q (groupingOf c).full ++
        (List.replicate k (groupingOf c).single ++ tokens rest) := by
  induction q with
  | zero => rw [Nat.mul_zero, Nat.zero_add, tokens_leftOver hrest hk]; rfl
  | succ q ih =>
    have hsplit : (groupingOf c).size * (q + 1) + k =
        (groupingOf c).size + ((groupingOf c).size * q + k) := by
      rw [Nat.mul_succ]
      omega
    rw [hsplit, List.replicate_add, List.append_assoc, tokens_group, ih]
    rfl

/-- The letters of a run stand together from the left, in groups of as many as stand together, and
the others are left over. -/
theorem tokens_replicate_append (k : Nat) :
    tokens (List.replicate k c ++ rest) =
      List.replicate (k / (groupingOf c).size) (groupingOf c).full ++
        (List.replicate (k % (groupingOf c).size) (groupingOf c).single ++ tokens rest) := by
  have hmod : k % (groupingOf c).size < (groupingOf c).size := Nat.mod_lt _ (size_groupingOf_pos c)
  rw [← tokens_groups_append hrest _ hmod, Nat.div_add_mod]

end Letters

/-! ### Writing run by run -/

/-- A run is written as its parts are. -/
theorem Run.render_eq (m : Moment) (r : Run) :
    r.render m =
      inGroups (groupingOf r.char).size ((groupingOf r.char).full.render m)
        ((groupingOf r.char).single.render m) r.length := by
  unfold render groupingOf
  split
  all_goals simp [inGroups, inPairs, Token.render, Nat.mod_one, *]

/-- What is written in a format is written for its maximal runs, one after another. -/
theorem formatChars_of_isRuns (m : Moment) {rs : List Run} {f : List Char} (h : IsRuns rs f) :
    formatChars m f = rs.flatMap (Run.render m) := by
  induction rs generalizing f with
  | nil =>
    obtain ⟨rfl, -⟩ := h
    rfl
  | cons r rs ih =>
    have hrest := ih h.tail
    rw [formatChars] at hrest
    rw [← h.flatMap_text, List.flatMap_cons, formatChars, Run.text,
      tokens_replicate_append h.head?_ne, List.flatMap_append, List.flatMap_append,
      List.flatMap_replicate, List.flatMap_replicate, hrest, List.flatMap_cons, Run.render_eq,
      inGroups, List.append_assoc]

/-- A format falls into its maximal runs of one repeated character, and what is written in it is
what is written for these runs, one after another. -/
theorem format_eq_flatMap_runs (m : Moment) (f : String) :
    IsRuns (runs f.toList) f.toList ∧
      format m f = String.ofList ((runs f.toList).flatMap (Run.render m)) := by
  have hruns := isRuns_runs f.toList
  refine ⟨hruns, ?_⟩
  rw [format, formatChars_of_isRuns m hruns]

/-- Letters that are left over in runs of `D` and `Y`. -/
example :
    format ⟨⟨2024, 3, 7, by decide⟩, .midnight⟩ "DDD YYYYYY" = "077 2024YY" := by
  decide +kernel

end FormCheck.Calendar
