import FormCheck.Check.Shape
import FormCheck.Proofs.Pattern.Language
import FormCheck.Proofs.Unicode.CaseFold
import Mathlib.Data.Nat.SuccPred
import Mathlib.Order.Nat
import Mathlib.Order.SuccPred.Archimedean

/-!
# The shape of mail addresses

A text has the shape of a mail address if it can be cut at an at sign and at a point behind it into
three parts, none of them empty and none with a blank in it. There may be many ways to cut it,
because the parts may themselves hold at signs and points. One look at the outermost signs decides:
the first at sign that has something before it leaves the most room behind it, and the last point
that has something behind it leaves the most room before it.

## Main definitions

* `Check.HasEmailCut` : the ways to cut a text.
* `Check.atSigns`, `Check.points` : the places where a text may be cut.
* `Check.emailPattern` : the pattern of mail addresses.

## Main results

* `Check.hasEmailShape_iff`, `Check.hasEmailCut_iff_places` : the shape is that of a cut.
* `Check.hasEmailCut_iff_outermost` : the outermost places decide.
* `Check.isEmail_iff` : which values have the shape, and that the pattern occurs in these.
-/

namespace FormCheck.Check

/-! ### Cutting a text -/

/-- A text can be cut at an at sign and at a point behind it into three parts that are not empty. -/
def HasEmailCut (s : List Char) : Prop :=
  ∃ user host domain : List Char, s = user ++ '@' :: (host ++ '.' :: domain) ∧
    user ≠ [] ∧ host ≠ [] ∧ domain ≠ []

theorem hasInnerPoint_iff {s : List Char} :
    hasInnerPoint s = true ↔
      ∃ host domain : List Char, s = host ++ '.' :: domain ∧ host ≠ [] ∧ domain ≠ [] := by
  rw [hasInnerPoint, List.contains_iff_mem]
  constructor
  · intro h
    obtain ⟨before, behind, hinner⟩ := List.append_of_mem h
    have htail : s.tail ≠ [] := by
      intro hnil
      rw [hnil] at h
      exact List.not_mem_nil h
    obtain ⟨c, tail, rfl⟩ := List.exists_cons_of_ne_nil (mt (congrArg List.tail) htail)
    rw [List.tail_cons] at htail hinner
    have hsplit := List.dropLast_concat_getLast htail
    rw [hinner] at hsplit
    exact ⟨c :: before, behind ++ [tail.getLast htail], by simpa using hsplit.symm, by simp,
      by simp⟩
  · rintro ⟨host, domain, rfl, hhost, hdomain⟩
    obtain ⟨c, host, rfl⟩ := List.exists_cons_of_ne_nil hhost
    rw [List.cons_append, List.tail_cons, List.dropLast_append_of_ne_nil (List.cons_ne_nil _ _),
      List.dropLast_cons_of_ne_nil hdomain]
    simp

/-- The scan for an at sign stops at one of those there are. -/
theorem exists_dropWhile_eq (before rest : List Char) :
    ∃ skipped, (before ++ '@' :: rest).dropWhile (· != '@') = '@' :: (skipped ++ rest) := by
  induction before with
  | nil => exact ⟨[], rfl⟩
  | cons c before ih =>
    by_cases hc : c = '@'
    · subst hc
      exact ⟨before ++ ['@'], by simp⟩
    · obtain ⟨skipped, hskipped⟩ := ih
      refine ⟨skipped, ?_⟩
      rw [List.cons_append, List.dropWhile_cons_of_pos (by simpa using hc), hskipped]

/-- The check looks for a cut. -/
theorem hasEmailShape_iff {s : List Char} : hasEmailShape s = true ↔ HasEmailCut s := by
  constructor
  · intro h
    unfold hasEmailShape at h
    split at h
    case h_1 => exact nomatch h
    case h_2 c rest hdrop =>
      obtain ⟨host, domain, rfl, hhost, hdomain⟩ := hasInnerPoint_iff.mp h
      have hnot := List.head?_dropWhile_not (· != '@') s.tail
      rw [hdrop] at hnot
      obtain rfl : c = '@' := by simpa using hnot
      have htail := (List.takeWhile_append_dropWhile (p := (· != '@')) (l := s.tail)).symm
      rw [hdrop] at htail
      cases s with
      | nil => simp at htail
      | cons first s =>
        refine ⟨first :: s.takeWhile (· != '@'), host, domain, ?_, by simp, hhost, hdomain⟩
        rw [List.cons_append]
        exact congrArg (first :: ·) htail
  · rintro ⟨user, host, domain, rfl, huser, hhost, hdomain⟩
    obtain ⟨first, user, rfl⟩ := List.exists_cons_of_ne_nil huser
    obtain ⟨skipped, hskipped⟩ := exists_dropWhile_eq user (host ++ '.' :: domain)
    rw [hasEmailShape, List.cons_append, List.tail_cons, hskipped]
    refine hasInnerPoint_iff.mpr ⟨skipped ++ host, domain, ?_, ?_, hdomain⟩
    · rw [List.append_assoc]
    · exact List.append_ne_nil_of_right_ne_nil skipped hhost

/-! ### Places of a cut -/

/-- The places of the at signs that have something before them. -/
def atSigns (s : List Char) : Set Nat := {i | 0 < i ∧ s[i]? = some '@'}

/-- The places of the points that have something behind them. -/
def points (s : List Char) : Set Nat := {j | j + 1 < s.length ∧ s[j]? = some '.'}

theorem getElem?_eq_some_iff_append {s : List Char} {i : Nat} {c : Char} :
    s[i]? = some c ↔ ∃ before behind, s = before ++ c :: behind ∧ before.length = i := by
  constructor
  · intro h
    obtain ⟨hlt, rfl⟩ := List.getElem?_eq_some_iff.mp h
    refine ⟨s.take i, s.drop (i + 1), ?_, List.length_take_of_le hlt.le⟩
    rw [← List.drop_eq_getElem_cons hlt, List.take_append_drop]
  · rintro ⟨before, behind, rfl, rfl⟩
    simp

/-- A cut is made at an at sign and at a point that have something between them. -/
theorem hasEmailCut_iff_places {s : List Char} :
    HasEmailCut s ↔ ∃ i ∈ atSigns s, ∃ j ∈ points s, i + 2 ≤ j := by
  constructor
  · rintro ⟨user, host, domain, rfl, huser, hhost, hdomain⟩
    have hhostLength := List.length_pos_iff.mpr hhost
    have hdomainLength := List.length_pos_iff.mpr hdomain
    refine ⟨user.length, ⟨List.length_pos_iff.mpr huser, by simp⟩,
      user.length + (host.length + 1), ⟨?_, ?_⟩, by omega⟩
    · simp only [List.length_append, List.length_cons]
      omega
    · rw [List.getElem?_append_right (by omega), Nat.add_sub_cancel_left, List.getElem?_cons_succ]
      simp
  · rintro ⟨i, ⟨hi, hat⟩, j, ⟨hj, hpoint⟩, hij⟩
    obtain ⟨user, rest, rfl, rfl⟩ := getElem?_eq_some_iff_append.mp hat
    obtain ⟨k, rfl⟩ := Nat.exists_eq_add_of_le hij
    rw [List.getElem?_append_right (by omega), Nat.add_assoc, Nat.add_sub_cancel_left,
      Nat.add_comm 2 k, List.getElem?_cons_succ] at hpoint
    obtain ⟨host, domain, rfl, hlength⟩ := getElem?_eq_some_iff_append.mp hpoint
    simp only [List.length_append, List.length_cons] at hj
    exact ⟨user, host, domain, rfl, List.length_pos_iff.mp hi,
      List.length_pos_iff.mp (by omega), List.length_pos_iff.mp (by omega)⟩

/-- If any two places allow a cut, the outermost ones do so too. -/
theorem hasEmailCut_iff_outermost {s : List Char} :
    HasEmailCut s ↔ ∃ i j, IsLeast (atSigns s) i ∧ IsGreatest (points s) j ∧ i + 2 ≤ j := by
  rw [hasEmailCut_iff_places]
  constructor
  · rintro ⟨i, hi, j, hj, hij⟩
    have hbounded : BddAbove (points s) := ⟨s.length, fun k hk => by have := hk.1; omega⟩
    classical
    have hleast := Nat.isLeast_find (p := (· ∈ atSigns s)) ⟨i, hi⟩
    obtain ⟨last, hlast⟩ := hbounded.exists_isGreatest_of_nonempty ⟨j, hj⟩
    have hle := hleast.2 hi
    have hge := hlast.2 hj
    exact ⟨_, last, hleast, hlast, by omega⟩
  · rintro ⟨i, j, hi, hj, hij⟩
    exact ⟨i, hi.1, j, hj.1, hij⟩

/-! ### The pattern -/

/-- The characters that are not blank. -/
def nonBlankSet : CodeSet := Unicode.whiteSpace.compl

/-- What is left between the ranges of blank characters. -/
theorem nonBlankSet_eq : nonBlankSet = ⟨[(0, 8), (14, 31), (33, 132), (134, 159), (161, 5759),
    (5761, 8191), (8203, 8231), (8234, 8238), (8240, 8286), (8288, 12287), (12289, 1114111)]⟩ := by
  decide +kernel

theorem contains_nonBlankSet_iff {c : Char} :
    nonBlankSet.contains c.toNat = true ↔ Text.isBlank c = false := by
  have hvalid : c.toNat.isValidChar := c.valid
  rw [Nat.isValidChar] at hvalid
  simp only [nonBlankSet_eq, CodeSet.contains, CodeSet.inRanges_cons_iff, CodeSet.inRanges_nil,
    Bool.false_eq_true, or_false]
  rw [Bool.eq_false_iff, Ne, Text.isBlank]
  simp only [Bool.or_eq_true, Bool.and_eq_true, decide_eq_true_iff, beq_iff_eq]
  omega

/-- The pattern of mail addresses. -/
def emailPattern : String := "^\\S+@\\S+\\.\\S+$"

/-- What the pattern is read as, between its anchors. -/
def emailParts : List Pattern.Expr :=
  [.repeated (.chars nonBlankSet) 1 none, .chars (.single '@'.toNat),
    .repeated (.chars nonBlankSet) 1 none, .chars (.single '.'.toNat),
    .repeated (.chars nonBlankSet) 1 none]

theorem readExpr_emailPattern :
    Pattern.readExpr Pattern.plainFlags emailPattern.toList = some (.anchoredAll emailParts) := by
  rfl

theorem fits_emailParts : (Pattern.Expr.anchoredAll emailParts).fits = true := by
  decide +kernel

/-- The texts that the parts read. -/
def emailLanguage : Language Char :=
  [Pattern.repeats nonBlankSet 1 none, Pattern.wordsOver (.single '@'.toNat) (· = 1),
    Pattern.repeats nonBlankSet 1 none, Pattern.wordsOver (.single '.'.toNat) (· = 1),
    Pattern.repeats nonBlankSet 1 none].prod

theorem reads_emailParts : (Pattern.Expr.seqAll emailParts).Reads emailLanguage := by
  have hrepeated := Pattern.Expr.reads_repeated_chars nonBlankSet 1 none
  have hsingle (c : Char) := Pattern.Expr.reads_chars (CodeSet.single c.toNat)
  exact Pattern.Expr.reads_seqAll (.cons hrepeated (.cons (hsingle '@') (.cons hrepeated
    (.cons (hsingle '.') (.cons hrepeated .nil)))))

/-- The parts read the texts without blanks that can be cut. -/
theorem mem_emailLanguage_iff {s : List Char} :
    s ∈ emailLanguage ↔ (∀ c ∈ s, Text.isBlank c = false) ∧ HasEmailCut s := by
  simp only [emailLanguage, List.prod_cons, List.prod_nil, mul_one, Language.mem_mul,
    Pattern.mem_repeats_some_iff, Pattern.mem_wordsOver_single_iff, contains_nonBlankSet_iff]
  constructor
  · rintro ⟨user, ⟨huser, hblank⟩, _, ⟨_, rfl, _, ⟨host, ⟨hhost, hblank'⟩, _,
      ⟨_, rfl, domain, ⟨hdomain, hblank''⟩, rfl⟩, rfl⟩, rfl⟩, rfl⟩
    refine ⟨?_, user, host, domain, rfl, huser, hhost, hdomain⟩
    simp only [List.forall_mem_append, List.forall_mem_singleton]
    exact ⟨hblank, rfl, hblank', rfl, hblank''⟩
  · rintro ⟨hblank, user, host, domain, rfl, huser, hhost, hdomain⟩
    simp only [List.forall_mem_append, List.forall_mem_cons] at hblank
    obtain ⟨hblank, -, hblank', -, hblank''⟩ := hblank
    exact ⟨user, ⟨huser, hblank⟩, _, ⟨_, rfl, _, ⟨host, ⟨hhost, hblank'⟩, _,
      ⟨_, rfl, domain, ⟨hdomain, hblank''⟩, rfl⟩, rfl⟩, rfl⟩, rfl⟩

/-! ### All together -/

/-- A value has the shape of a mail address if and only if no character of it is blank and, of the
first at sign with something before it and the last point with something behind it, both exist and
have something between them. These are the values in which the pattern of mail addresses occurs. -/
theorem isEmail_iff (value : String) :
    (isEmail value = true ↔ (∀ c ∈ value.toList, Text.isBlank c = false) ∧
      ∃ i j, IsLeast (atSigns value.toList) i ∧ IsGreatest (points value.toList) j ∧ i + 2 ≤ j) ∧
    Pattern.occursPlainly emailPattern value = isEmail value := by
  have hshape : isEmail value = true ↔
      (∀ c ∈ value.toList, Text.isBlank c = false) ∧ HasEmailCut value.toList := by
    rw [isEmail, Bool.and_eq_true, hasEmailShape_iff, Bool.not_eq_true', List.any_eq_false]
    simp only [Bool.not_eq_true]
  refine ⟨by rw [hshape, hasEmailCut_iff_outermost], ?_⟩
  rw [Bool.eq_iff_iff, hshape, ← mem_emailLanguage_iff]
  exact Pattern.occursPlainly_iff_mem readExpr_emailPattern fits_emailParts reads_emailParts value

end FormCheck.Check
