import FormCheck.Check.Shape
import FormCheck.Proofs.Pattern.Language
import FormCheck.Proofs.Unicode.CaseFold

/-!
# Values of certain characters

Six rules admit values that are made up of letters, digits and some other characters. Each comes to
the same as looking for an anchored pattern that begins by setting the flag for which case does not
count. Therefore the letters are not the ASCII letters alone: two characters outside ASCII differ
from one of them only in case, the long s and the Kelvin sign. Apart from these two the rules admit
ASCII characters only.

## Main definitions

* `Check.CharacterRule` : the six rules.
* `Check.CharacterRule.holds` : the check of a rule.
* `Check.CharacterRule.Lists` : the ASCII characters of a rule.
* `Check.CharacterRule.pattern` : the pattern of a rule.

## Main results

* `Check.CharacterRule.occursPlainly_pattern_iff` : the values in which the pattern of a rule
  occurs.
* `Check.CharacterRule.holds_iff_lists` : the values for which a rule holds, which are the same.
-/

namespace FormCheck.Check

/-! ### ASCII letters and digits -/

/-- An ASCII letter. -/
def IsAsciiLetter (c : Char) : Prop := 'a' ≤ c ∧ c ≤ 'z' ∨ 'A' ≤ c ∧ c ≤ 'Z'

/-- An ASCII digit. -/
def IsAsciiDigit (c : Char) : Prop := '0' ≤ c ∧ c ≤ '9'

instance (c : Char) : Decidable (IsAsciiLetter c) := inferInstanceAs (Decidable (_ ∨ _))

instance (c : Char) : Decidable (IsAsciiDigit c) := inferInstanceAs (Decidable (_ ∧ _))

theorem isAsciiLetter_iff (c : Char) :
    IsAsciiLetter c ↔ 0x61 ≤ c.toNat ∧ c.toNat ≤ 0x7A ∨ 0x41 ≤ c.toNat ∧ c.toNat ≤ 0x5A := by
  simp only [IsAsciiLetter, Char.le_def, UInt32.le_iff_toNat_le]
  rfl

theorem isAsciiDigit_iff (c : Char) : IsAsciiDigit c ↔ 0x30 ≤ c.toNat ∧ c.toNat ≤ 0x39 := by
  simp only [IsAsciiDigit, Char.le_def, UInt32.le_iff_toNat_le]
  rfl

/-- The letters that count are the ASCII letters, the long s and the Kelvin sign. -/
theorem isLetter_iff (c : Char) :
    isLetter c = true ↔ IsAsciiLetter c ∨ c = '\u017f' ∨ c = '\u212a' := by
  have hranges : c.isAlpha = (decide ('A'.val ≤ c.val ∧ c.val ≤ 'Z'.val) ||
      decide ('a'.val ≤ c.val) && decide (c.val ≤ 'z'.val)) := rfl
  have halpha : c.isAlpha = true ↔ IsAsciiLetter c := by
    simp only [hranges, Bool.or_eq_true, Bool.and_eq_true, decide_eq_true_eq, IsAsciiLetter,
      Char.le_def]
    exact or_comm
  simp only [isLetter, Bool.or_eq_true, halpha, beq_iff_eq, or_assoc]

/-- The digits that count are the ASCII digits. -/
theorem isDigit_iff (c : Char) : c.isDigit = true ↔ IsAsciiDigit c :=
  Char.isDigit_iff_toNat.trans (isAsciiDigit_iff c).symm

/-- A value is made up of characters of a kind. -/
theorem consistsOf_iff (admits : Char → Bool) (value : String) :
    consistsOf admits value = true ↔ value ≠ "" ∧ ∀ c ∈ value.toList, admits c = true := by
  simp [consistsOf]

/-! ### The rules -/

/-- The rules on the characters of a value. -/
inductive CharacterRule where
  /-- Letters. -/
  | alpha
  /-- Letters and spaces. -/
  | alphaSpace
  /-- Letters, digits, underscores and dashes. -/
  | alphaDash
  /-- Letters and digits. -/
  | alphaNumeric
  /-- Letters, digits and spaces. -/
  | alphaNumericSpace
  /-- Letters, digits, spaces and punctuation marks. -/
  | alphaNumericPunct
  deriving DecidableEq, Repr

namespace CharacterRule

/-- The check of a rule. -/
def holds : CharacterRule → String → Bool
  | alpha => isAlpha
  | alphaSpace => isAlphaSpace
  | alphaDash => isAlphaDash
  | alphaNumeric => isAlphaNumeric
  | alphaNumericSpace => isAlphaNumericSpace
  | alphaNumericPunct => isAlphaNumericPunct

/-- The ASCII characters of a rule. -/
def Lists : CharacterRule → Char → Prop
  | alpha, c => IsAsciiLetter c
  | alphaSpace, c => IsAsciiLetter c ∨ c = ' '
  | alphaDash, c => IsAsciiLetter c ∨ IsAsciiDigit c ∨ c = '_' ∨ c = '-'
  | alphaNumeric, c => IsAsciiLetter c ∨ IsAsciiDigit c
  | alphaNumericSpace, c => IsAsciiLetter c ∨ IsAsciiDigit c ∨ c = ' '
  | alphaNumericPunct, c => IsAsciiLetter c ∨ IsAsciiDigit c ∨ c = ' ' ∨
      c ∈ ['~', '!', '#', '$', '%', '&', '*', '-', '_', '+', '=', '|', ':', '.']

/-- The pattern of a rule. -/
def pattern : CharacterRule → String
  | alpha => "(?i)^[a-z]+$"
  | alphaSpace => "(?i)^[a-z ]+$"
  | alphaDash => "(?i)^[a-z0-9_-]+$"
  | alphaNumeric => "(?i)^[a-z0-9]+$"
  | alphaNumericSpace => "(?i)^[a-z0-9 ]+$"
  | alphaNumericPunct => "(?i)^[a-z0-9 ~!#$%&*\\-_+=|:.]+$"

/-- The values for which a rule holds, by its check. -/
theorem holds_iff_forall (rule : CharacterRule) (value : String) :
    rule.holds value = true ↔
      value ≠ "" ∧ ∀ c ∈ value.toList, rule.Lists c ∨ c = '\u017f' ∨ c = '\u212a' := by
  cases rule <;>
    simp only [holds, isAlpha, isAlphaSpace, isAlphaDash, isAlphaNumeric, isAlphaNumericSpace,
      isAlphaNumericPunct, consistsOf_iff, Lists, isLetterOrDigit, Bool.or_eq_true, isLetter_iff,
      isDigit_iff, beq_iff_eq, punctuation, List.contains_iff_mem, or_assoc, or_left_comm, or_comm]

/-! ### The classes in the patterns -/

/-- The characters that the class in the pattern of a rule lists. -/
def listed : CharacterRule → CodeSet
  | alpha => ⟨[(0x61, 0x7A)]⟩
  | alphaSpace => ⟨[(0x20, 0x20), (0x61, 0x7A)]⟩
  | alphaDash => ⟨[(0x2D, 0x2D), (0x30, 0x39), (0x5F, 0x5F), (0x61, 0x7A)]⟩
  | alphaNumeric => ⟨[(0x30, 0x39), (0x61, 0x7A)]⟩
  | alphaNumericSpace => ⟨[(0x20, 0x20), (0x30, 0x39), (0x61, 0x7A)]⟩
  | alphaNumericPunct => ⟨[(0x20, 0x21), (0x23, 0x26), (0x2A, 0x2B), (0x2D, 0x2E), (0x30, 0x3A),
      (0x3D, 0x3D), (0x5F, 0x5F), (0x61, 0x7A), (0x7C, 0x7C), (0x7E, 0x7E)]⟩

/-- The listed characters together with those that differ from one of them only in case. -/
def closed : CharacterRule → CodeSet
  | alpha => ⟨[(0x41, 0x5A), (0x61, 0x7A), (0x17F, 0x17F), (0x212A, 0x212A)]⟩
  | alphaSpace => ⟨[(0x20, 0x20), (0x41, 0x5A), (0x61, 0x7A), (0x17F, 0x17F), (0x212A, 0x212A)]⟩
  | alphaDash => ⟨[(0x2D, 0x2D), (0x30, 0x39), (0x41, 0x5A), (0x5F, 0x5F), (0x61, 0x7A),
      (0x17F, 0x17F), (0x212A, 0x212A)]⟩
  | alphaNumeric => ⟨[(0x30, 0x39), (0x41, 0x5A), (0x61, 0x7A), (0x17F, 0x17F),
      (0x212A, 0x212A)]⟩
  | alphaNumericSpace => ⟨[(0x20, 0x20), (0x30, 0x39), (0x41, 0x5A), (0x61, 0x7A),
      (0x17F, 0x17F), (0x212A, 0x212A)]⟩
  | alphaNumericPunct => ⟨[(0x20, 0x21), (0x23, 0x26), (0x2A, 0x2B), (0x2D, 0x2E), (0x30, 0x3A),
      (0x3D, 0x3D), (0x41, 0x5A), (0x5F, 0x5F), (0x61, 0x7A), (0x7C, 0x7C), (0x7E, 0x7E),
      (0x17F, 0x17F), (0x212A, 0x212A)]⟩

theorem caseClosed_listed (rule : CharacterRule) : rule.listed.caseClosed = rule.closed := by
  have hascii : rule.listed.isAscii = true := by
    cases rule <;> decide
  rw [CodeSet.caseClosed_of_isAscii hascii]
  cases rule <;> decide +kernel

/-- The characters of the closed class. -/
theorem contains_closed_iff (rule : CharacterRule) (c : Char) :
    rule.closed.contains c.toNat = true ↔ rule.Lists c ∨ c = '\u017f' ∨ c = '\u212a' := by
  cases rule <;>
    simp only [closed, CodeSet.contains, CodeSet.inRanges_cons_iff, CodeSet.inRanges_nil, Lists,
      isAsciiLetter_iff, isAsciiDigit_iff, ← Char.toNat_inj, List.mem_cons, List.not_mem_nil,
      Char.reduceToNat, Bool.false_eq_true, or_false] <;>
    omega

/-! ### The patterns -/

/-- What the pattern of a rule is read as: nothing for the flag, and the anchored class, which the
flag has closed under case. -/
theorem readExpr_pattern (rule : CharacterRule) :
    Pattern.readExpr Pattern.plainFlags rule.pattern.toList =
      some (.seq .empty (.anchored (.repeated (.chars rule.closed) 1 none))) := by
  rw [← caseClosed_listed]
  -- Reading leaves the case closure as it is, so that it is not computed here.
  cases rule <;> rfl

theorem fits_pattern (rule : CharacterRule) :
    (Pattern.Expr.seq .empty (.anchored (.repeated (.chars rule.closed) 1 none))).fits = true := by
  cases rule <;> decide +kernel

/-- The values in which the pattern of a rule occurs. -/
theorem occursPlainly_pattern_iff (rule : CharacterRule) (value : String) :
    Pattern.occursPlainly rule.pattern value = true ↔
      value ≠ "" ∧ ∀ c ∈ value.toList, rule.Lists c ∨ c = '\u017f' ∨ c = '\u212a' := by
  have hempty : ∀ e s, (Pattern.Expr.seq .empty e).OccursIn s ↔ e.OccursIn s := by
    simp [Pattern.Expr.OccursIn, Pattern.Expr.Spans]
  rw [Pattern.occursPlainly_iff rule.readExpr_pattern rule.fits_pattern, hempty,
    Pattern.Expr.occursIn_anchored_chars_iff, Ne, String.toList_eq_nil_iff]
  simp only [contains_closed_iff]

/-- A rule holds for the values that have characters and all of whose characters are of the ASCII
characters of the rule, or the long s or the Kelvin sign. These are the values in which the pattern
of the rule occurs. -/
theorem holds_iff_lists (rule : CharacterRule) (value : String) :
    (rule.holds value = true ↔
      value ≠ "" ∧ ∀ c ∈ value.toList, rule.Lists c ∨ c = '\u017f' ∨ c = '\u212a') ∧
    Pattern.occursPlainly rule.pattern value = rule.holds value := by
  refine ⟨holds_iff_forall rule value, ?_⟩
  rw [Bool.eq_iff_iff, occursPlainly_pattern_iff, holds_iff_forall]

/-- The rules do not hold for ASCII characters alone: the long s is a letter of all of them. -/
theorem not_forall_holds_iff_lists :
    ¬∀ (rule : CharacterRule) (value : String), rule.holds value = true ↔
      value ≠ "" ∧ ∀ c ∈ value.toList, rule.Lists c := by
  intro h
  have hholds : CharacterRule.alpha.holds "\u017f" = true := by decide +kernel
  have hletter : IsAsciiLetter '\u017f' := ((h .alpha "\u017f").mp hholds).2 _ (by simp)
  revert hletter
  decide

end CharacterRule

end FormCheck.Check
