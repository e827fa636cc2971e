import FormCheck.Check.Shape
import FormCheck.Proofs.Check.Characters
import FormCheck.Proofs.Check.Integer

/-!
# Written numbers and the integers that are read from them

Whether a value as a whole is a number is decided by its shape, and a comparison reads the integer
that the value begins with. The two go together: a value with the shape of an integer is read as the
integer that it writes, kept between the bounds, and a natural number has a digit other than zero if
and only if it is greater than zero when it is compared. The shapes are those of three anchored
patterns.

## Main definitions

* `Check.NumberRule` : the rules on the shape of numbers, with their checks and patterns.

## Main results

* `Check.isInteger_iff_parts`, `Check.isNumeric_iff_parts` : the parts of integers and decimals.
* `Check.isNumeric_iff` : numeric values are integers and decimals.
* `Check.NumberRule.occursPlainly_pattern` : the patterns occur in the values for which the rules
  hold.
* `Check.numberChecks_iff` : the shapes of numbers, by each other and by the integers that are read.
-/

namespace FormCheck.Check

open Decimal (isDigit natOf digitValue)

/-! ### The parts of a number -/

theorem isDigits_iff {s : List Char} : isDigits s = true ↔ s ≠ [] ∧ ∀ c ∈ s, isDigit c = true := by
  simp [isDigits]

theorem isDigit_iff_isAsciiDigit {c : Char} : isDigit c = true ↔ IsAsciiDigit c := by
  simp [isDigit, IsAsciiDigit]

/-- A text does not begin with a sign. -/
def BeginsUnsigned (s : List Char) : Prop := ∀ c ∈ s.head?, c ≠ '-' ∧ c ≠ '+'

theorem beginsUnsigned_append {whole rest : List Char} (hwhole : ∀ c ∈ whole, isDigit c = true)
    (hrest : BeginsUnsigned rest) : BeginsUnsigned (whole ++ rest) := by
  cases whole with
  | nil => exact hrest
  | cons c whole =>
    have hc := hwhole c List.mem_cons_self
    rintro _ ⟨⟩
    exact ⟨ne_of_isDigit hc rfl, ne_of_isDigit hc rfl⟩

theorem beginsUnsigned_of_isDigits {s : List Char} (h : isDigits s = true) : BeginsUnsigned s := by
  have hnil : BeginsUnsigned [] := by rintro _ ⟨⟩
  exact List.append_nil s ▸ beginsUnsigned_append (isDigits_iff.mp h).2 hnil

theorem dropSign_text_append (σ : Sign) {rest : List Char} (h : BeginsUnsigned rest) :
    dropSign (σ.text ++ rest) = rest := by
  cases σ with
  | plus => rfl
  | minus => rfl
  | none =>
    cases rest with
    | nil => rfl
    | cons c rest =>
      obtain ⟨hminus, hplus⟩ := h c rfl
      simp [Sign.text, dropSign, hminus, hplus]

theorem exists_sign (s : List Char) : ∃ σ : Sign, s = σ.text ++ dropSign s := by
  unfold dropSign
  split
  · exact ⟨.minus, rfl⟩
  · exact ⟨.plus, rfl⟩
  · exact ⟨.none, rfl⟩

/-- What is asked of a text without its sign is asked of what follows some sign, if no text that
begins with a sign can satisfy it. -/
theorem dropSign_iff {p : List Char → Prop} (hp : ∀ s, p s → BeginsUnsigned s) (s : List Char) :
    p (dropSign s) ↔ ∃ (σ : Sign) (rest : List Char), s = σ.text ++ rest ∧ p rest := by
  constructor
  · intro h
    obtain ⟨σ, hσ⟩ := exists_sign s
    exact ⟨σ, dropSign s, hσ, h⟩
  · rintro ⟨σ, rest, rfl, h⟩
    rwa [dropSign_text_append σ (hp rest h)]

/-- An integer is a sign or none, and digits. -/
theorem isInteger_iff_parts {value : String} :
    isInteger value = true ↔
      ∃ (σ : Sign) (digits : List Char), value.toList = σ.text ++ digits ∧
        isDigits digits = true :=
  dropSign_iff (fun _ => beginsUnsigned_of_isDigits) value.toList

/-- A magnitude is digits with a point before some of them or without one. -/
theorem isMagnitude_iff {s : List Char} :
    isMagnitude s = true ↔
      ∃ whole point places : List Char, s = whole ++ (point ++ places) ∧
        (∀ c ∈ whole, isDigit c = true) ∧ (point = [] ∨ point = ['.']) ∧
        isDigits places = true := by
  constructor
  · intro h
    unfold isMagnitude at h
    split at h
    case h_1 hdrop =>
      have hne : s ≠ [] := by simpa using h
      exact ⟨[], [], s, rfl, by simp, .inl rfl,
        isDigits_iff.mpr ⟨hne, List.dropWhile_eq_nil_iff.mp hdrop⟩⟩
    case h_2 places hdrop =>
      refine ⟨s.takeWhile isDigit, ['.'], places, ?_, fun c hc => List.mem_takeWhile_imp hc,
        .inr rfl, h⟩
      rw [List.singleton_append, ← hdrop, List.takeWhile_append_dropWhile]
    case h_3 => exact nomatch h
  · rintro ⟨whole, point, places, rfl, hwhole, rfl | rfl, hplaces⟩
    · obtain ⟨hne, hall⟩ := isDigits_iff.mp hplaces
      have hdrop : (whole ++ ([] ++ places)).dropWhile isDigit = [] :=
        List.dropWhile_eq_nil_iff.mpr (List.forall_mem_append.mpr ⟨hwhole, hall⟩)
      rw [isMagnitude, hdrop]
      simp [hne]
    · have hdrop : (whole ++ (['.'] ++ places)).dropWhile isDigit = '.' :: places := by
        rw [List.dropWhile_append_of_pos hwhole]
        rfl
      rw [isMagnitude, hdrop]
      exact hplaces

/-- A numeric value is a sign or none, and digits with a point before some of them or without
one. -/
theorem isNumeric_iff_parts {value : String} :
    isNumeric value = true ↔
      ∃ (σ : Sign) (whole point places : List Char),
        value.toList = σ.text ++ (whole ++ (point ++ places)) ∧
        (∀ c ∈ whole, isDigit c = true) ∧ (point = [] ∨ point = ['.']) ∧
        isDigits places = true := by
  have hunsigned : ∀ s, isMagnitude s = true → BeginsUnsigned s := by
    intro s hs
    obtain ⟨whole, point, places, rfl, hwhole, hpoint, hplaces⟩ := isMagnitude_iff.mp hs
    refine beginsUnsigned_append hwhole ?_
    rcases hpoint with rfl | rfl
    · exact beginsUnsigned_of_isDigits hplaces
    · rintro _ ⟨⟩
      decide
  refine (dropSign_iff hunsigned value.toList).trans ?_
  simp only [isMagnitude_iff]
  constructor
  · rintro ⟨σ, _, hvalue, whole, point, places, rfl, h⟩
    exact ⟨σ, whole, point, places, hvalue, h⟩
  · rintro ⟨σ, whole, point, places, hvalue, h⟩
    exact ⟨σ, _, hvalue, whole, point, places, rfl, h⟩

/-- A sign or none with any number of digits is an integer unless there are no digits. -/
theorem exists_sign_digits_iff {value : String} :
    (∃ (σ : Sign) (whole : List Char), value.toList = σ.text ++ whole ∧
        ∀ c ∈ whole, isDigit c = true) ↔
      value = "" ∨ value = "+" ∨ value = "-" ∨ isInteger value = true := by
  constructor
  · rintro ⟨σ, whole, hvalue, hwhole⟩
    by_cases hne : whole = []
    · rw [hne, List.append_nil] at hvalue
      have hstring := String.toList_inj.mp (hvalue.trans (String.toList_ofList (l := σ.text)).symm)
      cases σ with
      | none => exact .inl hstring
      | plus => exact .inr (.inl hstring)
      | minus => exact .inr (.inr (.inl hstring))
    · exact .inr (.inr (.inr (isInteger_iff_parts.mpr
        ⟨σ, whole, hvalue, isDigits_iff.mpr ⟨hne, hwhole⟩⟩)))
  · rintro (rfl | rfl | rfl | h)
    · exact ⟨.none, [], rfl, by simp⟩
    · exact ⟨.plus, [], rfl, by simp⟩
    · exact ⟨.minus, [], rfl, by simp⟩
    · obtain ⟨σ, digits, hvalue, hdigits⟩ := isInteger_iff_parts.mp h
      exact ⟨σ, digits, hvalue, (isDigits_iff.mp hdigits).2⟩

/-- A numeric value is an integer, or a decimal: digits behind a point, and in front of it an
integer, a lone sign or nothing. -/
theorem isNumeric_iff {value : String} :
    isNumeric value = true ↔ isInteger value = true ∨
      ∃ whole places : String, value = whole ++ "." ++ places ∧ isNatural places = true ∧
        (whole = "" ∨ whole = "+" ∨ whole = "-" ∨ isInteger whole = true) := by
  rw [isNumeric_iff_parts]
  constructor
  · rintro ⟨σ, whole, point, places, hvalue, hwhole, rfl | rfl, hplaces⟩
    · obtain ⟨hne, hall⟩ := isDigits_iff.mp hplaces
      have hdigits : isDigits (whole ++ places) = true :=
        isDigits_iff.mpr ⟨List.append_ne_nil_of_right_ne_nil whole hne,
          List.forall_mem_append.mpr ⟨hwhole, hall⟩⟩
      exact .inl (isInteger_iff_parts.mpr ⟨σ, whole ++ places, hvalue, hdigits⟩)
    · refine .inr ⟨String.ofList (σ.text ++ whole), String.ofList places, ?_, ?_, ?_⟩
      · refine String.toList_inj.mp ?_
        rw [hvalue]
        simp
      · rw [isNatural, String.toList_ofList]
        exact hplaces
      · exact exists_sign_digits_iff.mp ⟨σ, whole, String.toList_ofList, hwhole⟩
  · rintro (h | ⟨whole, places, rfl, hplaces, hwhole⟩)
    · obtain ⟨σ, digits, hvalue, hdigits⟩ := isInteger_iff_parts.mp h
      exact ⟨σ, [], [], digits, hvalue, by simp, .inl rfl, hdigits⟩
    · obtain ⟨σ, digits, hdigits, hall⟩ := exists_sign_digits_iff.mpr hwhole
      refine ⟨σ, digits, ['.'], places.toList, ?_, hall, .inr rfl, hplaces⟩
      simp [hdigits]

/-! ### The integers that are read -/

/-- A signed run of digits is read as the integer that it writes, kept between the bounds. -/
theorem leadingInteger?_signed {value : String} {σ : Sign} {digits : List Char}
    (hvalue : value.toList = σ.text ++ digits) (hdigits : isDigits digits = true) :
    leadingInteger? value = some (saturated σ (natOf digits)) := by
  obtain ⟨hne, hall⟩ := isDigits_iff.mp hdigits
  let t : IntegerText := ⟨[], σ, digits, [], by simp, hall, hne, by rintro _ ⟨⟩⟩
  have ht : t.text = value.toList := by simp [t, IntegerText.text, hvalue]
  rw [leadingInteger?_text ht, IntegerText.magnitude, ← Decimal.natOf_eq_ofDigits]

/-- The natural number may be kept below the bound before it is given its sign, or the integer
afterwards. -/
theorem saturated_eq_clamp (σ : Sign) (n : Nat) :
    saturated σ n = max (-(2 ^ 63 - 1)) (min (σ.apply n) (2 ^ 63 - 1)) := by
  have hlargest : largestInteger = 2 ^ 63 - 1 := rfl
  cases σ <;> simp only [saturated, Sign.apply, hlargest] <;> omega

/-- A natural number has a digit other than zero if it is greater than zero when compared. -/
theorem isPositive_iff {value : String} :
    isPositive value = true ↔ isNatural value = true ∧ greaterThan value "0" = true := by
  rw [isPositive, Bool.and_eq_true]
  refine and_congr_right fun hnatural => ?_
  have hvalue : value.toList = Sign.none.text ++ value.toList := rfl
  have hread := leadingInteger?_signed hvalue hnatural
  have hzero : leadingInteger? "0" = some 0 := by decide
  have hsome : value.toList.any (· != '0') = true ↔ natOf value.toList ≠ 0 := by
    rw [Ne, Decimal.natOf_eq_zero_iff (isDigits_iff.mp hnatural).2]
    simp
  have hlargest : largestInteger = 2 ^ 63 - 1 := rfl
  rw [hsome, greaterThan, compareIntegers, hread, hzero]
  simp only [saturated, Sign.apply, hlargest, decide_eq_true_iff]
  omega

/-! ### The patterns -/

/-- The rules on the shape of numbers. -/
inductive NumberRule where
  /-- Digits. -/
  | natural
  /-- Digits after a sign or none. -/
  | integer
  /-- An integer or a decimal. -/
  | numeric
  deriving DecidableEq, Repr

namespace NumberRule

/-- The check of a rule. -/
def holds : NumberRule → String → Bool
  | natural => isNatural
  | integer => isInteger
  | numeric => isNumeric

/-- The pattern of a rule. -/
def pattern : NumberRule → String
  | natural => "^[0-9]+$"
  | integer => "^[-+]?[0-9]+$"
  | numeric => "^[-+]?[0-9]*\\.?[0-9]+$"

/-- The digits. -/
def digitSet : CodeSet := ⟨[(0x30, 0x39)]⟩

/-- The signs. -/
def signSet : CodeSet := ⟨[(0x2B, 0x2B), (0x2D, 0x2D)]⟩

/-- What the pattern of a rule is read as, between its anchors. -/
def parts : NumberRule → List Pattern.Expr
  | natural => [.repeated (.chars digitSet) 1 none]
  | integer => [.repeated (.chars signSet) 0 (some 1), .repeated (.chars digitSet) 1 none]
  | numeric => [.repeated (.chars signSet) 0 (some 1), .repeated (.chars digitSet) 0 none,
      .repeated (.chars (.single '.'.toNat)) 0 (some 1), .repeated (.chars digitSet) 1 none]

theorem readExpr_pattern (rule : NumberRule) :
    Pattern.readExpr Pattern.plainFlags rule.pattern.toList = some (.anchoredAll rule.parts) := by
  cases rule <;> rfl

theorem fits_parts (rule : NumberRule) : (Pattern.Expr.anchoredAll rule.parts).fits = true := by
  cases rule <;> decide +kernel

theorem contains_digitSet_iff {c : Char} :
    digitSet.contains c.toNat = true ↔ isDigit c = true := by
  rw [isDigit_iff_isAsciiDigit, isAsciiDigit_iff]
  simp only [digitSet, CodeSet.contains, CodeSet.inRanges_cons_iff, CodeSet.inRanges_nil,
    Bool.false_eq_true, or_false]

theorem mem_repeats_signSet_iff {s : List Char} :
    s ∈ Pattern.repeats signSet 0 (some 1) ↔ ∃ σ : Sign, s = σ.text := by
  have hsign (c : Char) : signSet.contains c.toNat = true ↔ c = '+' ∨ c = '-' := by
    simp only [signSet, CodeSet.contains, CodeSet.inRanges_cons_iff, CodeSet.inRanges_nil,
      Bool.false_eq_true, or_false, ← Char.toNat_inj, Char.reduceToNat]
    omega
  simp only [Pattern.mem_repeats_optional_iff, hsign]
  constructor
  · rintro (rfl | ⟨c, rfl, rfl | rfl⟩)
    · exact ⟨.none, rfl⟩
    · exact ⟨.plus, rfl⟩
    · exact ⟨.minus, rfl⟩
  · rintro ⟨σ, rfl⟩
    cases σ with
    | none => exact .inl rfl
    | plus => exact .inr ⟨'+', rfl, .inl rfl⟩
    | minus => exact .inr ⟨'-', rfl, .inr rfl⟩

theorem mem_repeats_point_iff {s : List Char} :
    s ∈ Pattern.repeats (.single '.'.toNat) 0 (some 1) ↔ s = [] ∨ s = ['.'] := by
  simp only [Pattern.mem_repeats_optional_iff, CodeSet.contains_single_iff, exists_eq_right]

theorem mem_repeats_digitSet_iff {s : List Char} :
    s ∈ Pattern.repeats digitSet 1 none ↔ isDigits s = true := by
  simp only [Pattern.mem_repeats_some_iff, contains_digitSet_iff, isDigits_iff]

/-- The texts that the parts of a pattern read. -/
def language : NumberRule → Language Char
  | natural => [Pattern.repeats digitSet 1 none].prod
  | integer => [Pattern.repeats signSet 0 (some 1), Pattern.repeats digitSet 1 none].prod
  | numeric => [Pattern.repeats signSet 0 (some 1), Pattern.repeats digitSet 0 none,
      Pattern.repeats (.single '.'.toNat) 0 (some 1), Pattern.repeats digitSet 1 none].prod

theorem reads_parts (rule : NumberRule) : (Pattern.Expr.seqAll rule.parts).Reads rule.language := by
  have hreads := Pattern.Expr.reads_repeated_chars
  cases rule with
  | natural => exact Pattern.Expr.reads_seqAll (.cons (hreads _ _ _) .nil)
  | integer => exact Pattern.Expr.reads_seqAll (.cons (hreads _ _ _) (.cons (hreads _ _ _) .nil))
  | numeric =>
    exact Pattern.Expr.reads_seqAll (.cons (hreads _ _ _) (.cons (hreads _ _ _)
      (.cons (hreads _ _ _) (.cons (hreads _ _ _) .nil))))

/-- A rule holds for the values that the parts of its pattern read. -/
theorem holds_iff_mem_language (rule : NumberRule) (value : String) :
    rule.holds value = true ↔ value.toList ∈ rule.language := by
  cases rule with
  | natural => rw [language, List.prod_singleton, mem_repeats_digitSet_iff, holds, isNatural]
  | integer =>
    simp only [holds, isInteger_iff_parts, language, List.prod_cons, List.prod_nil, mul_one,
      Language.mem_mul, mem_repeats_signSet_iff, mem_repeats_digitSet_iff]
    constructor
    · rintro ⟨σ, digits, hvalue, hdigits⟩
      exact ⟨_, ⟨σ, rfl⟩, digits, hdigits, hvalue.symm⟩
    · rintro ⟨_, ⟨σ, rfl⟩, digits, hdigits, hvalue⟩
      exact ⟨σ, digits, hvalue.symm, hdigits⟩
  | numeric =>
    simp only [holds, isNumeric_iff_parts, language, List.prod_cons, List.prod_nil, mul_one,
      Language.mem_mul, mem_repeats_signSet_iff, mem_repeats_digitSet_iff,
      mem_repeats_point_iff, Pattern.mem_repeats_any_iff, contains_digitSet_iff]
    constructor
    · rintro ⟨σ, whole, point, places, hvalue, hwhole, hpoint, hplaces⟩
      exact ⟨_, ⟨σ, rfl⟩, _, ⟨whole, hwhole, _, ⟨point, hpoint, places, hplaces, rfl⟩, rfl⟩,
        hvalue.symm⟩
    · rintro ⟨_, ⟨σ, rfl⟩, _, ⟨whole, hwhole, _, ⟨point, hpoint, places, hplaces, rfl⟩, rfl⟩,
        hvalue⟩
      exact ⟨σ, whole, point, places, hvalue.symm, hwhole, hpoint, hplaces⟩

/-- The pattern of a rule occurs in the values for which the rule holds. -/
theorem occursPlainly_pattern (rule : NumberRule) (value : String) :
    Pattern.occursPlainly rule.pattern value = rule.holds value := by
  rw [Bool.eq_iff_iff, holds_iff_mem_language]
  exact Pattern.occursPlainly_iff_mem rule.readExpr_pattern rule.fits_parts rule.reads_parts value

end NumberRule

/-! ### All together -/

/-- A natural number is a run of digits, an integer is a natural number after a sign or none, and a
numeric value is an integer, or a natural number behind a point that has an integer, a lone sign or
nothing in front of it. An integer is read as the number that its sign and digits write, kept
between the bounds, and a natural number has a digit other than zero if and only if it compares as
greater than zero. The patterns of these rules occur in the values for which they hold. -/
theorem numberChecks_iff (value : String) :
    (isNatural value = true ↔ value ≠ "" ∧ ∀ c ∈ value.toList, IsAsciiDigit c) ∧
    (isInteger value = true ↔ ∃ (σ : Sign) (digits : String),
      value = String.ofList σ.text ++ digits ∧ isNatural digits = true) ∧
    (isNumeric value = true ↔ isInteger value = true ∨
      ∃ whole places : String, value = whole ++ "." ++ places ∧ isNatural places = true ∧
        (whole = "" ∨ whole = "+" ∨ whole = "-" ∨ isInteger whole = true)) ∧
    (∀ (σ : Sign) (digits : String), value = String.ofList σ.text ++ digits →
      isNatural digits = true →
        let exact := σ.apply (Nat.ofDigits 10 (digits.toList.reverse.map digitValue))
        leadingInteger? value = some (max (-(2 ^ 63 - 1)) (min exact (2 ^ 63 - 1)))) ∧
    (isPositive value = true ↔ isNatural value = true ∧ greaterThan value "0" = true) ∧
    ∀ rule : NumberRule, Pattern.occursPlainly rule.pattern value = rule.holds value := by
  refine ⟨?_, ?_, isNumeric_iff, ?_, isPositive_iff, fun rule => rule.occursPlainly_pattern value⟩
  · rw [isNatural, isDigits_iff, Ne, String.toList_eq_nil_iff]
    simp only [isDigit_iff_isAsciiDigit]
  · rw [isInteger_iff_parts]
    constructor
    · rintro ⟨σ, digits, hvalue, hdigits⟩
      refine ⟨σ, String.ofList digits, String.toList_inj.mp (by simp [hvalue]), ?_⟩
      rwa [isNatural, String.toList_ofList]
    · rintro ⟨σ, digits, rfl, hdigits⟩
      exact ⟨σ, digits.toList, by simp, hdigits⟩
  · rintro σ digits rfl hdigits
    rw [leadingInteger?_signed (σ := σ) (by simp) hdigits, saturated_eq_clamp,
      Decimal.natOf_eq_ofDigits]

/-- A long run of digits after a sign and zeros, a decimal without digits in front of its point, and
a run of zeros. -/
theorem numberChecks_iff_long :
    leadingInteger? "-0099999999999999999999" = some (-9223372036854775807) ∧
      isNumeric "+.5" = true ∧ Pattern.occursPlainly "^[-+]?[0-9]*\\.?[0-9]+$" "5." = false ∧
      greaterThan "000" "0" = false := by
  obtain ⟨-, -, -, hread, -⟩ := numberChecks_iff "-0099999999999999999999"
  obtain ⟨-, -, hnumeric, -⟩ := numberChecks_iff "+.5"
  obtain ⟨-, -, -, -, -, hpattern⟩ := numberChecks_iff "5."
  obtain ⟨-, -, -, -, hpositive, -⟩ := numberChecks_iff "000"
  have hnatural : isNatural "0099999999999999999999" = true := by decide +kernel
  refine ⟨(hread .minus "0099999999999999999999" (by decide +kernel) hnatural).trans
      (by decide +kernel), hnumeric.mpr (.inr ⟨"+", "5", ?_, ?_, ?_⟩), ?_, ?_⟩
  · decide +kernel
  · decide +kernel
  · decide
  · exact (hpattern .numeric).trans (by decide +kernel)
  · have hzeros : isPositive "000" = false := by decide +kernel
    have hdigits : isNatural "000" = true := by decide +kernel
    rw [Bool.eq_false_iff] at hzeros ⊢
    exact fun hgreater => hzeros (hpositive.mpr ⟨hdigits, hgreater⟩)

end FormCheck.Check
