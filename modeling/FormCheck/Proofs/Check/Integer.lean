import FormCheck.Check.Comparison
import FormCheck.Proofs.Decimal.Digits
import FormCheck.Proofs.Spec.Tokens

/-!
# Leading integers and their comparison

A text begins with an integer if it is made up of blanks, at most one sign, a run of digits and a
rest that does not go on with a digit. The integer that is read is the exact one, kept between the
bounds; no other text is read. Two texts are then compared as their exact integers are, unless
neither of these lies strictly between the bounds.

## Main definitions

* `Check.IntegerText` : a text that begins with an integer, cut into its parts.
* `Check.IntegerText.value` : the exact integer.
* `Check.IsComparedAs` : how texts are compared that begin with given integers.

## Main results

* `Check.leadingInteger?_text` : what is read from a text that begins with an integer.
* `Check.exists_integerText` : only such texts are read.
* `Check.leadingInteger?_compared` : reading and the four comparisons together.
-/

namespace FormCheck.Check

open Decimal (isDigit natOf digitValue)

/-! ### Texts that begin with an integer -/

/-- The sign in front of an integer. -/
inductive Sign where
  /-- No sign. -/
  | none
  /-- A plus sign. -/
  | plus
  /-- A minus sign. -/
  | minus
  deriving DecidableEq, Repr

namespace Sign

/-- The characters of a sign. -/
def text : Sign → List Char
  | .none => []
  | .plus => ['+']
  | .minus => ['-']

/-- A natural number with a sign. -/
def apply (σ : Sign) (n : Nat) : Int :=
  match σ with
  | .minus => -n
  | _ => n

end Sign

/-- A text that begins with an integer, cut into blanks, a sign, all digits of a run, and the
rest. -/
structure IntegerText where
  /-- The blanks at the start. -/
  blanks : List Char
  /-- The sign after them. -/
  sign : Sign
  /-- The digits after it. -/
  digits : List Char
  /-- What follows. -/
  rest : List Char
  isBlank_of_mem : ∀ c ∈ blanks, Text.isBlank c = true
  isDigit_of_mem : ∀ c ∈ digits, isDigit c = true
  digits_ne_nil : digits ≠ []
  isDigit_head? : ∀ c ∈ rest.head?, isDigit c = false

namespace IntegerText

/-- The text as a whole. -/
def text (t : IntegerText) : List Char := t.blanks ++ (t.sign.text ++ (t.digits ++ t.rest))

/-- The natural number that the digits write in base ten. -/
def magnitude (t : IntegerText) : Nat := Nat.ofDigits 10 (t.digits.reverse.map digitValue)

/-- The exact integer. -/
def value (t : IntegerText) : Int := t.sign.apply t.magnitude

end IntegerText

/-! ### Reading -/

/-- The integer that is read for a sign and a natural number: the largest integer stands for all
larger ones. -/
def saturated (σ : Sign) (n : Nat) : Int := σ.apply (min n largestInteger)

/-- A run of digits is read as a whole. -/
theorem leadingDigits?_append (negative : Bool) {digits rest : List Char}
    (hdigits : ∀ c ∈ digits, isDigit c = true) (hne : digits ≠ [])
    (hrest : ∀ c ∈ rest.head?, isDigit c = false) :
    leadingDigits? negative (digits ++ rest) =
      some (saturated (if negative then .minus else .none) (natOf digits)) := by
  have hempty : digits.isEmpty = false := List.isEmpty_eq_false_iff.mpr hne
  rw [leadingDigits?, Decimal.takeWhile_isDigit_append hdigits hrest, hempty]
  cases negative <;> simp [saturated, Sign.apply]

/-- Only a text that begins with a digit begins with a run of digits. -/
theorem isDigit_head?_of_leadingDigits? {negative : Bool} {s : List Char} {n : Int}
    (h : leadingDigits? negative s = some n) : s.takeWhile isDigit ≠ [] := by
  intro hnil
  rw [leadingDigits?, hnil] at h
  exact nomatch h

/-- A text without a sign is read as digits. -/
theorem signedDigits?_of_ne {c : Char} (hminus : c ≠ '-') (hplus : c ≠ '+') (rest : List Char) :
    signedDigits? (c :: rest) = leadingDigits? false (c :: rest) := by
  simp [signedDigits?, hminus, hplus]

theorem ne_of_isDigit {c d : Char} (hc : isDigit c = true) (hd : isDigit d = false) : c ≠ d := by
  rintro rfl
  exact nomatch hc.symm.trans hd

theorem signedDigits?_append (σ : Sign) {digits rest : List Char}
    (hdigits : ∀ c ∈ digits, isDigit c = true) (hne : digits ≠ [])
    (hrest : ∀ c ∈ rest.head?, isDigit c = false) :
    signedDigits? (σ.text ++ (digits ++ rest)) = some (saturated σ (natOf digits)) := by
  cases σ with
  | plus => exact leadingDigits?_append false hdigits hne hrest
  | minus => exact leadingDigits?_append true hdigits hne hrest
  | none =>
    have hread := leadingDigits?_append false hdigits hne hrest
    obtain ⟨c, digits, rfl⟩ := List.exists_cons_of_ne_nil hne
    have hc := hdigits c List.mem_cons_self
    rw [Sign.text, List.nil_append, List.cons_append,
      signedDigits?_of_ne (ne_of_isDigit hc rfl) (ne_of_isDigit hc rfl)]
    exact hread

namespace IntegerText

variable (t : IntegerText)

/-- What follows the blanks does not begin with a blank. -/
theorem isBlank_head? :
    ∀ c ∈ (t.sign.text ++ (t.digits ++ t.rest)).head?, Text.isBlank c = false := by
  intro c hc
  cases hsign : t.sign with
  | plus =>
    rw [hsign] at hc
    cases hc
    rfl
  | minus =>
    rw [hsign] at hc
    cases hc
    rfl
  | none =>
    obtain ⟨d, digits, hdigits⟩ := List.exists_cons_of_ne_nil t.digits_ne_nil
    rw [hsign, hdigits] at hc
    cases hc
    exact Decimal.isBlank_of_isDigit (t.isDigit_of_mem c (hdigits ▸ List.mem_cons_self))

theorem trimStart_text : Text.trimStart t.text = t.sign.text ++ (t.digits ++ t.rest) := by
  rw [Text.trimStart, text, List.dropWhile_append_of_pos t.isBlank_of_mem]
  exact Text.trimStart_eq_self t.isBlank_head?

end IntegerText

/-- A text that begins with an integer is read as this integer, kept between the bounds. -/
theorem leadingInteger?_text {s : String} {t : IntegerText} (h : t.text = s.toList) :
    leadingInteger? s = some (saturated t.sign t.magnitude) := by
  rw [leadingInteger?, ← h, t.trimStart_text,
    signedDigits?_append t.sign t.isDigit_of_mem t.digits_ne_nil t.isDigit_head?,
    Decimal.natOf_eq_ofDigits, IntegerText.magnitude]

/-- The run of digits that follows a sign, and what is around it. -/
theorem exists_integerText_of_sign {s tail : List Char} {blanks : List Char}
    (hblanks : ∀ c ∈ blanks, Text.isBlank c = true) (σ : Sign) (hs : s = blanks ++ (σ.text ++ tail))
    (hdigits : tail.takeWhile isDigit ≠ []) : ∃ t : IntegerText, t.text = s := by
  have hrest : ∀ c ∈ (tail.dropWhile isDigit).head?, isDigit c = false := by
    intro c hc
    have hnot := List.head?_dropWhile_not isDigit tail
    rwa [Option.mem_def.mp hc] at hnot
  refine ⟨⟨blanks, σ, tail.takeWhile isDigit, tail.dropWhile isDigit, hblanks,
    fun c hc => List.mem_takeWhile_imp hc, hdigits, hrest⟩, ?_⟩
  rw [IntegerText.text, List.takeWhile_append_dropWhile, hs]

/-- Only texts that begin with an integer are read. -/
theorem exists_integerText {s : String} {n : Int} (h : leadingInteger? s = some n) :
    ∃ t : IntegerText, t.text = s.toList := by
  have hblanks : ∀ c ∈ s.toList.takeWhile Text.isBlank, Text.isBlank c = true :=
    fun c hc => List.mem_takeWhile_imp hc
  have hs : s.toList = s.toList.takeWhile Text.isBlank ++ Text.trimStart s.toList :=
    (List.takeWhile_append_dropWhile).symm
  rw [leadingInteger?] at h
  unfold signedDigits? at h
  split at h
  case h_1 tail htail =>
    rw [htail] at hs
    exact exists_integerText_of_sign hblanks .minus hs (isDigit_head?_of_leadingDigits? h)
  case h_2 tail htail =>
    rw [htail] at hs
    exact exists_integerText_of_sign hblanks .plus hs (isDigit_head?_of_leadingDigits? h)
  case h_3 =>
    exact exists_integerText_of_sign hblanks .none hs (isDigit_head?_of_leadingDigits? h)

theorem leadingInteger?_eq_none_iff {s : String} :
    leadingInteger? s = none ↔ ∀ t : IntegerText, t.text ≠ s.toList := by
  constructor
  · intro hnone t ht
    rw [leadingInteger?_text ht] at hnone
    exact nomatch hnone
  · intro h
    rw [Option.eq_none_iff_forall_ne_some]
    intro n hn
    obtain ⟨t, ht⟩ := exists_integerText hn
    exact h t ht

/-! ### Comparing -/

/-- How two texts are compared that begin with the exact integers `m` and `n`. -/
structure IsComparedAs (value bound : String) (m n : Int) : Prop where
  /-- The value is less, greater, or both at most and at least the bound. -/
  exactly_one : [lessThan value bound, greaterThan value bound,
    atMost value bound && atLeast value bound].count true = 1
  atMost_eq : atMost value bound = !greaterThan value bound
  atLeast_eq : atLeast value bound = !lessThan value bound
  /-- The exact integers decide, unless neither of them lies strictly between the bounds. -/
  exact_of_lt : m.natAbs < 2 ^ 63 - 1 ∨ n.natAbs < 2 ^ 63 - 1 →
    lessThan value bound = decide (m < n) ∧ greaterThan value bound = decide (n < m) ∧
      atMost value bound = decide (m ≤ n) ∧ atLeast value bound = decide (n ≤ m)

/-- No comparison holds unless both texts are read. -/
theorem compareIntegers_of_none (holds : Int → Int → Bool) {value bound : String}
    (h : leadingInteger? value = none ∨ leadingInteger? bound = none) :
    compareIntegers holds value bound = false := by
  unfold compareIntegers
  split
  case h_1 hvalue hbound =>
    rcases h with hnone | hnone
    · exact nomatch hvalue.symm.trans hnone
    · exact nomatch hbound.symm.trans hnone
  case h_2 => rfl

/-- Keeping integers between the bounds does not change their order if one of them lies strictly
between the bounds. -/
theorem saturated_lt_saturated_iff (σ τ : Sign) {m n : Nat}
    (h : m < largestInteger ∨ n < largestInteger) :
    saturated σ m < saturated τ n ↔ σ.apply m < τ.apply n := by
  cases σ <;> cases τ <;> simp only [saturated, Sign.apply] <;> omega

theorem IntegerText.natAbs_value (t : IntegerText) : t.value.natAbs = t.magnitude := by
  rw [value]
  cases t.sign <;> simp [Sign.apply]

section Compared

variable {value bound : String} {a b : IntegerText} (ha : a.text = value.toList)
  (hb : b.text = bound.toList)

include ha hb

/-- Texts that begin with integers are compared as the integers that are read. -/
theorem compareIntegers_text (holds : Int → Int → Bool) :
    compareIntegers holds value bound =
      holds (saturated a.sign a.magnitude) (saturated b.sign b.magnitude) := by
  rw [compareIntegers, leadingInteger?_text ha, leadingInteger?_text hb]

theorem isComparedAs : IsComparedAs value bound a.value b.value where
  exactly_one := by
    simp only [lessThan, greaterThan, atMost, atLeast, compareIntegers_text ha hb]
    rcases Int.lt_trichotomy (saturated a.sign a.magnitude) (saturated b.sign b.magnitude) with
      hlt | heq | hgt
    · simp [hlt, Int.not_lt.mpr hlt.le, Int.not_le.mpr hlt]
    · simp [heq]
    · simp [hgt, Int.not_lt.mpr hgt.le, Int.not_le.mpr hgt]
  atMost_eq := by
    simp only [greaterThan, atMost, compareIntegers_text ha hb, ← decide_not, Int.not_lt]
  atLeast_eq := by
    simp only [lessThan, atLeast, compareIntegers_text ha hb, ← decide_not, Int.not_lt]
  exact_of_lt := by
    intro h
    rw [a.natAbs_value, b.natAbs_value] at h
    have hlt := saturated_lt_saturated_iff a.sign b.sign h
    have hgt := saturated_lt_saturated_iff b.sign a.sign h.symm
    have hle := not_congr hgt
    have hge := not_congr hlt
    rw [Int.not_lt, Int.not_lt] at hle hge
    simp only [lessThan, greaterThan, atMost, atLeast, compareIntegers_text ha hb]
    exact ⟨decide_eq_decide.mpr hlt, decide_eq_decide.mpr hgt, decide_eq_decide.mpr hle,
      decide_eq_decide.mpr hge⟩

end Compared

/-- A text is read unless, after blanks and at most one sign, it does not go on with a digit, and
what is read is the exact integer, kept between the bounds. No comparison holds of a text that is
not read; other texts are less, greater or equal, and they are so as their exact integers are if one
of these lies strictly between the bounds. -/
theorem leadingInteger?_compared (value bound : String) :
    (leadingInteger? value = none ↔ ∀ t : IntegerText, t.text ≠ value.toList) ∧
    (∀ t : IntegerText, t.text = value.toList →
      leadingInteger? value = some (t.sign.apply (min t.magnitude (2 ^ 63 - 1)))) ∧
    (leadingInteger? value = none ∨ leadingInteger? bound = none →
      lessThan value bound = false ∧ greaterThan value bound = false ∧
        atMost value bound = false ∧ atLeast value bound = false) ∧
    ∀ a b : IntegerText, a.text = value.toList → b.text = bound.toList →
      IsComparedAs value bound a.value b.value := by
  refine ⟨leadingInteger?_eq_none_iff, fun t ht => leadingInteger?_text ht, fun h => ?_,
    fun a b ha hb => isComparedAs ha hb⟩
  exact ⟨compareIntegers_of_none _ h, compareIntegers_of_none _ h, compareIntegers_of_none _ h,
    compareIntegers_of_none _ h⟩

/-- A run of digits beyond the bounds, compared with a small integer, and a text without digits. -/
theorem leadingInteger?_compared_long :
    let long : IntegerText :=
      ⟨[' '], .minus, "99999999999999999999".toList, ['p', 'x'], List.all_eq_true.mp rfl,
        List.all_eq_true.mp rfl, by decide, by rintro _ ⟨⟩; rfl⟩
    let short : IntegerText :=
      ⟨[], .none, ['1', '8'], [], List.all_eq_true.mp rfl, List.all_eq_true.mp rfl, by decide,
        by rintro _ ⟨⟩⟩
    long.text = " -99999999999999999999px".toList ∧ short.text = "18".toList ∧
      leadingInteger? " -99999999999999999999px" = some (-9223372036854775807) ∧
      lessThan " -99999999999999999999px" "18" = true ∧
      leadingInteger? "- 1" = none ∧ atMost "- 1" "18" = false := by
  intro long short
  have hlong : long.text = " -99999999999999999999px".toList := by decide +kernel
  have hshort : short.text = "18".toList := by decide
  obtain ⟨-, hread, -, hcompared⟩ := leadingInteger?_compared " -99999999999999999999px" "18"
  obtain ⟨-, -, hfalse, -⟩ := leadingInteger?_compared "- 1" "18"
  have hlt := ((hcompared long short hlong hshort).exact_of_lt (by decide +kernel)).1
  have hdash : leadingInteger? "- 1" = none := by decide +kernel
  refine ⟨hlong, hshort, (hread long hlong).trans (by decide +kernel),
    hlt.trans (by decide +kernel), hdash, (hfalse (.inl hdash)).2.2.1⟩

end FormCheck.Check
