import FormCheck.Check.Comparison
import FormCheck.Proofs.Check.Integer

/-!
# Lengths compared as integers

A length check compares the number of characters of a value with the integer of the parameter. This
is the comparison of integers with the decimal text of that number in place of the value: a number
that is written in decimal is read back, up to the largest integer, and lengths are kept below the
same bound.

## Main results

* `Check.leadingInteger?_toString` : the decimal text of a natural number is read back.
* `Check.compareLength_eq_compareIntegers` : a length is compared as its decimal text is.
* `Check.lengths_compared` : the three length checks together.
-/

namespace FormCheck.Check

/-! ### Decimal texts -/

/-- The decimal text of a natural number, as a text that begins with an integer. -/
def IntegerText.ofNat (n : Nat) : IntegerText where
  blanks := []
  sign := .none
  digits := Decimal.digitsOf n
  rest := []
  isBlank_of_mem := List.forall_mem_nil _
  isDigit_of_mem := fun _ => Decimal.isDigit_of_mem_digitsOf
  digits_ne_nil := Decimal.digitsOf_ne_nil n
  isDigit_head? := fun _ hc => nomatch hc

theorem IntegerText.text_ofNat (n : Nat) : (IntegerText.ofNat n).text = (toString n).toList := by
  have htext : (IntegerText.ofNat n).text = Decimal.digitsOf n := List.append_nil _
  rw [htext, Nat.toString_eq_ofList_toDigits, String.toList_ofList, Decimal.digitsOf]

theorem IntegerText.magnitude_ofNat (n : Nat) : (IntegerText.ofNat n).magnitude = n := by
  rw [magnitude, ← Decimal.natOf_eq_ofDigits]
  exact Decimal.natOf_digitsOf n

/-- The decimal text of a natural number is read as this number, up to the largest integer. -/
theorem leadingInteger?_toString (n : Nat) :
    leadingInteger? (toString n) = some (min (n : Int) largestInteger) := by
  rw [leadingInteger?_text (IntegerText.text_ofNat n), IntegerText.magnitude_ofNat,
    ← Nat.cast_min]
  rfl

/-! ### Lengths -/

/-- A length is compared as its decimal text is, whatever the relation. -/
theorem compareLength_eq_compareIntegers (holds : Int → Int → Bool) (value param : String) :
    compareLength holds value param = compareIntegers holds (toString value.length) param := by
  have hlength : lengthOf value = min (value.length : Int) largestInteger := by
    rw [lengthOf, String.length_toList]
  rw [compareLength, compareIntegers, leadingInteger?_toString, hlength]
  cases leadingInteger? param <;> rfl

/-- A length is exact if it is at least and at most as large. -/
theorem hasLength_eq (value param : String) :
    hasLength value param = (hasMinLength value param && hasMaxLength value param) := by
  unfold hasLength hasMinLength hasMaxLength compareLength
  cases leadingInteger? param with
  | none => rfl
  | some n =>
    rw [Bool.eq_iff_iff, beq_iff_eq, Bool.and_eq_true, decide_eq_true_iff, decide_eq_true_iff]
    omega

theorem compareLength_of_none (holds : Int → Int → Bool) (value : String) {param : String}
    (h : leadingInteger? param = none) : compareLength holds value param = false := by
  rw [compareLength, h]

/-- A length is at least or at most as large as any integer. -/
theorem hasMinLength_or_hasMaxLength (value : String) {param : String}
    (h : leadingInteger? param ≠ none) :
    hasMinLength value param = true ∨ hasMaxLength value param = true := by
  obtain ⟨n, hn⟩ := Option.ne_none_iff_exists'.mp h
  unfold hasMinLength hasMaxLength compareLength
  rw [hn, decide_eq_true_iff, decide_eq_true_iff]
  omega

/-- The checks of the least and the greatest length are the inclusive comparisons of integers,
applied to the decimal text of the number of characters, and a value has an exact length if it
passes both. So no value passes with a parameter that begins with no integer, and with any other
parameter every value is long enough or short enough. -/
theorem lengths_compared (value param : String) :
    let length := toString value.length
    hasMinLength value param = atLeast length param ∧
      hasMaxLength value param = atMost length param ∧
      hasLength value param = (hasMinLength value param && hasMaxLength value param) ∧
      (leadingInteger? param = none → hasMinLength value param = false ∧
        hasMaxLength value param = false ∧ hasLength value param = false) ∧
      (leadingInteger? param ≠ none →
        hasMinLength value param = true ∨ hasMaxLength value param = true) := by
  intro length
  refine ⟨compareLength_eq_compareIntegers _ value param,
    compareLength_eq_compareIntegers _ value param, hasLength_eq value param, fun hnone => ?_,
    hasMinLength_or_hasMaxLength value⟩
  exact ⟨compareLength_of_none _ value hnone, compareLength_of_none _ value hnone,
    compareLength_of_none _ value hnone⟩

/-- Characters are counted, not bytes; a parameter is read like an integer, and one without digits
fits no value. -/
theorem lengths_compared_accented :
    leadingInteger? " +5 characters" ≠ none ∧ leadingInteger? "five" = none ∧
      hasMinLength "héllo" " +5 characters" = atLeast "5" " +5 characters" ∧
      (hasMinLength "héllo" " +5 characters" = true ∨
        hasMaxLength "héllo" " +5 characters" = true) ∧
      hasLength "héllo" " +5 characters" = true ∧ hasLength "héllo" "five" = false := by
  have hsome : leadingInteger? " +5 characters" ≠ none := by decide +kernel
  have hnone : leadingInteger? "five" = none := by decide +kernel
  obtain ⟨hmin, -, -, -, heither⟩ := lengths_compared "héllo" " +5 characters"
  obtain ⟨-, -, -, hneither, -⟩ := lengths_compared "héllo" "five"
  have hlength : toString "héllo".length = "5" := by decide +kernel
  rw [hlength] at hmin
  exact ⟨hsome, hnone, hmin, heither hsome, by decide +kernel, (hneither hnone).2.2⟩

end FormCheck.Check
