import FormCheck.Decimal.Layout
import FormCheck.Decimal.Reading
import FormCheck.Text.Basic
import Mathlib.Algebra.Group.Nat.Defs
import Mathlib.Data.List.Induction
import Mathlib.Data.Nat.Digits.Defs

/-!
# Digits that are read back

The digits of a number are read as this number, also with zeros in front of them. A number that is
padded to a width which is large enough has exactly this width, so its end is known without a look
at what follows.

## Main results

* `natOf_eq_ofDigits` : digits are read in base ten.
* `natOf_digitsOf`, `natOf_padZeros` : digits are read back.
* `length_padZeros_digitsOf` : the width of a padded number.
* `isDigit_of_mem_padZeros` : a padded number consists of digits.
* `takeWhile_isDigit_append` : where a run of digits ends.
-/

namespace FormCheck.Decimal

theorem isDigit_of_mem_digitsOf {n : Nat} {c : Char} (h : c ∈ digitsOf n) : isDigit c = true :=
  Nat.isDigit_of_mem_toDigits (by decide) (by decide) h

theorem digitsOf_ne_nil (n : Nat) : digitsOf n ≠ [] := Nat.toDigits_ne_nil

theorem natOf_eq_ofDigitChars (s : List Char) : natOf s = Nat.ofDigitChars 10 s 0 := rfl

/-- Digits are read as a number in base ten. -/
theorem natOf_eq_ofDigits (digits : List Char) :
    natOf digits = Nat.ofDigits 10 (digits.reverse.map digitValue) := by
  induction digits using List.reverseRecOn with
  | nil => rfl
  | append_singleton digits c ih =>
    rw [natOf] at ih ⊢
    rw [List.foldl_append, ih, List.reverse_append, List.map_append, Nat.ofDigits_append]
    simp [Nat.ofDigits_singleton, Nat.add_comm]

theorem digitValue_lt {c : Char} (h : isDigit c = true) : digitValue c < 10 := by
  simp only [isDigit, Bool.and_eq_true, decide_eq_true_eq, Char.le_def, UInt32.le_iff_toNat_le]
    at h
  have hhigh : c.toNat ≤ 57 := h.2
  have hzero : '0'.toNat = 48 := rfl
  rw [digitValue]
  omega

theorem digitValue_eq_zero_iff {c : Char} (h : isDigit c = true) : digitValue c = 0 ↔ c = '0' := by
  simp only [isDigit, Bool.and_eq_true, decide_eq_true_eq, Char.le_def, UInt32.le_iff_toNat_le]
    at h
  have hlow : 48 ≤ c.toNat := h.1
  have hzero : '0'.toNat = 48 := rfl
  rw [digitValue, ← Char.toNat_inj]
  omega

/-- Digits write zero if there are none but zeros among them. -/
theorem natOf_eq_zero_iff {s : List Char} (h : ∀ c ∈ s, isDigit c = true) :
    natOf s = 0 ↔ ∀ c ∈ s, c = '0' := by
  induction s using List.reverseRecOn with
  | nil => simp [natOf]
  | append_singleton s c ih =>
    rw [List.forall_mem_append, List.forall_mem_singleton] at h
    have hnat : natOf (s ++ [c]) = 10 * natOf s + digitValue c := by
      rw [natOf, natOf, List.foldl_append]
      rfl
    rw [hnat, List.forall_mem_append, List.forall_mem_singleton, ← ih h.1,
      ← digitValue_eq_zero_iff h.2]
    omega

/-- A number is less than the power of ten with as many zeros as it has digits. -/
theorem natOf_lt {s : List Char} (h : ∀ c ∈ s, isDigit c = true) : natOf s < 10 ^ s.length := by
  have hlt : ∀ d ∈ s.reverse.map digitValue, d < 10 := by
    intro d hd
    obtain ⟨c, hc, rfl⟩ := List.mem_map.mp hd
    exact digitValue_lt (h c (List.mem_reverse.mp hc))
  rw [natOf_eq_ofDigits]
  exact (Nat.ofDigits_lt_base_pow_length (by decide) hlt).trans_eq (by simp)

/-- Zeros behind a number multiply it. -/
theorem natOf_append_zeros (s : List Char) (k : Nat) :
    natOf (s ++ List.replicate k '0') = natOf s * 10 ^ k := by
  rw [natOf_eq_ofDigitChars, Nat.ofDigitChars_append, Nat.ofDigitChars_replicate_zero,
    ← natOf_eq_ofDigitChars, Nat.mul_comm]

/-- Digits are read back. -/
theorem natOf_digitsOf (n : Nat) : natOf (digitsOf n) = n := Nat.ofDigitChars_ten_toDigits

/-- Zeros in front of a number do not count. -/
theorem natOf_padZeros (width : Nat) (s : List Char) : natOf (padZeros width s) = natOf s := by
  rw [padZeros, natOf_eq_ofDigitChars, Nat.ofDigitChars_append, Nat.ofDigitChars_replicate_zero,
    Nat.mul_zero, natOf_eq_ofDigitChars]

theorem length_digitsOf_le_iff {n width : Nat} (h : 0 < width) :
    (digitsOf n).length ≤ width ↔ n < 10 ^ width :=
  Nat.length_toDigits_le_iff (by decide) h

/-- A number that is padded to a width which is large enough has this width. -/
theorem length_padZeros_digitsOf {n width : Nat} (hwidth : 0 < width) (h : n < 10 ^ width) :
    (padZeros width (digitsOf n)).length = width := by
  have hle := (length_digitsOf_le_iff hwidth).mpr h
  rw [padZeros, List.length_append, List.length_replicate]
  omega

theorem isDigit_of_mem_padZeros {n width : Nat} {c : Char}
    (h : c ∈ padZeros width (digitsOf n)) : isDigit c = true := by
  rcases List.mem_append.mp h with hzero | hdigit
  · rw [(List.mem_replicate.mp hzero).2]
    rfl
  · exact isDigit_of_mem_digitsOf hdigit

/-- A number between two powers of ten has as many digits as the larger one has zeros. -/
theorem length_digitsOf {n width : Nat} (hlow : 10 ^ width ≤ n) (hhigh : n < 10 ^ (width + 1)) :
    (digitsOf n).length = width + 1 := by
  have hle := (length_digitsOf_le_iff (Nat.succ_pos width)).mpr hhigh
  have hlt : width < (digitsOf n).length := by
    rcases Nat.eq_zero_or_pos width with rfl | hpos
    · exact List.length_pos_iff.mpr (digitsOf_ne_nil n)
    · have hnot := mt (length_digitsOf_le_iff hpos).mp (Nat.not_lt.mpr hlow)
      omega
  omega

/-- A run of digits ends where no digit follows. -/
theorem takeWhile_isDigit_append {digits rest : List Char} (h : ∀ c ∈ digits, isDigit c = true)
    (hrest : ∀ c ∈ rest.head?, isDigit c = false) :
    (digits ++ rest).takeWhile isDigit = digits := by
  rw [List.takeWhile_append_of_pos h]
  cases rest with
  | nil => exact List.append_nil digits
  | cons c rest =>
    rw [List.takeWhile_cons_of_neg (Bool.eq_false_iff.mp (hrest c rfl)), List.append_nil]

/-- A digit is not blank. -/
theorem isBlank_of_isDigit {c : Char} (h : isDigit c = true) : Text.isBlank c = false := by
  simp only [isDigit, Bool.and_eq_true, decide_eq_true_eq, Char.le_def, UInt32.le_iff_toNat_le]
    at h
  have hlow : 48 ≤ c.toNat := h.1
  have hhigh : c.toNat ≤ 57 := h.2
  simp only [Text.isBlank, Bool.or_eq_false_iff, Bool.and_eq_false_iff, decide_eq_false_iff_not,
    beq_eq_false_iff_ne, ne_eq]
  omega

end FormCheck.Decimal
