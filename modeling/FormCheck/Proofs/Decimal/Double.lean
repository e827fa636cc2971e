import FormCheck.Json.Basic
import Mathlib

/-!
# Doubles that are read from JSON

A double that is not a number is not even equal to itself. The reader of JSON never makes one: it
rounds a natural number to a double and scales it by powers of ten, and each of these powers is a
double that is finite and not zero, so that neither `0 · ∞` nor `0 / 0` nor `∞ / ∞` can come up. An
infinity may come up, and is equal to itself.

A power of ten has the 53 binary digits of a double after rounding. The powers whose exponent stays
clear of the largest one are dealt with by counting digits, and the others by evaluation.

## Main definitions

* `Decimal.isProper` : a double is finite and not zero.
* `Decimal.IsNumber` : a double is a number.

## Main results

* `Decimal.roundWithAccuracy_normal` : how many digits are left by rounding.
* `Decimal.isProper_powerOfTen` : the powers of ten are proper.
* `Decimal.isNumber_scaleBy`, `Json.Number.isNumber_of_value?` : what is read is a number.
-/

namespace FormCheck.Decimal

open Float.Model (Format UnpackedFloat totalExponent)
open Float.Model.UnpackedFloat

/-! ### Rounding -/

/-- Shifting drops binary digits. -/
theorem mantissa_shiftRight (em : ExtendedMantissa) (k : Nat) :
    (em >>> k).mantissa = em.mantissa / 2 ^ k := by
  induction k with
  | zero => exact (Nat.div_one _).symm
  | succ k ih =>
    change (em >>> k).mantissa / 2 = _
    rw [ih, Nat.div_div_eq_div_mul, Nat.pow_succ]

theorem mantissa_ofMantissaAndAccuracy (m : Nat) (accuracy : Accuracy) :
    (ExtendedMantissa.ofMantissaAndAccuracy m accuracy).mantissa = m := by
  unfold ExtendedMantissa.ofMantissaAndAccuracy
  split <;> rfl

/-- Rounding adds at most one in the last place. -/
theorem roundedMantissa_bounds (em : ExtendedMantissa) :
    em.mantissa ≤ em.roundedMantissa ∧ em.roundedMantissa ≤ em.mantissa + 1 := by
  unfold ExtendedMantissa.roundedMantissa Accuracy.roundToNearestEven
  split <;> omega

theorem ne_zero_of_log2_eq {m : Nat} (h : m.log2 = 52) : m ≠ 0 := by
  rintro rfl
  exact nomatch h

/-- A mantissa of at least 53 binary digits is cut to 53 digits, as long as the number is not too
small for them. -/
theorem shiftToTargetExponent_normal {m : Nat} {e : Int} (accuracy : Accuracy) (hm : 52 ≤ m.log2)
    (he : -1074 ≤ m.log2 + e - 52) :
    ∃ em : ExtendedMantissa, shiftToTargetExponent Format.binary64 m e accuracy =
      (em, m.log2 + e - 52) ∧ em.mantissa.log2 = 52 := by
  have htarget : Format.binary64.targetExponent (totalExponent m e) = m.log2 + e - 52 := by
    have hmantissa : (Format.binary64.mantissaBits : Int) = 53 := rfl
    have hmin : Format.binary64.minExponent = -1074 := rfl
    rw [Format.targetExponent, totalExponent, hmantissa, hmin]
    omega
  have hshift : ((m.log2 : Int) + e - 52 - e).toNat = m.log2 - 52 := by omega
  have hexponent : e + (m.log2 - 52 : Nat) = m.log2 + e - 52 := by omega
  refine ⟨ExtendedMantissa.ofMantissaAndAccuracy m accuracy >>> (m.log2 - 52), ?_, ?_⟩
  · rw [shiftToTargetExponent, htarget, shiftToExponent, hshift, hexponent]
  · rw [mantissa_shiftRight, mantissa_ofMantissaAndAccuracy, Nat.log2_eq_log_two,
      Nat.log_div_base_pow, ← Nat.log2_eq_log_two]
    omega

/-- A number of at least 53 binary digits is rounded to 53 digits. -/
theorem roundWithAccuracy_normal (s : Sign) {m : Nat} {e : Int} (accuracy : Accuracy)
    (hm : 52 ≤ m.log2) (he : -1074 ≤ m.log2 + e - 52) :
    ∃ m' e' h, roundWithAccuracy Format.binary64 s m e accuracy = .finite s m' e' h ∧
      m'.log2 = 52 ∧ m.log2 + e - 52 ≤ e' ∧ e' ≤ m.log2 + e - 51 := by
  obtain ⟨em, hcut, hlog⟩ := shiftToTargetExponent_normal accuracy hm he
  -- One more in the last place makes at most one more digit, which is cut again.
  obtain ⟨hlow, hhigh⟩ := roundedMantissa_bounds em
  obtain ⟨hpow, hlt⟩ := (Nat.log2_eq_iff (ne_zero_of_log2_eq hlog)).mp hlog
  have hrounded : em.roundedMantissa ≠ 0 := by omega
  have hatLeast : 52 ≤ em.roundedMantissa.log2 := (Nat.le_log2 hrounded).mpr (by omega)
  have hless : em.roundedMantissa.log2 < 54 := (Nat.log2_lt hrounded).mpr (by omega)
  obtain ⟨em', hcut', hlog'⟩ :=
    shiftToTargetExponent_normal (e := m.log2 + e - 52) .exact hatLeast (by omega)
  have hne := ne_zero_of_log2_eq hlog'
  refine ⟨em'.mantissa, em.roundedMantissa.log2 + (m.log2 + e - 52) - 52, Nat.pos_of_ne_zero hne,
    ?_, hlog', by omega, by omega⟩
  simp only [roundWithAccuracy, hcut, hcut', dif_neg hne]

/-- Rounding never leaves the numbers. -/
theorem isNaN_roundWithAccuracy (spec : Format) (s : Sign) (m : Nat) (e : Int)
    (accuracy : Accuracy) : (roundWithAccuracy spec s m e accuracy).isNaN = false := by
  unfold roundWithAccuracy
  dsimp only
  split <;> rfl

theorem isNaN_ofNat (spec : Format) (n : Nat) : (ofNat spec n).isNaN = false := by
  unfold ofNat ofInt UnpackedFloat.normalize
  split
  · exact isNaN_roundWithAccuracy ..
  · rfl
  · exact isNaN_roundWithAccuracy ..

/-! ### Packing -/

/-- What is unpacked is a number unless its exponent is the largest one and its mantissa is not
zero. -/
theorem isNaN_unpack {spec : Format} {b : BitVec spec.numBits}
    (h : unpackExponent b = -1#_ → unpackMantissa b = 0#_) :
    (UnpackedFloat.unpack spec b).isNaN = false := by
  rw [UnpackedFloat.unpack]
  split
  · next hlargest =>
    rw [if_pos (h hlargest)]
    rfl
  · split
    · split <;> rfl
    · rfl

/-- An exponent that is small enough to be packed as it is stays below the largest one. -/
theorem ofNat_ne_neg_one {biased : Nat} (h : ¬ 2 ^ 11 ≤ biased + 1) :
    BitVec.ofNat 11 biased ≠ -1#11 := by
  intro heq
  have hvalue := congrArg BitVec.toNat heq
  rw [BitVec.toNat_ofNat, Nat.mod_eq_of_lt (by omega)] at hvalue
  have hlargest : (-1#11).toNat = 2047 := rfl
  omega

/-- A number is still a number when it has been packed. -/
theorem isNaN_unpack_pack {u : UnpackedFloat} (h : u.isNaN = false) :
    (Float.Model.pack u).unpack.isNaN = false := by
  refine isNaN_unpack (b := UnpackedFloat.pack Format.binary64 u) fun hlargest => ?_
  unfold UnpackedFloat.pack at hlargest ⊢
  cases u with
  | notANumber => exact nomatch h
  | infinity s => exact unpackMantissa_packComponents
  | zero s => exact unpackMantissa_packComponents
  | finite s m e hm =>
    dsimp only at hlargest ⊢
    split at hlargest
    · next hlarge =>
      rw [if_pos hlarge]
      exact unpackMantissa_packComponents
    · next hsmall =>
      exfalso
      split at hlargest
      · rw [unpackExponent_packComponents] at hlargest
        exact ofNat_ne_neg_one hsmall hlargest
      · rw [unpackExponent_packComponents] at hlargest
        exact nomatch hlargest

/-- An unpacked double that is finite and not zero. -/
def isProper : UnpackedFloat → Bool
  | .finite .. => true
  | _ => false

/-- A number with 53 binary digits and an exponent of a double is proper when it has been packed. -/
theorem isProper_unpack_pack (s : Sign) {m : Nat} {e : Int} (hm : 0 < m) (hdigits : m.log2 = 52)
    (hlow : -1074 ≤ e) (hhigh : e ≤ 971) :
    isProper (Float.Model.pack (.finite s m e hm)).unpack = true := by
  have hbias : (Format.binary64.exponentBias : Int) = 1023 := rfl
  have hsmall : ¬ 2 ^ 11 ≤ (e + 1023 + (52 : Nat)).toNat + 1 := by omega
  have hexponent : BitVec.ofNat 11 (e + 1023 + (52 : Nat)).toNat ≠ 0#11 := by
    intro heq
    have hvalue := congrArg BitVec.toNat heq
    rw [BitVec.toNat_ofNat, Nat.mod_eq_of_lt (by omega)] at hvalue
    have hzero : (0#11).toNat = 0 := rfl
    omega
  have hpack : UnpackedFloat.pack Format.binary64 (.finite s m e hm) =
      packComponents Format.binary64 s (BitVec.ofNat 11 (e + 1023 + (52 : Nat)).toNat)
        (BitVec.ofNat 52 m) := by
    rw [UnpackedFloat.pack, hbias]
    dsimp only
    rw [if_neg hsmall, if_pos (by rw [hdigits]; rfl)]
  change isProper (UnpackedFloat.unpack Format.binary64
    (UnpackedFloat.pack Format.binary64 (.finite s m e hm))) = true
  rw [hpack, UnpackedFloat.unpack]
  simp only [unpackExponent_packComponents]
  rw [if_neg (ofNat_ne_neg_one hsmall), if_neg hexponent]
  rfl

/-! ### Operations -/

theorem isNaN_neg {u : UnpackedFloat} (h : u.isNaN = false) : u.neg.isNaN = false := by
  cases u with
  | notANumber => exact nomatch h
  | infinity => rfl
  | zero => rfl
  | finite => rfl

theorem isNaN_mul {u v : UnpackedFloat} (hu : u.isNaN = false) (hv : isProper v = true) :
    (UnpackedFloat.mul Format.binary64 u v).isNaN = false := by
  cases v with
  | finite =>
    cases u with
    | notANumber => exact nomatch hu
    | infinity => rfl
    | zero => rfl
    | finite => exact isNaN_roundWithAccuracy ..
  | _ => exact nomatch hv

theorem isNaN_div {u v : UnpackedFloat} (hu : u.isNaN = false) (hv : isProper v = true) :
    (UnpackedFloat.div Format.binary64 u v).isNaN = false := by
  cases v with
  | finite =>
    cases u with
    | notANumber => exact nomatch hu
    | infinity => rfl
    | zero => rfl
    | finite => exact isNaN_roundWithAccuracy ..
  | _ => exact nomatch hv

/-! ### Powers of ten -/

theorem isProper_powerOfTen_le_22 : ∀ n ≤ 22, isProper (powerOfTen n).toModel.unpack = true := by
  decide +kernel

theorem isProper_powerOfTen_308 : isProper (powerOfTen 308).toModel.unpack = true := by
  decide +kernel

/-- A power of ten with an exponent above 22 is rounded, from a mantissa with 53 zeros added. -/
theorem powerOfTen_eq {n : Nat} (hlow : 22 < n) (hhigh : n ≤ 307) :
    (powerOfTen n).toModel = Float.Model.pack (roundWithAccuracy Format.binary64 .positive
      (2 ^ 53 * 10 ^ n) (-53) .exact) := by
  have hn : ¬ (1 < 2 ^ 53 ∧ n ≤ 22) := by omega
  have hmodel : (powerOfTen n).toModel = Float.Model.ofScientific 1 n := by
    rw [powerOfTen, Float.ofScientific, dif_neg hn]
    rfl
  have hlarge : ¬ ((n : Int) > 2 ^ 11) := by omega
  have hsmall : ¬ ((n : Int) < -((2 ^ 11 : Int) + (1 : Nat).log2)) := by omega
  rw [hmodel, Float.Model.ofScientific, UnpackedFloat.ofScientific, dif_neg Nat.one_ne_zero,
    if_neg hlarge, if_neg hsmall, if_pos (Int.natCast_nonneg n)]
  rfl

theorem log2_two_pow_mul {m : Nat} (h : m ≠ 0) (k : Nat) : (2 ^ k * m).log2 = k + m.log2 := by
  have hne : 2 ^ k * m ≠ 0 := Nat.mul_ne_zero (Nat.two_pow_pos k).ne' h
  obtain ⟨hlow, hhigh⟩ := (Nat.log2_eq_iff h).mp rfl
  rw [Nat.log2_eq_iff hne, Nat.add_assoc, Nat.pow_add, Nat.pow_add]
  exact ⟨Nat.mul_le_mul_left _ hlow, Nat.mul_lt_mul_of_pos_left hhigh (Nat.two_pow_pos k)⟩

theorem log2_ten_pow_le : ∀ n ≤ 307, (10 ^ n).log2 ≤ 1019 := by
  decide +kernel

/-- Powers of ten are finite doubles that are not zero. -/
theorem isProper_powerOfTen {n : Nat} (h : n ≤ 308) :
    isProper (powerOfTen n).toModel.unpack = true := by
  rcases Nat.lt_or_ge 22 n with hlow | hsmall
  · rcases Nat.lt_or_ge 307 n with hlast | hhigh
    · -- By its number of digits alone, the last one might be rounded up to an infinity.
      obtain rfl : n = 308 := by omega
      exact isProper_powerOfTen_308
    · have hlog : (2 ^ 53 * 10 ^ n).log2 = 53 + (10 ^ n).log2 :=
        log2_two_pow_mul (Nat.pow_pos (by decide)).ne' 53
      have hpow : (10 ^ n).log2 ≤ 1019 := log2_ten_pow_le n hhigh
      obtain ⟨m, e, hm, hround, hdigits, hleast, hmost⟩ := roundWithAccuracy_normal .positive
        (m := 2 ^ 53 * 10 ^ n) (e := -53) .exact (by omega) (by omega)
      rw [powerOfTen_eq hlow hhigh, hround]
      exact isProper_unpack_pack .positive hm hdigits (by omega) (by omega)
  · exact isProper_powerOfTen_le_22 n hsmall

/-! ### Reading -/

/-- A double is a number, which may be infinite. -/
def IsNumber (x : Float) : Prop := x.isNaN = false

namespace IsNumber

variable {x : Float}

theorem beq_self (h : IsNumber x) : (x == x) = true := by
  rwa [IsNumber, Float.isNaN_eq_decide_eq_nan, decide_eq_false_iff_not, ← ne_eq,
    ← Float.beq_self_iff] at h

theorem neg (h : IsNumber x) : IsNumber (-x) := isNaN_unpack_pack (isNaN_neg h)

theorem mul_powerOfTen (h : IsNumber x) {n : Nat} (hn : n ≤ 308) : IsNumber (x * powerOfTen n) :=
  isNaN_unpack_pack (isNaN_mul h (isProper_powerOfTen hn))

theorem div_powerOfTen (h : IsNumber x) {n : Nat} (hn : n ≤ 308) : IsNumber (x / powerOfTen n) :=
  isNaN_unpack_pack (isNaN_div h (isProper_powerOfTen hn))

end IsNumber

theorem isNumber_toFloat (n : UInt64) : IsNumber n.toFloat :=
  isNaN_unpack_pack (isNaN_ofNat _ _)

theorem isNumber_zero : IsNumber 0.0 := by
  unfold IsNumber
  decide +kernel

/-- Scaling a number gives a number. -/
theorem isNumber_scaleBy {steps : Nat} {x y : Float} {e : Int} (hx : IsNumber x)
    (h : scaleBy steps x e = some y) : IsNumber y := by
  fun_induction scaleBy steps x e with
  | case1 => exact nomatch h
  | case2 steps x e hnonneg hsmall product hfinite =>
    rw [← Option.some.inj h]
    exact hx.mul_powerOfTen (by omega)
  | case3 =>
    cases h
    exact hx
  | case4 => exact nomatch h
  | case5 steps x e hneg hsmall =>
    cases h
    exact hx.div_powerOfTen (by omega)
  | case6 =>
    cases h
    exact isNumber_zero
  | case7 =>
    cases h
    exact hx
  | case8 x e hneg hlarge steps hne ih => exact ih (hx.div_powerOfTen (Nat.le_refl 308)) h

theorem isNumber_scaled {whole places : List Char} {e : Int} {x : Float}
    (h : scaled whole places e = some x) : IsNumber x :=
  isNumber_scaleBy (isNumber_toFloat _) h

end FormCheck.Decimal

namespace FormCheck.Json

open Decimal (IsNumber)

theorem Numeric.isNumber_ofWhole (n : Int) : IsNumber (Numeric.ofWhole n) := by
  unfold ofWhole
  split
  · exact (Decimal.isNumber_toFloat _).neg
  · exact Decimal.isNumber_toFloat _

/-- What a number in a JSON document stands for is a number. -/
theorem Number.isNumber_of_value? {n : Number} {x : Numeric} (h : n.value? = some x) :
    IsNumber x.toFloat := by
  dsimp only [value?] at h
  split at h
  · rw [← Option.some.inj h]
    exact Numeric.isNumber_ofWhole _
  split at h
  · rw [← Option.some.inj h]
    exact Numeric.isNumber_ofWhole _
  · obtain ⟨y, hscaled, rfl⟩ := Option.map_eq_some_iff.mp h
    have hy := Decimal.isNumber_scaled hscaled
    rw [Numeric.toFloat]
    split
    · exact hy.neg
    · exact hy

end FormCheck.Json
