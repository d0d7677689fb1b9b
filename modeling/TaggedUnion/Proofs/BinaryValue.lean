import Mathlib
import TaggedUnion.Number.Binary

/-!
# What binary numbers stand for

A finite number stands for a rational number, a whole multiple of the least positive number of its
format; two more stand for the infinities, and what is not a number stands for nothing. Two numbers
of a format that stand for something stand for the same exactly if their fields are the same or both
are a zero.
-/

set_option autoImplicit false

namespace TaggedUnion

/-- What a binary number can stand for. -/
inductive Amount where
  | finite (value : ℚ)
  | infinite (negative : Bool)
  deriving DecidableEq

/-- The least positive number of a format. -/
def FloatFormat.least (format : FloatFormat) : ℚ :=
  2 ^ (1 - (format.bias + format.fractionBits : Nat) : ℤ)

namespace Binary

/-- The rational number that a finite number stands for. -/
def value (number : Binary) : ℚ :=
  (if number.negative then -1 else 1) * number.significand * 2 ^ number.scale

example : (⟨.single, true, 127, 4194304⟩ : Binary).value = -3 / 2 := by decide +kernel

def amount? (number : Binary) : Option Amount :=
  if number.isNaN then none
  else if number.isInfinite then some (.infinite number.negative)
  else some (.finite number.value)

/-- How many times the least positive number a finite number is, apart from its sign. -/
def magnitude (number : Binary) : Nat := number.significand * 2 ^ (number.exponent - 1)

/-- How many times the least positive number a finite number is. -/
def multiple (number : Binary) : ℤ :=
  if number.negative then -number.magnitude else number.magnitude

variable {left right number : Binary}

theorem value_eq (number : Binary) : number.value = number.multiple * number.format.least := by
  have exponent : number.scale =
      (number.exponent - 1 : Nat) + (1 - (number.format.bias + number.format.fractionBits : Nat) : ℤ) := by
    unfold scale
    omega
  have magnitude : (number.significand : ℚ) * 2 ^ number.scale =
      number.magnitude * number.format.least := by
    rw [exponent, zpow_add₀ two_ne_zero, zpow_natCast, ← mul_assoc, Binary.magnitude, FloatFormat.least]
    push_cast
    rfl
  unfold value multiple
  rw [mul_assoc, magnitude]
  split <;> push_cast <;> ring

theorem value_inj (same : left.format = right.format) :
    left.value = right.value ↔ left.multiple = right.multiple := by
  have nonzero : right.format.least ≠ 0 := zpow_ne_zero _ two_ne_zero
  rw [value_eq, value_eq, same, mul_left_inj' nonzero, Int.cast_inj]

/-! ## Magnitudes tell the exponent and the fraction -/

theorem magnitude_lt (fits : number.Fits) :
    number.magnitude < number.format.fractionSpan * 2 ^ number.exponent := by
  have below := fits.2
  have positive : 0 < 2 ^ (number.exponent - 1) := Nat.two_pow_pos _
  unfold magnitude significand
  split
  · rename_i subnormal
    rw [subnormal, Nat.zero_sub, Nat.pow_zero]
    omega
  · rename_i normal
    have double : number.format.fractionSpan * 2 ^ number.exponent =
        2 * number.format.fractionSpan * 2 ^ (number.exponent - 1) := by
      rw [← Nat.two_pow_pred_mul_two (Nat.pos_of_ne_zero normal)]
      ring
    rw [double]
    apply Nat.mul_lt_mul_of_pos_right _ positive
    omega

theorem le_magnitude (normal : number.exponent ≠ 0) :
    number.format.fractionSpan * 2 ^ (number.exponent - 1) ≤ number.magnitude := by
  unfold magnitude significand
  rw [if_neg normal]
  exact Nat.mul_le_mul_right _ (Nat.le_add_right _ _)

theorem magnitude_lt_of_exponent_lt (same : left.format = right.format) (fits : left.Fits)
    (less : left.exponent < right.exponent) : left.magnitude < right.magnitude := by
  have step : 2 ^ left.exponent ≤ 2 ^ (right.exponent - 1) :=
    Nat.pow_le_pow_right (by decide) (by omega)
  calc left.magnitude
      < left.format.fractionSpan * 2 ^ left.exponent := magnitude_lt fits
    _ ≤ left.format.fractionSpan * 2 ^ (right.exponent - 1) := Nat.mul_le_mul_left _ step
    _ = right.format.fractionSpan * 2 ^ (right.exponent - 1) := by rw [same]
    _ ≤ right.magnitude := le_magnitude (by omega)

theorem magnitude_inj (same : left.format = right.format) (leftFits : left.Fits)
    (rightFits : right.Fits) (equal : left.magnitude = right.magnitude) :
    left.exponent = right.exponent ∧ left.fraction = right.fraction := by
  have exponents : left.exponent = right.exponent := by
    rcases Nat.lt_trichotomy left.exponent right.exponent with less | exponents | greater
    · have := magnitude_lt_of_exponent_lt same leftFits less
      omega
    · exact exponents
    · have := magnitude_lt_of_exponent_lt same.symm rightFits greater
      omega
  have positive : 0 < 2 ^ (right.exponent - 1) := Nat.two_pow_pos _
  unfold magnitude at equal
  rw [exponents] at equal
  have significands := Nat.eq_of_mul_eq_mul_right positive equal
  unfold significand at significands
  rw [exponents, same] at significands
  refine ⟨exponents, ?_⟩
  split at significands <;> omega

theorem magnitude_eq_zero_iff : number.magnitude = 0 ↔ number.isZero = true := by
  have span : 0 < number.format.fractionSpan := by cases number.format <;> decide
  have power : 2 ^ (number.exponent - 1) ≠ 0 := (Nat.two_pow_pos _).ne'
  rw [isZero, Bool.and_eq_true, beq_iff_eq, beq_iff_eq, magnitude, Nat.mul_eq_zero, or_iff_left power,
    significand]
  split <;> omega

/-! ## Equality -/

/-- Finite numbers stand for the same exactly if they are the same or both are a zero. -/
theorem multiple_inj (same : left.format = right.format) (leftFits : left.Fits)
    (rightFits : right.Fits) :
    left.multiple = right.multiple ↔ left = right ∨ left.isZero = true ∧ right.isZero = true := by
  rw [← magnitude_eq_zero_iff, ← magnitude_eq_zero_iff]
  constructor
  · intro equal
    unfold multiple at equal
    by_cases signs : left.negative = right.negative
    · rw [signs] at equal
      have magnitudes : left.magnitude = right.magnitude := by
        split at equal <;> omega
      obtain ⟨exponents, fractions⟩ := magnitude_inj same leftFits rightFits magnitudes
      left
      cases left
      cases right
      simp_all
    · right
      cases leftSign : left.negative <;> cases rightSign : right.negative <;>
        simp only [leftSign, rightSign, if_true, Bool.false_eq_true, if_false, not_true] at signs equal
      all_goals omega
  · rintro (rfl | ⟨leftZero, rightZero⟩)
    · rfl
    · simp only [multiple, leftZero, rightZero, Int.ofNat_zero, neg_zero, ite_self]

theorem isZero_of_infinite (infinite : number.isInfinite = true) : number.isZero = false := by
  have top : number.format.topExponent ≠ 0 := by cases number.format <;> decide
  rw [isInfinite, Bool.and_eq_true, beq_iff_eq] at infinite
  rw [isZero, infinite.1, beq_eq_false_iff_ne.mpr top, Bool.false_and]

theorem infinite_inj (same : left.format = right.format) (leftInfinite : left.isInfinite = true)
    (rightInfinite : right.isInfinite = true) : left.negative = right.negative ↔ left = right := by
  rw [isInfinite, Bool.and_eq_true, beq_iff_eq, beq_iff_eq] at leftInfinite rightInfinite
  cases left
  cases right
  simp_all

theorem amount?_of_infinite (infinite : number.isInfinite = true) :
    number.amount? = some (.infinite number.negative) := by
  have fraction : number.fraction = 0 := by
    rw [isInfinite, Bool.and_eq_true, beq_iff_eq, beq_iff_eq] at infinite
    exact infinite.2
  rw [amount?, isNaN, fraction, bne_self_eq_false, Bool.and_false, if_neg Bool.false_ne_true,
    if_pos infinite]

theorem amount?_of_finite (isNumber : number.isNaN = false) (finite : number.isInfinite = false) :
    number.amount? = some (.finite number.value) := by
  rw [amount?, isNumber, finite, if_neg Bool.false_ne_true, if_neg Bool.false_ne_true]

theorem amount?_isSome_iff : number.amount?.isSome = true ↔ number.isNaN = false := by
  unfold amount?
  cases number.isNaN with
  | true => simp only [if_true, Option.isSome_none, Bool.false_eq_true, Bool.true_eq_false]
  | false => simp only [Bool.false_eq_true, if_false, iff_true]; split <;> rfl

theorem amount?_inj (same : left.format = right.format) (leftFits : left.Fits) (rightFits : right.Fits)
    (leftNumber : left.isNaN = false) (rightNumber : right.isNaN = false) :
    left.amount? = right.amount? ↔ left = right ∨ left.isZero = true ∧ right.isZero = true := by
  cases leftKind : left.isInfinite with
  | true =>
      rw [isZero_of_infinite leftKind, amount?_of_infinite leftKind]
      simp only [Bool.false_eq_true, false_and, or_false]
      cases rightKind : right.isInfinite with
      | true =>
          rw [amount?_of_infinite rightKind, Option.some_inj, Amount.infinite.injEq]
          exact infinite_inj same leftKind rightKind
      | false =>
          rw [amount?_of_finite rightNumber rightKind]
          constructor
          · exact nofun
          · rintro rfl
            exact absurd (rightKind.symm.trans leftKind) Bool.false_ne_true
  | false =>
      rw [amount?_of_finite leftNumber leftKind]
      cases rightKind : right.isInfinite with
      | true =>
          rw [isZero_of_infinite rightKind, amount?_of_infinite rightKind]
          simp only [Bool.false_eq_true, and_false, or_false]
          constructor
          · exact nofun
          · rintro rfl
            exact absurd (leftKind.symm.trans rightKind) Bool.false_ne_true
      | false =>
          rw [amount?_of_finite rightNumber rightKind, Option.some_inj, Amount.finite.injEq,
            value_inj same]
          exact multiple_inj same leftFits rightFits

/-- Numbers of a format are equal if they stand for the same, and not if one stands for nothing. -/
theorem equal_iff_amount (same : left.format = right.format) (leftFits : left.Fits)
    (rightFits : right.Fits) :
    left.equal right = true ↔ ∃ amount, left.amount? = some amount ∧ right.amount? = some amount := by
  have decided : left.equal right = true ↔ (left.isNaN = false ∧ right.isNaN = false) ∧
      (left = right ∨ left.isZero = true ∧ right.isZero = true) := by
    simp only [equal, Bool.and_eq_true, Bool.or_eq_true, Bool.not_eq_true', beq_iff_eq]
  rw [decided]
  constructor
  · rintro ⟨⟨leftNumber, rightNumber⟩, alike⟩
    obtain ⟨amount, found⟩ := Option.isSome_iff_exists.mp (amount?_isSome_iff.mpr rightNumber)
    have amounts := (amount?_inj same leftFits rightFits leftNumber rightNumber).mpr alike
    exact ⟨amount, amounts.trans found, found⟩
  · rintro ⟨amount, leftFound, rightFound⟩
    have leftNumber := amount?_isSome_iff.mp (Option.isSome_of_eq_some leftFound)
    have rightNumber := amount?_isSome_iff.mp (Option.isSome_of_eq_some rightFound)
    have amounts := leftFound.trans rightFound.symm
    exact ⟨⟨leftNumber, rightNumber⟩,
      (amount?_inj same leftFits rightFits leftNumber rightNumber).mp amounts⟩

example : (⟨.double, true, 0, 0⟩ : Binary).equal ⟨.double, false, 0, 0⟩ = true := by decide

end Binary

end TaggedUnion
