import Mathlib
import TaggedUnion.Number.Binary
import TaggedUnion.Number.IntType

/-!
# Ranges of made numbers

Numbers that are made by wrapping, by reading their written form or by a conversion lie in the
range of their type: integers between the least and the greatest one, binary numbers with fields
that fit their format.
-/

set_option autoImplicit false

namespace TaggedUnion

namespace IntType

/-- Half of the span of a type is a whole number of times one. -/
private theorem span_eq_double (kind : IntType) : kind.span = 2 * (kind.span / 2) := by
  cases kind <;> rfl

theorem span_pos (kind : IntType) : 0 < kind.span := by
  cases kind <;> decide

theorem least_le_zero (kind : IntType) : kind.least ≤ 0 := by
  unfold least
  split <;> omega

theorem wrap_holds (kind : IntType) (number : Int) : kind.Holds (kind.wrap number) := by
  have double := span_eq_double kind
  have positive := span_pos kind
  unfold Holds wrap least greatest
  cases kind.signed with
  | true =>
      have lower := Int.le_bmod (x := number) positive
      have upper := Int.bmod_lt (x := number) positive
      simp only [if_true]
      omega
  | false =>
      have lower := Int.emod_nonneg number (b := kind.span) (by omega)
      have upper := Int.emod_lt_of_pos number (b := kind.span) (by omega)
      simp only [Bool.false_eq_true, if_false]
      omega

/-- A number of a type takes no more bits than the type has. -/
theorem Holds.natAbs_lt {kind : IntType} {number : Int} (held : kind.Holds number) :
    number.natAbs < 2 ^ (8 * kind.bytes) := by
  have same : kind.span = 2 ^ (8 * kind.bytes) := by cases kind <;> rfl
  rw [← same]
  have positive := span_pos kind
  unfold Holds least greatest at held
  cases sign : kind.signed <;>
    simp only [sign, Bool.false_eq_true, if_false, if_true] at held <;> omega

theorem Holds.widens {source target : IntType} {number : Int} (held : source.Holds number)
    (widens : source.Widens target) : target.Holds number :=
  ⟨widens.1.trans held.1, held.2.trans widens.2⟩

/-- A type with all numbers up to a bound has each natural number up to it. -/
theorem Holds.of_le {kind : IntType} {bound : Int} (held : kind.Holds bound) {number : Nat}
    (small : (number : Int) ≤ bound) : kind.Holds number := by
  have least := least_le_zero kind
  exact ⟨by omega, small.trans held.2⟩

theorem holds_truth (kind : IntType) (truth : Bool) : kind.Holds (if truth then 1 else 0) := by
  cases kind <;> cases truth <;> decide

theorem holds_byte (byte : UInt8) : u8.Holds byte.toNat := by
  have small := byte.toNat_lt
  have bounds : u8.least = 0 ∧ u8.greatest = 255 := ⟨rfl, rfl⟩
  unfold Holds
  omega

theorem letter_le (letter : Char) : letter.toNat ≤ 0x10ffff := by
  rcases letter.valid with low | high
  · exact Nat.le_of_lt (Nat.lt_of_lt_of_le low (by decide))
  · exact Nat.le_of_lt_succ high.2

theorem holds_letter (letter : Char) : u32.Holds letter.toNat := by
  have all : u32.Holds 0x10ffff := by decide
  exact all.of_le (Int.ofNat_le.mpr (letter_le letter))

theorem ofText?_holds {kind : IntType} {text : String} {number : Int}
    (found : kind.ofText? text = some number) : kind.Holds number := by
  unfold IntType.ofText? at found
  have kept := Option.filter_eq_some_iff.mp found
  simpa using kept.2

end IntType

namespace Binary

theorem nan_fits (format : FloatFormat) : (nan format).Fits := by
  cases format <;> decide

theorem ofBits_fits (format : FloatFormat) (bits : Nat) : (ofBits format bits).Fits := by
  unfold ofBits
  dsimp only
  split
  · exact nan_fits format
  · have exponents : 0 < format.exponentSpan := by cases format <;> decide
    have fractions : 0 < format.fractionSpan := by cases format <;> decide
    have exponent := Nat.mod_lt (bits / format.fractionSpan) exponents
    refine ⟨?_, Nat.mod_lt _ fractions⟩
    simp only [FloatFormat.topExponent]
    omega

/-- A number that is put together from a significand and a scale fits if the significand takes at
most one bit more than the fraction and the exponent is not too great. -/
theorem ofScaled_fits {format : FloatFormat} {significand : Nat} {scale : Int} (negative : Bool)
    (short : significand < 2 ^ (format.fractionBits + 1))
    (small : format.fractionBits + scale + format.bias ≤ format.topExponent) :
    (ofScaled format negative significand scale).Fits := by
  have span : format.fractionSpan = 2 ^ format.fractionBits := by cases format <;> rfl
  have positive : 0 < format.fractionSpan := by cases format <;> decide
  unfold ofScaled
  split
  case isTrue => exact ⟨Nat.zero_le _, positive⟩
  case isFalse nonzero =>
    have leading : significand.log2 ≤ format.fractionBits :=
      Nat.lt_succ_iff.mp ((Nat.log2_lt nonzero).mpr short)
    have below : significand < 2 ^ (significand.log2 + 1) := Nat.lt_log2_self
    have aligned : significand * 2 ^ (format.fractionBits - significand.log2) <
        2 ^ (format.fractionBits + 1) := by
      calc significand * 2 ^ (format.fractionBits - significand.log2)
          < 2 ^ (significand.log2 + 1) * 2 ^ (format.fractionBits - significand.log2) :=
            Nat.mul_lt_mul_of_pos_right below (by positivity)
        _ = 2 ^ (format.fractionBits + 1) := by
            rw [← Nat.pow_add]
            congr 1
            omega
    constructor
    · show (significand.log2 + scale + format.bias).toNat ≤ format.topExponent
      omega
    · show significand * 2 ^ (format.fractionBits - significand.log2) - format.fractionSpan <
        format.fractionSpan
      rw [Nat.pow_succ] at aligned
      omega

theorem ofInt_fits {format : FloatFormat} {number : Int}
    (short : number.natAbs < 2 ^ (format.fractionBits + 1)) : (ofInt format number).Fits :=
  ofScaled_fits _ short (by cases format <;> decide)

theorem ofScaled_format (format : FloatFormat) (negative : Bool) (significand : Nat) (scale : Int) :
    (ofScaled format negative significand scale).format = format := by
  unfold ofScaled
  split <;> rfl

/-- Every number of 32 bits is one of 64 bits. -/
theorem widen_fits {number : Binary} (single : number.format = .single) (fits : number.Fits) :
    number.widen.format = .double ∧ number.widen.Fits := by
  unfold widen
  split
  · exact ⟨rfl, nan_fits .double⟩
  · split
    · have span : 0 < FloatFormat.double.fractionSpan := by decide
      exact ⟨rfl, Nat.le_refl _, span⟩
    · refine ⟨ofScaled_format .., ofScaled_fits _ ?_ ?_⟩
      · have span : number.format.fractionSpan = 2 ^ 23 := by rw [single]; rfl
        have fraction : number.fraction < number.format.fractionSpan := fits.2
        simp only [significand, FloatFormat.fractionBits]
        split <;> omega
      · have top : number.format.topExponent = 255 := by rw [single]; rfl
        have exponent : number.exponent ≤ number.format.topExponent := fits.1
        have bias : number.format.bias + number.format.fractionBits = 150 := by rw [single]; rfl
        simp only [scale, bias]
        have double : FloatFormat.double.fractionBits = 52 ∧ FloatFormat.double.bias = 1023 ∧
          FloatFormat.double.topExponent = 2047 := ⟨rfl, rfl, rfl⟩
        omega

theorem ofText?_fits {format : FloatFormat} {text : String} {number : Binary}
    (found : ofText? format text = some number) : number.format = format ∧ number.Fits := by
  unfold ofText? at found
  split at found
  · cases found
    exact ⟨rfl, nan_fits format⟩
  · split at found
    · obtain ⟨bits, -, rfl⟩ := Option.map_eq_some_iff.mp found
      refine ⟨?_, ofBits_fits format bits⟩
      unfold ofBits
      dsimp only
      split <;> rfl
    · cases found

end Binary

end TaggedUnion
