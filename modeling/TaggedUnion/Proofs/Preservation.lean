import TaggedUnion.Proofs.Equality
import TaggedUnion.Proofs.Identities

/-!
# What conversions preserve

A value and its image under a conversion stand for the same number, or spell the same text, or the
image is the value itself in a wider type. Each of the three ties the image to its source: the images
of two values are equal exactly if the values are.
-/

set_option autoImplicit false

namespace TaggedUnion

open Registry

/-! ## Made binary numbers -/

namespace Binary

variable {format : FloatFormat} {number : Binary}

/-- A number that is put together from a significand and a scale is their product, if the significand
takes at most one bit more than the fraction and the exponent does not become too small. -/
theorem value_ofScaled {significand : Nat} {scale : Int} (negative : Bool)
    (short : significand < 2 ^ (format.fractionBits + 1))
    (normal : significand ≠ 0 → 0 < significand.log2 + scale + format.bias) :
    (ofScaled format negative significand scale).value =
      (if negative then -1 else 1) * significand * 2 ^ scale := by
  by_cases zero : significand = 0
  · subst zero
    simp only [ofScaled, if_true, value, Binary.significand, Nat.cast_zero, mul_zero, zero_mul]
  · have exponent := normal zero
    have leading : significand.log2 ≤ format.fractionBits :=
      Nat.lt_succ_iff.mp ((Nat.log2_lt zero).mpr short)
    have span : format.fractionSpan = 2 ^ format.fractionBits := by cases format <;> rfl
    have aligned : format.fractionSpan ≤ significand * 2 ^ (format.fractionBits - significand.log2) := by
      calc format.fractionSpan
          = 2 ^ significand.log2 * 2 ^ (format.fractionBits - significand.log2) := by
            rw [span, ← Nat.pow_add, Nat.add_sub_of_le leading]
        _ ≤ significand * 2 ^ (format.fractionBits - significand.log2) :=
            Nat.mul_le_mul_right _ (Nat.log2_self_le zero)
    have made : ofScaled format negative significand scale =
        ⟨format, negative, (significand.log2 + scale + format.bias).toNat,
          significand * 2 ^ (format.fractionBits - significand.log2) - format.fractionSpan⟩ := if_neg zero
    have madeSignificand : (ofScaled format negative significand scale).significand =
        significand * 2 ^ (format.fractionBits - significand.log2) := by
      have nonzero : (significand.log2 + scale + format.bias).toNat ≠ 0 := by omega
      rw [made, Binary.significand, if_neg nonzero, Nat.add_sub_of_le aligned]
    have madeScale : (ofScaled format negative significand scale).scale =
        scale - (format.fractionBits - significand.log2 : Nat) := by
      rw [made, Binary.scale]
      dsimp only
      omega
    rw [value, madeSignificand, madeScale, zpow_sub₀ two_ne_zero, zpow_natCast, made]
    push_cast
    field_simp

/-- Such a number is finite if the exponent does not become too great. -/
theorem amount?_ofScaled {significand : Nat} {scale : Int} (negative : Bool)
    (short : significand < 2 ^ (format.fractionBits + 1))
    (normal : significand ≠ 0 → 0 < significand.log2 + scale + format.bias)
    (small : format.fractionBits + scale + format.bias < format.topExponent) :
    (ofScaled format negative significand scale).amount? =
      some (.finite ((if negative then -1 else 1) * significand * 2 ^ scale)) := by
  have below : (ofScaled format negative significand scale).exponent ≠
      (ofScaled format negative significand scale).format.topExponent := by
    rw [ofScaled_format]
    unfold ofScaled
    split
    · show 0 ≠ format.topExponent
      cases format <;> decide
    · rename_i nonzero
      have leading : significand.log2 ≤ format.fractionBits :=
        Nat.lt_succ_iff.mp ((Nat.log2_lt nonzero).mpr short)
      dsimp only
      omega
  rw [amount?_of_finite, value_ofScaled negative short normal]
  · rw [isNaN, beq_eq_false_iff_ne.mpr below, Bool.false_and]
  · rw [isInfinite, beq_eq_false_iff_ne.mpr below, Bool.false_and]

/-- An integer of at most one bit more than the fraction is kept exactly. -/
theorem amount?_ofInt {number : Int} (short : number.natAbs < 2 ^ (format.fractionBits + 1)) :
    (ofInt format number).amount? = some (.finite number) := by
  have signed : ((if decide (number < 0) = true then -1 else 1) * number.natAbs * 2 ^ (0 : ℤ) : ℚ) =
      number := by
    rw [zpow_zero, mul_one, Nat.cast_natAbs]
    split
    · rename_i negative
      rw [abs_of_neg (of_decide_eq_true negative)]
      push_cast
      ring
    · rename_i positive
      rw [abs_of_nonneg (by simpa using positive), one_mul]
  have positive : 0 < format.bias := by cases format <;> decide
  rw [ofInt, amount?_ofScaled _ short (by omega) (by cases format <;> decide), signed]

/-- The wider format has every number of the narrower one, its subnormal ones included. -/
theorem amount?_widen (single : number.format = .single) (fits : number.Fits) :
    number.widen.amount? = number.amount? := by
  unfold widen
  split
  · rename_i isNaN
    rw [amount?, amount?, isNaN]
    rfl
  · rename_i isNumber
    split
    · rename_i infinite
      rw [amount?_of_infinite infinite]
      rfl
    · rename_i finite
      have top : number.format.topExponent = 255 := by rw [single]; rfl
      have span : number.format.fractionSpan = 2 ^ 23 := by rw [single]; rfl
      have bias : number.format.bias + number.format.fractionBits = 150 := by rw [single]; rfl
      have exponent : number.exponent ≤ number.format.topExponent := fits.1
      have fraction : number.fraction < number.format.fractionSpan := fits.2
      have double : FloatFormat.double.fractionBits = 52 ∧ FloatFormat.double.bias = 1023 ∧
        FloatFormat.double.topExponent = 2047 := ⟨rfl, rfl, rfl⟩
      rw [amount?_ofScaled, amount?_of_finite (Bool.eq_false_of_not_eq_true isNumber)
        (Bool.eq_false_of_not_eq_true finite), value]
      · rw [double.1, significand]
        split <;> omega
      · rw [scale]
        omega
      · rw [scale]
        omega

theorem widen_negative (isNumber : number.isNaN = false) : number.widen.negative = number.negative := by
  rw [widen, isNumber, if_neg Bool.false_ne_true]
  split
  · rfl
  · unfold ofScaled
    split <;> rfl

end Binary

/-! ## Numbers and texts across types -/

/-- The leaf stands for the amount, or for nothing that is a number. -/
inductive Leaf.Counts : Leaf → Option Amount → Prop where
  | int {kind : IntType} {number : Int} : Counts (.int kind number) (some (.finite number))
  | bool {truth : Bool} : Counts (.bool truth) (some (.finite (if truth then 1 else 0)))
  /-- By its code point. -/
  | char {letter : Char} : Counts (.char letter) (some (.finite letter.toNat))
  | tracked {kind id : Nat} {number : Int} : Counts (.tracked kind id number) (some (.finite number))
  | float {number : Binary} : Counts (.float number) number.amount?

/-- The value is text and these are its bytes. -/
inductive Datum.Spells : Datum → List UInt8 → Prop where
  | char {letter : Char} : Spells (.leaf (.char letter)) (String.utf8EncodeChar letter)
  | string {text : String} :
      Spells (.leaf (.string text)) (text.toList.flatMap String.utf8EncodeChar)
  | fixedText {text : String} :
      Spells (.leaf (.fixedText text)) (text.toList.flatMap String.utf8EncodeChar)
  | bytes {bytes : List UInt8} :
      Spells (.list (bytes.map fun byte => .leaf (.int .u8 byte.toNat))) bytes

def Datum.SameNumber (source image : Datum) : Prop :=
  ∃ left right amount, source = .leaf left ∧ image = .leaf right ∧ left.Counts amount ∧
    right.Counts amount

def Datum.SameText (source image : Datum) : Prop := ∃ bytes, source.Spells bytes ∧ image.Spells bytes

/-- Binary numbers with one amount and, if they are numbers, one sign. -/
def Datum.SameBinary (source image : Datum) : Prop :=
  ∃ left right, source = .leaf (.float left) ∧ image = .leaf (.float right) ∧
    left.amount? = right.amount? ∧ (left.isNaN = false → left.negative = right.negative)

/-- What ties an image under the conversion to its source. -/
def Conversion.Preserves (conversion : Conversion) (source image : Datum) : Prop :=
  match conversion with
  | widenInt _ | truthNumber _ | codePoint _ | character | binary _ | track _ => source.SameNumber image
  | widenBinary => source.SameBinary image
  | singleton | fix | grow | bytes => source.SameText image
  | present => image = .some source
  | onlyAlternative => image = .variant 0 source

/-! ## Equality by numbers and by texts -/

theorem Leaf.Counts.equals_iff {left right : Leaf} {type : Ty} {amount amount' : Option Amount}
    (leftHeld : left.HasType type) (rightHeld : right.HasType type) (leftCounts : left.Counts amount)
    (rightCounts : right.Counts amount') :
    left.Equals right ↔ ∃ number, amount = some number ∧ amount' = some number := by
  -- Leaves of one type are of one form.
  cases leftCounts <;> cases type <;> try exact absurd leftHeld id
  all_goals cases rightCounts <;> try exact absurd rightHeld id
  case int.int.int =>
    obtain ⟨rfl, -⟩ := leftHeld
    obtain ⟨rfl, -⟩ := rightHeld
    rw [equals_iff_of_exact rfl]
    simp [eq_comm]
  case bool.bool.bool truth truth' =>
    rw [equals_iff_of_exact rfl]
    cases truth <;> cases truth' <;> simp
  case char.char.char =>
    rw [equals_iff_of_exact rfl]
    simp [eq_comm, Char.toNat_inj]
  case tracked.tracked.tracked =>
    rw [← equal_iff_equals leftHeld rightHeld, Leaf.equal, beq_iff_eq]
    simp [eq_comm]
  case float.float.float =>
    rw [← equal_iff_equals leftHeld rightHeld, Leaf.equal,
      Binary.equal_iff_amount (leftHeld.1.trans rightHeld.1.symm) leftHeld.2 rightHeld.2]

theorem String.utf8_inj {left right : String} :
    left.toList.flatMap String.utf8EncodeChar = right.toList.flatMap String.utf8EncodeChar ↔
      left = right := by
  constructor
  · intro same
    have bytes : Leaf.textBytes left ++ [] = Leaf.textBytes right ++ [] := by
      rw [Leaf.textBytes, same, Leaf.textBytes]
    exact (Leaf.textBytes_append_inj bytes).1
  · rintro rfl
    rfl

theorem Char.utf8_inj {left right : Char} :
    String.utf8EncodeChar left = String.utf8EncodeChar right ↔ left = right := by
  have texts : (String.singleton left).toList.flatMap String.utf8EncodeChar =
      (String.singleton right).toList.flatMap String.utf8EncodeChar ↔ _ := String.utf8_inj
  simpa using texts

theorem Datum.Spells.equals_iff {left right : Datum} {type : Ty} {bytes bytes' : List UInt8}
    (leftTyped : left.Typed type) (rightTyped : right.Typed type) (leftSpells : left.Spells bytes)
    (rightSpells : right.Spells bytes') : left.Equals right ↔ bytes = bytes' := by
  cases leftSpells with
  | char =>
      obtain ⟨held⟩ := leftTyped
      cases type <;> try exact absurd held id
      obtain ⟨letter, rfl⟩ := rightTyped.char_inv
      cases rightSpells
      rw [equals_leaf_iff, Leaf.equals_iff_of_exact rfl, Leaf.char.injEq, Char.utf8_inj]
  | string =>
      obtain ⟨held⟩ := leftTyped
      cases type <;> try exact absurd held id
      obtain ⟨text, rfl⟩ := rightTyped.string_inv
      cases rightSpells
      rw [equals_leaf_iff, Leaf.equals_iff_of_exact rfl, Leaf.string.injEq, String.utf8_inj]
  | fixedText =>
      obtain ⟨held⟩ := leftTyped
      cases type <;> try exact absurd held id
      obtain ⟨text, rfl⟩ := rightTyped.fixedText_inv
      cases rightSpells
      rw [equals_leaf_iff, Leaf.equals_iff_of_exact rfl, Leaf.fixedText.injEq, String.utf8_inj]
  | bytes =>
      cases rightSpells with
      | bytes =>
          have typed (bytes : List UInt8) :
              (Datum.list (bytes.map fun byte => .leaf (.int .u8 byte.toNat))).Typed (.list (.int .u8)) := by
            apply Typed.list
            intro item member
            obtain ⟨byte, -, rfl⟩ := List.mem_map.mp member
            exact .leaf ⟨rfl, IntType.holds_byte byte⟩
          have distinct : Function.Injective fun byte : UInt8 => Datum.leaf (.int .u8 byte.toNat) := by
            intro byte byte' same
            simpa [UInt8.toNat_inj] using same
          rw [(typed _).equals_iff_eq rfl, Datum.list.injEq, distinct.list_map.eq_iff]
      | _ =>
          cases leftTyped
          obtain ⟨held⟩ := rightTyped
          exact absurd held id

/-! ## Images -/

namespace Conversion

variable {conversion : Conversion} {source target : Ty} {value value' image image' : Datum}

/-- The identities of the leaves that a conversion makes. -/
def fresh (nextId : Nat) : Conversion → List Nat
  | track _ => [nextId]
  | _ => []

/-- Images of values are equal exactly if the values are. -/
theorem Preserves.equals_iff (typed : value.Typed source) (typed' : value'.Typed source)
    (imageTyped : image.Typed target) (imageTyped' : image'.Typed target)
    (preserves : conversion.Preserves value image) (preserves' : conversion.Preserves value' image') :
    image.Equals image' ↔ value.Equals value' := by
  have numbers (same : value.SameNumber image) (same' : value'.SameNumber image') :
      image.Equals image' ↔ value.Equals value' := by
    obtain ⟨left, right, amount, rfl, rfl, leftCounts, rightCounts⟩ := same
    obtain ⟨left', right', amount', rfl, rfl, leftCounts', rightCounts'⟩ := same'
    obtain ⟨held⟩ := typed
    obtain ⟨held'⟩ := typed'
    obtain ⟨imageHeld⟩ := imageTyped
    obtain ⟨imageHeld'⟩ := imageTyped'
    rw [Datum.equals_leaf_iff, Datum.equals_leaf_iff, leftCounts.equals_iff held held' leftCounts',
      rightCounts.equals_iff imageHeld imageHeld' rightCounts']
  have texts (same : value.SameText image) (same' : value'.SameText image') :
      image.Equals image' ↔ value.Equals value' := by
    obtain ⟨bytes, spells, imageSpells⟩ := same
    obtain ⟨bytes', spells', imageSpells'⟩ := same'
    rw [spells.equals_iff typed typed' spells', imageSpells.equals_iff imageTyped imageTyped' imageSpells']
  cases conversion with
  | widenInt | truthNumber | codePoint | character | binary | track => exact numbers preserves preserves'
  | widenBinary =>
      have counted {value image : Datum} (same : value.SameBinary image) : value.SameNumber image := by
        obtain ⟨left, right, rfl, rfl, amounts, -⟩ := same
        exact ⟨_, _, right.amount?, rfl, rfl, amounts ▸ .float, .float⟩
      exact numbers (counted preserves) (counted preserves')
  | singleton | fix | grow | bytes => exact texts preserves preserves'
  | present =>
      cases preserves
      cases preserves'
      exact Datum.equals_some_iff
  | onlyAlternative =>
      cases preserves
      cases preserves'
      exact Datum.equals_variant_iff.trans (and_iff_right rfl)

/-- A conversion makes no identity but that of a tracked leaf, and logs only that it made this one. -/
theorem convert?_fresh {nextId : Nat} {made : Made Datum}
    (converted : conversion.convert? nextId value = some made) :
    made.value.ids = value.ids ++ conversion.fresh nextId ∧
      made.nextId = nextId + (conversion.fresh nextId).length ∧
      made.events = (conversion.fresh nextId).map .converted := by
  unfold convert? at converted
  split at converted
  case h_10 =>
    cases converted
    exact ⟨Datum.ids_bytes _, rfl, rfl⟩
  case h_11 | h_12 =>
    cases converted
    exact ⟨(List.append_nil _).symm, rfl, rfl⟩
  case h_14 => cases converted
  all_goals
    cases converted
    exact ⟨rfl, rfl, rfl⟩

/-- A conversion between two types preserves every value of the first. -/
theorem convert?_preserves (selected : find? source target = some conversion)
    (typed : value.Typed source) {nextId : Nat} {made : Made Datum}
    (converted : conversion.convert? nextId value = some made) :
    conversion.Preserves value made.value := by
  unfold find? at selected
  split at selected
  case h_1 =>
    split at selected <;> cases selected
    obtain ⟨number, rfl, -⟩ := typed.int_inv
    cases converted
    exact ⟨_, _, _, rfl, rfl, .int, .int⟩
  case h_2 =>
    cases selected
    obtain ⟨truth, rfl⟩ := typed.bool_inv
    cases converted
    have cast : ((if truth then 1 else 0 : Int) : ℚ) = if truth then 1 else 0 := by cases truth <;> rfl
    exact ⟨_, _, _, rfl, rfl, .bool, cast ▸ .int⟩
  case h_3 =>
    split at selected <;> cases selected
    obtain ⟨letter, rfl⟩ := typed.char_inv
    cases converted
    exact ⟨_, _, _, rfl, rfl, .char, .int⟩
  case h_4 =>
    cases selected
    obtain ⟨number, rfl, range⟩ := typed.int_inv
    cases converted
    have bounds : 0 ≤ number ∧ number ≤ 255 := range
    have valid : number.toNat.isValidChar := .inl (by omega)
    have point : ((Char.ofNat number.toNat).toNat : ℚ) = number := by
      rw [Char.toNat_ofNat, if_pos valid]
      exact_mod_cast Int.toNat_of_nonneg bounds.1
    exact ⟨_, _, _, rfl, rfl, .int, point ▸ .char⟩
  case h_5 =>
    split at selected <;> cases selected
    rename_i short
    obtain ⟨number, rfl, range⟩ := typed.int_inv
    have bits := range.natAbs_lt.trans_le (Nat.pow_le_pow_right (by decide) short)
    cases converted
    exact ⟨_, _, _, rfl, rfl, .int, Binary.amount?_ofInt bits ▸ .float⟩
  case h_6 =>
    cases selected
    obtain ⟨number, rfl, single, fits⟩ := typed.float_inv
    cases converted
    exact ⟨_, _, rfl, rfl, (Binary.amount?_widen single fits).symm,
      fun isNumber => (Binary.widen_negative isNumber).symm⟩
  case h_7 =>
    cases selected
    obtain ⟨letter, rfl⟩ := typed.char_inv
    cases converted
    have bytes : (String.singleton letter).toList.flatMap String.utf8EncodeChar =
        String.utf8EncodeChar letter := by simp
    exact ⟨_, .char, bytes ▸ .string⟩
  case h_8 =>
    cases selected
    obtain ⟨text, rfl⟩ := typed.string_inv
    cases converted
    exact ⟨_, .string, .fixedText⟩
  case h_9 =>
    cases selected
    obtain ⟨text, rfl⟩ := typed.fixedText_inv
    cases converted
    exact ⟨_, .fixedText, .string⟩
  case h_10 =>
    cases selected
    obtain ⟨text, rfl⟩ := typed.string_inv
    cases converted
    exact ⟨_, .string, .bytes⟩
  case h_11 =>
    cases selected
    obtain ⟨number, rfl, -⟩ := typed.int_inv
    cases converted
    exact ⟨_, _, _, rfl, rfl, .int, .tracked⟩
  case h_12 =>
    split at selected <;> cases selected
    cases converted
    exact rfl
  case h_13 =>
    split at selected <;> cases selected
    cases converted
    exact rfl
  case h_14 => cases selected

end Conversion

end TaggedUnion
