/-!
# Binary floating-point numbers

The numbers of the two interchange formats, 32 and 64 bits wide, by their three fields. A finite
number is `significand * 2 ^ scale` with a sign; both are natural numbers and integers here, so
everything said about a number is said exactly.
-/

set_option autoImplicit false

namespace TaggedUnion

inductive FloatFormat where
  | single
  | double
  deriving DecidableEq, Repr

namespace FloatFormat

def fractionBits : FloatFormat → Nat
  | single => 23
  | double => 52

def exponentBits : FloatFormat → Nat
  | single => 8
  | double => 11

def fractionSpan (format : FloatFormat) : Nat := Nat.pow 2 format.fractionBits

def exponentSpan (format : FloatFormat) : Nat := Nat.pow 2 format.exponentBits

/-- The biased exponent of the number one. -/
def bias (format : FloatFormat) : Nat := format.exponentSpan / 2 - 1

/-- The biased exponent of the infinities and of what is not a number. -/
def topExponent (format : FloatFormat) : Nat := format.exponentSpan - 1

def hexDigits (format : FloatFormat) : Nat := (1 + format.exponentBits + format.fractionBits) / 4

def name : FloatFormat → String
  | single => "f32"
  | double => "f64"

end FloatFormat

/-- A number of a format: its sign, its biased exponent and its fraction. -/
structure Binary where
  format : FloatFormat
  negative : Bool
  exponent : Nat
  fraction : Nat
  deriving DecidableEq, Repr

namespace Binary

def Fits (number : Binary) : Prop :=
  number.exponent ≤ number.format.topExponent ∧ number.fraction < number.format.fractionSpan

instance (number : Binary) : Decidable number.Fits :=
  inferInstanceAs (Decidable (_ ∧ _))

/-- Not a number: the top exponent with a fraction. -/
def isNaN (number : Binary) : Bool :=
  number.exponent == number.format.topExponent && number.fraction != 0

/-- One of the two infinities: the top exponent without a fraction. -/
def isInfinite (number : Binary) : Bool :=
  number.exponent == number.format.topExponent && number.fraction == 0

def isZero (number : Binary) : Bool :=
  number.exponent == 0 && number.fraction == 0

/-- The natural number whose multiple by a power of two a finite number is: the fraction, below
a leading one unless the exponent is zero. -/
def significand (number : Binary) : Nat :=
  if number.exponent = 0 then number.fraction
  else number.format.fractionSpan + number.fraction

/-- The exponent of that power of two. -/
def scale (number : Binary) : Int :=
  (max number.exponent 1 : Nat) - (number.format.bias + number.format.fractionBits : Nat)

/-- The one that stands for all that are not a number. -/
def nan (format : FloatFormat) : Binary :=
  ⟨format, false, format.topExponent, format.fractionSpan / 2⟩

/-- The finite number `significand * 2 ^ scale`, for a significand of at most one bit more than
the fraction and a scale at which the leading bit needs no exponent below one. -/
def ofScaled (format : FloatFormat) (negative : Bool) (significand : Nat) (scale : Int) : Binary :=
  if significand = 0 then ⟨format, negative, 0, 0⟩
  else
    let leading := significand.log2
    ⟨format, negative, (leading + scale + format.bias).toNat,
      significand * Nat.pow 2 (format.fractionBits - leading) - format.fractionSpan⟩

/-- An integer of at most one bit more than the fraction, as a number of the format. -/
def ofInt (format : FloatFormat) (number : Int) : Binary :=
  ofScaled format (number < 0) number.natAbs 0

/-- A number of the format of 32 bits as the same number in the one of 64 bits. -/
def widen (number : Binary) : Binary :=
  if number.isNaN then nan .double
  else if number.isInfinite then ⟨.double, number.negative, FloatFormat.double.topExponent, 0⟩
  else ofScaled .double number.negative number.significand number.scale

/-- Numbers compare as numbers: what is not a number equals nothing, itself included, and the two
zeros are equal. -/
def equal (left right : Binary) : Bool :=
  !left.isNaN && !right.isNaN && (left == right || (left.isZero && right.isZero))

/-- The number with the given bits: the sign, then the exponent, then the fraction. All that are
not a number become the same one. -/
def ofBits (format : FloatFormat) (bits : Nat) : Binary :=
  let number : Binary :=
    ⟨format, bits / format.fractionSpan / format.exponentSpan % 2 == 1,
      bits / format.fractionSpan % format.exponentSpan, bits % format.fractionSpan⟩
  if number.isNaN then nan format else number

def toBits (number : Binary) : Nat :=
  ((if number.negative then number.format.exponentSpan else 0) + number.exponent)
    * number.format.fractionSpan + number.fraction

def hexDigit? (digit : Char) : Option Nat :=
  if digit.isDigit then some (digit.toNat - '0'.toNat)
  else if 'a' ≤ digit ∧ digit ≤ 'f' then some (digit.toNat - 'a'.toNat + 10)
  else none

/-- The number that a sequence of hexadecimal digits stands for. -/
def natOfHex? (digits : List Char) : Option Nat :=
  digits.foldl
    (fun value digit => value.bind fun value => (hexDigit? digit).map (16 * value + ·))
    (some 0)

/-- The last `count` hexadecimal digits of a number, the highest first. -/
def hexText (count number : Nat) : String :=
  let digits := Nat.toDigits 16 number
  String.ofList (List.replicate (count - digits.length) '0' ++ digits)

/-- Reads the bits of a number in hexadecimal digits, or the word that stands for all that are
not a number. -/
def ofText? (format : FloatFormat) (text : String) : Option Binary :=
  if text = "nan" then some (nan format)
  else if text.length = format.hexDigits then (natOfHex? text.toList).map (ofBits format)
  else none

/-- Writes the bits of a number as `ofText?` reads them. -/
def toText (number : Binary) : String :=
  if number.isNaN then "nan" else hexText number.format.hexDigits number.toBits

end Binary

end TaggedUnion
