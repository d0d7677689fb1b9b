import TaggedUnion.Number.Decimal
import TaggedUnion.Number.IntType
import TaggedUnion.Text.Style

/-!
# Numerals

Integers and binary numbers as text. Without a precision a binary number is written with the
fewest digits that read back as it; with one, rounded to so many places.
-/

set_option autoImplicit false

namespace TaggedUnion.Numeral

def ofInt (style : Style) (number : Int) : String :=
  style.number (style.sign (number < 0)) number.natAbs.repr

/-- `coefficient / 10 ^ places` in positional digits, with at least one digit before the point. -/
def positional (coefficient places : Nat) : String :=
  let digits := Nat.toDigits 10 coefficient
  let padded := List.replicate (places + 1 - digits.length) '0' ++ digits
  let whole := padded.take (padded.length - places)
  let rest := padded.drop (padded.length - places)
  String.ofList whole ++ if rest.isEmpty then "" else "." ++ String.ofList rest

/-- A decimal number in positional digits, with no more places than it needs. -/
def ofDecimal (number : Decimal) : String :=
  if number.exponent < 0 then positional number.coefficient number.exponent.natAbs
  else positional (number.coefficient * Nat.pow 10 number.exponent.natAbs) 0

/-- A decimal number as a coefficient with one digit before the point and an exponent. -/
def scientific (number : Decimal) : String :=
  positional number.coefficient (Decimal.digitCount number.coefficient - 1) ++ "e"
    ++ decimalText number.leadingExponent

/-- How a binary number is written where the two ways to write one differ. -/
structure Form where
  /-- A number without places gets a zero after the point. -/
  keepPlace : Bool
  /-- The leading exponents for which a number is written in positional digits. -/
  isPositional : Int → Bool

/-- For readers: positional digits whatever the size. -/
def forReading : Form := ⟨false, fun _ => true⟩

/-- For inspection: the text shows that it is no integer, and stands for a size outside
`10 ^ -4` to `10 ^ 16` by an exponent. -/
def forInspection : Form := ⟨true, fun exponent => -4 ≤ exponent && exponent < 16⟩

/-- The digits of the magnitude of a finite number. -/
def magnitude (form : Form) (precision : Option Nat) (number : Binary) : String :=
  match precision with
  | some places => positional (Decimal.fixed number places) places
  | none =>
    let decimal := if number.isZero then ⟨0, 0⟩ else Decimal.shortest number
    if number.isZero || form.isPositional decimal.leadingExponent then
      if form.keepPlace && 0 ≤ decimal.exponent then ofDecimal decimal ++ ".0" else ofDecimal decimal
    else scientific decimal

/-- A binary number in a style. What is not a number has no sign. -/
def ofBinary (form : Form) (style : Style) (number : Binary) : String :=
  if number.isNaN then style.wordForNumber "" "NaN"
  else if number.isInfinite then style.wordForNumber (style.sign number.negative) "inf"
  else style.number (style.sign number.negative) (magnitude form style.precision number)

end TaggedUnion.Numeral
