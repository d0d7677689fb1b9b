import TaggedUnion.Number.Binary

/-!
# Decimal expansions of binary numbers

A finite binary number has a finite decimal expansion, so both ways to write it are decided by
natural numbers alone. `shortest` takes the coarsest decimal grid that has a point among the reals
that round to the number, and there the point nearest to it. `fixed` rounds the number itself to
a given number of places, a tie to the even neighbour.
-/

set_option autoImplicit false

namespace TaggedUnion

/-- The decimal number `coefficient * 10 ^ exponent`. -/
structure Decimal where
  coefficient : Nat
  exponent : Int
  deriving DecidableEq, Repr

namespace Decimal

/-- `multiple * 2 ^ scale` as a decimal number: a power of two below one is a power of five over
a power of ten. -/
def ofScaled (multiple : Nat) (scale : Int) : Decimal :=
  if scale < 0 then ⟨multiple * Nat.pow 5 scale.natAbs, scale⟩
  else ⟨multiple * Nat.pow 2 scale.natAbs, 0⟩

def digitCount (number : Nat) : Nat := (Nat.toDigits 10 number).length

def leadingExponent (number : Decimal) : Int :=
  digitCount number.coefficient - 1 + number.exponent

/-- The reals that round to a binary number, around it and with the same power of ten. -/
structure Interval where
  lower : Nat
  centre : Nat
  upper : Nat
  exponent : Int
  /-- The ends round to the number too. -/
  closed : Bool

/-- The interval of a positive finite number reaches half way to its two neighbours. The one below
a power of two is only half as far away as the one above it. A tie between two numbers goes to
the one with the even significand, which decides about the ends. -/
def Interval.of (number : Binary) : Interval :=
  let quarters := 4 * number.significand
  let below := if number.fraction = 0 ∧ 1 < number.exponent then 1 else 2
  let scaled (multiple : Nat) := ofScaled multiple (number.scale - 2)
  ⟨(scaled (quarters - below)).coefficient, (scaled quarters).coefficient,
    (scaled (quarters + 2)).coefficient, (scaled quarters).exponent,
    number.significand % 2 == 0⟩

def Interval.contains (interval : Interval) (point : Nat) : Bool :=
  if interval.closed then interval.lower ≤ point && point ≤ interval.upper
  else interval.lower < point && point < interval.upper

/-- Of the two multiples of `unit` around the centre, the nearer one in the interval, the upper
one if they are equally near. -/
def Interval.nearestMultiple? (interval : Interval) (unit : Nat) : Option Nat :=
  let low := interval.centre / unit
  let rest := interval.centre % unit
  let lowIn := interval.contains (low * unit)
  let highIn := interval.contains ((low + 1) * unit)
  if lowIn && (rest = 0 || !highIn || 2 * rest < unit) then some low
  else if highIn then some (low + 1)
  else none

/-- A coefficient of ten is written as one, one place higher. -/
def carry (number : Decimal) : Decimal :=
  if number.coefficient = 10 then ⟨1, number.exponent + 1⟩ else number

/-- The most digits that a number of the two formats needs. -/
def mostDigits : Nat := 17

/-- The decimal number with the fewest digits that rounds to the given positive finite number,
and of those the nearest. -/
def shortest (number : Binary) : Decimal :=
  let interval := Interval.of number
  let length := digitCount interval.centre
  let onGrid (digits : Nat) : Option Decimal :=
    let dropped := length - digits
    (interval.nearestMultiple? (Nat.pow 10 dropped)).map fun multiple =>
      carry ⟨multiple, interval.exponent + dropped⟩
  ((List.range' 1 mostDigits).findSome? onGrid).getD ⟨interval.centre, interval.exponent⟩

/-- The quotient rounded to the nearest natural number, a tie to the even one. -/
def divToEven (number unit : Nat) : Nat :=
  let low := number / unit
  let rest := number % unit
  if 2 * rest < unit then low
  else if unit < 2 * rest then low + 1
  else low + low % 2

/-- The multiple of `10 ^ -places` nearest to the magnitude of a finite number, as a multiple. -/
def fixed (number : Binary) (places : Nat) : Nat :=
  let expansion := ofScaled number.significand number.scale
  let shift := expansion.exponent + places
  if shift < 0 then divToEven expansion.coefficient (Nat.pow 10 shift.natAbs)
  else expansion.coefficient * Nat.pow 10 shift.natAbs

end Decimal

end TaggedUnion
