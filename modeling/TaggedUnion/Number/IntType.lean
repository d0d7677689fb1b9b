/-!
# Fixed-width integers

The ten integer types, unsigned and two's complement, of one to sixteen bytes. A number of a type
is kept as an `Int` in the type's range; `wrap` brings any result back into it, and
`littleEndian` is the word that stands for it in memory.
-/

set_option autoImplicit false

namespace TaggedUnion

inductive IntType where
  | u8 | u16 | u32 | u64 | u128
  | i8 | i16 | i32 | i64 | i128
  deriving DecidableEq, Repr

namespace IntType

def bytes : IntType → Nat
  | u8 | i8 => 1
  | u16 | i16 => 2
  | u32 | i32 => 4
  | u64 | i64 => 8
  | u128 | i128 => 16

def signed : IntType → Bool
  | u8 | u16 | u32 | u64 | u128 => false
  | i8 | i16 | i32 | i64 | i128 => true

def span (kind : IntType) : Nat := Nat.pow 256 kind.bytes

def least (kind : IntType) : Int :=
  if kind.signed then -(kind.span / 2 : Nat) else 0

def greatest (kind : IntType) : Int :=
  if kind.signed then (kind.span / 2 : Nat) - 1 else (kind.span : Int) - 1

def Holds (kind : IntType) (number : Int) : Prop :=
  kind.least ≤ number ∧ number ≤ kind.greatest

instance (kind : IntType) (number : Int) : Decidable (kind.Holds number) :=
  inferInstanceAs (Decidable (_ ∧ _))

/-- The number of the type that is congruent to `number` modulo the span of the type. -/
def wrap (kind : IntType) (number : Int) : Int :=
  if kind.signed then number.bmod kind.span else number % kind.span

def Widens (source target : IntType) : Prop :=
  target.least ≤ source.least ∧ source.greatest ≤ target.greatest

instance (source target : IntType) : Decidable (source.Widens target) :=
  inferInstanceAs (Decidable (_ ∧ _))

/-- The last `count` digits of `word` to the base 256, the lowest first. -/
def lowBytes : Nat → Nat → List UInt8
  | 0, _ => []
  | count + 1, word => UInt8.ofNat (word % 256) :: lowBytes count (word / 256)

def littleEndian (kind : IntType) (number : Int) : List UInt8 :=
  lowBytes kind.bytes (number % kind.span).toNat

def name : IntType → String
  | u8 => "u8" | u16 => "u16" | u32 => "u32" | u64 => "u64" | u128 => "u128"
  | i8 => "i8" | i16 => "i16" | i32 => "i32" | i64 => "i64" | i128 => "i128"

/-- Numbers of eight bytes and more are written as text, since readers of plain numbers may keep
no more than 53 bits of them. -/
def isWide (kind : IntType) : Bool := 8 ≤ kind.bytes

end IntType

/-- A number in decimal digits, with a minus sign if it is negative. -/
def decimalText (number : Int) : String :=
  (if number < 0 then "-" else "") ++ number.natAbs.repr

/-- The number that a sequence of decimal digits stands for; nothing if it is empty or holds
another character. -/
def natOfDigits? (digits : List Char) : Option Nat :=
  if digits.isEmpty then none
  else digits.foldl
    (fun value digit => value.bind fun value =>
      if digit.isDigit then some (10 * value + (digit.toNat - '0'.toNat)) else none)
    (some 0)

/-- Reads a number in decimal digits. A plus sign may stand in front, a minus sign only in front
of a number of a signed type, and the number must lie in the range of the type. -/
def IntType.ofText? (kind : IntType) (text : String) : Option Int :=
  let number : Option Int :=
    match text.toList with
    | '+' :: digits => (natOfDigits? digits).map Int.ofNat
    | '-' :: digits => if kind.signed then (natOfDigits? digits).map fun value => -(value : Int) else none
    | digits => (natOfDigits? digits).map Int.ofNat
  number.filter fun number => kind.Holds number

end TaggedUnion
