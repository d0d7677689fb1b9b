import TaggedUnion.Ty
import TaggedUnion.Text.Layout
import TaggedUnion.Text.Numeral
import TaggedUnion.Text.Quoted

/-!
# Leaves

The values without parts, each with its own equality, its own bytes for a hasher and its own texts
for readers and for inspection. A tracked leaf is a number with an identity: it compares and
hashes by the number, and shows both.
-/

set_option autoImplicit false

namespace TaggedUnion

inductive Leaf where
  | int (kind : IntType) (number : Int)
  | float (number : Binary)
  | bool (truth : Bool)
  | char (letter : Char)
  | unit
  | string (text : String)
  | fixedText (text : String)
  | empty (slot : Nat)
  | tracked (kind id : Nat) (number : Int)
  deriving DecidableEq, Repr

namespace Leaf

def HasType : Leaf → Ty → Prop
  | .int kind number, .int kind' => kind = kind' ∧ kind.Holds number
  | .float number, .float format => number.format = format ∧ number.Fits
  | .bool _, .bool => True
  | .char _, .char => True
  | .unit, .unit => True
  | .string _, .string => True
  | .fixedText _, .fixedText => True
  | .empty slot, .empty slot' => slot = slot'
  | .tracked kind _ number, .tracked kind' => kind = kind' ∧ IntType.i32.Holds number
  | _, _ => False

def ids : Leaf → List Nat
  | .tracked _ id _ => [id]
  | _ => []

/-- The leaf with another identity, if it has one. -/
def renumber (fresh : Nat) : Leaf → Leaf
  | .tracked kind _ number => .tracked kind fresh number
  | leaf => leaf

/-- Leaves compare by value: binary numbers as numbers, tracked ones without their identity. -/
def equal : Leaf → Leaf → Bool
  | .float left, .float right => left.equal right
  | .tracked _ _ left, .tracked _ _ right => left == right
  | left, right => left == right

/-- The bytes of a text that ends with a byte no character has. -/
def textBytes (text : String) : List UInt8 :=
  text.toList.flatMap String.utf8EncodeChar ++ [0xff]

def hashBytes : Leaf → List UInt8
  | .int kind number => kind.littleEndian number
  | .bool truth => [if truth then 1 else 0]
  | .char letter => IntType.u32.littleEndian letter.toNat
  | .string text | .fixedText text => textBytes text
  | .tracked _ _ number => IntType.i32.littleEndian number
  | .float _ | .unit | .empty _ => []

/-- The text for inspection. Quoted text and markers take no padding. -/
def debug (style : Style) : Leaf → String
  | .int _ number => Numeral.ofInt style number
  | .float number => Numeral.ofBinary Numeral.forInspection style number
  | .bool truth => style.text (if truth then "true" else "false")
  | .char letter => Quoted.ofChar letter
  | .unit => style.text "()"
  | .string text | .fixedText text => Quoted.ofString text
  | .empty _ => "Empty"
  | .tracked _ id number =>
    Layout.record style.alternate "Tracked"
      [("id", Numeral.ofInt style id), ("v", Numeral.ofInt style number)]

/-- The text for readers. The unit value and tracked leaves have none. -/
def display (style : Style) : Leaf → String
  | .int _ number => Numeral.ofInt style number
  | .float number => Numeral.ofBinary Numeral.forReading style number
  | .bool truth => style.text (if truth then "true" else "false")
  | .char letter => style.text (String.singleton letter)
  | .string text | .fixedText text => style.text text
  | .unit | .empty _ | .tracked _ _ _ => ""

end Leaf

end TaggedUnion
