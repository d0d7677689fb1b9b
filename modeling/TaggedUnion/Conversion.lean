import TaggedUnion.Chain.Lifetime

/-!
# Conversions

Conversions from one type to another that keep the value: the same number, the same code point,
the same bytes of text, or the value itself inside a wider type. Two types determine the
conversion between them.
-/

set_option autoImplicit false

namespace TaggedUnion

/-- A conversion, by its target. -/
inductive Conversion where
  /-- An integer to a type with all numbers of its own. -/
  | widenInt (kind : IntType)
  /-- False to zero and true to one. -/
  | truthNumber (kind : IntType)
  /-- A character to its code point. -/
  | codePoint (kind : IntType)
  /-- A number to the character with that code point. -/
  | character
  /-- An integer to the binary number that equals it. -/
  | binary (format : FloatFormat)
  /-- A binary number to the wider format. -/
  | widenBinary
  /-- A character to the text of that character alone. -/
  | singleton
  /-- Text that can grow to the same text of a fixed length. -/
  | fix
  /-- Text of a fixed length to the same text that can grow. -/
  | grow
  | bytes
  /-- A value to an optional value that is there. -/
  | present
  /-- A value to the union of which its type is the only alternative. -/
  | onlyAlternative
  /-- A number to a tracked leaf with a new identity. -/
  | track (kind : Nat)
  deriving DecidableEq, Repr

namespace Conversion

/-- The conversion from the first type to the second. -/
def find? : Ty → Ty → Option Conversion
  | .int source, .int target => if source.Widens target then some (.widenInt target) else none
  | .bool, .int kind => some (.truthNumber kind)
  | .char, .int kind =>
    if kind.signed = false ∧ kind.Holds 0x10ffff then some (.codePoint kind) else none
  | .int .u8, .char => some .character
  | .int kind, .float format =>
    if 8 * kind.bytes ≤ format.fractionBits + 1 then some (.binary format) else none
  | .float .single, .float .double => some .widenBinary
  | .char, .string => some .singleton
  | .string, .fixedText => some .fix
  | .fixedText, .string => some .grow
  | .string, .list (.int .u8) => some .bytes
  | .int .i32, .tracked kind => some (.track kind)
  | source, .option target => if source = target then some .present else none
  | source, .variant [target] => if source = target then some .onlyAlternative else none
  | _, _ => none

/-- Converts a plain value; nothing if it is not of the source type. -/
def convert? (nextId : Nat) : Conversion → Datum → Option (Made Datum)
  | widenInt kind, .leaf (.int _ number) => some ⟨.leaf (.int kind number), nextId, []⟩
  | truthNumber kind, .leaf (.bool truth) =>
    some ⟨.leaf (.int kind (if truth then 1 else 0)), nextId, []⟩
  | codePoint kind, .leaf (.char letter) => some ⟨.leaf (.int kind letter.toNat), nextId, []⟩
  | character, .leaf (.int _ number) => some ⟨.leaf (.char (Char.ofNat number.toNat)), nextId, []⟩
  | binary format, .leaf (.int _ number) =>
    some ⟨.leaf (.float (Binary.ofInt format number)), nextId, []⟩
  | widenBinary, .leaf (.float number) => some ⟨.leaf (.float number.widen), nextId, []⟩
  | singleton, .leaf (.char letter) => some ⟨.leaf (.string (String.singleton letter)), nextId, []⟩
  | fix, .leaf (.string text) => some ⟨.leaf (.fixedText text), nextId, []⟩
  | grow, .leaf (.fixedText text) => some ⟨.leaf (.string text), nextId, []⟩
  | bytes, .leaf (.string text) =>
    let items := text.toList.flatMap String.utf8EncodeChar
    some ⟨.list (items.map fun byte => .leaf (.int .u8 byte.toNat)), nextId, []⟩
  | present, value => some ⟨.some value, nextId, []⟩
  | onlyAlternative, value => some ⟨.variant 0 value, nextId, []⟩
  | track kind, .leaf (.int _ number) =>
    some ⟨.leaf (.tracked kind nextId number), nextId + 1, [.converted nextId]⟩
  | _, _ => none

end Conversion

end TaggedUnion
