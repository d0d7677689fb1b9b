import TaggedUnion.Chain.Lifetime
import TaggedUnion.Datum.Lifetime

/-!
# Written values

The written form of values, and how a type decides what it stands for. Reading a tracked leaf
creates it, so reading hands out identities and logs; if a part turns out to be no value of its
type, the parts read before it are dropped.
-/

set_option autoImplicit false

namespace TaggedUnion

inductive Literal where
  | null
  | truth (value : Bool)
  | number (value : Int)
  | text (value : String)
  | list (items : List Literal)
  | object (fields : List (String × Literal))
  /-- A form that no value has. -/
  | other
  deriving Inhabited

/-! ## Writing -/

/-- The written form of a leaf. Numbers of eight bytes and more and binary numbers are text. -/
def Leaf.written : Leaf → Literal
  | .int kind number => if kind.isWide then .text (decimalText number) else .number number
  | .float number => .text number.toText
  | .bool truth => .truth truth
  | .char letter => .text (String.singleton letter)
  | .unit | .empty _ => .null
  | .string text | .fixedText text => .text text
  | .tracked _ id number => .object [("id", .number id), ("v", .number number)]

mutual

def Datum.written : Datum → Literal
  | .leaf value => value.written
  | .list items => .list (Datum.allWritten items)
  | .none => .null
  | .some content => .object [("some", content.written)]
  | .pair first second => .list [first.written, second.written]
  | .record _ content => .object [("v", content.written)]
  | .variant index content => .object [("tag", .number index), ("v", content.written)]

def Datum.allWritten : List Datum → List Literal
  | [] => []
  | item :: items => item.written :: Datum.allWritten items

end

namespace Literal

/-! ## Reading -/

/-- A part of an object. -/
def field? (name : String) : Literal → Option Literal
  | object fields => fields.lookup name
  | _ => none

/-- A number of an integer type, plain or as text. -/
def readInt? (kind : IntType) : Literal → Option Int
  | number value => if !kind.isWide && decide (kind.Holds value) then some value else none
  | text value => if kind.isWide then kind.ofText? value else none
  | _ => none

/-- A value of a type without parts, tracked ones apart. -/
def readLeaf? : Ty → Literal → Option Leaf
  | .int kind, literal => (literal.readInt? kind).map (.int kind)
  | .float format, text value => (Binary.ofText? format value).map .float
  | .bool, truth value => some (.bool value)
  | .char, text value =>
    match value.toList with
    | [letter] => some (.char letter)
    | _ => none
  | .unit, null => some .unit
  | .string, text value => some (.string value)
  | .fixedText, text value => some (.fixedText value)
  | .empty slot, null => some (.empty slot)
  | _, _ => none

/-- A number of 32 bits under a new identity. -/
def readTracked (kind nextId : Nat) (literal : Literal) : Made (Option Datum) :=
  match literal.readInt? .i32 with
  | some value => ⟨some (.leaf (.tracked kind nextId value)), nextId + 1, [.created nextId]⟩
  | none => ⟨none, nextId, []⟩

/-- A reading that came to nothing and did nothing. -/
def unread (nextId : Nat) : Made (Option Datum) := ⟨none, nextId, []⟩

/-- The reading of a whole around a part that was read. -/
def readAround (whole : Datum → Datum) (part : Made (Option Datum)) : Made (Option Datum) :=
  part.map (Option.map whole)

/-- Reads the items of a list one after another. The items read so far are `done`; they are
dropped if one that follows cannot be read. -/
def readItems (read : Nat → Literal → Made (Option Datum)) (done : List Datum) (nextId : Nat) :
    List Literal → Made (Option Datum)
  | [] => ⟨some (.list done), nextId, []⟩
  | item :: items =>
    let first := read nextId item
    match first.value with
    | none => ⟨none, first.nextId, first.events ++ (Datum.list done).drops⟩
    | some value =>
      let rest := readItems read (done ++ [value]) first.nextId items
      ⟨rest.value, rest.nextId, first.events ++ rest.events⟩

/-- Reads the two parts of a pair. The first is dropped if the second cannot be read. -/
def readPair (first : Made (Option Datum)) (second : Nat → Made (Option Datum)) : Made (Option Datum) :=
  match first.value with
  | none => first
  | some value =>
    let rest := second first.nextId
    match rest.value with
    | none => ⟨none, rest.nextId, first.events ++ rest.events ++ value.drops⟩
    | some value' => ⟨some (.pair value value'), rest.nextId, first.events ++ rest.events⟩

mutual

def read : Ty → Nat → Literal → Made (Option Datum)
  | .tracked kind, nextId, literal => readTracked kind nextId literal
  | .record label type, nextId, literal =>
    match literal.field? "v" with
    | some content => readAround (.record label) (read type nextId content)
    | none => unread nextId
  | .list type, nextId, list items => readItems (fun nextId item => read type nextId item) [] nextId items
  | .option _, nextId, null => ⟨some .none, nextId, []⟩
  | .option type, nextId, object fields =>
    match fields.lookup "some" with
    | some content => readAround .some (read type nextId content)
    | none => unread nextId
  | .pair type type', nextId, list [first, second] =>
    readPair (read type nextId first) fun nextId => read type' nextId second
  | .variant types, nextId, object fields =>
    match fields.lookup "tag", fields.lookup "v" with
    | some (number (.ofNat index)), some content =>
      if types.length ≤ Registry.maxArity then
        readAround (.variant index) (readAlternative types index nextId content)
      else unread nextId
    | _, _ => unread nextId
  | type, nextId, literal => ⟨(literal.readLeaf? type).map .leaf, nextId, []⟩

/-- Reads a value of the alternative at an index. -/
def readAlternative : List Ty → Nat → Nat → Literal → Made (Option Datum)
  | [], _, nextId, _ => unread nextId
  | type :: _, 0, nextId, literal => read type nextId literal
  | _ :: types, index + 1, nextId, literal => readAlternative types index nextId literal

end

end Literal

end TaggedUnion
