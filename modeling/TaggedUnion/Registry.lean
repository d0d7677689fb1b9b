import TaggedUnion.Ty.Name

/-!
# The registry of alternatives

A list of alternatives gives each of its types an index, its position, and each index a tag of one
byte. `Contains` derives membership position by position and may be derivable for one type at
several positions; selection by type is granted only where there is exactly one (`indexOf?`).
In the other direction `typeAt?` gives the type at an index and `nameAt` counts a tag down the list
to the name of its type.
-/

set_option autoImplicit false

namespace TaggedUnion.Registry

inductive Contains : List Ty → Ty → Nat → Prop where
  | head {type : Ty} {types : List Ty} : Contains (type :: types) type 0
  | tail {type other : Ty} {types : List Ty} {index : Nat} :
      Contains types type index → Contains (other :: types) type (index + 1)

def typeAt? : List Ty → Nat → Option Ty
  | [], _ => none
  | type :: _, 0 => some type
  | _ :: types, index + 1 => typeAt? types index

/-- The tag of an index, by counting up to it. -/
def tagOf : Nat → UInt8
  | 0 => 0
  | index + 1 => 1 + tagOf index

/-- The number of alternatives, as a tag. -/
def arity : List Ty → UInt8
  | [] => 0
  | _ :: types => 1 + arity types

/-- The greatest number of alternatives of which a value can be built. -/
def maxArity : Nat := 16

/-- All positions of a type in the list, from the given one on. -/
def positionsFrom (start : Nat) (type : Ty) : List Ty → List Nat
  | [] => []
  | other :: types =>
    if other = type then start :: positionsFrom (start + 1) type types
    else positionsFrom (start + 1) type types

/-- The position of a type that is listed exactly once. -/
def indexOf? (types : List Ty) (type : Ty) : Option Nat :=
  match positionsFrom 0 type types with
  | [index] => some index
  | _ => none

/-- The name of the type with the given tag; past the end of the list, what is left of the tag. -/
def nameAt : List Ty → UInt8 → Except UInt8 String
  | [], tag => .error tag
  | type :: types, tag => if tag = 0 then .ok type.qualifiedName else nameAt types (tag - 1)

/-- A tag counts an index exactly as long as one byte can. -/
theorem toNat_tagOf {index : Nat} (short : index < 256) : (tagOf index).toNat = index := by
  induction index with
  | zero => rfl
  | succ index ih =>
    have earlier := ih (by omega)
    simp only [tagOf, UInt8.toNat_add, earlier, UInt8.toNat_one]
    omega

theorem contains_iff_typeAt? {types : List Ty} {type : Ty} {index : Nat} :
    Contains types type index ↔ typeAt? types index = some type := by
  constructor
  · intro member
    induction member with
    | head => rfl
    | tail _ ih => exact ih
  · intro found
    induction types generalizing index with
    | nil => simp [typeAt?] at found
    | cons head types ih =>
      cases index with
      | zero =>
        simp only [typeAt?, Option.some.injEq] at found
        exact found ▸ .head
      | succ index => exact .tail (ih found)

/-- Looking up an index in the registry is looking it up in the list. -/
theorem typeAt?_eq_getElem? (types : List Ty) (index : Nat) : typeAt? types index = types[index]? := by
  induction types generalizing index with
  | nil => rfl
  | cons head types ih =>
    cases index with
    | zero => rfl
    | succ index => simpa [typeAt?] using ih index

end TaggedUnion.Registry
