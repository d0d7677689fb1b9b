import TaggedUnion.Datum.Lifetime
import TaggedUnion.Ty.Name

/-!
# Marker values

What is seen of the one value of a marker type.
-/

set_option autoImplicit false

namespace TaggedUnion

/-- A marker value by all that can be asked of it. -/
structure MarkerReport where
  slot : Nat
  typeName : String
  display : String
  debug : String
  /-- Equal to another value of the type. -/
  equal : Bool
  /-- Compared to another value of the type. -/
  order : Ordering

namespace MarkerReport

/-- The slots whose markers can be asked for. -/
def slots : List Nat := List.range 17 ++ [127, 255]

/-- The marker value of a slot. A marker type has one value, so two of them are equal. -/
def of? (slot : Nat) (style : Style) : Option MarkerReport :=
  let marker := Leaf.empty slot
  if slot ∈ slots then
    some
      { slot := slot
        typeName := (Ty.empty slot).qualifiedName
        display := marker.display style
        debug := marker.debug style
        equal := marker.equal marker
        order := .eq }
  else none

end MarkerReport

end TaggedUnion
