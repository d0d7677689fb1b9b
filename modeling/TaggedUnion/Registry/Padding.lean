import TaggedUnion.Registry

/-!
# Padded lists

A list can be filled up to the greatest number of alternatives with the marker types of the slots
that are left. The given types take the slots one after another; when all are placed, each slot
that is left is taken by its own marker. Given types beyond the last slot are refused.
-/

set_option autoImplicit false

namespace TaggedUnion.Registry

/-- Places the given types, after the ones already placed, into the free slots, and markers into
the slots that stay free. -/
def padWith : List Ty → List Ty → List Nat → Option (List Ty)
  | type :: types, placed, _ :: slots => padWith types (placed ++ [type]) slots
  | [], placed, slots => some (placed ++ slots.map .empty)
  | _ :: _, _, [] => none

/-- The given types and after them the markers of all slots that they leave. -/
def padded? (types : List Ty) : Option (List Ty) := padWith types [] (List.range maxArity)

end TaggedUnion.Registry
