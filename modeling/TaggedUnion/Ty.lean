import TaggedUnion.Number.Binary
import TaggedUnion.Number.IntType

/-!
# Types of alternatives

The types that a tagged union may list, unions themselves among them, and the traits that decide
which operations a list of alternatives offers: a list has a trait exactly when each of its
alternatives has it. Equality of types is decided structurally.
-/

set_option autoImplicit false

namespace TaggedUnion

inductive Ty where
  | int (kind : IntType)
  | float (format : FloatFormat)
  | bool
  | char
  | unit
  /-- Text that can grow. -/
  | string
  /-- Text of a fixed length. -/
  | fixedText
  /-- The marker type of a slot that no type of interest takes. It has one value. -/
  | empty (slot : Nat)
  /-- Numbers with an identity whose lifetime is logged; the two kinds differ as types only. -/
  | tracked (kind : Nat)
  /-- A named record with one field. -/
  | record (label : String) (content : Ty)
  | list (item : Ty)
  | option (item : Ty)
  | pair (first second : Ty)
  /-- A tagged union of the listed alternatives. -/
  | variant (alternatives : List Ty)

namespace Ty

mutual

def same : Ty → Ty → Bool
  | int kind, int kind' => kind == kind'
  | float format, float format' => format == format'
  | bool, bool => true
  | char, char => true
  | unit, unit => true
  | string, string => true
  | fixedText, fixedText => true
  | empty slot, empty slot' => slot == slot'
  | tracked kind, tracked kind' => kind == kind'
  | record label content, record label' content' => label == label' && content.same content'
  | list item, list item' => item.same item'
  | option item, option item' => item.same item'
  | pair first second, pair first' second' => first.same first' && second.same second'
  | variant alternatives, variant alternatives' => sameAll alternatives alternatives'
  | _, _ => false

def sameAll : List Ty → List Ty → Bool
  | [], [] => true
  | type :: types, type' :: types' => type.same type' && sameAll types types'
  | _, _ => false

end

mutual

theorem same_iff : (left right : Ty) → (left.same right = true ↔ left = right)
  | int _, right => by cases right <;> simp [same]
  | float _, right => by cases right <;> simp [same]
  | bool, right => by cases right <;> simp [same]
  | char, right => by cases right <;> simp [same]
  | unit, right => by cases right <;> simp [same]
  | string, right => by cases right <;> simp [same]
  | fixedText, right => by cases right <;> simp [same]
  | empty _, right => by cases right <;> simp [same]
  | tracked _, right => by cases right <;> simp [same]
  | record _ content, right => by cases right <;> simp [same, same_iff content]
  | list item, right => by cases right <;> simp [same, same_iff item]
  | option item, right => by cases right <;> simp [same, same_iff item]
  | pair first second, right => by cases right <;> simp [same, same_iff first, same_iff second]
  | variant alternatives, right => by cases right <;> simp [same, sameAll_iff alternatives]

theorem sameAll_iff : (left right : List Ty) → (sameAll left right = true ↔ left = right)
  | [], right => by cases right <;> simp [sameAll]
  | type :: types, right => by cases right <;> simp [sameAll, same_iff type, sameAll_iff types]

end

instance : DecidableEq Ty := fun left right => decidable_of_iff _ (same_iff left right)

/-! ## Traits -/

mutual

/-- Values of the type can be hashed. Binary numbers cannot, and neither can records. -/
def hashable : Ty → Bool
  | int _ | bool | char | unit | string | fixedText | empty _ | tracked _ => true
  | float _ | record _ _ => false
  | list item | option item => item.hashable
  | pair first second => first.hashable && second.hashable
  | variant alternatives => allHashable alternatives

def allHashable : List Ty → Bool
  | [] => true
  | type :: types => type.hashable && allHashable types

end

theorem allHashable_eq_all (types : List Ty) : allHashable types = types.all hashable := by
  induction types with
  | nil => simp only [allHashable, List.all_nil]
  | cons type types ih => simp only [allHashable, List.all_cons, ih]

mutual

/-- Values of the type have a text for readers. -/
def displayable : Ty → Bool
  | int _ | float _ | bool | char | string | fixedText | empty _ => true
  | unit | tracked _ | record _ _ | list _ | option _ | pair _ _ => false
  | variant alternatives => allDisplayable alternatives

def allDisplayable : List Ty → Bool
  | [] => true
  | type :: types => type.displayable && allDisplayable types

end

theorem allDisplayable_eq_all (types : List Ty) : allDisplayable types = types.all displayable := by
  induction types with
  | nil => simp only [allDisplayable, List.all_nil]
  | cons type types ih => simp only [allDisplayable, List.all_cons, ih]

end Ty

end TaggedUnion
