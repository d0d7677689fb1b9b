import TaggedUnion.Chain.Lifetime
import TaggedUnion.Datum.Lifetime

/-!
# Edits

What can be done to the active value of a union where it stands: assigning another value, which
drops the old one, or adding to it. Integers add with wrapping, text and lists are appended to;
to all other values adding is assigning.
-/

set_option autoImplicit false

namespace TaggedUnion

/-- What an edit does with the value that it is given. -/
inductive EditMode where
  | assign
  | add
  deriving DecidableEq, Repr

structure Edited (Value : Type) where
  value : Value
  events : List Event

def Datum.edit : EditMode → Datum → Datum → Edited Datum
  | .add, .leaf (.int kind number), .leaf (.int _ number') =>
    ⟨.leaf (.int kind (kind.wrap (number + number'))), []⟩
  | .add, .leaf (.string text), .leaf (.string text') => ⟨.leaf (.string (text ++ text')), []⟩
  | .add, .list items, .list items' => ⟨.list (items ++ items'), []⟩
  | _, old, new => ⟨new, old.drops⟩

def Stored.edit (type : Ty) : EditMode → Stored → Stored → Except Fault (Edited Stored)
  | .add, .leaf (.int kind number), .leaf (.int _ number') =>
    .ok ⟨.leaf (.int kind (kind.wrap (number + number'))), []⟩
  | .add, .leaf (.string text), .leaf (.string text') => .ok ⟨.leaf (.string (text ++ text')), []⟩
  | .add, .list items, .list items' => .ok ⟨.list (items ++ items'), []⟩
  | _, old, new => do
    let events ← old.drop type
    return ⟨new, events⟩

end TaggedUnion
