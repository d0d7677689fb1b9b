import TaggedUnion.Ty

/-!
# Names of types

The name under which a type is reported, with the path of the place that declares it. A union is
named by the list of its alternatives, written as nested pairs that end in the unit type.
-/

set_option autoImplicit false

namespace TaggedUnion.Ty

/-- A slot in the name of a marker type: its number, or the name of the greatest one. -/
def slotName (slot : Nat) : String := if slot = 255 then "u8::MAX" else slot.repr

mutual

def qualifiedName : Ty → String
  | int kind => kind.name
  | float format => format.name
  | bool => "bool"
  | char => "char"
  | unit => "()"
  | string => "alloc::string::String"
  | fixedText => "alloc::boxed::Box<str>"
  | empty slot => "tvariant::marker::Empty<" ++ slotName slot ++ ">"
  | tracked kind => "oracle_driver::values::Tracked<" ++ kind.repr ++ ">"
  | record label _ => "oracle_driver::values::" ++ label
  | list item => "alloc::vec::Vec<" ++ item.qualifiedName ++ ">"
  | option item => "core::option::Option<" ++ item.qualifiedName ++ ">"
  | pair first second => "(" ++ first.qualifiedName ++ ", " ++ second.qualifiedName ++ ")"
  | variant alternatives => "tvariant::Variant<" ++ listName alternatives ++ ">"

def listName : List Ty → String
  | [] => "()"
  | type :: types => "(" ++ type.qualifiedName ++ ", " ++ listName types ++ ")"

end

end TaggedUnion.Ty
