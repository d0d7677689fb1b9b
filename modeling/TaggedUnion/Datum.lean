import TaggedUnion.Leaf
import TaggedUnion.Registry

/-!
# Plain values

Values as their reader sees them: leaves, containers, records, and unions as an index with a
value. `ids` lists the identities of the tracked leaves from left to right; everything about their
lifetime is said through it.
-/

set_option autoImplicit false

namespace TaggedUnion

inductive Datum where
  | leaf (value : Leaf)
  | list (items : List Datum)
  | none
  | some (content : Datum)
  | pair (first second : Datum)
  | record (label : String) (content : Datum)
  /-- A union whose alternative at the index is active. -/
  | variant (index : Nat) (content : Datum)

namespace Datum

/-! ## Identities -/

mutual

/-- The identities of the tracked leaves, from left to right. -/
def ids : Datum → List Nat
  | .leaf value => value.ids
  | list items => allIds items
  | none => []
  | some content => content.ids
  | pair first second => first.ids ++ second.ids
  | record _ content => content.ids
  | variant _ content => content.ids

def allIds : List Datum → List Nat
  | [] => []
  | item :: items => item.ids ++ allIds items

end

mutual

/-- The value with consecutive new identities from left to right, from `fresh` on. -/
def renumber (fresh : Nat) : Datum → Datum
  | .leaf value => .leaf (value.renumber fresh)
  | list items => .list (renumberAll fresh items)
  | none => .none
  | some content => .some (content.renumber fresh)
  | pair first second => .pair (first.renumber fresh) (second.renumber (fresh + first.ids.length))
  | record label content => .record label (content.renumber fresh)
  | variant index content => .variant index (content.renumber fresh)

def renumberAll (fresh : Nat) : List Datum → List Datum
  | [] => []
  | item :: items => item.renumber fresh :: renumberAll (fresh + item.ids.length) items

end

/-! ## Bytes for a hasher -/

mutual

/-- What the value feeds to a hasher: a list its length and its items, an optional value a number
that tells whether it is there, a union the tag of its active alternative in front. -/
def hashBytes : Datum → List UInt8
  | .leaf value => value.hashBytes
  | list items => IntType.u64.littleEndian items.length ++ allHashBytes items
  | none => IntType.u64.littleEndian 0
  | some content => IntType.u64.littleEndian 1 ++ content.hashBytes
  | pair first second => first.hashBytes ++ second.hashBytes
  | record _ content => content.hashBytes
  | variant index content => Registry.tagOf index :: content.hashBytes

def allHashBytes : List Datum → List UInt8
  | [] => []
  | item :: items => item.hashBytes ++ allHashBytes items

end

/-! ## Texts -/

mutual

/-- The text for inspection. The style goes to the leaves; a union adds nothing. -/
def debug (style : Style) : Datum → String
  | .leaf value => value.debug style
  | list items => Layout.sequence style.alternate "[" "]" (debugAll style items)
  | none => "None"
  | some content => Layout.sequence style.alternate "Some(" ")" [content.debug style]
  | pair first second =>
    Layout.sequence style.alternate "(" ")" [first.debug style, second.debug style]
  | record label content => Layout.record style.alternate label [("v", content.debug style)]
  | variant _ content => content.debug style

def debugAll (style : Style) : List Datum → List String
  | [] => []
  | item :: items => item.debug style :: debugAll style items

end

/-- The text for readers. Containers and records have none; a union adds nothing. -/
def display (style : Style) : Datum → String
  | .leaf value => value.display style
  | list _ | none | some _ | pair _ _ | record _ _ => ""
  | variant _ content => content.display style

end Datum

end TaggedUnion
