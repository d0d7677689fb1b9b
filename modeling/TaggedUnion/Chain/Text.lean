import TaggedUnion.Chain

/-!
# Texts of values in storage

The walks that find the active alternative and write it, for readers and for inspection. The style
is handed down as it is.
-/

set_option autoImplicit false

namespace TaggedUnion

mutual

def Stored.debug (style : Style) : Ty → Stored → Except Fault String
  | _, .leaf value => .ok (value.debug style)
  | .list type, .list items => do
    let items ← Stored.debugAll style type items
    return Layout.sequence style.alternate "[" "]" items
  | .option _, .none => .ok "None"
  | .option type, .some content => do
    let content ← content.debug style type
    return Layout.sequence style.alternate "Some(" ")" [content]
  | .pair type type', .pair first second => do
    let first ← first.debug style type
    let second ← second.debug style type'
    return Layout.sequence style.alternate "(" ")" [first, second]
  | .record _ type, .record label content => do
    let content ← content.debug style type
    return Layout.record style.alternate label [("v", content)]
  | .variant types, .variant tag storage => storage.debug style types tag
  | _, _ => .error .wrongType

def Stored.debugAll (style : Style) : Ty → List Stored → Except Fault (List String)
  | _, [] => .ok []
  | type, item :: items => do
    let first ← item.debug style type
    let rest ← Stored.debugAll style type items
    return first :: rest

def Chain.debug (style : Style) : List Ty → UInt8 → Chain → Except Fault String
  | [], _, _ => .error .endOfList
  | type :: _, tag, .data value => if tag = 0 then value.debug style type else .error .fieldNotInUse
  | _ :: types, tag, .next rest =>
    if tag = 0 then .error .fieldNotInUse else rest.debug style types (tag - 1)

end

mutual

def Stored.display (style : Style) : Ty → Stored → Except Fault String
  | _, .leaf value => .ok (value.display style)
  | .variant types, .variant tag storage => storage.display style types tag
  | _, _ => .error .wrongType

def Chain.display (style : Style) : List Ty → UInt8 → Chain → Except Fault String
  | [], _, _ => .error .endOfList
  | type :: _, tag, .data value => if tag = 0 then value.display style type else .error .fieldNotInUse
  | _ :: types, tag, .next rest =>
    if tag = 0 then .error .fieldNotInUse else rest.display style types (tag - 1)

end

def Tagged.debug (types : List Ty) (style : Style) (union : Tagged) : Except Fault String :=
  union.storage.debug style types union.tag

def Tagged.display (types : List Ty) (style : Style) (union : Tagged) : Except Fault String :=
  union.storage.display style types union.tag

end TaggedUnion
