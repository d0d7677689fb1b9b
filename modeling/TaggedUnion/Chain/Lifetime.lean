import TaggedUnion.Chain
import TaggedUnion.Event

/-!
# Dropping and cloning in storage

The walks that end the life of the active alternative and that copy it. Each counts the tag down
the list and hands the data it comes to over to the operation of its type; the cells it passes are
left alone by the one and rebuilt by the other.
-/

set_option autoImplicit false

namespace TaggedUnion

/-- Something made while identities were handed out: the next free one, and what was logged. -/
structure Made (Value : Type) where
  value : Value
  nextId : Nat
  events : List Event

/-- The same identities and events for another value. -/
def Made.map {Value Other : Type} (change : Value → Other) (made : Made Value) : Made Other :=
  ⟨change made.value, made.nextId, made.events⟩

def Leaf.drop : Leaf → List Event
  | .tracked _ id _ => [.dropped id]
  | _ => []

/-- Clones a leaf. A tracked one gets the next identity. -/
def Leaf.clone (nextId : Nat) : Leaf → Made Leaf
  | .tracked kind id number => ⟨.tracked kind nextId number, nextId + 1, [.cloned id nextId]⟩
  | leaf => ⟨leaf, nextId, []⟩

mutual

def Stored.drop : Ty → Stored → Except Fault (List Event)
  | _, .leaf value => .ok value.drop
  | .list type, .list items => Stored.dropAll type items
  | .option _, .none => .ok []
  | .option type, .some content => content.drop type
  | .pair type type', .pair first second => do
    let first ← first.drop type
    let second ← second.drop type'
    return first ++ second
  | .record _ type, .record _ content => content.drop type
  | .variant types, .variant tag storage => storage.drop types tag
  | _, _ => .error .wrongType

def Stored.dropAll : Ty → List Stored → Except Fault (List Event)
  | _, [] => .ok []
  | type, item :: items => do
    let first ← item.drop type
    let rest ← Stored.dropAll type items
    return first ++ rest

/-- What dropping the active alternative logs. -/
def Chain.drop : List Ty → UInt8 → Chain → Except Fault (List Event)
  | [], _, _ => .error .endOfList
  | type :: _, tag, .data value => if tag = 0 then value.drop type else .error .fieldNotInUse
  | _ :: types, tag, .next rest => if tag = 0 then .error .fieldNotInUse else rest.drop types (tag - 1)

end

mutual

def Stored.clone : Ty → Nat → Stored → Except Fault (Made Stored)
  | _, nextId, .leaf value => .ok ((value.clone nextId).map .leaf)
  | .list type, nextId, .list items => do
    let items ← Stored.cloneAll type nextId items
    return items.map .list
  | .option _, nextId, .none => .ok ⟨.none, nextId, []⟩
  | .option type, nextId, .some content => do
    let content ← content.clone type nextId
    return content.map .some
  | .pair type type', nextId, .pair first second => do
    let first ← first.clone type nextId
    let second ← second.clone type' first.nextId
    return ⟨.pair first.value second.value, second.nextId, first.events ++ second.events⟩
  | .record _ type, nextId, .record label content => do
    let content ← content.clone type nextId
    return content.map (.record label)
  | .variant types, nextId, .variant tag storage => do
    let storage ← storage.clone types tag nextId
    return storage.map (.variant tag)
  | _, _, _ => .error .wrongType

def Stored.cloneAll : Ty → Nat → List Stored → Except Fault (Made (List Stored))
  | _, nextId, [] => .ok ⟨[], nextId, []⟩
  | type, nextId, item :: items => do
    let first ← item.clone type nextId
    let rest ← Stored.cloneAll type first.nextId items
    return ⟨first.value :: rest.value, rest.nextId, first.events ++ rest.events⟩

/-- Clones the active alternative, into a chain with the same fields in use. -/
def Chain.clone : List Ty → UInt8 → Nat → Chain → Except Fault (Made Chain)
  | [], _, _, _ => .error .endOfList
  | type :: _, tag, nextId, .data value =>
    if tag = 0 then do
      let value ← value.clone type nextId
      return value.map .data
    else .error .fieldNotInUse
  | _ :: types, tag, nextId, .next rest =>
    if tag = 0 then .error .fieldNotInUse
    else do
      let rest ← rest.clone types (tag - 1) nextId
      return rest.map .next

end

/-- Drops a union: what dropping its active alternative logs. -/
def Tagged.drop (types : List Ty) (union : Tagged) : Except Fault (List Event) :=
  union.storage.drop types union.tag

def Tagged.clone (types : List Ty) (nextId : Nat) (union : Tagged) : Except Fault (Made Tagged) := do
  let storage ← union.storage.clone types union.tag nextId
  return storage.map (⟨union.tag, ·⟩)

end TaggedUnion
