import TaggedUnion.Chain
import TaggedUnion.Handler

/-!
# Dispatch in storage

The walk that goes down a handler table and the storage of a union side by side, and runs the
handler it is at when the tag is counted down. The handlers it passes stay as they are.
-/

set_option autoImplicit false

namespace TaggedUnion

/-- Runs the handler in the slot of the active alternative: the table afterwards and what was
logged. -/
def Chain.dispatch :
    List Ty → UInt8 → Chain → HandlerTable → Except Fault (HandlerTable × List Event)
  | [], _, _, _ => .error .endOfList
  | type :: _, tag, .data value, slot :: slots =>
    if tag = 0 then do
      let value ← value.view type
      match slot.run? type value with
      | none => .error .wrongType
      | some (slot, events) => return (slot :: slots, events)
    else .error .fieldNotInUse
  | _ :: types, tag, .next rest, slot :: slots =>
    if tag = 0 then .error .fieldNotInUse
    else do
      let (slots, events) ← rest.dispatch types (tag - 1) slots
      return (slot :: slots, events)
  | _ :: _, _, _, [] => .error .wrongType

def Tagged.dispatch (types : List Ty) (table : HandlerTable) (union : Tagged) :
    Except Fault (HandlerTable × List Event) :=
  union.storage.dispatch types union.tag table

end TaggedUnion
