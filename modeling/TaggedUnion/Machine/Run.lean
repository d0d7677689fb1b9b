import TaggedUnion.Machine.Step

/-!
# Runs of programs

A run carries out the operations of a program one after another, a failed one included, and at the
end drops what the registers still hold, in their order. Its transcript shows for every operation
the reply, the tags in the registers afterwards and the events logged meanwhile.
-/

set_option autoImplicit false

namespace TaggedUnion

/-- What is seen of one operation. -/
structure Entry where
  reply : Reply
  tags : List (Option UInt8)
  events : List Event

/-- What is seen of a run: its operations, and the events of the drops at its end. -/
structure Transcript where
  entries : List Entry
  final : List Event

namespace Machine

variable {Held Value : Type} (storage : Storage Held Value) (types : List Ty)

def tags (state : State Held) : List (Option UInt8) :=
  state.registers.toList.map (Option.map storage.tag)

/-- Carries out one operation: what is seen of it, and the state afterwards. -/
def step (op : Op Ty) (state : State Held) : Except Fault (Entry × State Held) := do
  let outcome ← perform storage types op state
  let reply : Reply :=
    match outcome.answer with
    | .ok reply => reply
    | .error cause => .failed cause
  return (⟨reply, tags storage outcome.state, outcome.events⟩, outcome.state)

def steps : List (Op Ty) → State Held → Except Fault (List Entry × State Held)
  | [], state => .ok ([], state)
  | op :: ops, state => do
    let (entry, state) ← step storage types op state
    let (entries, state) ← steps ops state
    return (entry :: entries, state)

/-- Drops the unions in registers, one after another. -/
def dropContents : List (Option Held) → Except Fault (List Event)
  | [] => .ok []
  | none :: rest => dropContents rest
  | some union :: rest => do
    let events ← storage.drop types union
    let others ← dropContents rest
    return events ++ others

def run (program : List (Op Ty)) : Except Fault Transcript := do
  let (entries, state) ← steps storage types program (State.initial types)
  let final ← dropContents storage types state.registers.toList
  return ⟨entries, final⟩

end Machine

end TaggedUnion
