import TaggedUnion.Machine.Op
import TaggedUnion.Machine.Reply
import TaggedUnion.Machine.Storage

/-!
# Procedures

A state of the machine, and procedures on it: they may change the state, log events and fail. A
failure ends a procedure and keeps what was done and logged until then. A fault is no failure:
after one there is no outcome at all.
-/

set_option autoImplicit false

namespace TaggedUnion

structure State (Held : Type) where
  registers : Vector (Option Held) 4
  table : HandlerTable
  /-- The next free identity. -/
  nextId : Nat

/-- The state in which every program starts. -/
def State.initial {Held : Type} (types : List Ty) : State Held :=
  ⟨Vector.replicate 4 none, HandlerTable.fresh types, 0⟩

/-- What a procedure leaves behind. -/
structure Outcome (Held Answer : Type) where
  answer : Except Failure Answer
  state : State Held
  events : List Event

def Procedure (Held Answer : Type) : Type := State Held → Except Fault (Outcome Held Answer)

namespace Procedure

variable {Held Answer Next : Type}

def answer (value : Answer) : Procedure Held Answer := fun state => .ok ⟨.ok value, state, []⟩

/-- First one procedure and then, if it did not fail, another. -/
def andThen (first : Procedure Held Answer) (next : Answer → Procedure Held Next) : Procedure Held Next :=
  fun state =>
    match first state with
    | .error fault => .error fault
    | .ok ⟨.error failure, state, events⟩ => .ok ⟨.error failure, state, events⟩
    | .ok ⟨.ok value, state, events⟩ =>
      match next value state with
      | .error fault => .error fault
      | .ok outcome => .ok ⟨outcome.answer, outcome.state, events ++ outcome.events⟩

instance : Monad (Procedure Held) where
  pure := answer
  bind := andThen

theorem bind_eq_andThen (first : Procedure Held Answer) (next : Answer → Procedure Held Next) :
    first >>= next = first.andThen next := rfl

/-- An answer alone leaves nothing behind that what follows could notice. -/
theorem answer_andThen (value : Answer) (next : Answer → Procedure Held Next) :
    (answer value).andThen next = next value := by
  funext state
  simp only [andThen, answer]
  cases next value state with
  | error fault => rfl
  | ok outcome => rfl

def fail (failure : Failure) : Procedure Held Answer := fun state => .ok ⟨.error failure, state, []⟩

def log (events : List Event) : Procedure Held Unit := fun state => .ok ⟨.ok (), state, events⟩

/-- Does what may be a fault. -/
def orFault (result : Except Fault Answer) : Procedure Held Answer := fun state =>
  match result with
  | .error fault => .error fault
  | .ok value => .ok ⟨.ok value, state, []⟩

/-- The value, if there is one. -/
def orFail (failure : Failure) (value : Option Answer) : Procedure Held Answer :=
  match value with
  | some value => answer value
  | none => fail failure

/-- An operand, which a request may have left out or spelled wrongly. -/
def operand (value : Option Answer) : Procedure Held Answer := orFail .badInput value

/-- Makes something with new identities. -/
def make (making : Nat → Except Fault (Made Answer)) : Procedure Held Answer := fun state =>
  match making state.nextId with
  | .error fault => .error fault
  | .ok made => .ok ⟨.ok made.value, { state with nextId := made.nextId }, made.events⟩

def content? (register : Register) : Procedure Held (Option Held) := fun state =>
  .ok ⟨.ok state.registers[register], state, []⟩

def content (register : Register) : Procedure Held Held := do
  orFail .empty (← content? register)

/-- Overwrites a register, without a drop. -/
def setContent (register : Register) (union : Option Held) : Procedure Held Unit := fun state =>
  .ok ⟨.ok (), { state with registers := state.registers.set register union }, []⟩

def table : Procedure Held HandlerTable := fun state => .ok ⟨.ok state.table, state, []⟩

def setTable (table : HandlerTable) : Procedure Held Unit := fun state =>
  .ok ⟨.ok (), { state with table := table }, []⟩

end Procedure

end TaggedUnion
