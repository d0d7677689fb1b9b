import TaggedUnion.Event

/-!
# Handlers and handler tables

A handler table has one slot for each alternative of a list, and a slot holds a handler for values
of its alternative or none. Installing a handler replaces the one in its slot together with all
that it remembers. Running a table on a value runs the handler in the slot of the value's index and
leaves all other slots as they are.
-/

set_option autoImplicit false

namespace TaggedUnion

/-- What a slot of a handler table holds. -/
inductive Handler where
  /-- Nothing: values of the slot are passed over. -/
  | unhandled
  /-- Counts its runs. -/
  | closure (accepts : Ty) (label : String) (runs : Nat)
  /-- Remembers every value it ran on. -/
  | recorder (accepts : Ty) (label : String) (seen : List Datum)

inductive HandlerKind where
  | closure
  | recorder
  deriving DecidableEq, Repr

namespace Handler

def install (kind : HandlerKind) (accepts : Ty) (label : String) : Handler :=
  match kind with
  | .closure => .closure accepts label 0
  | .recorder => .recorder accepts label []

def Accepts : Handler → Ty → Prop
  | .unhandled, _ => True
  | .closure accepts _ _, type => accepts = type
  | .recorder accepts _ _, type => accepts = type

/-- Runs a handler on a value of the type: the handler afterwards and what it logged, or nothing
if it does not take such values. -/
def run? (type : Ty) (value : Datum) : Handler → Option (Handler × List Event)
  | .unhandled => some (.unhandled, [])
  | .closure accepts label runs =>
    if accepts = type then
      some (.closure accepts label (runs + 1), [.ran label (runs + 1) value])
    else none
  | .recorder accepts label seen =>
    if accepts = type then
      some (.recorder accepts label (seen ++ [value]), [.recorded label (seen ++ [value])])
    else none

end Handler

/-- One handler for each alternative, in the order of the list. -/
abbrev HandlerTable := List Handler

namespace HandlerTable

def fresh (types : List Ty) : HandlerTable := types.map fun _ => .unhandled

/-- A closure in every slot, from the slot `start` on, each labelled by its slot. -/
def filledFrom (start : Nat) : List Ty → HandlerTable
  | [] => []
  | type :: types =>
    .install .closure type ("fill" ++ start.repr) :: filledFrom (start + 1) types

def filled (types : List Ty) : HandlerTable := filledFrom 0 types

/-- The table with the handler in the slot at the index. -/
def install (handler : Handler) : Nat → HandlerTable → HandlerTable
  | _, [] => []
  | 0, _ :: slots => handler :: slots
  | index + 1, slot :: slots => slot :: install handler index slots

/-- Installing a handler is overwriting one slot. -/
theorem install_eq_set (handler : Handler) (index : Nat) (table : HandlerTable) :
    install handler index table = table.set index handler := by
  induction table generalizing index with
  | nil => simp [install]
  | cons slot slots ih =>
    cases index with
    | zero => rfl
    | succ index => simp [install, ih]

/-- Runs the handler in the slot at the index on a value of the slot's type. -/
def runAt? (index : Nat) (type : Ty) (value : Datum) (table : HandlerTable) :
    Option (HandlerTable × List Event) :=
  match table[index]? with
  | none => none
  | some slot => (slot.run? type value).map fun (slot', events) => (table.set index slot', events)

/-- Every slot takes the values of the alternative at its position. -/
def Fits : HandlerTable → List Ty → Prop
  | [], [] => True
  | slot :: slots, type :: types => slot.Accepts type ∧ Fits slots types
  | _, _ => False

end HandlerTable

end TaggedUnion
