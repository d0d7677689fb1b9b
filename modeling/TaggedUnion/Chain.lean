import TaggedUnion.Datum

/-!
# Tagged storage

How a union is stored: a tag of one byte and a chain of cells, one cell for each alternative up to
the active one. A cell has two fields of which one is in use: the cell of the active alternative
holds its data, and each cell before it holds the rest of the chain. Nothing in a cell tells which
of its fields is in use; that is known from the tag alone.

The storage is reached in two ways. Where the index is known (`Chain.place`, `Chain.read`,
`Chain.write`), the cells are counted up to it. Where only the tag is known, the list of
alternatives is walked while the tag is counted down; those walks are in the modules below.
Either way may ask for a field that is not in use or run off the end of the list, which is a
`Fault`: it cannot be answered, and a run in which it happens has no outcome.
-/

set_option autoImplicit false

namespace TaggedUnion

/-- What makes an access to storage meaningless. -/
inductive Fault where
  /-- A walk came to the end of the list of alternatives. -/
  | endOfList
  /-- The field that was asked for is not the one in use. -/
  | fieldNotInUse
  /-- The data is not of the type that the list gives it. -/
  | wrongType
  deriving DecidableEq, Repr

mutual

inductive Stored where
  | leaf (value : Leaf)
  | list (items : List Stored)
  | none
  | some (content : Stored)
  | pair (first second : Stored)
  | record (label : String) (content : Stored)
  | variant (tag : UInt8) (storage : Chain)

/-- A chain of cells, by the fields that are in use. -/
inductive Chain where
  | data (value : Stored)
  | next (rest : Chain)

end

structure Tagged where
  tag : UInt8
  storage : Chain

namespace Chain

/-- The chain in which the cell at the index holds the value. -/
def place : Nat → Stored → Chain
  | 0, value => .data value
  | index + 1, value => .next (place index value)

/-- The data of the cell at the index. -/
def read : Nat → Chain → Except Fault Stored
  | 0, .data value => .ok value
  | index + 1, .next rest => rest.read index
  | _, _ => .error .fieldNotInUse

/-- The chain after the data of the cell at the index was overwritten. -/
def write (value : Stored) : Nat → Chain → Except Fault Chain
  | 0, .data _ => .ok (.data value)
  | index + 1, .next rest => do
    let rest ← rest.write value index
    return .next rest
  | _, _ => .error .fieldNotInUse

/-- What was placed at an index is read there. -/
theorem read_place (index : Nat) (value : Stored) : (place index value).read index = .ok value := by
  induction index with
  | zero => rfl
  | succ index ih => exact ih

/-- Overwriting what was placed at an index is placing another value there. -/
theorem write_place (index : Nat) (old new : Stored) :
    (place index old).write new index = .ok (place index new) := by
  induction index with
  | zero => rfl
  | succ index ih => simp [place, write, ih, bind, Except.bind, pure, Except.pure]

end Chain

namespace Stored

mutual

def ofDatum : Datum → Stored
  | .leaf value => .leaf value
  | .list items => .list (ofData items)
  | .none => .none
  | .some content => .some (ofDatum content)
  | .pair first second => .pair (ofDatum first) (ofDatum second)
  | .record label content => .record label (ofDatum content)
  | .variant index content => .variant (Registry.tagOf index) (Chain.place index (ofDatum content))

def ofData : List Datum → List Stored
  | [] => []
  | item :: items => ofDatum item :: ofData items

end

end Stored

/-- A union in storage, with the value as its alternative at the index. -/
def Tagged.place (index : Nat) (value : Stored) : Tagged :=
  ⟨Registry.tagOf index, Chain.place index value⟩

/-! ## Reading back -/

mutual

def Stored.view : Ty → Stored → Except Fault Datum
  | _, .leaf value => .ok (.leaf value)
  | .list type, .list items => do
    let items ← Stored.viewAll type items
    return .list items
  | .option _, .none => .ok .none
  | .option type, .some content => do
    let content ← content.view type
    return .some content
  | .pair type type', .pair first second => do
    let first ← first.view type
    let second ← second.view type'
    return .pair first second
  | .record _ type, .record label content => do
    let content ← content.view type
    return .record label content
  | .variant types, .variant tag storage => do
    let content ← storage.view types tag
    return .variant tag.toNat content
  | _, _ => .error .wrongType

def Stored.viewAll : Ty → List Stored → Except Fault (List Datum)
  | _, [] => .ok []
  | type, item :: items => do
    let item ← item.view type
    let items ← Stored.viewAll type items
    return item :: items

/-- The plain value of the active alternative. -/
def Chain.view : List Ty → UInt8 → Chain → Except Fault Datum
  | [], _, _ => .error .endOfList
  | type :: _, tag, .data value => if tag = 0 then value.view type else .error .fieldNotInUse
  | _ :: types, tag, .next rest => if tag = 0 then .error .fieldNotInUse else rest.view types (tag - 1)

end

end TaggedUnion
