import TaggedUnion.Chain.Comparison
import TaggedUnion.Chain.Dispatch
import TaggedUnion.Chain.Lifetime
import TaggedUnion.Chain.Text
import TaggedUnion.Edit

/-!
# Two ways to keep unions

A machine needs a union for what can be done to it, however it is kept. `Storage` lists that.
`Storage.tagged` keeps a union as a tag and a chain of cells; `Storage.plain` keeps the index of
the active alternative and its plain value, and does everything directly on the two.
-/

set_option autoImplicit false

namespace TaggedUnion

/-- A way to keep unions as `Held` and values outside of unions as `Value`. -/
structure Storage (Held Value : Type) where
  /-- The kept form of a plain value. -/
  hold : Datum → Value
  view : Ty → Value → Except Fault Datum
  discard : Ty → Value → Except Fault (List Event)
  edit : Ty → EditMode → Value → Value → Except Fault (Edited Value)
  /-- The union that holds the value as its alternative at the index. -/
  place : Nat → Value → Held
  tag : Held → UInt8
  /-- The value at the index. -/
  get : Nat → Held → Except Fault Value
  /-- The union after the value at the index was overwritten. -/
  set : Nat → Value → Held → Except Fault Held
  /-- The name of the type of the active alternative. -/
  name : List Ty → Held → Except UInt8 String
  drop : List Ty → Held → Except Fault (List Event)
  clone : List Ty → Nat → Held → Except Fault (Made Held)
  compare : List Ty → Held → Held → Except Fault Verdict
  hash : List Ty → Held → Except Fault Hashed
  debug : List Ty → Style → Held → Except Fault String
  display : List Ty → Style → Held → Except Fault String
  dispatch : List Ty → HandlerTable → Held → Except Fault (HandlerTable × List Event)

/-- Unions as a tag and a chain of cells. -/
def Storage.tagged : Storage Tagged Stored where
  hold := Stored.ofDatum
  view := Stored.view
  discard := Stored.drop
  edit := Stored.edit
  place := Tagged.place
  tag := Tagged.tag
  get index union := union.storage.read index
  set index value union := do
    let storage ← union.storage.write value index
    return ⟨union.tag, storage⟩
  name types union := Registry.nameAt types union.tag
  drop := Tagged.drop
  clone := Tagged.clone
  compare := Tagged.compare
  hash := Tagged.hash
  debug := Tagged.debug
  display := Tagged.display
  dispatch := Tagged.dispatch

/-- A union as the index of its active alternative and the value of that alternative. -/
structure Choice where
  index : Nat
  value : Datum

namespace Choice

/-- The value, if the index is that of the active alternative. -/
def get (index : Nat) (union : Choice) : Except Fault Datum :=
  if union.index = index then .ok union.value else .error .fieldNotInUse

/-- The union with another value, if the index is that of the active alternative. -/
def set (index : Nat) (value : Datum) (union : Choice) : Except Fault Choice :=
  if union.index = index then .ok ⟨index, value⟩ else .error .fieldNotInUse

/-- The name of the type at the index. -/
def name (types : List Ty) (union : Choice) : Except UInt8 String :=
  match Registry.typeAt? types union.index with
  | some type => .ok type.qualifiedName
  | none => .error (UInt8.ofNat (union.index - types.length))

/-- The union with new identities. -/
def clone (nextId : Nat) (union : Choice) : Made Choice :=
  ⟨⟨union.index, union.value.renumber nextId⟩, nextId + union.value.ids.length,
    union.value.clones nextId⟩

/-- Unions with different indices are different. -/
def compare (left right : Choice) : Verdict :=
  if left.index = right.index then left.value.compare right.value else .quiet false

/-- The tag, then the value. -/
def hash (union : Choice) : Hashed :=
  ⟨Registry.tagOf union.index :: union.value.hashBytes, union.value.hashes⟩

/-- Runs the handler in the slot at the index. -/
def dispatch (types : List Ty) (table : HandlerTable) (union : Choice) :
    Except Fault (HandlerTable × List Event) :=
  match Registry.typeAt? types union.index with
  | none => .error .endOfList
  | some type =>
    match table.runAt? union.index type union.value with
    | none => .error .wrongType
    | some outcome => .ok outcome

end Choice

/-- Unions as an index and a plain value. -/
def Storage.plain : Storage Choice Datum where
  hold value := value
  view _ value := .ok value
  discard _ value := .ok value.drops
  edit _ mode old new := .ok (old.edit mode new)
  place := Choice.mk
  tag union := Registry.tagOf union.index
  get := Choice.get
  set := Choice.set
  name := Choice.name
  drop _ union := .ok union.value.drops
  clone _ nextId union := .ok (union.clone nextId)
  compare _ left right := .ok (left.compare right)
  hash _ union := .ok union.hash
  debug _ style union := .ok (union.value.debug style)
  display _ style union := .ok (union.value.display style)
  dispatch := Choice.dispatch

end TaggedUnion
