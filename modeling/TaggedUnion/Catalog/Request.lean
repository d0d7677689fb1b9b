import TaggedUnion.Catalog
import TaggedUnion.Machine.Run

/-!
# Requests on a schema

A request names types by words. Resolving it against a schema gives the program that the schema
offers: an operation that uses a word, an index, a conversion or a slot which the schema does not
offer becomes the unknown operation.
-/

set_option autoImplicit false

namespace TaggedUnion.Schema

/-- Values of the schema can be built. Of another one a request can only ask what its list says. -/
def valued (schema : Schema) : Bool :=
  !schema.alternatives.isEmpty && schema.alternatives.length ≤ Registry.maxArity

/-- The selector that is meant, for what is done with values. -/
def selector? (schema : Schema) (target : Selector String) : Option (Selector Ty) :=
  if schema.valued then
    match target with
    | .type word => (schema.names.lookup word).map .type
    | .position index => if index ∈ schema.positions then some (.position index) else none
  else none

/-- An operation on unions as such. -/
def onUnions (schema : Schema) (op : Op Ty) : Op Ty := if schema.valued then op else .unknown

def conversion? (schema : Schema) (target source : String) : Option (Ty × Ty) :=
  (schema.conversions.find? fun (target', source') => target'.1 == target && source'.1 == source).map
    fun (target', source') => (target'.2, source'.2)

/-- A handler can be installed in the slot of the alternative. If every slot has one, every slot
can be given another. -/
def canInstall (schema : Schema) (filled : Bool) (target : Selector Ty) : Bool :=
  match target.find? schema.alternatives with
  | some (_, index) => filled || index ∈ schema.slots
  | none => false

/-- The operation that a request asks for, on a handler table with all slots filled or not. -/
def resolve (schema : Schema) (filled : Bool) : Op String → Op Ty
  | .construct target register value =>
    match schema.selector? target with
    | some target => .construct target register value
    | none => .unknown
  | .convert target source register value =>
    match schema.conversion? target source with
    | some (target, source) => .convert target source register value
    | none => .unknown
  | .constructText register value => .constructText register value
  | .wrap register value => .wrap register value
  | .unwrap register => .unwrap register
  | .test target register =>
    match schema.selector? target with
    | some target => .test target register
    | none => .unknown
  | .read demand target register =>
    match schema.selector? target with
    | some target => .read demand target register
    | none => .unknown
  | .edit demand mode target register value =>
    match schema.selector? target with
    | some target => .edit demand mode target register value
    | none => .unknown
  | .take required target register =>
    match schema.selector? target with
    | some target => .take required target register
    | none => .unknown
  | .locate target =>
    match schema.names.lookup target with
    | some type => .locate type
    | none => .unknown
  | .typeAt index => if index ∈ schema.positions then .typeAt index else .unknown
  | .index register => .index register
  | .typeName register => .typeName register
  | .arity => .arity
  | .nameOfTag tag => .nameOfTag tag
  | .drop register => .drop register
  | .move source target => .move source target
  | .swap first second => .swap first second
  | .clone source target => schema.onUnions (.clone source target)
  | .compare negated left right => schema.onUnions (.compare negated left right)
  | .hash register => schema.onUnions (.hash register)
  | .render audience register style => schema.onUnions (.render audience register style)
  | .install kind target label =>
    match schema.selector? target with
    | some target => if schema.canInstall filled target then .install kind target label else .unknown
    | none => .unknown
  | .dispatch register => .dispatch register
  | .freshTable => .freshTable
  | .fillTable => .fillTable
  | .unknown => .unknown

/-- Whether all slots of the handler table are filled after a request. -/
def filledAfter (filled : Bool) : Op String → Bool
  | .freshTable => false
  | .fillTable => true
  | _ => filled

def program (schema : Schema) (filled : Bool) : List (Op String) → List (Op Ty)
  | [] => []
  | request :: requests =>
    schema.resolve filled request :: schema.program (filledAfter filled request) requests

def run (schema : Schema) (requests : List (Op String)) : Except Fault Transcript :=
  Machine.run .tagged schema.alternatives (schema.program false requests)

end TaggedUnion.Schema
