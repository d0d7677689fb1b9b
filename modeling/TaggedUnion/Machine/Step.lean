import TaggedUnion.Conversion
import TaggedUnion.Machine.Procedure

/-!
# Carrying out an operation

The rule of each operation, the same for both ways to keep unions. Every rule asks in one order:
whether the list of alternatives offers the operation, then for its registers, then for what they
hold, and last for the value. A value is complete before the register is touched, and what a union
replaces is dropped after the union is in its place.
-/

set_option autoImplicit false

namespace TaggedUnion

open Registry

/-! ## What a list of alternatives offers -/

/-- The alternative that a selector picks: its type and its index. -/
def Selector.find? (types : List Ty) : Selector Ty → Option (Ty × Nat)
  | .type target => (indexOf? types target).map (target, ·)
  | .position index => (typeAt? types index).map (·, index)

/-- The alternative that a selector picks for a value to be built, which a list with more
alternatives than a union may have does not allow. -/
def Selector.build? (types : List Ty) (target : Selector Ty) : Option (Ty × Nat) :=
  if types.length ≤ maxArity then target.find? types else none

/-- The only alternative of a list. -/
def onlyType? : List Ty → Option Ty
  | [type] => some type
  | _ => none

/-- The unions of the list have a text for the audience. -/
def Audience.served (types : List Ty) : Audience → Bool
  | .readers => Ty.allDisplayable types
  | .inspection => true

/-! ## Replies to an access -/

/-- The reply if the alternative is active. -/
def Demand.found (value : Datum) : Demand → Reply
  | .optional => .optional (some value)
  | .checked => .ok value
  | .required => .value value

namespace Machine

open Procedure

variable {Held Value : Type} (storage : Storage Held Value) (types : List Ty)

/-- Goes on only if the list offers the operation. -/
def offered (condition : Bool) : Procedure Held Unit :=
  if condition then answer () else fail .unsupported

/-- Reads an operand as a value of the type. -/
def readValue (type : Ty) (value : Option Literal) : Procedure Held Datum := do
  let literal ← operand value
  operand (← make fun nextId => .ok (literal.read type nextId))

def convertValue (conversion : Conversion) (value : Datum) : Procedure Held Datum :=
  make fun nextId =>
    match conversion.convert? nextId value with
    | some made => .ok made
    | none => .error .wrongType

/-- Puts a union into a register and drops what was there. -/
def replaceContent (register : Register) (union : Held) : Procedure Held Unit := do
  let old ← content? register
  setContent register (some union)
  match old with
  | none => answer ()
  | some old => log (← orFault (storage.drop types old))

/-- The mismatch of a requested alternative and the active one of a union. -/
def mismatch (type : Ty) (index : Nat) (union : Held) : Procedure Held Mismatch :=
  match storage.name types union with
  | .ok name => answer ⟨type.qualifiedName, tagOf index, name, storage.tag union⟩
  | .error rest => fail (.panic (.tagOutOfRange rest))

/-- The reply if another alternative is active. -/
def missed (demand : Demand) (type : Ty) (index : Nat) (union : Held) : Procedure Held Reply :=
  match demand with
  | .optional => answer (.optional none)
  | .checked => do fail (.mismatch (← mismatch storage types type index union))
  | .required => do fail (.panic (.mismatch (← mismatch storage types type index union)))

/-- Reports a value that was taken out of a register, and drops it. -/
def reportTaken (type : Ty) (value : Value) : Procedure Held Datum := do
  let reported ← orFault (storage.view type value)
  log (← orFault (storage.discard type value))
  return reported

/-- The text of a union for an audience. -/
def textFor (audience : Audience) (style : Style) (union : Held) : Except Fault String :=
  match audience with
  | .readers => storage.display types style union
  | .inspection => storage.debug types style union

def perform : Op Ty → Procedure Held Reply
  | .construct target register value => do
    let (type, index) ← orFail .unsupported (target.build? types)
    let register ← operand register
    let value ← readValue type value
    replaceContent storage types register (storage.place index (storage.hold value))
    return .done
  | .convert target source register value => do
    let (_, index) ← orFail .unsupported ((Selector.type target).build? types)
    let conversion ← orFail .unsupported (Conversion.find? source target)
    let register ← operand register
    let value ← convertValue conversion (← readValue source value)
    replaceContent storage types register (storage.place index (storage.hold value))
    return .done
  | .constructText register value => do
    let (_, index) ← orFail .unsupported ((Selector.type .string).build? types)
    let register ← operand register
    let value ← readValue .string value
    replaceContent storage types register (storage.place index (storage.hold value))
    return .done
  | .wrap register value => do
    let type ← orFail .unsupported (onlyType? types)
    let register ← operand register
    let value ← readValue type value
    replaceContent storage types register (storage.place 0 (storage.hold value))
    return .done
  | .unwrap register => do
    let type ← orFail .unsupported (onlyType? types)
    let register ← operand register
    let union ← content register
    let value ← orFault (storage.get 0 union)
    setContent register none
    return .value (← reportTaken storage type value)
  | .test target register => do
    let (_, index) ← orFail .unsupported (target.find? types)
    let union ← content (← operand register)
    return .truth (storage.tag union == tagOf index)
  | .read demand target register => do
    let (type, index) ← orFail .unsupported (target.find? types)
    let union ← content (← operand register)
    if storage.tag union = tagOf index then
      let value ← orFault (storage.get index union)
      return demand.found (← orFault (storage.view type value))
    else missed storage types demand type index union
  | .edit demand mode target register value => do
    let (type, index) ← orFail .unsupported (target.find? types)
    let register ← operand register
    let union ← content register
    let value ← readValue type value
    if storage.tag union = tagOf index then
      let old ← orFault (storage.get index union)
      let edited ← orFault (storage.edit type mode old (storage.hold value))
      log edited.events
      setContent register (some (← orFault (storage.set index edited.value union)))
      return demand.found (← orFault (storage.view type edited.value))
    else
      log (← orFault (storage.discard type (storage.hold value)))
      missed storage types demand type index union
  | .take required target register => do
    let (type, index) ← orFail .unsupported (target.find? types)
    let register ← operand register
    let union ← content register
    if storage.tag union = tagOf index then
      let value ← orFault (storage.get index union)
      setContent register none
      let value ← reportTaken storage type value
      return if required then .value value else .ok value
    else if required then
      let mismatch ← mismatch storage types type index union
      setContent register none
      log (← orFault (storage.drop types union))
      fail (.panic (.mismatch mismatch))
    else return .returned
  | .locate target => do
    let index ← orFail .unsupported (indexOf? types target)
    return .number (tagOf index).toNat
  | .typeAt index => do
    let type ← orFail .unsupported (typeAt? types index)
    return .text type.qualifiedName
  | .index register => do
    let union ← content (← operand register)
    return .number (storage.tag union).toNat
  | .typeName register => do
    let union ← content (← operand register)
    match storage.name types union with
    | .ok name => return .text name
    | .error rest => fail (.panic (.tagOutOfRange rest))
  | .arity => return .number (arity types).toNat
  | .nameOfTag tag => do
    match nameAt types (← operand tag) with
    | .ok name => return .text name
    | .error rest => fail (.panic (.tagOutOfRange rest))
  | .drop register => do
    let register ← operand register
    let union ← content register
    setContent register none
    log (← orFault (storage.drop types union))
    return .done
  | .move source target => do
    let source ← operand source
    let target ← operand target
    let union ← content source
    setContent source none
    replaceContent storage types target union
    return .done
  | .swap first second => do
    let first ← operand first
    let second ← operand second
    let left ← content? first
    let right ← content? second
    setContent first right
    setContent second left
    return .done
  | .clone source target => do
    let source ← operand source
    let target ← operand target
    let union ← content source
    let copy ← make fun nextId => storage.clone types nextId union
    replaceContent storage types target copy
    return .done
  | .compare negated left right => do
    let left ← content (← operand left)
    let right ← content (← operand right)
    let verdict ← orFault (storage.compare types left right)
    log verdict.events
    return .truth (verdict.equal != negated)
  | .hash register => do
    offered (Ty.allHashable types)
    let union ← content (← operand register)
    let hashed ← orFault (storage.hash types union)
    log hashed.events
    return .bytes hashed.bytes
  | .render audience register style => do
    offered (audience.served types)
    let union ← content (← operand register)
    let style ← operand style
    return .text (← orFault (textFor storage types audience style union))
  | .install kind target label => do
    let (type, index) ← orFail .unsupported (target.find? types)
    setTable ((← table).install (.install kind type label) index)
    return .done
  | .dispatch register => do
    let union ← content (← operand register)
    let (slots, events) ← orFault (storage.dispatch types (← table) union)
    setTable slots
    log events
    return .done
  | .freshTable => do
    setTable (HandlerTable.fresh types)
    return .done
  | .fillTable => do
    setTable (HandlerTable.filled types)
    return .done
  | .unknown => fail .unsupported

end Machine

end TaggedUnion
