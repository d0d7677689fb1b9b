import TaggedUnion.Proofs.Correspondence
import TaggedUnion.Proofs.Reindexing

/-!
# Tagged storage over another list

A machine with tagged unions over a list and a machine with plain unions over another list, whose
alternatives the first has at other places, go through corresponding states, as long as the two
lists offer the same to the operations. What is seen of the first machine tells the places of what
is seen of the second. Neither comes to a fault.
-/

set_option autoImplicit false

namespace TaggedUnion

open Registry

/-! ## Operations for which two lists are alike -/

/-- Both lists let the selector pick the same alternative, or none. -/
def Selector.Alike (pick? : List Ty → Selector Ty → Option (Ty × Nat)) (types' types : List Ty)
    (place : Nat → Nat) (target : Selector Ty) : Prop :=
  pick? types' target = (pick? types target).map fun picked => (picked.1, place picked.2)

/-- Whatever the operation asks the list for, both give the same answer, with places for indices. -/
def Op.Alike (types' types : List Ty) (place : Nat → Nat) : Op Ty → Prop
  | .construct target _ _ => target.Alike Selector.build? types' types place
  | .convert target _ _ _ => (Selector.type target).Alike Selector.build? types' types place
  | .constructText _ _ => (Selector.type .string).Alike Selector.build? types' types place
  | .test target _ | .read _ target _ | .edit _ _ target _ _ | .take _ target _
  | .install _ target _ => target.Alike Selector.find? types' types place
  | .wrap _ _ | .unwrap _ => onlyType? types' = onlyType? types
  | .locate target =>
    (indexOf? types' target).map (fun position => (tagOf position).toNat) =
      (indexOf? types target).map fun position => place (tagOf position).toNat
  | .typeAt asked => typeAt? types' asked = typeAt? types asked
  | .arity => Registry.arity types' = Registry.arity types
  | .nameOfTag given => ∀ tag, given = some tag → nameAt types' tag = nameAt types tag
  | .hash _ => Ty.allHashable types' = Ty.allHashable types
  | .render audience _ _ => audience.served types' = audience.served types
  | .fillTable => ∀ index < types.length, place index = index
  | .index _ | .typeName _ | .drop _ | .move _ _ | .swap _ _ | .clone _ _ | .compare _ _ _
  | .dispatch _ | .freshTable | .unknown => True

theorem Op.alike_id (types : List Ty) (op : Op Ty) : op.Alike types types id := by
  have built : ∀ target : Selector Ty, target.Alike Selector.build? types types id :=
    fun target => Option.map_id'.symm
  have picked : ∀ target : Selector Ty, target.Alike Selector.find? types types id :=
    fun target => Option.map_id'.symm
  cases op with
  | construct | convert | constructText => exact built _
  | test | read | edit | take | install => exact picked _
  | fillTable => exact fun _ _ => rfl
  | nameOfTag => exact fun _ _ => rfl
  | index | typeName | drop | move | swap | clone | compare | dispatch | freshTable | unknown =>
      trivial
  | _ => rfl

/-! ## Failures and replies that go together -/

/-- The operation can fail for the cause. Only the lookup of a name past the end of the list comes
to the end of it. -/
def Op.CanFail (types : List Ty) (op : Op Ty) : Failure → Prop
  | .panic (.tagOutOfRange rest) =>
    ∃ tag, op = .nameOfTag (some tag) ∧ nameAt types tag = .error rest
  | _ => True

/-- The cause of a failure, if the reply tells one. -/
def Reply.failure? : Reply → Option Failure
  | .failed cause => some cause
  | _ => none

theorem Demand.found_failure? (demand : Demand) (value : Datum) :
    (demand.found value).failure? = none := by
  cases demand <;> rfl

theorem Demand.found_reindex (place : Nat → Nat) (op : Op Ty) (demand : Demand) (value : Datum) :
    (demand.found value).reindex place op = demand.found value := by
  cases demand <;> rfl

/-- The replies are the same one, with places for indices, and it tells no failure. -/
def Agree (place : Nat → Nat) (op : Op Ty) (reply reply' : Reply) : Prop :=
  reply = reply'.reindex place op ∧ reply'.failure? = none

/-- States go together if the first holds the second at other places, and failures if they are the
same one, for which the operation can fail. -/
def simulation (types' types : List Ty) (place : Nat → Nat) (op : Op Ty) : Coupling Tagged Choice where
  states := State.Moved types' types place
  failures cause cause' := cause = cause'.reindex place ∧ op.CanFail types cause'

variable {types' types : List Ty} {place : Nat → Nat} {op : Op Ty}

/-- A reply that tells no index and no failure. -/
theorem Agree.plain {reply : Reply} (same : reply.reindex place op = reply)
    (told : reply.failure? = none) : Agree place op reply reply := ⟨same.symm, told⟩

/-! ## Corresponding parts of operations -/

namespace Procedure.Corresponds

variable {Answer Answer' : Type} {answers : Answer → Answer' → Prop}

theorem operand (value : Option Answer) :
    Corresponds (simulation types' types place op) (fun left right => left = right ∧ value = some right)
      (Procedure.operand value) (Procedure.operand value) := by
  have allowed : (simulation types' types place op).failures .badInput .badInput := ⟨rfl, trivial⟩
  exact orFail allowed (Option.map_id' ..).symm

theorem offer {form : Answer' → Answer} {value : Option Answer} {value' : Option Answer'}
    (alike : value = value'.map form) :
    Corresponds (simulation types' types place op)
      (fun left right => left = form right ∧ value' = some right)
      (Procedure.orFail .unsupported value) (Procedure.orFail .unsupported value') := by
  have allowed : (simulation types' types place op).failures .unsupported .unsupported := ⟨rfl, trivial⟩
  exact orFail allowed alike

theorem offerSame {value value' : Option Answer} (alike : value = value') :
    Corresponds (simulation types' types place op)
      (fun left right => left = right ∧ value' = some right)
      (Procedure.orFail .unsupported value) (Procedure.orFail .unsupported value') :=
  offer (alike.trans (Option.map_id' ..).symm)

theorem content? (register : Register) :
    Corresponds (simulation types' types place op)
      (fun content content' => content = content'.map (fun union => (union.reindex place).stored) ∧
        ∀ union, content' = some union → union.Typed types)
      (Procedure.content? register) (Procedure.content? register) := by
  intro state state' moved
  exact ⟨_, _, state, state', [], rfl, rfl, moved,
    .answered ⟨moved.content register, moved.typed register⟩⟩

theorem content (register : Register) :
    Corresponds (simulation types' types place op)
      (fun union union' => union = (union'.reindex place).stored ∧ union'.Typed types)
      (Procedure.content register) (Procedure.content register) := by
  refine .next (content? register) ?_
  intro held typed
  cases held with
  | none => exact fail ⟨rfl, trivial⟩
  | some union => exact answer ⟨rfl, typed union rfl⟩

theorem setContent (register : Register) {held : Option Choice}
    (typed : ∀ union, held = some union → union.Typed types) :
    Corresponds (simulation types' types place op) Eq
      (Procedure.setContent register (held.map fun union => (union.reindex place).stored))
      (Procedure.setContent register held) := by
  intro state state' moved
  exact ⟨_, _, _, _, [], rfl, rfl, moved.put register typed, .answered rfl⟩

theorem empty (register : Register) :
    Corresponds (simulation types' types place op) Eq (Procedure.setContent register none)
      (Procedure.setContent register none) := by
  have nothing : ∀ union : Choice, Option.none = some union → union.Typed types := nofun
  exact setContent register nothing

theorem table :
    Corresponds (simulation types' types place op) (HandlerTable.Moved types' types place)
      Procedure.table Procedure.table := by
  intro state state' moved
  exact ⟨_, _, state, state', [], rfl, rfl, moved, .answered moved.table⟩

theorem setTable {table table' : HandlerTable} (movedTable : table.Moved types' types place table') :
    Corresponds (simulation types' types place op) Eq (Procedure.setTable table)
      (Procedure.setTable table') := by
  intro state state' moved
  exact ⟨_, _, _, _, [], rfl, rfl, ⟨moved.registers, moved.nextId, moved.typed, movedTable⟩,
    .answered rfl⟩

theorem make {making : Nat → Except Fault (Made Answer)} {making' : Nat → Except Fault (Made Answer')}
    (each : ∀ nextId, ∃ made made', making nextId = .ok made ∧ making' nextId = .ok made' ∧
      made.nextId = made'.nextId ∧ made.events = made'.events ∧ answers made.value made'.value) :
    Corresponds (simulation types' types place op) answers (Procedure.make making)
      (Procedure.make making') := by
  intro state state' moved
  obtain ⟨made, made', left, right, sameId, sameEvents, together⟩ := each state'.nextId
  refine ⟨.ok made.value, .ok made'.value, { state with nextId := made'.nextId },
    { state' with nextId := made'.nextId }, made'.events, ?_, ?_,
    ⟨moved.registers, rfl, moved.typed, moved.table⟩, .answered together⟩
  · simp only [Procedure.make, moved.nextId, left, sameId, sameEvents]
  · simp only [Procedure.make, right]

end Procedure.Corresponds

namespace Machine

open Procedure

theorem offered_corresponds {condition condition' : Bool} (alike : condition = condition') :
    Corresponds (simulation types' types place op) (fun left right => left = right ∧ condition' = true)
      (offered condition) (offered condition') := by
  subst alike
  cases condition with
  | false => exact .fail ⟨rfl, trivial⟩
  | true => exact .answer ⟨rfl, rfl⟩

theorem readValue_corresponds (type : Ty) (value : Option Literal) :
    Corresponds (simulation types' types place op) (fun left right => left = right ∧ right.Typed type)
      (readValue type value) (readValue type value) := by
  refine .next (.operand value) ?_
  intro literal _
  have made : Corresponds (simulation types' types place op)
      (fun left right => left = right ∧ ∀ value, right = some value → value.Typed type)
      (make fun nextId => .ok (literal.read type nextId))
      (make fun nextId => .ok (literal.read type nextId)) :=
    .make fun nextId => ⟨_, _, rfl, rfl, rfl, rfl, rfl, fun value found => Literal.read_typed found⟩
  refine .next made ?_
  intro read typed
  refine (Corresponds.operand read).weaken ?_
  intro value value' ⟨same, found⟩
  exact ⟨same, typed value' found⟩

theorem convertValue_corresponds {source target : Ty} {conversion : Conversion}
    (selected : Conversion.find? source target = some conversion) {value : Datum}
    (typed : value.Typed source) :
    Corresponds (simulation types' types place op) (fun left right => left = right ∧ right.Typed target)
      (convertValue conversion value) (convertValue conversion value) := by
  refine .make fun nextId => ?_
  obtain ⟨made, converted, madeTyped⟩ := Conversion.convert?_typed selected typed nextId
  rw [converted]
  exact ⟨made, made, rfl, rfl, rfl, rfl, rfl, madeTyped⟩

variable (moving : Reindexing types' types place)

include moving

theorem copy_corresponds {union : Choice} (typed : union.Typed types) :
    Corresponds (simulation types' types place op)
      (fun copy copy' => copy = (copy'.reindex place).stored ∧ copy'.Typed types)
      (make fun nextId => Storage.tagged.clone types' nextId (union.reindex place).stored)
      (make fun nextId => Storage.plain.clone types nextId union) :=
  .make fun nextId =>
    ⟨_, _, (moving.typed typed).clone_stored nextId, rfl, rfl, rfl, rfl, typed.clone nextId⟩

theorem replaceContent_corresponds (register : Register) {union : Choice} (typed : union.Typed types) :
    Corresponds (simulation types' types place op) Eq
      (replaceContent .tagged types' register (union.reindex place).stored)
      (replaceContent .plain types register union) := by
  refine .next (.content? register) ?_
  intro old oldTyped
  have held : ∀ union', some union = some union' → union'.Typed types :=
    fun union' same => Option.some.inj same ▸ typed
  refine .before (.setContent register held) ?_
  cases old with
  | none => exact .answer rfl
  | some old => exact .orFault (moving.typed (oldTyped old rfl)).drop_stored rfl (.log _)

/-- Building the union that holds a typed value, the last part of several operations. -/
theorem build_corresponds {index : Nat} {type : Ty} (short : types.length ≤ maxArity)
    (found : typeAt? types index = some type) {value : Datum} (typed : value.Typed type)
    (register : Register) :
    Corresponds (simulation types' types place op) (Agree place op)
      (do
        replaceContent .tagged types' register
          (Storage.tagged.place (place index) (Storage.tagged.hold value))
        return Reply.done)
      (do
        replaceContent .plain types register (Storage.plain.place index (Storage.plain.hold value))
        return Reply.done) :=
  .before (replaceContent_corresponds moving register (Choice.typed_of short found typed))
    (.answer (.plain rfl rfl))

theorem mismatch_corresponds {type : Ty} {index : Nat} (found : typeAt? types index = some type)
    {union : Choice} (typed : union.Typed types) :
    Corresponds (simulation types' types place op)
      (fun report report' => report = report'.reindex place ∧ True)
      (mismatch .tagged types' type (place index) (union.reindex place).stored)
      (mismatch .plain types type index union) := by
  obtain ⟨name, named, plainNamed⟩ := moving.name typed
  obtain ⟨_, short, foundActive, -⟩ := typed.found
  have tagged : Storage.tagged.name types' (union.reindex place).stored = .ok name := named
  have plain : Storage.plain.name types union = .ok name := plainNamed
  simp only [mismatch, tagged, plain]
  refine .answer ⟨?_, trivial⟩
  have requested := reindexTag_tagOf place (typeAt?_short short found)
  have active := reindexTag_tagOf place (typeAt?_short short foundActive)
  simp only [Mismatch.reindex, Storage.plain, requested, active]
  rfl

theorem missed_corresponds (demand : Demand) {type : Ty} {index : Nat}
    (found : typeAt? types index = some type) {union : Choice} (typed : union.Typed types) :
    Corresponds (simulation types' types place op) (Agree place op)
      (missed .tagged types' demand type (place index) (union.reindex place).stored)
      (missed .plain types demand type index union) := by
  cases demand with
  | optional => exact .answer (.plain rfl rfl)
  | checked =>
      exact .next (mismatch_corresponds moving found typed) fun _ _ => .fail ⟨rfl, trivial⟩
  | required =>
      exact .next (mismatch_corresponds moving found typed) fun _ _ => .fail ⟨rfl, trivial⟩

omit moving in
theorem reportTaken_corresponds {type : Ty} {value : Datum} (typed : value.Typed type) :
    Corresponds (simulation types' types place op) Eq (reportTaken .tagged type (Stored.ofDatum value))
      (reportTaken .plain type value) := by
  refine .orFault (Stored.view_ofDatum typed) rfl ?_
  refine .orFault (Stored.drop_ofDatum typed) rfl ?_
  exact .before (.log _) (.answer rfl)

/-- Both machines find the alternative active, and then hold a value of it, or neither does. -/
theorem ifActive_corresponds {Answer : Type} {answers : Answer → Answer → Prop}
    {index : Nat} {type : Ty} {union : Choice}
    (typed : union.Typed types) (found : typeAt? types index = some type)
    {taken other : Procedure Tagged Answer} {taken' other' : Procedure Choice Answer}
    (active : ∀ value, union = ⟨index, value⟩ → value.Typed type →
      Corresponds (simulation types' types place op) answers taken taken')
    (inactive : Corresponds (simulation types' types place op) answers other other') :
    Corresponds (simulation types' types place op) answers
      (if Storage.tagged.tag (union.reindex place).stored = tagOf (place index) then taken else other)
      (if Storage.plain.tag union = tagOf index then taken' else other') := by
  obtain ⟨_, short, foundActive, -⟩ := typed.found
  change Corresponds _ _ (if tagOf (place union.index) = tagOf (place index) then taken else other)
    (if tagOf union.index = tagOf index then taken' else other')
  simp only [moving.tagOf_place_inj short foundActive found]
  split_ifs with same
  · obtain ⟨here, contentTyped⟩ := typed.active found same
    exact active union.value (here ▸ rfl) contentTyped
  · exact inactive

omit moving

theorem get_corresponds {Answer : Type} {answers : Answer → Answer → Prop}
    {index : Nat} {value : Datum}
    {next : Stored → Procedure Tagged Answer} {next' : Datum → Procedure Choice Answer}
    (rest : Corresponds (simulation types' types place op) answers (next (Stored.ofDatum value))
      (next' value)) :
    Corresponds (simulation types' types place op) answers
      (orFault (Storage.tagged.get (place index) (Choice.reindex place ⟨index, value⟩).stored) >>= next)
      (orFault (Storage.plain.get index ⟨index, value⟩) >>= next') :=
  .orFault (Chain.read_place (place index) (Stored.ofDatum value)) (if_pos rfl) rest

theorem set_stored (index : Nat) (old new : Datum) :
    Storage.tagged.set index (Stored.ofDatum new) (Choice.stored ⟨index, old⟩) =
      .ok (Choice.stored ⟨index, new⟩) := by
  simp only [Storage.tagged, Choice.stored, Tagged.place, Chain.write_place, Fault.ok_bind,
    Fault.pure_eq_ok]

/-! ## Corresponding operations -/

section

variable (moving : Reindexing types' types place)

include moving

theorem construct_corresponds {target : Selector Ty}
    (alike : target.Alike Selector.build? types' types place)
    (register : Option Register) (value : Option Literal) :
    Corresponds (simulation types' types place op) (Agree place op)
      (perform .tagged types' (.construct target register value))
      (perform .plain types (.construct target register value)) := by
  refine .next (.offer alike) ?_
  intro ⟨type, index⟩ picked
  obtain ⟨short, found⟩ := Selector.build?_found picked
  refine .next (.operand register) ?_
  intro register _
  refine .next (readValue_corresponds type value) ?_
  intro value typed
  exact build_corresponds moving short found typed register

theorem convert_corresponds {target : Ty}
    (alike : (Selector.type target).Alike Selector.build? types' types place)
    (source : Ty) (register : Option Register) (value : Option Literal) :
    Corresponds (simulation types' types place op) (Agree place op)
      (perform .tagged types' (.convert target source register value))
      (perform .plain types (.convert target source register value)) := by
  refine .next (.offer alike) ?_
  intro ⟨type, index⟩ picked
  obtain ⟨short, found⟩ := Selector.build?_found picked
  cases Selector.build?_type picked
  refine .next (.offerSame rfl) ?_
  intro conversion selected
  refine .next (.operand register) ?_
  intro register _
  refine .next (readValue_corresponds source value) ?_
  intro value typed
  refine .next (convertValue_corresponds selected typed) ?_
  intro converted convertedTyped
  exact build_corresponds moving short found convertedTyped register

theorem constructText_corresponds
    (alike : (Selector.type .string).Alike Selector.build? types' types place)
    (register : Option Register) (value : Option Literal) :
    Corresponds (simulation types' types place op) (Agree place op)
      (perform .tagged types' (.constructText register value))
      (perform .plain types (.constructText register value)) := by
  refine .next (.offer alike) ?_
  intro ⟨type, index⟩ picked
  obtain ⟨short, found⟩ := Selector.build?_found picked
  cases Selector.build?_type picked
  refine .next (.operand register) ?_
  intro register _
  refine .next (readValue_corresponds .string value) ?_
  intro value typed
  exact build_corresponds moving short found typed register

/-- The only alternative of two lists is at the same place. -/
theorem place_zero {type : Ty} (only : types = [type]) (same : types' = [type]) : place 0 = 0 := by
  have here : typeAt? types 0 = some type := only ▸ rfl
  have inside := typeAt?_lt (moving.found here)
  rw [same] at inside
  exact Nat.lt_one_iff.mp inside

theorem wrap_corresponds (alike : onlyType? types' = onlyType? types) (register : Option Register)
    (value : Option Literal) :
    Corresponds (simulation types' types place op) (Agree place op)
      (perform .tagged types' (.wrap register value)) (perform .plain types (.wrap register value)) := by
  refine .next (.offerSame alike) ?_
  intro type only
  have first := place_zero moving (onlyType?_found only) (onlyType?_found (alike.trans only))
  cases onlyType?_found only
  refine .next (.operand register) ?_
  intro register _
  refine .next (readValue_corresponds type value) ?_
  intro value typed
  have found : typeAt? [type] 0 = some type := rfl
  have built : Corresponds (simulation types' [type] place op) (Agree place op) _ _ :=
    build_corresponds moving Nat.one_le_ofNat found typed register
  rwa [first] at built

theorem unwrap_corresponds (alike : onlyType? types' = onlyType? types) (register : Option Register) :
    Corresponds (simulation types' types place op) (Agree place op)
      (perform .tagged types' (.unwrap register)) (perform .plain types (.unwrap register)) := by
  refine .next (.offerSame alike) ?_
  intro type only
  have first := place_zero moving (onlyType?_found only) (onlyType?_found (alike.trans only))
  cases onlyType?_found only
  refine .next (.operand register) ?_
  intro register _
  refine .next (.content register) ?_
  intro ⟨index, value⟩ typed
  obtain ⟨type', -, found, contentTyped⟩ := typed.found
  cases index with
  | succ index => cases found
  | zero =>
      cases found
      have reached : Storage.tagged.get 0 (Choice.reindex place ⟨0, value⟩).stored =
          .ok (Stored.ofDatum value) := by
        rw [Choice.reindex, first]
        exact Chain.read_place 0 (Stored.ofDatum value)
      refine .orFault reached rfl ?_
      refine .before (.empty register) ?_
      exact .same (reportTaken_corresponds contentTyped) fun _ => .answer (.plain rfl rfl)

theorem test_corresponds {target : Selector Ty} (alike : target.Alike Selector.find? types' types place)
    (register : Option Register) :
    Corresponds (simulation types' types place op) (Agree place op)
      (perform .tagged types' (.test target register)) (perform .plain types (.test target register)) := by
  refine .next (.offer alike) ?_
  intro ⟨type, index⟩ picked
  have found := Selector.find?_found picked
  refine .next (.operand register) ?_
  intro register _
  refine .next (.content register) ?_
  intro union typed
  obtain ⟨_, short, foundActive, -⟩ := typed.found
  refine .answer ⟨congrArg Reply.truth ?_, rfl⟩
  change (tagOf (place union.index) == tagOf (place index)) = (tagOf union.index == tagOf index)
  rw [Bool.eq_iff_iff, beq_iff_eq, beq_iff_eq]
  exact moving.tagOf_place_inj short foundActive found

theorem read_corresponds (demand : Demand) {target : Selector Ty}
    (alike : target.Alike Selector.find? types' types place) (register : Option Register) :
    Corresponds (simulation types' types place op) (Agree place op)
      (perform .tagged types' (.read demand target register))
      (perform .plain types (.read demand target register)) := by
  refine .next (.offer alike) ?_
  intro ⟨type, index⟩ picked
  have found := Selector.find?_found picked
  refine .next (.operand register) ?_
  intro register _
  refine .next (.content register) ?_
  intro union typed
  refine ifActive_corresponds moving typed found ?_ ?_
  · intro value here valueTyped
    subst here
    apply get_corresponds
    refine .orFault (Stored.view_ofDatum valueTyped) rfl ?_
    exact .answer (.plain (demand.found_reindex place op _) (demand.found_failure? _))
  · exact missed_corresponds moving demand found typed

theorem edit_corresponds (demand : Demand) (mode : EditMode) {target : Selector Ty}
    (alike : target.Alike Selector.find? types' types place) (register : Option Register)
    (value : Option Literal) :
    Corresponds (simulation types' types place op) (Agree place op)
      (perform .tagged types' (.edit demand mode target register value))
      (perform .plain types (.edit demand mode target register value)) := by
  refine .next (.offer alike) ?_
  intro ⟨type, index⟩ picked
  have found := Selector.find?_found picked
  refine .next (.operand register) ?_
  intro register _
  refine .next (.content register) ?_
  intro union typed
  obtain ⟨_, short, -, -⟩ := typed.found
  refine .next (readValue_corresponds type value) ?_
  intro new newTyped
  refine ifActive_corresponds moving typed found ?_ ?_
  · intro old here oldTyped
    subst here
    apply get_corresponds
    have edited := Datum.edit_typed mode oldTyped newTyped
    refine .orFault (Stored.edit_ofDatum mode oldTyped new) rfl ?_
    refine .before (.log _) ?_
    refine .orFault (set_stored (place index) old _) (if_pos rfl) ?_
    have held : ∀ union, some (Choice.mk index (old.edit mode new).value) = some union →
        union.Typed types :=
      fun union same => Option.some.inj same ▸ Choice.typed_of short found edited
    refine .before (.setContent register held) ?_
    refine .orFault (Stored.view_ofDatum edited) rfl ?_
    exact .answer (.plain (demand.found_reindex place op _) (demand.found_failure? _))
  · refine .orFault (Stored.drop_ofDatum newTyped) rfl ?_
    refine .before (.log _) ?_
    exact missed_corresponds moving demand found typed

theorem take_corresponds (required : Bool) {target : Selector Ty}
    (alike : target.Alike Selector.find? types' types place) (register : Option Register) :
    Corresponds (simulation types' types place op) (Agree place op)
      (perform .tagged types' (.take required target register))
      (perform .plain types (.take required target register)) := by
  refine .next (.offer alike) ?_
  intro ⟨type, index⟩ picked
  have found := Selector.find?_found picked
  refine .next (.operand register) ?_
  intro register _
  refine .next (.content register) ?_
  intro union typed
  refine ifActive_corresponds moving typed found ?_ ?_
  · intro value here valueTyped
    subst here
    apply get_corresponds
    refine .before (.empty register) ?_
    refine .same (reportTaken_corresponds valueTyped) fun _ => ?_
    cases required with
    | false => exact .answer (.plain rfl rfl)
    | true => exact .answer (.plain rfl rfl)
  · cases required with
    | false => exact .answer (.plain rfl rfl)
    | true =>
        refine .next (mismatch_corresponds moving found typed) fun report _ => ?_
        refine .before (.empty register) ?_
        refine .orFault (moving.typed typed).drop_stored rfl ?_
        refine .before (.log _) ?_
        exact .fail ⟨rfl, trivial⟩

omit moving in
theorem locate_corresponds {target : Ty} (alike : (Op.locate target).Alike types' types place) :
    Corresponds (simulation types' types place (.locate target)) (Agree place (.locate target))
      (perform .tagged types' (.locate target)) (perform .plain types (.locate target)) := by
  unfold Op.Alike at alike
  cases located : indexOf? types target with
  | none =>
      have missing : indexOf? types' target = none := by simpa [located] using alike
      simp only [perform, located, missing]
      exact .next (.offerSame rfl) fun _ given => nomatch given
  | some index =>
      obtain ⟨index', located', same⟩ : ∃ index', indexOf? types' target = some index' ∧
          (tagOf index').toNat = place (tagOf index).toNat := by
        simpa [located, Option.map_eq_some_iff] using alike
      simp only [perform, located, located']
      exact .answer ⟨congrArg Reply.number same, rfl⟩

theorem index_corresponds (register : Option Register) :
    Corresponds (simulation types' types place (.index register)) (Agree place (.index register))
      (perform .tagged types' (.index register)) (perform .plain types (.index register)) := by
  refine .next (.operand register) ?_
  intro register' _
  refine .next (.content register') ?_
  intro union typed
  obtain ⟨_, short, found, -⟩ := typed.found
  have counted := toNat_tagOf (typeAt?_short short found)
  have counted' := toNat_tagOf (typeAt?_short (moving.short short) (moving.found found))
  refine .answer ⟨congrArg Reply.number ?_, rfl⟩
  change (tagOf (place union.index)).toNat = place (tagOf union.index).toNat
  rw [counted, counted']

theorem typeName_corresponds (register : Option Register) :
    Corresponds (simulation types' types place op) (Agree place op)
      (perform .tagged types' (.typeName register)) (perform .plain types (.typeName register)) := by
  refine .next (.operand register) ?_
  intro register _
  refine .next (.content register) ?_
  intro union typed
  obtain ⟨name, named, plainNamed⟩ := moving.name typed
  have tagged : Storage.tagged.name types' (union.reindex place).stored = .ok name := named
  have plain : Storage.plain.name types union = .ok name := plainNamed
  simp only [tagged, plain]
  exact .answer (.plain rfl rfl)

omit moving in
theorem nameOfTag_corresponds {given : Option UInt8}
    (alike : ∀ tag, given = some tag → nameAt types' tag = nameAt types tag) :
    Corresponds (simulation types' types place (.nameOfTag given)) (Agree place (.nameOfTag given))
      (perform .tagged types' (.nameOfTag given)) (perform .plain types (.nameOfTag given)) := by
  refine .next (.operand given) ?_
  intro tag asked
  rw [alike tag asked]
  subst asked
  cases named : nameAt types tag with
  | ok name => exact .answer (.plain rfl rfl)
  | error rest => exact .fail ⟨rfl, tag, rfl, named⟩

theorem drop_corresponds (register : Option Register) :
    Corresponds (simulation types' types place op) (Agree place op)
      (perform .tagged types' (.drop register)) (perform .plain types (.drop register)) := by
  refine .next (.operand register) ?_
  intro register _
  refine .next (.content register) ?_
  intro union typed
  refine .before (.empty register) ?_
  refine .orFault (moving.typed typed).drop_stored rfl ?_
  refine .before (.log _) ?_
  exact .answer (.plain rfl rfl)

theorem move_corresponds (source target : Option Register) :
    Corresponds (simulation types' types place op) (Agree place op)
      (perform .tagged types' (.move source target)) (perform .plain types (.move source target)) := by
  refine .next (.operand source) ?_
  intro source _
  refine .next (.operand target) ?_
  intro target _
  refine .next (.content source) ?_
  intro union typed
  refine .before (.empty source) ?_
  refine .before (replaceContent_corresponds moving target typed) ?_
  exact .answer (.plain rfl rfl)

omit moving in
theorem swap_corresponds (first second : Option Register) :
    Corresponds (simulation types' types place op) (Agree place op)
      (perform .tagged types' (.swap first second)) (perform .plain types (.swap first second)) := by
  refine .next (.operand first) ?_
  intro first _
  refine .next (.operand second) ?_
  intro second _
  refine .next (.content? first) ?_
  intro left leftTyped
  refine .next (.content? second) ?_
  intro right rightTyped
  refine .before (.setContent first rightTyped) ?_
  refine .before (.setContent second leftTyped) ?_
  exact .answer (.plain rfl rfl)

theorem clone_corresponds (source target : Option Register) :
    Corresponds (simulation types' types place op) (Agree place op)
      (perform .tagged types' (.clone source target)) (perform .plain types (.clone source target)) := by
  refine .next (.operand source) ?_
  intro source _
  refine .next (.operand target) ?_
  intro target _
  refine .next (.content source) ?_
  intro union typed
  refine .next (copy_corresponds moving typed) ?_
  intro copy copyTyped
  exact .before (replaceContent_corresponds moving target copyTyped) (.answer (.plain rfl rfl))

theorem compare_corresponds (negated : Bool) (left right : Option Register) :
    Corresponds (simulation types' types place op) (Agree place op)
      (perform .tagged types' (.compare negated left right))
      (perform .plain types (.compare negated left right)) := by
  refine .next (.operand left) ?_
  intro left _
  refine .next (.content left) ?_
  intro union typed
  refine .next (.operand right) ?_
  intro right _
  refine .next (.content right) ?_
  intro union' typed'
  have compared := (moving.typed typed).compare_stored (moving.typed typed')
  rw [moving.compare typed typed'] at compared
  refine .orFault compared rfl ?_
  refine .before (.log _) ?_
  exact .answer (.plain rfl rfl)

theorem hash_corresponds (alike : Ty.allHashable types' = Ty.allHashable types)
    (register : Option Register) :
    Corresponds (simulation types' types place op) (Agree place op)
      (perform .tagged types' (.hash register)) (perform .plain types (.hash register)) := by
  refine .next (offered_corresponds alike) ?_
  intro _ _
  refine .next (.operand register) ?_
  intro register _
  refine .next (.content register) ?_
  intro union typed
  have hashed := (moving.typed typed).hash_stored
  rw [typed.hash_reindex] at hashed
  refine .orFault hashed rfl ?_
  refine .before (.log _) ?_
  exact .answer ⟨rfl, rfl⟩

theorem render_corresponds {audience : Audience} (alike : audience.served types' = audience.served types)
    (register : Option Register) (style : Option Style) :
    Corresponds (simulation types' types place op) (Agree place op)
      (perform .tagged types' (.render audience register style))
      (perform .plain types (.render audience register style)) := by
  refine .next (offered_corresponds alike) ?_
  intro _ served
  refine .next (.operand register) ?_
  intro register _
  refine .next (.content register) ?_
  intro union typed
  refine .next (.operand style) ?_
  intro style _
  cases audience with
  | readers =>
      have shown : Ty.allDisplayable types' = true := alike.trans served
      refine .orFault ((moving.typed typed).display_stored shown style) rfl ?_
      exact .answer (.plain rfl rfl)
  | inspection =>
      refine .orFault ((moving.typed typed).debug_stored style) rfl ?_
      exact .answer (.plain rfl rfl)

theorem install_corresponds (kind : HandlerKind) {target : Selector Ty}
    (alike : target.Alike Selector.find? types' types place) (label : String) :
    Corresponds (simulation types' types place op) (Agree place op)
      (perform .tagged types' (.install kind target label))
      (perform .plain types (.install kind target label)) := by
  refine .next (.offer alike) ?_
  intro ⟨type, index⟩ picked
  have found := Selector.find?_found picked
  refine .bind .table ?_
  intro table table' moved
  refine .before (.setTable (moving.install moved found kind label)) ?_
  exact .answer (.plain rfl rfl)

theorem dispatch_corresponds (register : Option Register) :
    Corresponds (simulation types' types place op) (Agree place op)
      (perform .tagged types' (.dispatch register)) (perform .plain types (.dispatch register)) := by
  refine .next (.operand register) ?_
  intro register _
  refine .next (.content register) ?_
  intro union typed
  refine .bind .table ?_
  intro table table' moved
  obtain ⟨next, next', events, tagged, plain, movedNext⟩ := moving.dispatch typed moved
  refine .orFault tagged plain ?_
  refine .before (.setTable movedNext) ?_
  exact .before (.log events) (.answer (.plain rfl rfl))

/-- Each operation for which the lists are alike does the same on both. -/
theorem perform_corresponds {op : Op Ty} (alike : op.Alike types' types place) :
    Corresponds (simulation types' types place op) (Agree place op) (perform .tagged types' op)
      (perform .plain types op) := by
  cases op with
  | construct target register value => exact construct_corresponds moving alike register value
  | convert target source register value => exact convert_corresponds moving alike source register value
  | constructText register value => exact constructText_corresponds moving alike register value
  | wrap register value => exact wrap_corresponds moving alike register value
  | unwrap register => exact unwrap_corresponds moving alike register
  | test target register => exact test_corresponds moving alike register
  | read demand target register => exact read_corresponds moving demand alike register
  | edit demand mode target register value => exact edit_corresponds moving demand mode alike register value
  | take required target register => exact take_corresponds moving required alike register
  | locate target => exact locate_corresponds alike
  | typeAt index =>
      refine .next (.offerSame alike) ?_
      intro type _
      exact .answer (.plain rfl rfl)
  | index register => exact index_corresponds moving register
  | typeName register => exact typeName_corresponds moving register
  | arity =>
      have counted : arity types' = arity types := alike
      simp only [perform, counted]
      exact .answer (.plain rfl rfl)
  | nameOfTag tag => exact nameOfTag_corresponds alike
  | drop register => exact drop_corresponds moving register
  | move source target => exact move_corresponds moving source target
  | swap first second => exact swap_corresponds first second
  | clone source target => exact clone_corresponds moving source target
  | compare negated left right => exact compare_corresponds moving negated left right
  | hash register => exact hash_corresponds moving alike register
  | render audience register style => exact render_corresponds moving alike register style
  | install kind target label => exact install_corresponds moving kind alike label
  | dispatch register => exact dispatch_corresponds moving register
  | freshTable =>
      refine .before (.setTable moving.fresh) ?_
      exact .answer (.plain rfl rfl)
  | fillTable =>
      refine .before (.setTable (moving.filled alike)) ?_
      exact .answer (.plain rfl rfl)
  | unknown => exact .fail ⟨rfl, trivial⟩

/-! ## Corresponding runs -/

/-- A step of the first machine is seen as that of the second with places for indices, and the
states afterwards go together again. -/
theorem step_moved {tagged : State Tagged} {plain : State Choice}
    (moved : State.Moved types' types place tagged plain) {op : Op Ty}
    (alike : op.Alike types' types place) :
    ∃ outcome next, perform .plain types op plain = .ok outcome ∧
      step .tagged types' op tagged = .ok ((entryOf .plain outcome).reindex place op, next) ∧
      step .plain types op plain = .ok (entryOf .plain outcome, outcome.state) ∧
      State.Moved types' types place next outcome.state ∧
      ∀ cause, outcome.reply = .failed cause → op.CanFail types cause := by
  obtain ⟨answer, answer', next, next', events, performed, performed', movedNext, together⟩ :=
    perform_corresponds moving alike tagged plain moved
  obtain ⟨replied, allowed⟩ :
      (Outcome.mk answer next events).reply = (Outcome.mk answer' next' events).reply.reindex place op ∧
        ∀ cause, (Outcome.mk answer' next' events).reply = .failed cause → op.CanFail types cause := by
    cases together with
    | @answered reply reply' agreed =>
        obtain ⟨same, told⟩ := agreed
        refine ⟨same, fun cause failed => ?_⟩
        -- An answer is no failure in disguise.
        have replied : reply' = .failed cause := failed
        rw [replied] at told
        cases told
    | failed agreed =>
        obtain ⟨same, allowed⟩ := agreed
        refine ⟨congrArg Reply.failed same, fun cause failed => ?_⟩
        cases failed
        exact allowed
  refine ⟨⟨answer', next', events⟩, next, performed', ?_, ?_, movedNext, allowed⟩
  · refine step_ok_iff.mpr ⟨_, performed, ?_, rfl⟩
    simp only [entryOf, Entry.reindex, replied, movedNext.tags]
  · exact step_ok_iff.mpr ⟨_, performed', rfl, rfl⟩

theorem steps_moved {tagged : State Tagged} {plain : State Choice}
    (moved : State.Moved types' types place tagged plain) {program : List (Op Ty)}
    (alike : ∀ op ∈ program, op.Alike types' types place) :
    ∃ entries next next',
      steps .tagged types' program tagged =
        .ok (List.zipWith (Entry.reindex place) program entries, next) ∧
      steps .plain types program plain = .ok (entries, next') ∧
      State.Moved types' types place next next' := by
  induction program generalizing tagged plain with
  | nil => exact ⟨[], tagged, plain, rfl, rfl, moved⟩
  | cons op program ih =>
      obtain ⟨first, rest⟩ := List.forall_mem_cons.mp alike
      obtain ⟨outcome, next, -, stepped, stepped', movedNext, -⟩ := step_moved moving moved first
      obtain ⟨entries, last, last', remaining, remaining', movedLast⟩ := ih movedNext rest
      refine ⟨entryOf .plain outcome :: entries, last, last', ?_, ?_, movedLast⟩
      · exact steps_cons_ok_iff.mpr ⟨_, _, _, stepped, remaining, rfl⟩
      · exact steps_cons_ok_iff.mpr ⟨_, _, _, stepped', remaining', rfl⟩

theorem dropContents_moved {contents : List (Option Choice)}
    (typed : ∀ union, some union ∈ contents → union.Typed types) :
    ∃ events,
      dropContents .tagged types'
        (contents.map (Option.map fun union => (union.reindex place).stored)) = .ok events ∧
      dropContents .plain types contents = .ok events := by
  induction contents with
  | nil => exact ⟨[], rfl, rfl⟩
  | cons held contents ih =>
      obtain ⟨events, tagged, plain⟩ := ih fun union member => typed union (List.mem_cons_of_mem _ member)
      cases held with
      | none => exact ⟨events, tagged, plain⟩
      | some union =>
          have dropped : Storage.tagged.drop types' (union.reindex place).stored =
              .ok union.value.drops := (moving.typed (typed union List.mem_cons_self)).drop_stored
          refine ⟨union.value.drops ++ events, ?_, ?_⟩
          · simp only [List.map_cons, Option.map_some, dropContents, dropped, tagged, Fault.ok_bind,
              Fault.pure_eq_ok]
          · simp only [dropContents, plain, Fault.ok_bind, Fault.pure_eq_ok]
            rfl

/-- A program for whose operations the lists are alike has one run on both, with places for indices. -/
theorem run_moved {program : List (Op Ty)} (alike : ∀ op ∈ program, op.Alike types' types place) :
    ∃ transcript, run .tagged types' program = .ok (transcript.reindex place program) ∧
      run .plain types program = .ok transcript := by
  obtain ⟨entries, next, next', ran, ran', moved⟩ := steps_moved moving (.initial moving) alike
  obtain ⟨final, dropped, dropped'⟩ := dropContents_moved moving moved.stateTyped.contents
  rw [← Vector.toList_map, ← moved.registers] at dropped
  exact ⟨⟨entries, final⟩, run_of_steps ran dropped, run_of_steps ran' dropped'⟩

end

end Machine

end TaggedUnion
