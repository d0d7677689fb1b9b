import TaggedUnion.Machine.Run
import TaggedUnion.Proofs.Outcomes
import TaggedUnion.Proofs.Walk

/-!
# Effects of operations

Everything that an operation can do to a state of plain unions, by kinds of effects: one operation
may have several, and many operations share one. What holds of each effect holds of each operation.
The effects of an operation are found by following its procedure from one part to the next.
-/

set_option autoImplicit false

namespace TaggedUnion

open Registry

/-! ## Parts of operations -/

/-- What dropping the content of a register logs. -/
def Choice.dropsOf : Option Choice → List Event
  | none => []
  | some union => union.value.drops

namespace Machine

open Procedure

variable {types : List Ty} {state : State Choice} {past : List Event}

theorem offered_leads {condition : Except Failure Unit → State Choice → List Event → Prop}
    {offer : Bool} (refused : condition (.error .unsupported) state past)
    (accepted : condition (.ok ()) state past) : (offered offer).Leads state past condition := by
  cases offer with
  | false => exact .fail refused
  | true => exact .answer accepted

theorem readValue_leads {condition : Except Failure Datum → State Choice → List Event → Prop}
    {type : Ty} {value : Option Literal} (missing : condition (.error .badInput) state past)
    (misread : ∀ literal : Literal, (literal.read type state.nextId).value = none →
      condition (.error .badInput) { state with nextId := (literal.read type state.nextId).nextId }
        (past ++ (literal.read type state.nextId).events))
    (read : ∀ (literal : Literal) found, (literal.read type state.nextId).value = some found →
      condition (.ok found) { state with nextId := (literal.read type state.nextId).nextId }
        (past ++ (literal.read type state.nextId).events)) :
    (readValue type value).Leads state past condition := by
  refine .bind (.operand missing fun literal _ => ?_)
  refine .bind (.make fun made was => ?_)
  cases was
  cases found : (literal.read type state.nextId).value with
  | none => exact .fail (misread literal found)
  | some value => exact .answer (read literal value found)

theorem convertValue_leads {condition : Except Failure Datum → State Choice → List Event → Prop}
    {conversion : Conversion} {value : Datum}
    (converted : ∀ made, conversion.convert? state.nextId value = some made →
      condition (.ok made.value) { state with nextId := made.nextId } (past ++ made.events)) :
    (convertValue conversion value).Leads state past condition := by
  refine .make fun made was => ?_
  split at was
  · rename_i found
    cases was
    exact converted made found
  · cases was

theorem replaceContent_leads {condition : Except Failure Unit → State Choice → List Event → Prop}
    {register : Register} {union : Choice}
    (replaced : condition (.ok ()) (state.put register (some union))
      (past ++ Choice.dropsOf (state.content register))) :
    (replaceContent .plain types register union).Leads state past condition := by
  refine .bind (.content? ?_)
  refine .bind (.setContent ?_)
  cases held : state.content register with
  | none =>
      rw [held] at replaced
      exact .answer (by simpa only [Choice.dropsOf, List.append_nil] using replaced)
  | some old =>
      rw [held] at replaced
      exact .bind (.quiet rfl (.log replaced))

theorem mismatch_leads {condition : Except Failure Mismatch → State Choice → List Event → Prop}
    {type : Ty} {index : Nat} {union : Choice} (fulfilled : ∀ answer, condition answer state past) :
    (mismatch .plain types type index union).Leads state past condition := by
  unfold mismatch
  split
  · exact .answer (fulfilled _)
  · exact .fail (fulfilled _)

theorem missed_leads {condition : Except Failure Reply → State Choice → List Event → Prop}
    {demand : Demand} {type : Ty} {index : Nat} {union : Choice}
    (fulfilled : ∀ answer, condition answer state past) :
    (missed .plain types demand type index union).Leads state past condition := by
  cases demand with
  | optional => exact .answer (fulfilled _)
  | checked =>
      refine .bind (mismatch_leads fun answer => ?_)
      cases answer with
      | error failure => exact fulfilled _
      | ok report => exact .fail (fulfilled _)
  | required =>
      refine .bind (mismatch_leads fun answer => ?_)
      cases answer with
      | error failure => exact fulfilled _
      | ok report => exact .fail (fulfilled _)

theorem reportTaken_leads {condition : Except Failure Datum → State Choice → List Event → Prop}
    {type : Ty} {value : Datum} (fulfilled : condition (.ok value) state (past ++ value.drops)) :
    (reportTaken .plain type value).Leads state past condition := by
  refine .bind (.quiet rfl ?_)
  refine .bind (.quiet rfl ?_)
  exact .bind (.log (.answer fulfilled))

end Machine

/-! ## Effects -/

theorem Choice.get_ok_iff {index : Nat} {union : Choice} {value : Datum} :
    union.get index = .ok value ↔ union = ⟨index, value⟩ := by
  obtain ⟨active, content⟩ := union
  unfold Choice.get
  dsimp only
  split <;> simp_all

theorem Choice.get_value {index : Nat} {union : Choice} {value : Datum}
    (got : Storage.plain.get index union = .ok value) : value = union.value := by
  rw [Choice.get_ok_iff.mp got]

theorem Choice.set_self (index : Nat) (old new : Datum) :
    Choice.set index new ⟨index, old⟩ = .ok ⟨index, new⟩ := if_pos rfl

/-- A value that was made from its written form: it was read, and perhaps converted. -/
inductive Supply (nextId : Nat) : Made Datum → Prop where
  | read {type : Ty} {literal : Literal} {value : Datum} :
      (literal.read type nextId).value = some value →
      Supply nextId ⟨value, (literal.read type nextId).nextId, (literal.read type nextId).events⟩
  | converted {conversion : Conversion} {made converted : Made Datum} :
      Supply nextId made → conversion.convert? made.nextId made.value = some converted →
      Supply nextId ⟨converted.value, converted.nextId, made.events ++ converted.events⟩

/-- The operation can bring the state to the other one and log the events. -/
inductive Effect (types : List Ty) (state : State Choice) : Op Ty → State Choice → List Event → Prop where
  /-- Nothing: the operation failed early or only looked. -/
  | still {op : Op Ty} : Effect types state op state []
  /-- A value could not be read. -/
  | misread {op : Op Ty} {type : Ty} {literal : Literal} :
      (literal.read type state.nextId).value = none →
      Effect types state op { state with nextId := (literal.read type state.nextId).nextId }
        (literal.read type state.nextId).events
  /-- A union with a value took the place of what was in the register. -/
  | built {op : Op Ty} {register : Register} {index : Nat} {made : Made Datum} :
      Supply state.nextId made →
      Effect types state op
        { state.put register (some ⟨index, made.value⟩) with nextId := made.nextId }
        (made.events ++ Choice.dropsOf (state.content register))
  /-- A value was read for another alternative than the active one, and dropped. -/
  | declined {op : Op Ty} {made : Made Datum} :
      Supply state.nextId made →
      Effect types state op { state with nextId := made.nextId }
        (made.events ++ made.value.drops)
  | edited {op : Op Ty} {register : Register} {index : Nat} {mode : EditMode} {old : Datum}
      {made : Made Datum} :
      state.content register = some ⟨index, old⟩ → Supply state.nextId made →
      Effect types state op
        { state.put register (some ⟨index, (old.edit mode made.value).value⟩) with nextId := made.nextId }
        (made.events ++ (old.edit mode made.value).events)
  /-- The content of a register was dropped or, what logs the same, taken out and dropped. -/
  | emptied {op : Op Ty} {register : Register} {union : Choice} :
      state.content register = some union →
      Effect types state op (state.put register none) union.value.drops
  | moved {op : Op Ty} {source target : Register} {union : Choice} :
      state.content source = some union →
      Effect types state op ((state.put source none).put target (some union))
        (Choice.dropsOf ((state.put source none).content target))
  | swapped {op : Op Ty} {first second : Register} :
      Effect types state op
        ((state.put first (state.content second)).put second (state.content first)) []
  | cloned {op : Op Ty} {source target : Register} {union : Choice} :
      state.content source = some union →
      Effect types state op
        { state.put target (some (union.clone state.nextId).value) with
          nextId := (union.clone state.nextId).nextId }
        ((union.clone state.nextId).events ++ Choice.dropsOf (state.content target))
  | compared {op : Op Ty} {left right : Register} {union union' : Choice} :
      state.content left = some union → state.content right = some union' →
      Effect types state op state (union.compare union').events
  | hashed {op : Op Ty} {register : Register} {union : Choice} :
      state.content register = some union → Effect types state op state union.hash.events
  | installed {kind : HandlerKind} {target : Selector Ty} {label : String} {type : Ty} {index : Nat} :
      target.find? types = some (type, index) →
      Effect types state (.install kind target label)
        { state with table := state.table.install (.install kind type label) index } []
  | dispatched {register : Register} {union : Choice} {table : HandlerTable} {events : List Event} :
      state.content register = some union →
      union.dispatch types state.table = .ok (table, events) →
      Effect types state (.dispatch (some register)) { state with table := table } events
  | freshened :
      Effect types state .freshTable { state with table := HandlerTable.fresh types } []
  | filled :
      Effect types state .fillTable { state with table := HandlerTable.filled types } []

namespace Machine

open Procedure

variable {types : List Ty} {state : State Choice}

/-- Reading a value and building the union that holds it, the last part of several operations. -/
theorem build_effect {op : Op Ty} {type : Ty} {value : Option Literal} {register : Register}
    {index : Nat} :
    (do
      let value ← readValue type value
      replaceContent .plain types register (Storage.plain.place index (Storage.plain.hold value))
      return Reply.done : Procedure Choice Reply).Leads state [] fun _ next events =>
        Effect types state op next events := by
  refine .bind (readValue_leads .still (fun _ => .misread) ?_)
  intro literal found read
  refine .bind (replaceContent_leads ?_)
  exact .answer (.built (.read read))

theorem construct_effect (target : Selector Ty) (register : Option Register)
    (value : Option Literal) :
    (perform .plain types (.construct target register value)).Leads state [] fun _ next events =>
      Effect types state (.construct target register value) next events := by
  refine .bind (.orFail .still ?_)
  intro ⟨type, index⟩ _
  refine .bind (.operand .still ?_)
  intro register _
  exact build_effect

theorem convert_effect (target source : Ty) (register : Option Register) (value : Option Literal) :
    (perform .plain types (.convert target source register value)).Leads state [] fun _ next events =>
      Effect types state (.convert target source register value) next events := by
  refine .bind (.orFail .still ?_)
  intro ⟨type, index⟩ _
  refine .bind (.orFail .still ?_)
  intro conversion _
  refine .bind (.operand .still ?_)
  intro register _
  refine .bind (readValue_leads .still (fun _ => .misread) ?_)
  intro literal found read
  refine .bind (convertValue_leads ?_)
  intro converted was
  refine .bind (replaceContent_leads ?_)
  exact .answer (.built (.converted (.read read) was))

theorem constructText_effect (register : Option Register) (value : Option Literal) :
    (perform .plain types (.constructText register value)).Leads state [] fun _ next events =>
      Effect types state (.constructText register value) next events := by
  refine .bind (.orFail .still ?_)
  intro ⟨type, index⟩ _
  refine .bind (.operand .still ?_)
  intro register _
  exact build_effect

theorem wrap_effect (register : Option Register) (value : Option Literal) :
    (perform .plain types (.wrap register value)).Leads state [] fun _ next events =>
      Effect types state (.wrap register value) next events := by
  refine .bind (.orFail .still ?_)
  intro type _
  refine .bind (.operand .still ?_)
  intro register _
  exact build_effect

theorem unwrap_effect (register : Option Register) :
    (perform .plain types (.unwrap register)).Leads state [] fun _ next events =>
      Effect types state (.unwrap register) next events := by
  refine .bind (.orFail .still ?_)
  intro type _
  refine .bind (.operand .still ?_)
  intro register _
  refine .bind (.content .still ?_)
  intro union held
  refine .bind (.orFault ?_)
  intro value got
  refine .bind (.setContent ?_)
  refine .bind (reportTaken_leads ?_)
  rw [Choice.get_value got]
  exact .answer (.emptied held)

theorem test_effect (target : Selector Ty) (register : Option Register) :
    (perform .plain types (.test target register)).Leads state [] fun _ next events =>
      Effect types state (.test target register) next events := by
  refine .bind (.orFail .still ?_)
  intro ⟨type, index⟩ _
  refine .bind (.operand .still ?_)
  intro register _
  refine .bind (.content .still ?_)
  intro union _
  exact .answer .still

theorem read_effect (demand : Demand) (target : Selector Ty) (register : Option Register) :
    (perform .plain types (.read demand target register)).Leads state [] fun _ next events =>
      Effect types state (.read demand target register) next events := by
  refine .bind (.orFail .still ?_)
  intro ⟨type, index⟩ _
  refine .bind (.operand .still ?_)
  intro register _
  refine .bind (.content .still ?_)
  intro union _
  dsimp only
  split
  · refine .bind (.orFault ?_)
    intro value _
    refine .bind (.orFault ?_)
    intro viewed _
    exact .answer .still
  · exact missed_leads fun _ => .still

theorem edit_effect (demand : Demand) (mode : EditMode) (target : Selector Ty)
    (register : Option Register) (value : Option Literal) :
    (perform .plain types (.edit demand mode target register value)).Leads state [] fun _ next events =>
      Effect types state (.edit demand mode target register value) next events := by
  refine .bind (.orFail .still ?_)
  intro ⟨type, index⟩ _
  refine .bind (.operand .still ?_)
  intro register _
  refine .bind (.content .still ?_)
  intro union held
  refine .bind (readValue_leads .still (fun _ => .misread) ?_)
  intro literal new read
  dsimp only
  split
  · refine .bind (.orFault ?_)
    intro old got
    have active := Choice.get_ok_iff.mp got
    subst active
    refine .bind (.quiet rfl ?_)
    refine .bind (.log ?_)
    refine .bind (.orFault ?_)
    intro changed was
    cases (Choice.set_self index old _).symm.trans was
    refine .bind (.setContent ?_)
    refine .bind (.quiet rfl ?_)
    exact .answer (.edited held (.read read))
  · refine .bind (.quiet rfl ?_)
    refine .bind (.log ?_)
    exact missed_leads fun _ => .declined (.read read)

theorem take_effect (required : Bool) (target : Selector Ty) (register : Option Register) :
    (perform .plain types (.take required target register)).Leads state [] fun _ next events =>
      Effect types state (.take required target register) next events := by
  refine .bind (.orFail .still ?_)
  intro ⟨type, index⟩ _
  refine .bind (.operand .still ?_)
  intro register _
  refine .bind (.content .still ?_)
  intro union held
  dsimp only
  split
  · refine .bind (.orFault ?_)
    intro value got
    refine .bind (.setContent ?_)
    refine .bind (reportTaken_leads ?_)
    rw [Choice.get_value got]
    exact .answer (.emptied held)
  · cases required with
    | false => exact .answer .still
    | true =>
        refine .bind (mismatch_leads fun answer => ?_)
        cases answer with
        | error failure => exact .still
        | ok report =>
            refine .bind (.setContent ?_)
            refine .bind (.quiet rfl ?_)
            refine .bind (.log ?_)
            exact .fail (.emptied held)

theorem typeName_effect (register : Option Register) :
    (perform .plain types (.typeName register)).Leads state [] fun _ next events =>
      Effect types state (.typeName register) next events := by
  refine .bind (.operand .still ?_)
  intro register _
  refine .bind (.content .still ?_)
  intro union _
  dsimp only
  split
  · exact .answer .still
  · exact .fail .still

theorem nameOfTag_effect (tag : Option UInt8) :
    (perform .plain types (.nameOfTag tag)).Leads state [] fun _ next events =>
      Effect types state (.nameOfTag tag) next events := by
  refine .bind (.operand .still ?_)
  intro tag _
  dsimp only
  split
  · exact .answer .still
  · exact .fail .still

theorem drop_effect (register : Option Register) :
    (perform .plain types (.drop register)).Leads state [] fun _ next events =>
      Effect types state (.drop register) next events := by
  refine .bind (.operand .still ?_)
  intro register _
  refine .bind (.content .still ?_)
  intro union held
  refine .bind (.setContent ?_)
  refine .bind (.quiet rfl ?_)
  refine .bind (.log ?_)
  exact .answer (.emptied held)

theorem move_effect (source target : Option Register) :
    (perform .plain types (.move source target)).Leads state [] fun _ next events =>
      Effect types state (.move source target) next events := by
  refine .bind (.operand .still ?_)
  intro source _
  refine .bind (.operand .still ?_)
  intro target _
  refine .bind (.content .still ?_)
  intro union held
  refine .bind (.setContent ?_)
  refine .bind (replaceContent_leads ?_)
  exact .answer (.moved held)

theorem swap_effect (first second : Option Register) :
    (perform .plain types (.swap first second)).Leads state [] fun _ next events =>
      Effect types state (.swap first second) next events := by
  refine .bind (.operand .still ?_)
  intro first _
  refine .bind (.operand .still ?_)
  intro second _
  refine .bind (.content? ?_)
  refine .bind (.content? ?_)
  refine .bind (.setContent ?_)
  refine .bind (.setContent ?_)
  exact .answer .swapped

theorem clone_effect (source target : Option Register) :
    (perform .plain types (.clone source target)).Leads state [] fun _ next events =>
      Effect types state (.clone source target) next events := by
  refine .bind (.operand .still ?_)
  intro source _
  refine .bind (.operand .still ?_)
  intro target _
  refine .bind (.content .still ?_)
  intro union held
  refine .bind (.make ?_)
  intro copy was
  cases was
  refine .bind (replaceContent_leads ?_)
  exact .answer (.cloned held)

theorem compare_effect (negated : Bool) (left right : Option Register) :
    (perform .plain types (.compare negated left right)).Leads state [] fun _ next events =>
      Effect types state (.compare negated left right) next events := by
  refine .bind (.operand .still ?_)
  intro left _
  refine .bind (.content .still ?_)
  intro union held
  refine .bind (.operand .still ?_)
  intro right _
  refine .bind (.content .still ?_)
  intro union' held'
  refine .bind (.quiet rfl ?_)
  refine .bind (.log ?_)
  exact .answer (.compared held held')

theorem hash_effect (register : Option Register) :
    (perform .plain types (.hash register)).Leads state [] fun _ next events =>
      Effect types state (.hash register) next events := by
  refine .bind (offered_leads .still ?_)
  refine .bind (.operand .still ?_)
  intro register _
  refine .bind (.content .still ?_)
  intro union held
  refine .bind (.quiet rfl ?_)
  refine .bind (.log ?_)
  exact .answer (.hashed held)

theorem render_effect (audience : Audience) (register : Option Register) (style : Option Style) :
    (perform .plain types (.render audience register style)).Leads state [] fun _ next events =>
      Effect types state (.render audience register style) next events := by
  refine .bind (offered_leads .still ?_)
  refine .bind (.operand .still ?_)
  intro register _
  refine .bind (.content .still ?_)
  intro union held
  refine .bind (.operand .still ?_)
  intro style _
  refine .bind (.orFault ?_)
  intro text _
  exact .answer .still

theorem install_effect (kind : HandlerKind) (target : Selector Ty) (label : String) :
    (perform .plain types (.install kind target label)).Leads state [] fun _ next events =>
      Effect types state (.install kind target label) next events := by
  refine .bind (.orFail .still ?_)
  intro ⟨type, index⟩ picked
  refine .bind (.quiet rfl ?_)
  refine .bind (.quiet rfl ?_)
  exact .answer (.installed picked)

theorem dispatch_effect (register : Option Register) :
    (perform .plain types (.dispatch register)).Leads state [] fun _ next events =>
      Effect types state (.dispatch register) next events := by
  cases register with
  | none => exact .bind (.fail .still)
  | some register =>
      refine .bind (.quiet rfl ?_)
      refine .bind (.content .still ?_)
      intro union held
      refine .bind (.quiet rfl ?_)
      refine .bind (.orFault ?_)
      intro ⟨slots, events⟩ ran
      refine .bind (.quiet rfl ?_)
      refine .bind (.log ?_)
      exact .answer (.dispatched held ran)

/-- Whatever an operation does is one of its effects. -/
theorem perform_effect (types : List Ty) (op : Op Ty) (state : State Choice) :
    (perform .plain types op).Leads state [] fun _ next events => Effect types state op next events := by
  cases op with
  | construct target register value => exact construct_effect target register value
  | convert target source register value => exact convert_effect target source register value
  | constructText register value => exact constructText_effect register value
  | wrap register value => exact wrap_effect register value
  | unwrap register => exact unwrap_effect register
  | test target register => exact test_effect target register
  | read demand target register => exact read_effect demand target register
  | edit demand mode target register value => exact edit_effect demand mode target register value
  | take required target register => exact take_effect required target register
  | locate target =>
      refine .bind (.orFail .still ?_)
      intro index _
      exact .answer .still
  | typeAt index =>
      refine .bind (.orFail .still ?_)
      intro type _
      exact .answer .still
  | index register =>
      refine .bind (.operand .still ?_)
      intro register _
      refine .bind (.content .still ?_)
      intro union _
      exact .answer .still
  | typeName register => exact typeName_effect register
  | arity => exact .answer .still
  | nameOfTag tag => exact nameOfTag_effect tag
  | drop register => exact drop_effect register
  | move source target => exact move_effect source target
  | swap first second => exact swap_effect first second
  | clone source target => exact clone_effect source target
  | compare negated left right => exact compare_effect negated left right
  | hash register => exact hash_effect register
  | render audience register style => exact render_effect audience register style
  | install kind target label => exact install_effect kind target label
  | dispatch register => exact dispatch_effect register
  | freshTable =>
      refine .bind (.quiet rfl ?_)
      exact .answer .freshened
  | fillTable =>
      refine .bind (.quiet rfl ?_)
      exact .answer .filled
  | unknown => exact .fail .still

end Machine

end TaggedUnion
