import TaggedUnion.Proofs.Appending

/-!
# What a list of alternatives offers

An operation is refused as unsupported exactly if the list does not offer it. What a list offers is
therefore known before a run, from the operation and the list alone.
-/

set_option autoImplicit false

namespace TaggedUnion

namespace Procedure

variable {Held Answer Next : Type}

/-- The procedure is not refused as unsupported, and what it answers is good. -/
def Granted (good : Answer → Prop) (procedure : Procedure Held Answer) : Prop :=
  ∀ state past, procedure.Leads state past fun answer _ _ =>
    match answer with
    | .ok value => good value
    | .error cause => cause ≠ .unsupported

namespace Granted

variable {good : Answer → Prop}

theorem bind {first : Procedure Held Answer} {next : Answer → Procedure Held Next} {good : Next → Prop}
    (granted : first.Granted fun _ => True) (rest : ∀ value, (next value).Granted good) :
    (first >>= next).Granted good := by
  intro state past
  apply Leads.bind
  intro outcome ran
  have allowed := granted state past outcome ran
  cases answered : outcome.answer with
  | error cause =>
      rw [answered] at allowed
      exact allowed
  | ok value => exact rest value outcome.state _

theorem answer {value : Answer} (fulfilled : good value) :
    (pure value : Procedure Held Answer).Granted good :=
  fun _ _ => .answer fulfilled

theorem fail {cause : Failure} (other : cause ≠ .unsupported) :
    (Procedure.fail cause : Procedure Held Answer).Granted good :=
  fun _ _ => .fail other

theorem operand {value : Option Answer} :
    (Procedure.operand value : Procedure Held Answer).Granted fun _ => True :=
  fun _ _ => .operand nofun fun _ _ => trivial

/-- What the list has is not refused. -/
theorem present {value : Option Answer} (listed : value.isSome = true) :
    (orFail .unsupported value : Procedure Held Answer).Granted fun _ => True := by
  obtain ⟨found, rfl⟩ := Option.isSome_iff_exists.mp listed
  exact fun _ _ => .answer trivial

theorem orFault {result : Except Fault Answer} :
    (Procedure.orFault result : Procedure Held Answer).Granted fun _ => True :=
  fun _ _ => .orFault fun _ _ => trivial

theorem make {making : Nat → Except Fault (Made Answer)} :
    (Procedure.make making : Procedure Held Answer).Granted fun _ => True :=
  fun _ _ => .make fun _ _ => trivial

theorem log {events : List Event} :
    (Procedure.log events : Procedure Held Unit).Granted fun _ => True :=
  fun _ _ => .log trivial

theorem content? {register : Register} :
    (Procedure.content? register : Procedure Held (Option Held)).Granted fun _ => True :=
  fun _ _ => .content? trivial

theorem content {register : Register} :
    (Procedure.content register : Procedure Held Held).Granted fun _ => True :=
  fun _ _ => .content nofun fun _ _ => trivial

theorem setContent {register : Register} {union : Option Held} :
    (Procedure.setContent register union).Granted fun _ => True :=
  fun _ _ => .setContent trivial

theorem table : (Procedure.table : Procedure Held HandlerTable).Granted fun _ => True :=
  fun _ _ => .quiet rfl trivial

theorem setTable {slots : HandlerTable} :
    (Procedure.setTable slots : Procedure Held Unit).Granted fun _ => True :=
  fun _ _ => .quiet rfl trivial

theorem held {register : Option Register} {next : Held → Procedure Held Next} {good : Next → Prop}
    (rest : ∀ union, (next union).Granted good) :
    (Procedure.operand register >>= fun register => Procedure.content register >>= next).Granted good := by
  apply bind operand
  intro register
  exact bind content rest

end Granted

end Procedure

namespace Machine

open Procedure

variable {Held Value : Type} {storage : Storage Held Value} {types : List Ty}

theorem offered_granted {condition : Bool} (offers : condition = true) :
    (offered condition : Procedure Held Unit).Granted fun _ => True := by
  rw [offers]
  exact .answer trivial

theorem readValue_granted {type : Ty} {value : Option Literal} :
    (readValue type value : Procedure Held Datum).Granted fun _ => True := by
  apply Granted.bind .operand
  intro literal
  apply Granted.bind .make
  intro read
  exact .operand

theorem replaceContent_granted {register : Register} {union : Held} :
    (replaceContent storage types register union).Granted fun _ => True := by
  apply Granted.bind .content?
  intro old
  apply Granted.bind .setContent
  intro _
  cases old with
  | none => exact .answer trivial
  | some old =>
      apply Granted.bind .orFault
      intro events
      exact .log

theorem mismatch_granted {type : Ty} {index : Nat} {union : Held} :
    (mismatch storage types type index union).Granted fun _ => True := by
  unfold mismatch
  split
  · exact .answer trivial
  · exact .fail nofun

theorem missed_granted {demand : Demand} {type : Ty} {index : Nat} {union : Held} :
    (missed storage types demand type index union).Granted fun reply => reply.failure? = none := by
  cases demand with
  | optional => exact .answer rfl
  | checked =>
      apply Granted.bind mismatch_granted
      intro report
      exact .fail nofun
  | required =>
      apply Granted.bind mismatch_granted
      intro report
      exact .fail nofun

theorem reportTaken_granted {type : Ty} {value : Value} :
    (reportTaken storage type value).Granted fun _ => True := by
  apply Granted.bind .orFault
  intro viewed
  apply Granted.bind .orFault
  intro events
  apply Granted.bind .log
  intro _
  exact .answer trivial

theorem put_granted {register : Register} {union : Held} :
    (replaceContent storage types register union >>= fun _ => pure Reply.done).Granted
      fun reply => reply.failure? = none := by
  apply Granted.bind replaceContent_granted
  intro _
  exact .answer rfl

/-- Reading a value and building the union that holds it, the last part of several operations. -/
theorem build_granted {type : Ty} {value : Option Literal} {register : Option Register}
    {place : Datum → Held} :
    (operand register >>= fun register => readValue type value >>= fun value =>
      replaceContent storage types register (place value) >>= fun _ => pure Reply.done).Granted
      fun reply => reply.failure? = none := by
  apply Granted.bind .operand
  intro register
  apply Granted.bind readValue_granted
  intro value
  exact put_granted

section

variable {target : Selector Ty} (listed : (target.find? types).isSome = true)

include listed

theorem read_granted (demand : Demand) (register : Option Register) :
    (perform storage types (.read demand target register)).Granted
      fun reply => reply.failure? = none := by
  apply Granted.bind (.present listed)
  intro picked
  apply Granted.held
  intro union
  split
  · apply Granted.bind .orFault
    intro value
    apply Granted.bind .orFault
    intro viewed
    exact .answer (demand.found_failure? viewed)
  · exact missed_granted

theorem edit_granted (demand : Demand) (mode : EditMode) (register : Option Register)
    (value : Option Literal) :
    (perform storage types (.edit demand mode target register value)).Granted
      fun reply => reply.failure? = none := by
  apply Granted.bind (.present listed)
  intro picked
  apply Granted.bind .operand
  intro register
  apply Granted.bind .content
  intro union
  apply Granted.bind readValue_granted
  intro value
  split
  · apply Granted.bind .orFault
    intro old
    apply Granted.bind .orFault
    intro edited
    apply Granted.bind .log
    intro _
    apply Granted.bind .orFault
    intro changed
    apply Granted.bind .setContent
    intro _
    apply Granted.bind .orFault
    intro viewed
    exact .answer (demand.found_failure? viewed)
  · apply Granted.bind .orFault
    intro events
    apply Granted.bind .log
    intro _
    exact missed_granted

theorem take_granted (required : Bool) (register : Option Register) :
    (perform storage types (.take required target register)).Granted
      fun reply => reply.failure? = none := by
  apply Granted.bind (.present listed)
  intro picked
  apply Granted.bind .operand
  intro register
  apply Granted.bind .content
  intro union
  split
  · apply Granted.bind .orFault
    intro value
    apply Granted.bind .setContent
    intro _
    apply Granted.bind reportTaken_granted
    intro reported
    cases required <;> exact .answer rfl
  · cases required with
    | false => exact .answer rfl
    | true =>
        apply Granted.bind mismatch_granted
        intro report
        apply Granted.bind .setContent
        intro _
        apply Granted.bind .orFault
        intro events
        apply Granted.bind .log
        intro _
        exact .fail nofun

end

theorem perform_granted {op : Op Ty} (offers : op.offeredBy types = true) :
    (perform storage types op).Granted fun reply => reply.failure? = none := by
  cases op with
  | construct target register value =>
      apply Granted.bind (.present offers)
      intro picked
      exact build_granted
  | convert target source register value =>
      obtain ⟨targetListed, conversionListed⟩ := Bool.and_eq_true_iff.mp offers
      apply Granted.bind (.present targetListed)
      intro picked
      apply Granted.bind (.present conversionListed)
      intro conversion
      apply Granted.bind .operand
      intro register
      apply Granted.bind readValue_granted
      intro given
      apply Granted.bind .make
      intro value
      exact put_granted
  | constructText register value =>
      apply Granted.bind (.present offers)
      intro picked
      exact build_granted
  | wrap register value =>
      apply Granted.bind (.present offers)
      intro type
      exact build_granted
  | unwrap register =>
      apply Granted.bind (.present offers)
      intro type
      apply Granted.bind .operand
      intro register
      apply Granted.bind .content
      intro union
      apply Granted.bind .orFault
      intro value
      apply Granted.bind .setContent
      intro _
      apply Granted.bind reportTaken_granted
      intro reported
      exact .answer rfl
  | test target register =>
      apply Granted.bind (.present offers)
      intro picked
      apply Granted.held
      intro union
      exact .answer rfl
  | read demand target register => exact read_granted offers demand register
  | edit demand mode target register value => exact edit_granted offers demand mode register value
  | take required target register => exact take_granted offers required register
  | locate target =>
      apply Granted.bind (.present offers)
      intro index
      exact .answer rfl
  | typeAt index =>
      apply Granted.bind (.present offers)
      intro type
      exact .answer rfl
  | index register =>
      apply Granted.held
      intro union
      exact .answer rfl
  | typeName register =>
      apply Granted.held
      intro union
      split
      · exact .answer rfl
      · exact .fail nofun
  | arity => exact .answer rfl
  | nameOfTag tag =>
      apply Granted.bind .operand
      intro tag
      split
      · exact .answer rfl
      · exact .fail nofun
  | drop register =>
      apply Granted.bind .operand
      intro register
      apply Granted.bind .content
      intro union
      apply Granted.bind .setContent
      intro _
      apply Granted.bind .orFault
      intro events
      apply Granted.bind .log
      intro _
      exact .answer rfl
  | move source target =>
      apply Granted.bind .operand
      intro source
      apply Granted.bind .operand
      intro target
      apply Granted.bind .content
      intro union
      apply Granted.bind .setContent
      intro _
      exact put_granted
  | swap first second =>
      apply Granted.bind .operand
      intro first
      apply Granted.bind .operand
      intro second
      apply Granted.bind .content?
      intro left
      apply Granted.bind .content?
      intro right
      apply Granted.bind .setContent
      intro _
      apply Granted.bind .setContent
      intro _
      exact .answer rfl
  | clone source target =>
      apply Granted.bind .operand
      intro source
      apply Granted.bind .operand
      intro target
      apply Granted.bind .content
      intro union
      apply Granted.bind .make
      intro copy
      exact put_granted
  | compare negated left right =>
      apply Granted.held
      intro first
      apply Granted.held
      intro second
      apply Granted.bind .orFault
      intro verdict
      apply Granted.bind .log
      intro _
      exact .answer rfl
  | hash register =>
      apply Granted.bind (offered_granted offers)
      intro _
      apply Granted.held
      intro union
      apply Granted.bind .orFault
      intro hashed
      apply Granted.bind .log
      intro _
      exact .answer rfl
  | render audience register style =>
      apply Granted.bind (offered_granted offers)
      intro _
      apply Granted.held
      intro union
      apply Granted.bind .operand
      intro style
      apply Granted.bind .orFault
      intro text
      exact .answer rfl
  | install kind target label =>
      apply Granted.bind (.present offers)
      intro picked
      apply Granted.bind .table
      intro slots
      apply Granted.bind .setTable
      intro _
      exact .answer rfl
  | dispatch register =>
      apply Granted.held
      intro union
      apply Granted.bind .table
      intro slots
      apply Granted.bind .orFault
      intro dispatched
      apply Granted.bind .setTable
      intro _
      apply Granted.bind .log
      intro _
      exact .answer rfl
  | freshTable =>
      apply Granted.bind .setTable
      intro _
      exact .answer rfl
  | fillTable =>
      apply Granted.bind .setTable
      intro _
      exact .answer rfl
  | unknown => cases offers

/-- An operation is refused as unsupported exactly if the list does not offer it. -/
theorem step_unsupported_iff {op : Op Ty} {state next : State Held} {entry : Entry}
    (stepped : step storage types op state = .ok (entry, next)) :
    entry.reply = .failed .unsupported ↔ op.offeredBy types = false := by
  obtain ⟨outcome, performed, rfl, rfl⟩ := step_ok_iff.mp stepped
  constructor
  · intro refused
    cases offers : op.offeredBy types with
    | false => rfl
    | true =>
        have granted := perform_granted offers state [] outcome performed
        change outcome.reply = _ at refused
        unfold Outcome.reply at refused
        split at refused
        · rename_i reply answered
          rw [answered, refused] at granted
          cases granted
        · rename_i cause answered
          rw [answered] at granted
          cases refused
          exact absurd rfl granted
  · intro missing
    cases (perform_not_offered storage missing state).symm.trans performed
    rfl

end Machine

end TaggedUnion
