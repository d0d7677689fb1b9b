import TaggedUnion.Proofs.Observation

/-!
# Registers that an operation leaves alone

An operation changes only registers that it names: it may replace the content of some and edit that
of another. Every other register holds after a run what it held before, and one whose content was
only edited still has its tag.
-/

set_option autoImplicit false

namespace TaggedUnion

namespace Op

variable {T : Type} (register : Register)

def names : Op T → Bool
  | construct _ named _ | convert _ _ named _ | constructText named _ | wrap named _ | unwrap named
  | test _ named | read _ _ named | edit _ _ _ named _ | take _ _ named | index named
  | typeName named | drop named | hash named | render _ named _ | dispatch named =>
    named == some register
  | move source target | swap source target | clone source target | compare _ source target =>
    source == some register || target == some register
  | locate _ | typeAt _ | arity | nameOfTag _ | install _ _ _ | freshTable | fillTable | unknown => false

/-- The operation constructs into the register, moves into it or out of it, swaps it, clones onto
it, or takes out or drops what it holds. -/
def replaces : Op T → Bool
  | construct _ named _ | convert _ _ named _ | constructText named _ | wrap named _ | unwrap named
  | take _ _ named | drop named | clone _ named => named == some register
  | move source target | swap source target => source == some register || target == some register
  | _ => false

def edits : Op T → Bool
  | edit _ _ _ named _ => named == some register
  | _ => false

variable {register}

theorem replaces_of_not_names {op : Op T} (unnamed : op.names register = false) :
    op.replaces register = false := by
  cases op with
  | clone source target => exact (Bool.or_eq_false_iff.mp unnamed).2
  | _ => first | exact unnamed | rfl

theorem edits_of_not_names {op : Op T} (unnamed : op.names register = false) :
    op.edits register = false := by
  cases op with
  | edit => exact unnamed
  | _ => rfl

theorem apart_of_operand {named : Option Register} {other : Register}
    (unnamed : (named == some register) = false) (given : named = some other) : other ≠ register := by
  rintro rfl
  exact beq_eq_false_iff_ne.mp unnamed given

end Op

namespace Procedure

variable {Held Answer Next Seen : Type}

/-- Whatever outcome the procedure has, a failure included, the same is seen of the content of the
register as before. -/
def Spares (procedure : Procedure Held Answer) (register : Register) (seen : Option Held → Seen) :
    Prop :=
  ∀ state past, procedure.Leads state past fun _ next _ =>
    seen (next.content register) = seen (state.content register)

theorem Still.spares {procedure : Procedure Held Answer} {register : Register}
    {seen : Option Held → Seen} (still : procedure.Still) : procedure.Spares register seen := by
  intro state past outcome ran
  rw [still state past outcome ran]

namespace Spares

variable {register : Register} {seen : Option Held → Seen}

theorem bind {first : Procedure Held Answer} {next : Answer → Procedure Held Next}
    (spares : first.Spares register seen) (rest : ∀ value, (next value).Spares register seen) :
    (first >>= next).Spares register seen := by
  intro state past
  apply Leads.bind
  intro outcome ran
  have kept := spares state past outcome ran
  cases outcome.answer with
  | error failure => exact kept
  | ok value =>
      intro last followed
      exact (rest value outcome.state (past ++ outcome.events) last followed).trans kept

theorem operand {value : Option Answer} {next : Answer → Procedure Held Next}
    (rest : ∀ found, value = some found → (next found).Spares register seen) :
    (Procedure.operand value >>= next).Spares register seen := by
  intro state past
  apply Leads.bind
  apply Leads.operand
  · rfl
  · intro found given
    exact rest found given state past

theorem content {other : Register} : (Procedure.content other).Spares register seen :=
  fun _ _ => .content rfl fun _ _ => rfl

theorem content? {other : Register} : (Procedure.content? other).Spares register seen :=
  fun _ _ => .content? rfl

theorem setContent {other : Register} {held : Option Held} (apart : other ≠ register) :
    (Procedure.setContent other held).Spares register seen :=
  fun state _ => .setContent (congrArg seen (state.content_put_of_ne apart))

theorem setTable {slots : HandlerTable} : (Procedure.setTable slots).Spares register seen :=
  fun _ _ => .quiet rfl rfl

theorem make {making : Nat → Except Fault (Made Answer)} :
    (Procedure.make making).Spares register seen :=
  fun _ _ => .make fun _ _ => rfl

end Spares

end Procedure

namespace Machine

open Procedure

variable {Held Value Seen : Type} {storage : Storage Held Value} {types : List Ty}
  {register : Register} {seen : Option Held → Seen}

theorem readValue_registers {state : State Held} (type : Ty) (value : Option Literal) :
    (readValue type value : Procedure Held Datum).Leads state [] fun _ next _ =>
      next.registers = state.registers := by
  apply Leads.bind
  apply Leads.operand
  · rfl
  · intro literal given
    apply Leads.bind
    apply Leads.make
    intro made was
    exact .operand rfl fun _ _ => rfl

theorem readValue_spares {type : Ty} {value : Option Literal} :
    (readValue type value : Procedure Held Datum).Spares register seen := by
  intro state past outcome ran
  rw [State.content, readValue_registers type value outcome ran]
  rfl

theorem replaceContent_spares {other : Register} {union : Held} (apart : other ≠ register) :
    (replaceContent storage types other union).Spares register seen := by
  apply Spares.bind .content?
  intro old
  apply Spares.bind (.setContent apart)
  intro _
  cases old with
  | none => exact Still.answer.spares
  | some old =>
      apply Spares.bind Still.orFault.spares
      intro events
      exact Still.log.spares

theorem build_spares {type : Ty} {value : Option Literal} {other : Register} {index : Nat}
    (apart : other ≠ register) :
    (do
      let value ← readValue type value
      replaceContent storage types other (storage.place index (storage.hold value))
      return Reply.done : Procedure Held Reply).Spares register seen := by
  apply Spares.bind readValue_spares
  intro value
  apply Spares.bind (replaceContent_spares apart)
  intro _
  exact Still.answer.spares

theorem reportTaken_spares {type : Ty} {value : Value} :
    (reportTaken storage type value).Spares register seen := by
  apply Spares.bind Still.orFault.spares
  intro reported
  apply Spares.bind Still.orFault.spares
  intro events
  apply Spares.bind Still.log.spares
  intro _
  exact Still.answer.spares

theorem take_spares {required : Bool} {target : Selector Ty} {named : Option Register}
    (unnamed : (named == some register) = false) :
    (perform storage types (.take required target named)).Spares register seen := by
  apply Spares.bind Still.orFail.spares
  intro picked
  apply Spares.operand
  intro other given
  have apart := Op.apart_of_operand unnamed given
  apply Spares.bind .content
  intro union
  split
  · apply Spares.bind Still.orFault.spares
    intro value
    apply Spares.bind (.setContent apart)
    intro _
    apply Spares.bind reportTaken_spares
    intro reported
    exact Still.answer.spares
  · split
    · apply Spares.bind mismatch_still.spares
      intro report
      apply Spares.bind (.setContent apart)
      intro _
      apply Spares.bind Still.orFault.spares
      intro events
      apply Spares.bind Still.log.spares
      intro _
      exact Still.fail.spares
    · exact Still.answer.spares

/-- An edit of the register shows only what is seen of overwriting an active value. -/
theorem edit_spares {demand : Demand} {mode : EditMode} {target : Selector Ty} {named : Option Register}
    {literal : Option Literal}
    (edited : named = some register → ∀ index value union next,
      storage.set index value union = .ok next → seen (some next) = seen (some union)) :
    (perform storage types (.edit demand mode target named literal)).Spares register seen := by
  intro state past
  refine .bind (.orFail rfl ?_)
  intro ⟨type, index⟩ _
  refine .bind (.operand rfl ?_)
  intro other given
  refine .bind (.content rfl ?_)
  intro union held
  apply Leads.bind
  intro outcome ran
  have kept : outcome.state.content = state.content :=
    congrArg Vector.get (readValue_registers type literal outcome ran)
  cases outcome.answer with
  | error failure => exact congrArg (seen <| · register) kept
  | ok value =>
      dsimp only
      split
      · refine .bind (.orFault ?_)
        intro old _
        refine .bind (.orFault ?_)
        intro edition _
        refine .bind (.log ?_)
        refine .bind (.orFault ?_)
        intro changed was
        refine .bind (.setContent ?_)
        refine .bind (.orFault ?_)
        intro viewed _
        apply Leads.answer
        by_cases same : other = register
        · subst same
          rw [State.content_put_self, held]
          exact edited given index edition.value union changed was
        · rw [State.content_put_of_ne _ same, kept]
      · refine .bind (.orFault ?_)
        intro events _
        refine .bind (.log ?_)
        intro last missed
        rw [missed_still _ [] last missed, kept]

/-- What an operation leaves alone: whatever it does not replace, up to what is seen of an edit. -/
theorem perform_spares {op : Op Ty} (kept : op.replaces register = false)
    (edited : op.edits register = true → ∀ index value union next,
      storage.set index value union = .ok next → seen (some next) = seen (some union)) :
    (perform storage types op).Spares register seen := by
  cases op with
  | construct target named value =>
      apply Spares.bind Still.orFail.spares
      intro picked
      apply Spares.operand
      intro other given
      exact build_spares (Op.apart_of_operand kept given)
  | constructText named value =>
      apply Spares.bind Still.orFail.spares
      intro picked
      apply Spares.operand
      intro other given
      exact build_spares (Op.apart_of_operand kept given)
  | wrap named value =>
      apply Spares.bind Still.orFail.spares
      intro picked
      apply Spares.operand
      intro other given
      exact build_spares (Op.apart_of_operand kept given)
  | convert target source named value =>
      apply Spares.bind Still.orFail.spares
      intro picked
      apply Spares.bind Still.orFail.spares
      intro conversion
      apply Spares.operand
      intro other given
      apply Spares.bind readValue_spares
      intro found
      apply Spares.bind Spares.make
      intro converted
      apply Spares.bind (replaceContent_spares (Op.apart_of_operand kept given))
      intro _
      exact Still.answer.spares
  | unwrap named =>
      apply Spares.bind Still.orFail.spares
      intro type
      apply Spares.operand
      intro other given
      apply Spares.bind .content
      intro union
      apply Spares.bind Still.orFault.spares
      intro value
      apply Spares.bind (.setContent (Op.apart_of_operand kept given))
      intro _
      apply Spares.bind reportTaken_spares
      intro reported
      exact Still.answer.spares
  | take required target named => exact take_spares kept
  | edit demand mode target named literal =>
      exact edit_spares fun given => edited (beq_iff_eq.mpr given)
  | drop named =>
      apply Spares.operand
      intro other given
      apply Spares.bind .content
      intro union
      apply Spares.bind (.setContent (Op.apart_of_operand kept given))
      intro _
      apply Spares.bind Still.orFault.spares
      intro events
      apply Spares.bind Still.log.spares
      intro _
      exact Still.answer.spares
  | move source target =>
      obtain ⟨out, into⟩ := Bool.or_eq_false_iff.mp kept
      apply Spares.operand
      intro first givenFirst
      apply Spares.operand
      intro second givenSecond
      apply Spares.bind .content
      intro union
      apply Spares.bind (.setContent (Op.apart_of_operand out givenFirst))
      intro _
      apply Spares.bind (replaceContent_spares (Op.apart_of_operand into givenSecond))
      intro _
      exact Still.answer.spares
  | swap left right =>
      obtain ⟨out, into⟩ := Bool.or_eq_false_iff.mp kept
      apply Spares.operand
      intro first givenFirst
      apply Spares.operand
      intro second givenSecond
      apply Spares.bind .content?
      intro held
      apply Spares.bind .content?
      intro held'
      apply Spares.bind (.setContent (Op.apart_of_operand out givenFirst))
      intro _
      apply Spares.bind (.setContent (Op.apart_of_operand into givenSecond))
      intro _
      exact Still.answer.spares
  | clone source target =>
      apply Spares.operand
      intro first givenFirst
      apply Spares.operand
      intro second givenSecond
      apply Spares.bind .content
      intro union
      apply Spares.bind Spares.make
      intro copy
      apply Spares.bind (replaceContent_spares (Op.apart_of_operand kept givenSecond))
      intro _
      exact Still.answer.spares
  | install kind target label =>
      apply Spares.bind Still.orFail.spares
      intro picked
      apply Spares.bind fun _ _ => .quiet rfl rfl
      intro slots
      apply Spares.bind Spares.setTable
      intro _
      exact Still.answer.spares
  | dispatch named =>
      apply Spares.operand
      intro other given
      apply Spares.bind .content
      intro union
      apply Spares.bind fun _ _ => .quiet rfl rfl
      intro slots
      apply Spares.bind Still.orFault.spares
      intro ran
      apply Spares.bind Spares.setTable
      intro _
      apply Spares.bind Still.log.spares
      intro _
      exact Still.answer.spares
  | freshTable | fillTable =>
      apply Spares.bind Spares.setTable
      intro _
      exact Still.answer.spares
  | unknown => exact Still.fail.spares
  | _ => exact (perform_still rfl).spares

/-- What is seen of the register stays the same along a run whose operations do not replace its
content, up to what is seen of edits. -/
theorem steps_spare (seen : Option Held → Seen) {program : List (Op Ty)}
    (kept : ∀ op ∈ program, op.replaces register = false)
    (edited : ∀ op ∈ program, op.edits register = true → ∀ index value union next,
      storage.set index value union = .ok next → seen (some next) = seen (some union))
    {state last : State Held} {entries : List Entry}
    (ran : steps storage types program state = .ok (entries, last)) :
    seen (last.content register) = seen (state.content register) := by
  induction program generalizing state entries with
  | nil =>
      cases ran
      rfl
  | cons op program ih =>
      obtain ⟨entry, next, rest, stepped, remaining, -⟩ := steps_cons_ok_iff.mp ran
      obtain ⟨outcome, performed, -, rfl⟩ := step_ok_iff.mp stepped
      have later := ih (fun other listed => kept other (List.mem_cons_of_mem op listed))
        (fun other listed => edited other (List.mem_cons_of_mem op listed)) remaining
      exact later.trans (perform_spares (kept op List.mem_cons_self) (edited op List.mem_cons_self)
        state [] outcome performed)

/-- A register that no operation of the program names holds in the end what it held. -/
theorem steps_content {program : List (Op Ty)} (unnamed : ∀ op ∈ program, op.names register = false)
    {state last : State Held} {entries : List Entry}
    (ran : steps storage types program state = .ok (entries, last)) :
    last.content register = state.content register := by
  apply steps_spare id _ _ ran
  · intro op listed
    exact Op.replaces_of_not_names (unnamed op listed)
  · intro op listed edits
    rw [Op.edits_of_not_names (unnamed op listed)] at edits
    cases edits

theorem tag_set {index : Nat} {value : Stored} {union next : Tagged}
    (was : Storage.tagged.set index value union = .ok next) : next.tag = union.tag := by
  simp only [Storage.tagged] at was
  cases written : union.storage.write value index with
  | error fault =>
      rw [written] at was
      cases was
  | ok storage =>
      rw [written] at was
      cases was
      rfl

/-- A register whose content no operation of the program replaces has in the end the tag it had. -/
theorem steps_tag {program : List (Op Ty)} (kept : ∀ op ∈ program, op.replaces register = false)
    {state last : State Tagged} {entries : List Entry}
    (ran : steps .tagged types program state = .ok (entries, last)) :
    (last.content register).map Tagged.tag = (state.content register).map Tagged.tag := by
  apply steps_spare (Option.map Tagged.tag) kept _ ran
  intro op listed edits index value union next was
  exact congrArg some (tag_set was)

end Machine

end TaggedUnion
