import TaggedUnion.Proofs.Observation
import TaggedUnion.Proofs.Preservation
import TaggedUnion.Proofs.TypedState

/-!
# Lists without tracked leaves

Values of types in which no tracked leaf occurs have no identities. Over a list of such types no
operation hands out an identity: nothing that can be read or converted for the list needs one.
-/

set_option autoImplicit false

namespace TaggedUnion

open Registry

namespace Ty

mutual

/-- No tracked leaf occurs in values of the type. -/
def untracked : Ty → Bool
  | int _ | float _ | bool | char | unit | string | fixedText | empty _ => true
  | tracked _ => false
  | record _ content => content.untracked
  | list item | option item => item.untracked
  | pair first second => first.untracked && second.untracked
  | variant alternatives => allUntracked alternatives

def allUntracked : List Ty → Bool
  | [] => true
  | type :: types => type.untracked && allUntracked types

end

theorem untracked_of_typeAt? {types : List Ty} {index : Nat} {type : Ty}
    (untracked : allUntracked types = true) (found : typeAt? types index = some type) :
    type.untracked = true := by
  induction types generalizing index with
  | nil => cases found
  | cons head tail ih =>
      rw [allUntracked, Bool.and_eq_true] at untracked
      cases index with
      | zero =>
          cases found
          exact untracked.1
      | succ index => exact ih untracked.2 found

end Ty

/-! ## Values -/

theorem Leaf.HasType.ids_untracked {leaf : Leaf} {type : Ty} (held : leaf.HasType type)
    (untracked : type.untracked = true) : leaf.ids = [] := by
  cases leaf with
  | tracked kind id number =>
      cases type with
      | tracked kind' => cases untracked
      | _ => cases held
  | _ => rfl

theorem Datum.Typed.ids_untracked {value : Datum} {type : Ty} (typed : value.Typed type)
    (untracked : type.untracked = true) : value.ids = [] := by
  induction typed with
  | leaf held => exact held.ids_untracked untracked
  | list _ ih => exact Datum.allIds_eq_nil fun item member => ih item member untracked
  | none => rfl
  | some _ ih => exact ih untracked
  | pair _ _ first second =>
      rw [Ty.untracked, Bool.and_eq_true] at untracked
      rw [Datum.ids, first untracked.1, second untracked.2, List.append_nil]
  | record _ ih => exact ih untracked
  | variant _ found _ ih => exact ih (Ty.untracked_of_typeAt? untracked found)

theorem Literal.readItems_nextId {read : Nat → Literal → Made (Option Datum)}
    (part : ∀ nextId item, (read nextId item).nextId = nextId) (done : List Datum) (nextId : Nat)
    (items : List Literal) : (readItems read done nextId items).nextId = nextId := by
  induction items generalizing done with
  | nil => rfl
  | cons item items ih =>
      unfold readItems
      dsimp only
      split
      · exact part nextId item
      · rw [part nextId item]
        exact ih _

theorem Literal.untrackedRules :
    ReadingRules fun type nextId made => type.untracked = true → made.nextId = nextId where
  unread _ _ _ := rfl
  leaf _ _ _ := rfl
  tracked _ untracked := nomatch untracked
  absent _ _ _ := rfl
  present part untracked := part untracked
  record part untracked := part untracked
  pair := by
    intro type type' nextId first second firstKept secondKept untracked
    rw [Ty.untracked, Bool.and_eq_true] at untracked
    have kept := firstKept untracked.1
    have kept' := (secondKept first.nextId untracked.2).trans kept
    unfold readPair
    split
    · exact kept
    · dsimp only
      split <;> exact kept'
  list part nextId items untracked :=
    readItems_nextId (fun nextId item => part nextId item untracked) [] nextId items
  variant _ found part untracked := part (Ty.untracked_of_typeAt? untracked found)

/-! ## Conversions -/

namespace Conversion

variable {source target : Ty} {conversion : Conversion}

/-- A conversion to a type without tracked leaves is one from such a type, and it tracks nothing. -/
theorem find?_untracked (found : find? source target = some conversion)
    (untracked : target.untracked = true) :
    source.untracked = true ∧ ∀ kind, conversion ≠ .track kind := by
  unfold find? at found
  split at found
  case h_11 => cases untracked
  case h_12 =>
    split at found <;> cases found
    rename_i same
    exact ⟨same ▸ untracked, nofun⟩
  case h_13 =>
    split at found <;> cases found
    rename_i same
    rw [Ty.untracked, Ty.allUntracked, Bool.and_eq_true] at untracked
    exact ⟨same ▸ untracked.1, nofun⟩
  case h_14 => cases found
  case h_1 | h_3 | h_5 =>
    split at found <;> cases found
    exact ⟨rfl, nofun⟩
  all_goals
    cases found
    exact ⟨rfl, nofun⟩

theorem convert?_nextId {value : Datum} {nextId : Nat} {made : Made Datum}
    (converted : conversion.convert? nextId value = some made) (quiet : ∀ kind, conversion ≠ .track kind) :
    made.nextId = nextId := by
  obtain ⟨-, counted, -⟩ := convert?_fresh converted
  cases conversion with
  | track kind => exact absurd rfl (quiet kind)
  | _ => exact counted

end Conversion

/-! ## Procedures -/

namespace Procedure

variable {Held Answer Next : Type}

/-- The procedure hands out no identity, whatever outcome it has. -/
def Frugal (procedure : Procedure Held Answer) : Prop :=
  ∀ state past, procedure.Leads state past fun _ next _ => next.nextId = state.nextId

theorem Still.frugal {procedure : Procedure Held Answer} (still : procedure.Still) : procedure.Frugal := by
  intro state past outcome ran
  rw [still state past outcome ran]

namespace Frugal

theorem bind {first : Procedure Held Answer} {next : Answer → Procedure Held Next}
    (frugal : first.Frugal) (rest : ∀ value, (next value).Frugal) : (first >>= next).Frugal := by
  intro state past
  apply Leads.bind
  intro outcome ran
  have kept := frugal state past outcome ran
  cases outcome.answer with
  | error failure => exact kept
  | ok value =>
      intro last followed
      exact (rest value outcome.state (past ++ outcome.events) last followed).trans kept

theorem found {cause : Failure} {value : Option Answer} {next : Answer → Procedure Held Next}
    (rest : ∀ found, value = some found → (next found).Frugal) :
    (Procedure.orFail cause value >>= next).Frugal := by
  intro state past
  apply Leads.bind
  apply Leads.orFail
  · rfl
  · intro found given
    exact rest found given state past

theorem content? {register : Register} : (Procedure.content? register : Procedure Held _).Frugal :=
  fun _ _ => .content? rfl

theorem content {register : Register} : (Procedure.content register : Procedure Held _).Frugal :=
  fun _ _ => .content rfl fun _ _ => rfl

theorem setContent {register : Register} {held : Option Held} :
    (Procedure.setContent register held).Frugal := fun _ _ => .setContent rfl

theorem table : (Procedure.table : Procedure Held _).Frugal := fun _ _ => .quiet rfl rfl

theorem setTable {slots : HandlerTable} : (Procedure.setTable slots : Procedure Held _).Frugal :=
  fun _ _ => .quiet rfl rfl

theorem make {making : Nat → Except Fault (Made Answer)}
    (kept : ∀ nextId made, making nextId = .ok made → made.nextId = nextId) :
    (Procedure.make making : Procedure Held Answer).Frugal :=
  fun state _ => .make fun made was => kept state.nextId made was

end Frugal

end Procedure

/-! ## Operations -/

namespace Machine

open Procedure

variable {types : List Ty} {type : Ty} {value : Option Literal} {register : Register}

theorem readValue_frugal (untracked : type.untracked = true) :
    (readValue type value : Procedure Choice Datum).Frugal := by
  apply Frugal.found
  intro literal _
  apply Frugal.bind
  · apply Frugal.make
    intro nextId made was
    cases was
    exact Literal.untrackedRules.read type nextId literal untracked
  · exact fun _ => Still.orFail.frugal

theorem convertValue_frugal {conversion : Conversion} (quiet : ∀ kind, conversion ≠ .track kind)
    (value : Datum) : (convertValue conversion value : Procedure Choice Datum).Frugal := by
  apply Frugal.make
  intro nextId made was
  split at was
  · rename_i converted
    cases was
    exact Conversion.convert?_nextId converted quiet
  · cases was

theorem replaceContent_frugal (union : Choice) : (replaceContent .plain types register union).Frugal := by
  apply Frugal.bind .content?
  intro old
  apply Frugal.bind .setContent
  intro _
  cases old with
  | none => exact Still.answer.frugal
  | some old => exact Frugal.bind Still.orFault.frugal fun _ => Still.log.frugal

theorem build_frugal {index : Nat} (untracked : type.untracked = true) :
    (do
      let value ← readValue type value
      replaceContent .plain types register (Storage.plain.place index (Storage.plain.hold value))
      return Reply.done : Procedure Choice Reply).Frugal := by
  apply Frugal.bind (readValue_frugal untracked)
  intro found
  exact .bind (replaceContent_frugal _) fun _ => Still.answer.frugal

theorem reportTaken_frugal (value : Datum) : (reportTaken .plain type value).Frugal := by
  apply Frugal.bind Still.orFault.frugal
  intro reported
  apply Frugal.bind Still.orFault.frugal
  intro events
  exact .bind Still.log.frugal fun _ => Still.answer.frugal

theorem find?_untracked {target : Selector Ty} {type : Ty} {index : Nat}
    (untracked : Ty.allUntracked types = true) (picked : target.find? types = some (type, index)) :
    type.untracked = true :=
  Ty.untracked_of_typeAt? untracked (Selector.find?_found picked)

theorem build?_untracked {target : Selector Ty} {type : Ty} {index : Nat}
    (untracked : Ty.allUntracked types = true) (picked : target.build? types = some (type, index)) :
    type.untracked = true :=
  find?_untracked untracked (Selector.build?_eq_some_iff.mp picked).2

/-- Apart from clones, whose identities are those of the cloned union. -/
theorem perform_frugal (untracked : Ty.allUntracked types = true) {op : Op Ty}
    (apart : ∀ source target, op ≠ .clone source target) : (perform .plain types op).Frugal := by
  cases op with
  | construct target named value =>
      apply Frugal.found
      intro ⟨type, index⟩ picked
      apply Frugal.found
      intro register _
      exact build_frugal (build?_untracked untracked picked)
  | constructText named value =>
      apply Frugal.found
      intro picked _
      apply Frugal.found
      intro register _
      exact build_frugal rfl
  | wrap named value =>
      apply Frugal.found
      intro type only
      apply Frugal.found
      intro register _
      rw [onlyType?_found only, Ty.allUntracked, Bool.and_eq_true] at untracked
      exact build_frugal untracked.1
  | convert target source named value =>
      apply Frugal.found
      intro ⟨type, index⟩ picked
      apply Frugal.found
      intro conversion selected
      have listed := build?_untracked untracked picked
      rw [Selector.build?_type picked] at listed
      obtain ⟨sourceUntracked, quiet⟩ := Conversion.find?_untracked selected listed
      apply Frugal.found
      intro register _
      apply Frugal.bind (readValue_frugal sourceUntracked)
      intro found
      apply Frugal.bind (convertValue_frugal quiet found)
      intro image
      exact Frugal.bind (replaceContent_frugal _) fun _ => Still.answer.frugal
  | edit demand mode target named value =>
      apply Frugal.found
      intro ⟨type, index⟩ picked
      apply Frugal.found
      intro register _
      apply Frugal.bind .content
      intro union
      apply Frugal.bind (readValue_frugal (find?_untracked untracked picked))
      intro found
      split
      · apply Frugal.bind Still.orFault.frugal
        intro old
        apply Frugal.bind Still.orFault.frugal
        intro edition
        apply Frugal.bind Still.log.frugal
        intro _
        apply Frugal.bind Still.orFault.frugal
        intro changed
        apply Frugal.bind .setContent
        intro _
        exact Frugal.bind Still.orFault.frugal fun _ => Still.answer.frugal
      · apply Frugal.bind Still.orFault.frugal
        intro events
        exact Frugal.bind Still.log.frugal fun _ => missed_still.frugal
  | take required target named =>
      apply Frugal.found
      intro picked _
      apply Frugal.found
      intro register _
      apply Frugal.bind .content
      intro union
      split
      · apply Frugal.bind Still.orFault.frugal
        intro value
        apply Frugal.bind .setContent
        intro _
        exact Frugal.bind (reportTaken_frugal _) fun _ => Still.answer.frugal
      · split
        · apply Frugal.bind mismatch_still.frugal
          intro report
          apply Frugal.bind .setContent
          intro _
          apply Frugal.bind Still.orFault.frugal
          intro events
          exact Frugal.bind Still.log.frugal fun _ => Still.fail.frugal
        · exact Still.answer.frugal
  | unwrap named =>
      apply Frugal.found
      intro type _
      apply Frugal.found
      intro register _
      apply Frugal.bind .content
      intro union
      apply Frugal.bind Still.orFault.frugal
      intro value
      apply Frugal.bind .setContent
      intro _
      exact Frugal.bind (reportTaken_frugal _) fun _ => Still.answer.frugal
  | drop named =>
      apply Frugal.found
      intro register _
      apply Frugal.bind .content
      intro union
      apply Frugal.bind .setContent
      intro _
      apply Frugal.bind Still.orFault.frugal
      intro events
      exact Frugal.bind Still.log.frugal fun _ => Still.answer.frugal
  | move source target =>
      apply Frugal.found
      intro first _
      apply Frugal.found
      intro second _
      apply Frugal.bind .content
      intro union
      apply Frugal.bind .setContent
      intro _
      exact Frugal.bind (replaceContent_frugal union) fun _ => Still.answer.frugal
  | swap left right =>
      apply Frugal.found
      intro first _
      apply Frugal.found
      intro second _
      apply Frugal.bind .content?
      intro held
      apply Frugal.bind .content?
      intro held'
      apply Frugal.bind .setContent
      intro _
      exact Frugal.bind .setContent fun _ => Still.answer.frugal
  | clone source target => exact absurd rfl (apart source target)
  | install kind target label =>
      apply Frugal.found
      intro picked _
      apply Frugal.bind .table
      intro slots
      exact Frugal.bind .setTable fun _ => Still.answer.frugal
  | dispatch named =>
      apply Frugal.found
      intro register _
      apply Frugal.bind .content
      intro union
      apply Frugal.bind .table
      intro slots
      apply Frugal.bind Still.orFault.frugal
      intro ran
      apply Frugal.bind .setTable
      intro _
      exact Frugal.bind Still.log.frugal fun _ => Still.answer.frugal
  | freshTable | fillTable => exact Frugal.bind .setTable fun _ => Still.answer.frugal
  | unknown => exact Still.fail.frugal
  | _ => exact (perform_still rfl).frugal

/-- A typed union over the list has no identity, so its clone gets none. -/
theorem clone_nextId (untracked : Ty.allUntracked types = true) {state : State Choice}
    (typed : state.Typed types) (source target : Option Register) :
    (perform .plain types (.clone source target)).Leads state [] fun _ next _ =>
      next.nextId = state.nextId := by
  refine .bind (.operand rfl ?_)
  intro first _
  refine .bind (.operand rfl ?_)
  intro second _
  refine .bind (.content rfl ?_)
  intro union held
  refine .bind (.make ?_)
  intro copy was
  cases was
  obtain ⟨type, -, found, contentTyped⟩ := (typed.registers first union held).found
  have none := contentTyped.ids_untracked (Ty.untracked_of_typeAt? untracked found)
  have kept : (union.clone state.nextId).nextId = state.nextId := by
    rw [Choice.clone, none, List.length_nil, Nat.add_zero]
  refine .bind (replaceContent_leads ?_)
  exact .answer kept

/-- Over a list without tracked leaves no operation hands out an identity. -/
theorem perform_nextId (untracked : Ty.allUntracked types = true) {state : State Choice}
    (typed : state.Typed types) {op : Op Ty} {outcome : Outcome Choice Reply}
    (performed : perform .plain types op state = .ok outcome) : outcome.state.nextId = state.nextId := by
  by_cases clones : ∃ source target, op = .clone source target
  · obtain ⟨source, target, rfl⟩ := clones
    exact clone_nextId untracked typed source target outcome performed
  · have apart : ∀ source target, op ≠ .clone source target :=
      fun source target same => clones ⟨source, target, same⟩
    exact perform_frugal untracked apart state [] outcome performed

end Machine

end TaggedUnion
