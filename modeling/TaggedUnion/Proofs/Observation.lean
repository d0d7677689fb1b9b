import TaggedUnion.Proofs.Refinement

/-!
# Observation without interference

Some operations only look at the unions. Whether they answer, report a mismatch or panic, they
leave the whole state as it is, so that a run shows the same with and without them: the same
replies, tags and events of every other operation, identities included, and the same last drops.
-/

set_option autoImplicit false

namespace TaggedUnion

/-- The operation only looks at unions or at the list of alternatives. -/
def Op.looks {T : Type} : Op T → Bool
  | .test _ _ | .read _ _ _ | .locate _ | .typeAt _ | .index _ | .typeName _ | .arity
  | .nameOfTag _ | .compare _ _ _ | .hash _ | .render _ _ _ => true
  | _ => false

/-- The items at the positions that are kept. -/
def keepWhere {Item : Type} (kept : Nat → Bool) : List Item → List Item
  | [] => []
  | item :: items =>
    if kept 0 then item :: keepWhere (fun position => kept (position + 1)) items
    else keepWhere (fun position => kept (position + 1)) items

namespace Procedure

variable {Held Answer Next : Type}

/-- Whatever outcome the procedure has, a failure included, the state is as it was. -/
def Still (procedure : Procedure Held Answer) : Prop :=
  ∀ state past, procedure.Leads state past fun _ next _ => next = state

namespace Still

theorem bind {first : Procedure Held Answer} {next : Answer → Procedure Held Next}
    (still : first.Still) (rest : ∀ value, (next value).Still) : (first >>= next).Still := by
  intro state past
  apply Leads.bind
  intro outcome ran
  have same := still state past outcome ran
  cases outcome.answer with
  | error failure => exact same
  | ok value =>
      rw [same]
      exact rest value state _

theorem answer {value : Answer} : (pure value : Procedure Held Answer).Still := fun _ _ => .answer rfl

theorem fail {failure : Failure} : (Procedure.fail failure : Procedure Held Answer).Still :=
  fun _ _ => .fail rfl

theorem log {events : List Event} : (Procedure.log events : Procedure Held Unit).Still :=
  fun _ _ => .log rfl

theorem orFault {result : Except Fault Answer} : (Procedure.orFault result : Procedure Held Answer).Still :=
  fun _ _ => .orFault fun _ _ => rfl

theorem orFail {failure : Failure} {value : Option Answer} :
    (Procedure.orFail failure value : Procedure Held Answer).Still :=
  fun _ _ => .orFail rfl fun _ _ => rfl

/-- Looking at what a register holds, if the register is named and holds something. -/
theorem held {register : Option Register} {next : Held → Procedure Held Next}
    (rest : ∀ union, (next union).Still) :
    (operand register >>= fun register => content register >>= next).Still := by
  apply bind orFail
  intro register
  have content : (Procedure.content register : Procedure Held Held).Still :=
    fun _ _ => .content rfl fun _ _ => rfl
  exact bind content rest

end Still

end Procedure

namespace Machine

open Procedure

variable {Held Value : Type} {storage : Storage Held Value} {types : List Ty}

theorem offered_still {condition : Bool} : (offered condition : Procedure Held Unit).Still := by
  cases condition with
  | true => exact .answer
  | false => exact .fail

theorem mismatch_still {type : Ty} {index : Nat} {union : Held} :
    (mismatch storage types type index union).Still := by
  unfold mismatch
  split
  · exact .answer
  · exact .fail

theorem missed_still {demand : Demand} {type : Ty} {index : Nat} {union : Held} :
    (missed storage types demand type index union).Still := by
  cases demand with
  | optional => exact .answer
  | checked =>
      apply Still.bind mismatch_still
      intro report
      exact .fail
  | required =>
      apply Still.bind mismatch_still
      intro report
      exact .fail

theorem perform_still {op : Op Ty} (looks : op.looks = true) : (perform storage types op).Still := by
  cases op with
  | test target register =>
      apply Still.bind .orFail
      intro picked
      apply Still.held
      intro union
      exact .answer
  | read demand target register =>
      apply Still.bind .orFail
      intro picked
      apply Still.held
      intro union
      split
      · apply Still.bind .orFault
        intro value
        apply Still.bind .orFault
        intro viewed
        exact .answer
      · exact missed_still
  | locate target =>
      apply Still.bind .orFail
      intro index
      exact .answer
  | typeAt index =>
      apply Still.bind .orFail
      intro type
      exact .answer
  | index register =>
      apply Still.held
      intro union
      exact .answer
  | typeName register =>
      apply Still.held
      intro union
      split
      · exact .answer
      · exact .fail
  | arity => exact .answer
  | nameOfTag tag =>
      apply Still.bind .orFail
      intro tag
      split
      · exact .answer
      · exact .fail
  | compare negated left right =>
      apply Still.held
      intro first
      apply Still.held
      intro second
      apply Still.bind .orFault
      intro verdict
      apply Still.bind .log
      intro _
      exact .answer
  | hash register =>
      apply Still.bind offered_still
      intro _
      apply Still.held
      intro union
      apply Still.bind .orFault
      intro hashed
      apply Still.bind .log
      intro _
      exact .answer
  | render audience register style =>
      apply Still.bind offered_still
      intro _
      apply Still.held
      intro union
      apply Still.bind .orFail
      intro style
      apply Still.bind .orFault
      intro text
      exact .answer
  | _ => cases looks

theorem step_still {op : Op Ty} (looks : op.looks = true) {state next : State Held} {entry : Entry}
    (stepped : step storage types op state = .ok (entry, next)) : next = state := by
  obtain ⟨outcome, performed, -, rfl⟩ := step_ok_iff.mp stepped
  exact perform_still looks state [] outcome performed

/-- The operations of the program that are not kept only look. -/
def LooksUnless (kept : Nat → Bool) (program : List (Op Ty)) : Prop :=
  ∀ position op, program[position]? = some op → kept position = false → op.looks = true

theorem LooksUnless.tail {kept : Nat → Bool} {op : Op Ty} {program : List (Op Ty)}
    (looks : LooksUnless kept (op :: program)) :
    LooksUnless (fun position => kept (position + 1)) program :=
  fun position other found => looks (position + 1) other found

theorem steps_keepWhere {kept : Nat → Bool} {program : List (Op Ty)} {state last : State Held}
    {entries : List Entry} (looks : LooksUnless kept program)
    (ran : steps storage types program state = .ok (entries, last)) :
    steps storage types (keepWhere kept program) state = .ok (keepWhere kept entries, last) := by
  induction program generalizing kept state entries with
  | nil =>
      cases ran
      rfl
  | cons op program ih =>
      obtain ⟨entry, next, rest, stepped, remaining, rfl⟩ := steps_cons_ok_iff.mp ran
      have later := ih looks.tail remaining
      unfold keepWhere
      cases here : kept 0 with
      | true =>
          apply steps_cons_ok_iff.mpr
          exact ⟨entry, next, _, stepped, later, rfl⟩
      | false =>
          -- The operation left the state as it was, so the rest starts where the operation did.
          have same := step_still (looks 0 op rfl here) stepped
          rw [same] at later
          exact later

theorem run_keepWhere_of_run {kept : Nat → Bool} {program : List (Op Ty)} {transcript : Transcript}
    (looks : LooksUnless kept program) (ran : run storage types program = .ok transcript) :
    run storage types (keepWhere kept program) =
      .ok ⟨keepWhere kept transcript.entries, transcript.final⟩ := by
  obtain ⟨state, stepped, dropped⟩ := steps_of_run ran
  exact run_of_steps (steps_keepWhere looks stepped) dropped

/-- Taking any operations that only look out of a program, and putting any into it, changes nothing
that is seen of the others. -/
theorem observation_never_interferes (types : List Ty) (program : List (Op Ty)) :
    ∃ transcript, run .tagged types program = .ok transcript ∧
      (∀ kept, LooksUnless kept program →
        run .tagged types (keepWhere kept program) =
          .ok ⟨keepWhere kept transcript.entries, transcript.final⟩) ∧
      ∀ kept longer, LooksUnless kept longer → keepWhere kept longer = program →
        ∃ entries, run .tagged types longer = .ok ⟨entries, transcript.final⟩ ∧
          keepWhere kept entries = transcript.entries := by
  obtain ⟨transcript, ran⟩ := run_ends types program
  refine ⟨transcript, ran, ?_, ?_⟩
  · intro kept looks
    exact run_keepWhere_of_run looks ran
  · intro kept longer looks same
    obtain ⟨observed, observedRan⟩ := run_ends types longer
    have thinned := run_keepWhere_of_run looks observedRan
    rw [same, ran] at thinned
    cases thinned
    exact ⟨observed.entries, observedRan, rfl⟩

end Machine

end TaggedUnion
