import TaggedUnion.Proofs.Outcomes
import TaggedUnion.Proofs.Simulation

/-!
# Tagged storage refines plain unions

A machine that keeps unions as a tag and a chain of cells and a machine that keeps them as an index
and a plain value go through corresponding states: the first holds the stored form of what the
second holds, and what the second holds is typed. Neither comes to a fault, and their transcripts
are equal. The two run over one list, in which each alternative is at its own place.
-/

set_option autoImplicit false

namespace TaggedUnion

open Registry

/-- Whatever outcome the procedure has from the state after the log, it is seen as the reply, the
next state and the whole log. -/
def Procedure.Shows {Held : Type} (procedure : Procedure Held Reply) (state : State Held)
    (past : List Event) (reply : Reply) (next : State Held) (events : List Event) : Prop :=
  procedure.Leads state past fun answer reached log =>
    (Outcome.mk answer reached log).reply = reply ∧ reached = next ∧ log = events

namespace Machine

variable {types : List Ty}

/-- A step from the stored form of a typed state is seen as the step from the state itself, and
comes to the stored form of a typed state again. -/
theorem step_stored {state : State Choice} (typed : state.Typed types) (op : Op Ty) :
    ∃ outcome, perform .plain types op state = .ok outcome ∧
      step .tagged types op state.stored =
        .ok (entryOf .plain outcome, outcome.state.stored) ∧
      step .plain types op state = .ok (entryOf .plain outcome, outcome.state) ∧
      outcome.state.Typed types ∧ ∀ cause, outcome.reply = .failed cause → op.CanFail types cause := by
  have moved : State.Moved types types id state.stored state := State.Moved.id_iff.mpr ⟨rfl, typed⟩
  obtain ⟨outcome, next, performed, tagged, plain, movedNext, allowed⟩ :=
    step_moved (.refl types) moved (op.alike_id types)
  obtain ⟨rfl, nextTyped⟩ := State.Moved.id_iff.mp movedNext
  rw [Entry.reindex_id] at tagged
  exact ⟨outcome, performed, tagged, plain, nextTyped, allowed⟩

theorem tags_stored (state : State Choice) : tags .tagged state.stored = tags .plain state := by
  have each : Option.map Tagged.tag ∘ Option.map Choice.stored =
      Option.map fun union => tagOf union.index :=
    funext fun held => by cases held <;> rfl
  simp only [tags, State.stored, Vector.toList_map, List.map_map, Storage.tagged, each]
  rfl

/-- A step from the stored form of a typed state is seen as what its operation shows on the plain
unions. -/
theorem step_shows {state next : State Choice} (typed : state.Typed types) {op : Op Ty} {reply : Reply}
    {events : List Event}
    (shows : (perform .plain types op).Shows state [] reply next events) :
    step .tagged types op state.stored =
      .ok (⟨reply, tags .tagged next.stored, events⟩, next.stored) := by
  obtain ⟨outcome, performed, stepped, -⟩ := step_stored typed op
  obtain ⟨replied, rfl, rfl⟩ := shows outcome performed
  rw [stepped, entryOf, tags_stored, ← replied]
  rfl

theorem steps_stored {state : State Choice} (typed : state.Typed types) (program : List (Op Ty)) :
    ∃ entries next, steps .tagged types program state.stored = .ok (entries, next.stored) ∧
      steps .plain types program state = .ok (entries, next) ∧ next.Typed types := by
  have moved : State.Moved types types id state.stored state := State.Moved.id_iff.mpr ⟨rfl, typed⟩
  obtain ⟨entries, _, next, tagged, plain, movedNext⟩ :=
    steps_moved (.refl types) moved fun op (_ : op ∈ program) => op.alike_id types
  obtain ⟨rfl, nextTyped⟩ := State.Moved.id_iff.mp movedNext
  rw [Entry.zipWith_reindex_id (steps_length plain)] at tagged
  exact ⟨entries, next, tagged, plain, nextTyped⟩

theorem steps_initial (types : List Ty) (program : List (Op Ty)) :
    ∃ entries state,
      steps .tagged types program (State.initial types) = .ok (entries, State.stored state) ∧
        steps .plain types program (State.initial types) = .ok (entries, state) ∧
          state.Typed types := by
  rw [← State.initial_stored]
  exact steps_stored (State.initial_typed types) program

theorem dropContents_stored {contents : List (Option Choice)}
    (typed : ∀ union, some union ∈ contents → union.Typed types) :
    ∃ events, dropContents .tagged types (contents.map (Option.map Choice.stored)) = .ok events ∧
      dropContents .plain types contents = .ok events :=
  dropContents_moved (.refl types) typed

/-- A run on plain unions is that on tagged storage. -/
theorem run_tagged_of_plain {program : List (Op Ty)} {transcript : Transcript}
    (ran : run .plain types program = .ok transcript) : run .tagged types program = .ok transcript := by
  obtain ⟨_, tagged, plain⟩ := run_moved (.refl types) fun op (_ : op ∈ program) => op.alike_id types
  cases ran.symm.trans plain
  rwa [Transcript.reindex_id (run_length ran)] at tagged

/-- A program for whose operations the lists are alike has a run on the one list, and on the other
list the same run with places for indices. -/
theorem run_reindexed {types' : List Ty} {place : Nat → Nat} (moving : Reindexing types' types place)
    {program : List (Op Ty)} (alike : ∀ op ∈ program, op.Alike types' types place) :
    ∃ transcript, run .tagged types program = .ok transcript ∧
      run .tagged types' program = .ok (transcript.reindex place program) := by
  obtain ⟨transcript, moved, ran⟩ := run_moved moving alike
  exact ⟨transcript, run_tagged_of_plain ran, moved⟩

theorem run_ends (types : List Ty) (program : List (Op Ty)) :
    ∃ transcript, run .tagged types program = .ok transcript := by
  obtain ⟨transcript, ran, -⟩ := run_reindexed (.refl types) fun op _ => op.alike_id types
  exact ⟨transcript, ran⟩

/-- Every run on tagged storage ends, and with the transcript of the run on plain unions: a union
as an index and a value, on which each operation is defined without chain and without tag. -/
theorem run_tagged_eq_plain (types : List Ty) (program : List (Op Ty)) :
    ∃ transcript, run .tagged types program = .ok transcript ∧
      run .plain types program = .ok transcript := by
  obtain ⟨entries, state, tagged, plain, typed⟩ := steps_initial types program
  obtain ⟨final, taggedDrops, plainDrops⟩ := dropContents_stored typed.contents
  rw [← Vector.toList_map] at taggedDrops
  exact ⟨⟨entries, final⟩, run_of_steps tagged taggedDrops, run_of_steps plain plainDrops⟩

end Machine

end TaggedUnion
