import TaggedUnion.Machine.Run
import TaggedUnion.Proofs.Walk

/-!
# Steps of a run

How the steps of a program are put together from the outcomes of its operations, for any way to
keep unions: a step has an outcome exactly when its operation has one, and the steps of a program
split where the program does.
-/

set_option autoImplicit false

namespace TaggedUnion

/-- The reply to an operation, a failure included. -/
def Outcome.reply {Held : Type} (outcome : Outcome Held Reply) : Reply :=
  match outcome.answer with
  | .ok reply => reply
  | .error cause => .failed cause

namespace Machine

variable {Held Value : Type} {storage : Storage Held Value} {types : List Ty}

/-- What is seen of an operation with the outcome. -/
def entryOf (storage : Storage Held Value) (outcome : Outcome Held Reply) : Entry :=
  ⟨outcome.reply, tags storage outcome.state, outcome.events⟩

theorem step_ok_iff {op : Op Ty} {state next : State Held} {entry : Entry} :
    step storage types op state = .ok (entry, next) ↔
      ∃ outcome, perform storage types op state = .ok outcome ∧ entry = entryOf storage outcome ∧
        next = outcome.state := by
  constructor
  · intro stepped
    unfold step at stepped
    cases performed : perform storage types op state with
    | error fault =>
        rw [performed] at stepped
        cases stepped
    | ok outcome =>
        rw [performed] at stepped
        cases stepped
        exact ⟨outcome, rfl, rfl, rfl⟩
  · intro ⟨outcome, performed, seen, reached⟩
    subst seen reached
    simp only [step, performed, Fault.ok_bind]
    rfl

theorem steps_cons_ok_iff {op : Op Ty} {program : List (Op Ty)} {state last : State Held}
    {entries : List Entry} :
    steps storage types (op :: program) state = .ok (entries, last) ↔
      ∃ entry next rest, step storage types op state = .ok (entry, next) ∧
        steps storage types program next = .ok (rest, last) ∧ entries = entry :: rest := by
  constructor
  · intro ran
    unfold steps at ran
    cases stepped : step storage types op state with
    | error fault =>
        rw [stepped] at ran
        cases ran
    | ok seen =>
        rw [stepped] at ran
        dsimp only [Fault.ok_bind] at ran
        cases remaining : steps storage types program seen.2 with
        | error fault =>
            rw [remaining] at ran
            cases ran
        | ok rest =>
            rw [remaining] at ran
            cases ran
            exact ⟨seen.1, seen.2, rest.1, rfl, remaining, rfl⟩
  · intro ⟨entry, next, rest, stepped, remaining, same⟩
    subst same
    simp only [steps, stepped, remaining, Fault.ok_bind, Fault.pure_eq_ok]

/-- The steps of a program are those of its first part and then those of its second part. -/
theorem steps_append_ok_iff {earlier later : List (Op Ty)} {state last : State Held}
    {entries : List Entry} :
    steps storage types (earlier ++ later) state = .ok (entries, last) ↔
      ∃ before middle after, steps storage types earlier state = .ok (before, middle) ∧
        steps storage types later middle = .ok (after, last) ∧ entries = before ++ after := by
  induction earlier generalizing state entries with
  | nil =>
      constructor
      · exact fun ran => ⟨[], state, entries, rfl, ran, rfl⟩
      · rintro ⟨before, middle, after, first, rest, rfl⟩
        cases first
        exact rest
  | cons op earlier ih =>
      rw [List.cons_append, steps_cons_ok_iff]
      constructor
      · rintro ⟨entry, next, rest, stepped, remaining, rfl⟩
        obtain ⟨before, middle, after, first, second, rfl⟩ := ih.mp remaining
        exact ⟨entry :: before, middle, after,
          steps_cons_ok_iff.mpr ⟨entry, next, before, stepped, first, rfl⟩, second, rfl⟩
      · rintro ⟨before, middle, after, first, second, rfl⟩
        obtain ⟨entry, next, rest, stepped, remaining, rfl⟩ := steps_cons_ok_iff.mp first
        exact ⟨entry, next, rest ++ after, stepped,
          ih.mpr ⟨rest, middle, after, remaining, second, rfl⟩, rfl⟩

theorem steps_length {program : List (Op Ty)} {state last : State Held} {entries : List Entry}
    (ran : steps storage types program state = .ok (entries, last)) :
    entries.length = program.length := by
  induction program generalizing state entries with
  | nil =>
      cases ran
      rfl
  | cons op program ih =>
      obtain ⟨entry, next, rest, -, remaining, rfl⟩ := steps_cons_ok_iff.mp ran
      rw [List.length_cons, List.length_cons, ih remaining]

/-- The transcript of a run whose steps and last drops are known. -/
theorem run_of_steps {program : List (Op Ty)} {entries : List Entry} {state : State Held}
    {final : List Event} (ran : steps storage types program (State.initial types) = .ok (entries, state))
    (dropped : dropContents storage types state.registers.toList = .ok final) :
    run storage types program = .ok ⟨entries, final⟩ := by
  simp only [run, ran, dropped, Fault.ok_bind, Fault.pure_eq_ok]

theorem steps_of_run {program : List (Op Ty)} {transcript : Transcript}
    (ran : run storage types program = .ok transcript) :
    ∃ state, steps storage types program (State.initial types) = .ok (transcript.entries, state) ∧
      dropContents storage types state.registers.toList = .ok transcript.final := by
  unfold run at ran
  cases stepped : steps storage types program (State.initial types) with
  | error fault =>
      rw [stepped] at ran
      cases ran
  | ok reached =>
      rw [stepped] at ran
      dsimp only [Fault.ok_bind] at ran
      cases dropped : dropContents storage types reached.2.registers.toList with
      | error fault =>
          rw [dropped] at ran
          cases ran
      | ok final =>
          rw [dropped] at ran
          cases ran
          exact ⟨reached.2, rfl, dropped⟩

/-- A transcript has an entry for each operation of the program. -/
theorem run_length {program : List (Op Ty)} {transcript : Transcript}
    (ran : run storage types program = .ok transcript) :
    transcript.entries.length = program.length := by
  obtain ⟨_, stepped, -⟩ := steps_of_run ran
  exact steps_length stepped

end Machine

end TaggedUnion
