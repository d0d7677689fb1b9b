import Mathlib
import TaggedUnion.Machine.Run

/-!
# Procedures on two machines

Two machines that keep their unions differently run the same procedures. A coupling says which of
their states and failures go together. Procedures correspond if from coupled states both have an
outcome, with the same events, in coupled states, and with answers that go together. The
correspondence of a whole procedure follows from that of its parts, and the correspondence of the
operations carries over to runs of programs.
-/

set_option autoImplicit false

namespace TaggedUnion

/-- Which states and which failures of two machines go together. -/
structure Coupling (Held Held' : Type) where
  states : State Held → State Held' → Prop
  failures : Failure → Failure → Prop

variable {Held Held' Answer Answer' Next Next' : Type}

/-- The two answers go together, or the two failures. -/
inductive Coupling.Alike (coupling : Coupling Held Held') (answers : Answer → Answer' → Prop) :
    Except Failure Answer → Except Failure Answer' → Prop where
  | answered {answer : Answer} {answer' : Answer'} :
      answers answer answer' → Alike coupling answers (.ok answer) (.ok answer')
  | failed {cause cause' : Failure} :
      coupling.failures cause cause' → Alike coupling answers (.error cause) (.error cause')

namespace Procedure

/-- From coupled states both procedures have outcomes that go together. -/
def Corresponds (coupling : Coupling Held Held') (answers : Answer → Answer' → Prop)
    (left : Procedure Held Answer) (right : Procedure Held' Answer') : Prop :=
  ∀ state state', coupling.states state state' →
    ∃ answer answer' next next' events,
      left state = .ok ⟨answer, next, events⟩ ∧ right state' = .ok ⟨answer', next', events⟩ ∧
        coupling.states next next' ∧ coupling.Alike answers answer answer'

namespace Corresponds

variable {coupling : Coupling Held Held'} {answers : Answer → Answer' → Prop}

theorem bind {left : Procedure Held Answer} {right : Procedure Held' Answer'}
    {nextLeft : Answer → Procedure Held Next} {nextRight : Answer' → Procedure Held' Next'}
    {results : Next → Next' → Prop} (first : Corresponds coupling answers left right)
    (rest : ∀ answer answer', answers answer answer' →
      Corresponds coupling results (nextLeft answer) (nextRight answer')) :
    Corresponds coupling results (left >>= nextLeft) (right >>= nextRight) := by
  intro state state' together
  obtain ⟨answer, answer', next, next', events, ranLeft, ranRight, coupled, alike⟩ :=
    first state state' together
  simp only [bind_eq_andThen, andThen, ranLeft, ranRight]
  cases alike with
  | failed causes => exact ⟨_, _, next, next', events, rfl, rfl, coupled, .failed causes⟩
  | @answered value value' values =>
      obtain ⟨result, result', last, last', more, thenLeft, thenRight, finish, same⟩ :=
        rest value value' values next next' coupled
      simp only [thenLeft, thenRight]
      exact ⟨result, result', last, last', events ++ more, rfl, rfl, finish, same⟩

/-- The left answer is a form of the right one, of which something is known. -/
theorem next {left : Procedure Held Answer} {right : Procedure Held' Answer'}
    {nextLeft : Answer → Procedure Held Next} {nextRight : Answer' → Procedure Held' Next'}
    {results : Next → Next' → Prop} {form : Answer' → Answer} {known : Answer' → Prop}
    (first : Corresponds coupling (fun value value' => value = form value' ∧ known value') left right)
    (rest : ∀ value, known value →
      Corresponds coupling results (nextLeft (form value)) (nextRight value)) :
    Corresponds coupling results (left >>= nextLeft) (right >>= nextRight) := by
  apply bind first
  intro value value' ⟨formed, fact⟩
  exact formed ▸ rest value' fact

/-- Equal answers. -/
theorem same {left : Procedure Held Answer} {right : Procedure Held' Answer}
    {nextLeft : Answer → Procedure Held Next} {nextRight : Answer → Procedure Held' Next'}
    {results : Next → Next' → Prop} (first : Corresponds coupling Eq left right)
    (rest : ∀ value, Corresponds coupling results (nextLeft value) (nextRight value)) :
    Corresponds coupling results (left >>= nextLeft) (right >>= nextRight) := by
  apply bind first
  intro value value' equal
  exact equal ▸ rest value

/-- Answers that say nothing. -/
theorem before {left : Procedure Held Unit} {right : Procedure Held' Unit}
    {nextLeft : Unit → Procedure Held Next} {nextRight : Unit → Procedure Held' Next'}
    {results : Next → Next' → Prop} (first : Corresponds coupling Eq left right)
    (rest : Corresponds coupling results (nextLeft ()) (nextRight ())) :
    Corresponds coupling results (left >>= nextLeft) (right >>= nextRight) :=
  same first fun _ => rest

/-- Two results of which neither is a fault. -/
theorem orFault {result : Except Fault Answer} {result' : Except Fault Answer'} {value : Answer}
    {value' : Answer'} {nextLeft : Answer → Procedure Held Next}
    {nextRight : Answer' → Procedure Held' Next'} {results : Next → Next' → Prop}
    (left : result = .ok value) (right : result' = .ok value')
    (rest : Corresponds coupling results (nextLeft value) (nextRight value')) :
    Corresponds coupling results (Procedure.orFault result >>= nextLeft)
      (Procedure.orFault result' >>= nextRight) := by
  subst left right
  have skipLeft : (Procedure.orFault (.ok value) : Procedure Held Answer) >>= nextLeft =
    nextLeft value := answer_andThen value nextLeft
  have skipRight : (Procedure.orFault (.ok value') : Procedure Held' Answer') >>= nextRight =
    nextRight value' := answer_andThen value' nextRight
  rw [skipLeft, skipRight]
  exact rest

theorem answer {value : Answer} {value' : Answer'} (together : answers value value') :
    Corresponds coupling answers (pure value) (pure value') :=
  fun state state' coupled => ⟨_, _, state, state', [], rfl, rfl, coupled, .answered together⟩

theorem fail {cause cause' : Failure} (together : coupling.failures cause cause') :
    Corresponds coupling answers (Procedure.fail cause) (Procedure.fail cause') :=
  fun state state' coupled => ⟨_, _, state, state', [], rfl, rfl, coupled, .failed together⟩

theorem log (events : List Event) :
    Corresponds coupling Eq (Procedure.log events) (Procedure.log events) :=
  fun state state' coupled => ⟨_, _, state, state', events, rfl, rfl, coupled, .answered rfl⟩

/-- Both have a value, the left one a form of the right one, or neither has. -/
theorem orFail {cause cause' : Failure} (agreed : coupling.failures cause cause')
    {value : Option Answer} {value' : Option Answer'} {form : Answer' → Answer}
    (alike : value = value'.map form) :
    Corresponds coupling (fun left right => left = form right ∧ value' = some right)
      (Procedure.orFail cause value) (Procedure.orFail cause' value') := by
  subst alike
  cases value' with
  | none => exact fail agreed
  | some value' => exact answer ⟨rfl, rfl⟩

theorem weaken {weaker : Answer → Answer' → Prop} {left : Procedure Held Answer}
    {right : Procedure Held' Answer'} (corresponds : Corresponds coupling answers left right)
    (implied : ∀ answer answer', answers answer answer' → weaker answer answer') :
    Corresponds coupling weaker left right := by
  intro state state' together
  obtain ⟨answer, answer', next, next', events, ranLeft, ranRight, coupled, alike⟩ :=
    corresponds state state' together
  refine ⟨answer, answer', next, next', events, ranLeft, ranRight, coupled, ?_⟩
  cases alike with
  | answered values => exact .answered (implied _ _ values)
  | failed causes => exact .failed causes

end Corresponds

end Procedure

end TaggedUnion
