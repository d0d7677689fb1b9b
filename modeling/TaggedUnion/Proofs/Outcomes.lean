import TaggedUnion.Proofs.Registers

/-!
# Outcomes of procedures

A procedure leads from a state to outcomes that fulfil a condition. What a whole procedure leads to
follows from what its parts lead to, one after another, with the log growing on the way.
-/

set_option autoImplicit false

namespace TaggedUnion

namespace Procedure

variable {Held Answer Next : Type}

/-- A part that answers and logs nothing leaves all to the rest. -/
theorem bind_of_quiet {state next : State Held} {first : Procedure Held Answer} {value : Answer}
    (ran : first state = .ok ⟨.ok value, next, []⟩) (rest : Answer → Procedure Held Next) :
    (first >>= rest) state = rest value next := by
  rw [bind_eq_andThen, andThen, ran]
  dsimp only
  cases rest value next <;> rfl

theorem content_occupied {state : State Held} {register : Register} {union : Held}
    (held : state.content register = some union) : content register state = .ok ⟨.ok union, state, []⟩ := by
  have read : content? register state = .ok ⟨.ok (some union), state, []⟩ := by rw [← held]; rfl
  rw [content, bind_of_quiet read]
  rfl

/-- Whatever outcome the procedure has from the state fulfils the condition, with its events put
after those of the log. -/
def Leads (procedure : Procedure Held Answer) (state : State Held) (log : List Event)
    (condition : Except Failure Answer → State Held → List Event → Prop) : Prop :=
  ∀ outcome, procedure state = .ok outcome →
    condition outcome.answer outcome.state (log ++ outcome.events)

namespace Leads

variable {state : State Held} {past : List Event}
  {condition : Except Failure Answer → State Held → List Event → Prop}

theorem bind {first : Procedure Held Answer} {next : Answer → Procedure Held Next}
    {condition : Except Failure Next → State Held → List Event → Prop}
    (leads : first.Leads state past fun answer middle events =>
      match answer with
      | .error failure => condition (.error failure) middle events
      | .ok value => (next value).Leads middle events condition) :
    (first >>= next).Leads state past condition := by
  intro outcome ran
  simp only [bind_eq_andThen, andThen] at ran
  split at ran
  · cases ran
  · rename_i failure middle events failed
    cases ran
    exact leads _ failed
  · rename_i value middle events answered
    split at ran
    · cases ran
    · rename_i rest followed
      cases ran
      have after := leads _ answered rest followed
      rwa [List.append_assoc] at after

theorem answer {value : Answer} (fulfilled : condition (.ok value) state past) :
    (pure value : Procedure Held Answer).Leads state past condition := by
  intro outcome ran
  cases ran
  rwa [List.append_nil]

theorem fail {failure : Failure} (fulfilled : condition (.error failure) state past) :
    (Procedure.fail failure : Procedure Held Answer).Leads state past condition := by
  intro outcome ran
  cases ran
  rwa [List.append_nil]

theorem orFail {failure : Failure} {value : Option Answer}
    (missing : condition (.error failure) state past)
    (present : ∀ found, value = some found → condition (.ok found) state past) :
    (Procedure.orFail failure value : Procedure Held Answer).Leads state past condition := by
  cases value with
  | none => exact fail missing
  | some found => exact answer (present found rfl)

theorem operand {value : Option Answer} (missing : condition (.error .badInput) state past)
    (present : ∀ found, value = some found → condition (.ok found) state past) :
    (Procedure.operand value : Procedure Held Answer).Leads state past condition :=
  orFail missing present

theorem orFault {result : Except Fault Answer}
    (fulfilled : ∀ value, result = .ok value → condition (.ok value) state past) :
    (Procedure.orFault result : Procedure Held Answer).Leads state past condition := by
  intro outcome ran
  cases result with
  | error fault => cases ran
  | ok value =>
      cases ran
      rw [List.append_nil]
      exact fulfilled value rfl

theorem make {making : Nat → Except Fault (Made Answer)}
    (fulfilled : ∀ made, making state.nextId = .ok made →
      condition (.ok made.value) { state with nextId := made.nextId } (past ++ made.events)) :
    (Procedure.make making).Leads state past condition := by
  intro outcome ran
  unfold Procedure.make at ran
  split at ran
  · cases ran
  · rename_i made was
    cases ran
    exact fulfilled made was

theorem log {events : List Event} {condition : Except Failure Unit → State Held → List Event → Prop}
    (fulfilled : condition (.ok ()) state (past ++ events)) :
    (Procedure.log events).Leads state past condition := by
  intro outcome ran
  cases ran
  exact fulfilled

/-- A part that cannot fail and logs nothing. -/
theorem quiet {procedure : Procedure Held Answer} {value : Answer} {next : State Held}
    (ran : procedure state = .ok ⟨.ok value, next, []⟩) (fulfilled : condition (.ok value) next past) :
    procedure.Leads state past condition := by
  intro outcome other
  cases ran.symm.trans other
  rwa [List.append_nil]

theorem content? {condition : Except Failure (Option Held) → State Held → List Event → Prop}
    {register : Register} (fulfilled : condition (.ok (state.content register)) state past) :
    (Procedure.content? register).Leads state past condition := quiet rfl fulfilled

theorem setContent {condition : Except Failure Unit → State Held → List Event → Prop}
    {register : Register} {held : Option Held}
    (fulfilled : condition (.ok ()) (state.put register held) past) :
    (Procedure.setContent register held).Leads state past condition := quiet rfl fulfilled

theorem content {condition : Except Failure Held → State Held → List Event → Prop}
    {register : Register} (empty : condition (.error .empty) state past)
    (present : ∀ union, state.content register = some union → condition (.ok union) state past) :
    (Procedure.content register).Leads state past condition :=
  bind (content? (orFail empty present))

theorem vacant {condition : Except Failure Held → State Held → List Event → Prop}
    {register : Register} (empty : state.content register = none)
    (fulfilled : condition (.error .empty) state past) :
    (Procedure.content register).Leads state past condition := by
  apply bind
  apply content?
  rw [empty]
  exact fail fulfilled

theorem occupied {condition : Except Failure Held → State Held → List Event → Prop}
    {register : Register} {union : Held} (held : state.content register = some union)
    (fulfilled : condition (.ok union) state past) :
    (Procedure.content register).Leads state past condition := by
  apply bind
  apply content?
  rw [held]
  exact answer fulfilled

end Leads

end Procedure

end TaggedUnion
