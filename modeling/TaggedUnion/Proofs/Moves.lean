import TaggedUnion.Proofs.InPlace

/-!
# Moving values into unions and out of them

To build a union is to move a value in, and to consume one is to move its value out. The two are
inverse to each other: nothing is cloned and nothing of the value is dropped on the way, whichever
operation moves it in and whichever moves it out. Asking a union in between for other alternatives
gives it back as it was.
-/

set_option autoImplicit false

namespace TaggedUnion

open Registry

/-- A way to build a union around a value. -/
inductive Builder where
  | selected (target : Selector Ty)
  /-- Of a list with a single alternative. -/
  | only

/-- A way to take the value out of a union. -/
inductive Taker where
  | selected (required : Bool) (target : Selector Ty)
  /-- Of a list with a single alternative. The tag is not looked at. -/
  | only

namespace Builder

def op (register : Register) (value : Literal) : Builder → Op Ty
  | selected target => .construct target (some register) (some value)
  | only => .wrap (some register) (some value)

/-- The alternative that is built. -/
def pick? (types : List Ty) : Builder → Option (Ty × Nat)
  | selected target => target.build? types
  | only => (onlyType? types).map (·, 0)

theorem pick?_found {types : List Ty} {builder : Builder} {type : Ty} {index : Nat}
    (picked : builder.pick? types = some (type, index)) :
    types.length ≤ maxArity ∧ typeAt? types index = some type := by
  cases builder with
  | selected target => exact Selector.build?_found picked
  | only =>
      obtain ⟨only, single, same⟩ := Option.map_eq_some_iff.mp picked
      cases same
      cases onlyType?_found single
      exact ⟨Nat.one_le_ofNat, rfl⟩

end Builder

namespace Taker

def op (register : Register) : Taker → Op Ty
  | selected required target => .take required target (some register)
  | only => .unwrap (some register)

/-- The alternative that is taken out. -/
def pick? (types : List Ty) : Taker → Option (Ty × Nat)
  | selected _ target => target.find? types
  | only => (onlyType? types).map (·, 0)

def reply (value : Datum) : Taker → Reply
  | selected required _ => if required then .value value else .ok value
  | only => .value value

end Taker

namespace Machine

open Procedure

section

variable {Held Value : Type} (storage : Storage Held Value) (types : List Ty)

/-- Moves a value into a register, as the alternative at the index. What was there is dropped. -/
def moveIn (index : Nat) (register : Register) (value : Value) : Procedure Held Unit :=
  replaceContent storage types register (storage.place index value)

/-- Moves the value at the index out of the union in a register, and leaves the register empty. -/
def moveOut (index : Nat) (register : Register) : Procedure Held Value := do
  let union ← content register
  let value ← orFault (storage.get index union)
  setContent register none
  return value

/-- Asks the union in a register for alternatives, one after another, without requiring them. -/
def inquiries (register : Register) (targets : List (Selector Ty)) : List (Op Ty) :=
  targets.map fun target => .take false target (some register)

/-- None of the selectors picks the alternative at the index, and each picks one. -/
def PickOthers (targets : List (Selector Ty)) (index : Nat) : Prop :=
  ∀ target ∈ targets, ∃ type other, target.find? types = some (type, other) ∧ other ≠ index

end

section

variable {Held Value : Type} {storage : Storage Held Value} {types : List Ty} {register : Register}
  {type : Ty} {index : Nat}

/-- Every way to build a union reads a value and moves it in. -/
theorem perform_builder {builder : Builder} (picked : builder.pick? types = some (type, index))
    (literal : Literal) :
    perform storage types (builder.op register literal) = (do
      let value ← readValue type (some literal)
      moveIn storage types index register (storage.hold value)
      return .done) := by
  cases builder with
  | selected target =>
      have found : target.build? types = some (type, index) := picked
      rw [Builder.op, perform, found]
      exact (answer_andThen (type, index) _).trans (answer_andThen register _)
  | only =>
      obtain ⟨only, single, same⟩ := Option.map_eq_some_iff.mp picked
      cases same
      rw [Builder.op, perform, single]
      exact (answer_andThen type _).trans (answer_andThen register _)

theorem moveOut_occupied {state : State Held} {union : Held} {value : Value}
    (held : state.content register = some union) (got : storage.get index union = .ok value) :
    moveOut storage index register state = .ok ⟨.ok value, state.put register none, []⟩ := by
  rw [moveOut, bind_of_quiet (content_occupied held), got, bind_of_quiet rfl]
  rfl

/-- Every way to take a value out of a union moves it out, and then reports and drops it. -/
theorem perform_taker {taker : Taker} {state : State Held} {union : Held} {value : Value}
    (picked : taker.pick? types = some (type, index)) (held : state.content register = some union)
    (active : storage.tag union = tagOf index) (got : storage.get index union = .ok value) :
    perform storage types (taker.op register) state = (do
      let value ← moveOut storage index register
      let reported ← reportTaken storage type value
      return taker.reply reported : Procedure Held Reply) state := by
  rw [bind_of_quiet (moveOut_occupied held got)]
  cases taker with
  | selected required target =>
      have found : target.find? types = some (type, index) := picked
      rw [Taker.op, perform, found]
      refine (bind_of_quiet rfl _).trans ((bind_of_quiet rfl _).trans
        ((bind_of_quiet (content_occupied held) _).trans ?_))
      dsimp only
      rw [if_pos active, got]
      exact (bind_of_quiet rfl _).trans (bind_of_quiet rfl _)
  | only =>
      obtain ⟨only, single, same⟩ := Option.map_eq_some_iff.mp picked
      cases same
      rw [Taker.op, perform, single]
      refine (bind_of_quiet rfl _).trans ((bind_of_quiet rfl _).trans
        ((bind_of_quiet (content_occupied held) _).trans ?_))
      rw [got]
      exact (bind_of_quiet rfl _).trans (bind_of_quiet rfl _)

end

/-- Moving values into the register and out of it, by whatever operations, from the state on. -/
structure MovesInversely (types : List Ty) (state : State Tagged) (register : Register) : Prop where
  builds : ∀ (builder : Builder) type index literal, builder.pick? types = some (type, index) →
    perform .tagged types (builder.op register literal) = (do
      let value ← readValue type (some literal)
      moveIn .tagged types index register (Stored.ofDatum value)
      return .done)
  takes : ∀ (taker : Taker) type union, state.Holds types register union →
    taker.pick? types = some (type, union.index) →
    perform .tagged types (taker.op register) state = (do
      let value ← moveOut .tagged union.index register
      let reported ← reportTaken .tagged type value
      return taker.reply reported : Procedure Tagged Reply) state
  /-- A value that was moved in is moved out as it was, whatever else was asked for in between. -/
  inThenOut : ∀ (builder : Builder) type index value, builder.pick? types = some (type, index) →
    value.Typed type → ∃ dropped built,
      dropContents .tagged types [state.content register] = .ok dropped ∧
      moveIn .tagged types index register (Stored.ofDatum value) state =
        .ok ⟨.ok (), built, dropped⟩ ∧
      built.Holds types register ⟨index, value⟩ ∧
      (∀ targets, PickOthers types targets index →
        steps .tagged types (inquiries register targets) built =
          .ok (targets.map fun _ => ⟨.returned, tags .tagged built, []⟩, built)) ∧
      moveOut .tagged index register built =
        .ok ⟨.ok (Stored.ofDatum value), state.put register none, []⟩
  /-- The same from the written form of the value to the reply. -/
  readThenReported : ∀ (builder : Builder) type index literal value (taker : Taker) targets,
    builder.pick? types = some (type, index) →
    (Literal.read type state.nextId literal).value = some value →
    PickOthers types targets index → taker.pick? types = some (type, index) → ∃ dropped built,
      dropContents .tagged types [state.content register] = .ok dropped ∧
      built.Holds types register ⟨index, value⟩ ∧ state.AgreesBut register built ∧
      steps .tagged types
          (builder.op register literal :: (inquiries register targets ++ [taker.op register])) state =
        .ok (⟨.done, tags .tagged built, value.ids.map .created ++ dropped⟩ ::
            ((targets.map fun _ => ⟨.returned, tags .tagged built, []⟩) ++
              [⟨taker.reply value, tags .tagged (built.put register none), value.drops⟩]),
          built.put register none)
  /-- A union whose value is moved out and in again is the same union. -/
  outThenIn : ∀ union, state.Holds types register union →
    moveOut .tagged union.index register state =
        .ok ⟨.ok (Stored.ofDatum union.value), state.put register none, []⟩ ∧
      moveIn .tagged types union.index register (Stored.ofDatum union.value)
          (state.put register none) = .ok ⟨.ok (), state, []⟩ ∧
      ∀ targets, PickOthers types targets union.index →
        steps .tagged types (inquiries register targets) state =
          .ok (targets.map fun _ => ⟨.returned, tags .tagged state, []⟩, state)
  /-- Without a look at the tag the only alternative is taken out as where it is required. -/
  unwraps : ∀ type target, onlyType? types = some type → target.find? types = some (type, 0) →
    step .tagged types (.unwrap (some register)) state =
      step .tagged types (.take true target (some register)) state

variable {types : List Ty} {state : State Choice} {register : Register} {union : Choice} {type : Ty}
  {index : Nat} {targets : List (Selector Ty)}

theorem inquiries_stored (typed : state.Typed types) (held : state.content register = some union)
    (others : PickOthers types targets union.index) :
    steps .tagged types (inquiries register targets) state.stored =
      .ok (targets.map fun _ => ⟨.returned, tags .tagged state.stored, []⟩, state.stored) := by
  induction targets with
  | nil => rfl
  | cons target targets ih =>
      obtain ⟨type, other, picked, apart⟩ := others target List.mem_cons_self
      obtain ⟨report, -, misses⟩ := accessesMiss_stored typed held picked apart
      have rest := ih fun target listed => others target (List.mem_cons_of_mem _ listed)
      exact steps_cons_ok_iff.mpr ⟨_, _, _, misses.returned, rest, rfl⟩

theorem dropContents_content (typed : state.Typed types) (register : Register) :
    dropContents .tagged types [state.stored.content register] =
      .ok (Choice.dropsOf (state.content register)) := by
  rw [state.content_stored]
  cases held : state.content register with
  | none => rfl
  | some union =>
      have dropped : Storage.tagged.drop types union.stored = .ok union.value.drops :=
        (typed.registers register union held).drop_stored
      simp only [dropContents, Option.map_some, dropped, Fault.ok_bind, Fault.pure_eq_ok,
        List.append_nil, Choice.dropsOf]

theorem moveIn_stored (typed : state.Typed types) (register : Register) (union : Choice) :
    moveIn .tagged types union.index register (Stored.ofDatum union.value) state.stored =
      .ok ⟨.ok (), (state.put register (some union)).stored,
        Choice.dropsOf (state.content register)⟩ := by
  rw [State.put_stored]
  cases held : state.content register with
  | none =>
      have empty : state.stored.content register = none := by
        rw [state.content_stored, held]
        rfl
      exact replaceContent_vacant empty
  | some old =>
      have occupied : content? register state.stored =
          .ok ⟨.ok (some old.stored), state.stored, []⟩ := by
        rw [← State.held_stored held]
        rfl
      have dropped : Storage.tagged.drop types old.stored = .ok old.value.drops :=
        (typed.registers register old held).drop_stored
      rw [moveIn, replaceContent, bind_of_quiet occupied, bind_of_quiet rfl]
      dsimp only
      rw [dropped, bind_of_quiet rfl]
      rfl

theorem moveOut_stored (held : state.content register = some union) :
    moveOut .tagged union.index register state.stored =
      .ok ⟨.ok (Stored.ofDatum union.value), state.stored.put register none, []⟩ :=
  moveOut_occupied (State.held_stored held) (Chain.read_place union.index _)

theorem builder_shows {builder : Builder} {literal : Literal} {value : Datum}
    (picked : builder.pick? types = some (type, index))
    (read : (literal.read type state.nextId).value = some value) :
    (perform .plain types (builder.op register literal)).Shows state [] .done
      { state.put register (some ⟨index, value⟩) with nextId := state.nextId + value.ids.length }
      (value.ids.map .created ++ Choice.dropsOf (state.content register)) := by
  rw [perform_builder picked]
  apply Leads.bind
  intro outcome ran
  cases (readValue_ok read).symm.trans ran
  apply Leads.bind
  apply replaceContent_leads
  exact .answer ⟨rfl, rfl, rfl⟩

theorem taker_shows {taker : Taker} (picked : taker.pick? types = some (type, union.index))
    (held : state.content register = some union) :
    (perform .plain types (taker.op register)).Shows state [] (taker.reply union.value)
      (state.put register none) union.value.drops := by
  have got : Storage.plain.get union.index union = .ok union.value := if_pos rfl
  intro outcome ran
  rw [perform_taker picked held rfl got, bind_of_quiet (moveOut_occupied held got)] at ran
  have reports : (do
      let reported ← reportTaken .plain type union.value
      return taker.reply reported : Procedure Choice Reply).Shows (state.put register none) []
        (taker.reply union.value) (state.put register none) union.value.drops := by
    apply Leads.bind
    apply reportTaken_leads
    exact .answer ⟨rfl, rfl, rfl⟩
  exact reports outcome ran

theorem takes_stored {taker : Taker} (held : state.content register = some union)
    (picked : taker.pick? types = some (type, union.index)) :
    perform .tagged types (taker.op register) state.stored = (do
      let value ← moveOut .tagged union.index register
      let reported ← reportTaken .tagged type value
      return taker.reply reported : Procedure Tagged Reply) state.stored :=
  perform_taker picked (State.held_stored held) rfl (Chain.read_place union.index _)

theorem unwrap_stored (typed : state.Typed types) {target : Selector Ty}
    (single : onlyType? types = some type) (picked : target.find? types = some (type, 0)) :
    perform .tagged types (.unwrap (some register)) state.stored =
      perform .tagged types (.take true target (some register)) state.stored := by
  cases held : state.content register with
  | none =>
      have empty : content register state.stored = .ok ⟨.error .empty, state.stored, []⟩ := by
        have looked : content? register state.stored = .ok ⟨.ok none, state.stored, []⟩ := by
          rw [← Option.map_none, ← held, ← state.content_stored]
          rfl
        exact bind_of_quiet looked _
      have failed {Next : Type} (rest : Tagged → Procedure Tagged Next) :
          (content register >>= rest) state.stored = .ok ⟨.error .empty, state.stored, []⟩ := by
        simp only [bind_eq_andThen, andThen, empty]
      have unwraps : perform .tagged types (.unwrap (some register)) state.stored =
          .ok ⟨.error .empty, state.stored, []⟩ := by
        rw [perform, single, bind_of_quiet rfl, bind_of_quiet rfl]
        exact failed _
      have takes : perform .tagged types (.take true target (some register)) state.stored =
          .ok ⟨.error .empty, state.stored, []⟩ := by
        rw [perform, picked, bind_of_quiet rfl]
        exact (bind_of_quiet rfl _).trans (failed _)
      rw [unwraps, takes]
  | some union =>
      -- With a single alternative the index of every union is zero.
      have first : union.index = 0 := by
        obtain ⟨active, -, found, -⟩ := (typed.registers register union held).found
        have inside := typeAt?_lt found
        rw [onlyType?_found single] at inside
        exact Nat.lt_one_iff.mp inside
      have unwrapped : Taker.only.pick? types = some (type, union.index) := by
        rw [Taker.pick?, single, first]
        rfl
      have taken : (Taker.selected true target).pick? types = some (type, union.index) := by
        rw [first]
        exact picked
      exact (takes_stored held unwrapped).trans (takes_stored held taken).symm

theorem holds_built (typed : state.Typed types) (short : types.length ≤ maxArity)
    (found : typeAt? types index = some type) {value : Datum} (valueTyped : value.Typed type)
    (register : Register) (nextId : Nat) :
    let built : State Choice :=
      { state.put register (some ⟨index, value⟩) with nextId := nextId }
    built.Typed types ∧ built.content register = some ⟨index, value⟩ ∧
      built.stored.Holds types register ⟨index, value⟩ ∧ state.stored.AgreesBut register built.stored := by
  intro built
  have held : built.content register = some ⟨index, value⟩ := state.content_put_self
  have typedPut : (state.put register (some ⟨index, value⟩)).Typed types := by
    apply typed.put
    intro union same
    cases same
    exact Choice.typed_of short found valueTyped
  have typedBuilt : built.Typed types := typedPut.with_nextId nextId
  exact ⟨typedBuilt, held, typedBuilt.holds_iff.mpr held, (state.agreesBut_put register _ _).stored⟩

theorem inThenOut_stored (typed : state.Typed types) (register : Register) {builder : Builder}
    {value : Datum} (picked : builder.pick? types = some (type, index)) (valueTyped : value.Typed type) :
    ∃ dropped built,
      dropContents .tagged types [state.stored.content register] = .ok dropped ∧
      moveIn .tagged types index register (Stored.ofDatum value) state.stored =
        .ok ⟨.ok (), built, dropped⟩ ∧
      built.Holds types register ⟨index, value⟩ ∧
      (∀ targets, PickOthers types targets index →
        steps .tagged types (inquiries register targets) built =
          .ok (targets.map fun _ => ⟨.returned, tags .tagged built, []⟩, built)) ∧
      moveOut .tagged index register built =
        .ok ⟨.ok (Stored.ofDatum value), state.stored.put register none, []⟩ := by
  obtain ⟨short, found⟩ := Builder.pick?_found picked
  obtain ⟨typedBuilt, held, holds, -⟩ := holds_built typed short found valueTyped register state.nextId
  have out := moveOut_stored held
  have emptied : (state.put register (some ⟨index, value⟩)).stored.put register none =
      state.stored.put register none := by
    rw [State.put_stored, State.put_put]
  exact ⟨_, _, dropContents_content typed register, moveIn_stored typed register ⟨index, value⟩, holds,
    fun targets others => inquiries_stored typedBuilt held others, out.trans (emptied ▸ rfl)⟩

theorem readThenReported_stored (typed : state.Typed types) (register : Register) {builder : Builder}
    {literal : Literal} {value : Datum} {taker : Taker} {targets : List (Selector Ty)}
    (picked : builder.pick? types = some (type, index))
    (read : (literal.read type state.nextId).value = some value)
    (others : PickOthers types targets index) (taken : taker.pick? types = some (type, index)) :
    ∃ dropped built,
      dropContents .tagged types [state.stored.content register] = .ok dropped ∧
      built.Holds types register ⟨index, value⟩ ∧ state.stored.AgreesBut register built ∧
      steps .tagged types
          (builder.op register literal :: (inquiries register targets ++ [taker.op register]))
          state.stored =
        .ok (⟨.done, tags .tagged built, value.ids.map .created ++ dropped⟩ ::
            ((targets.map fun _ => ⟨.returned, tags .tagged built, []⟩) ++
              [⟨taker.reply value, tags .tagged (built.put register none), value.drops⟩]),
          built.put register none) := by
  let built : State Choice :=
    { state.put register (some ⟨index, value⟩) with nextId := state.nextId + value.ids.length }
  have held : built.content register = some ⟨index, value⟩ := state.content_put_self
  have builds : (perform .plain types (builder.op register literal)).Shows state [] .done built
      (value.ids.map .created ++ Choice.dropsOf (state.content register)) := builder_shows picked read
  obtain ⟨built?, typedBuilt⟩ := stepShows_stored typed builds
  obtain ⟨emptied, -⟩ := stepShows_stored typedBuilt (taker_shows taken held)
  rw [State.put_stored] at emptied
  refine ⟨_, built.stored, dropContents_content typed register, typedBuilt.holds_iff.mpr held,
    (state.agreesBut_put register _ _).stored, ?_⟩
  have last : steps .tagged types [taker.op register] built.stored =
      .ok ([⟨taker.reply value, tags .tagged (built.stored.put register none), value.drops⟩],
        built.stored.put register none) := steps_cons_ok_iff.mpr ⟨_, _, _, emptied, rfl, rfl⟩
  have rest := steps_append_ok_iff.mpr
    ⟨_, _, _, inquiries_stored typedBuilt held others, last, rfl⟩
  exact steps_cons_ok_iff.mpr ⟨_, _, _, built?, rest, rfl⟩

/-- Building and consuming are inverse moves. In every reachable state a value that any operation
moves into a register is moved out by any operation as it was, without a clone or a drop on the way
and whatever other alternatives are asked for in between; and a union whose value is moved out and in
again is the same union. -/
theorem moves_inverse (types : List Ty) (program : List (Op Ty)) :
    ∃ entries, ∃ state : State Tagged,
      steps .tagged types program (State.initial types) = .ok (entries, state) ∧
      ∀ register, MovesInversely types state register := by
  obtain ⟨entries, state, tagged, -, typed⟩ := steps_initial types program
  refine ⟨entries, state.stored, tagged, ?_⟩
  intro register
  constructor
  · intro builder type index literal picked
    exact perform_builder picked literal
  · intro taker type union holds picked
    exact takes_stored (typed.holds_iff.mp holds) picked
  · intro builder type index value picked valueTyped
    exact inThenOut_stored typed register picked valueTyped
  · intro builder type index literal value taker targets picked read others taken
    exact readThenReported_stored typed register picked read others taken
  · intro union holds
    have held := typed.holds_iff.mp holds
    have put : (state.put register none).put register (some union) = state := by
      rw [State.put_put, ← held, state.put_content]
    have typedEmptied : (state.put register none).Typed types := typed.put register nofun
    have moved := moveIn_stored typedEmptied register union
    rw [put, State.content_put_self, State.put_stored] at moved
    exact ⟨moveOut_stored held, moved, fun targets others => inquiries_stored typed held others⟩
  · intro type target single picked
    have same : perform .tagged types (.unwrap (some register)) state.stored =
        perform .tagged types (.take true target (some register)) state.stored :=
      unwrap_stored typed single picked
    simp only [step, same]

end Machine

end TaggedUnion
