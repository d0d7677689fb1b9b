import TaggedUnion.Proofs.Edits
import TaggedUnion.Proofs.Frame
import TaggedUnion.Proofs.Presentation
import TaggedUnion.Proofs.Renaming

/-!
# Edits in place

An edit through a register changes the active value and nothing else. Whichever access it is made
through, it leads to one state, which is also reached by taking the value out, editing it outside
and building the union again. Two edits in a row are one edit, and assigning what is there already
changes nothing. Over whole runs only operations that replace the content of a register change its
tag.
-/

set_option autoImplicit false

namespace TaggedUnion

open Registry

def Choice.edited (mode : EditMode) (new : Datum) (union : Choice) : Choice :=
  ⟨union.index, (union.value.edit mode new).value⟩

/-- The state with an edited union in the register, after the identities of what came with the
edit were handed out. -/
def State.edited (register : Register) (union : Choice) (mode : EditMode) (new : Datum)
    (state : State Tagged) : State Tagged :=
  { state.put register (some (union.edited mode new).stored) with
    nextId := state.nextId + new.ids.length }

namespace Machine

open Procedure

section

variable {Held Value : Type} (storage : Storage Held Value) (types : List Ty)

/-- Takes the active value out, edits it outside of the union and builds a union with it again. -/
def rebuild (type : Ty) (index : Nat) (mode : EditMode) (register : Register) (value : Literal) :
    Procedure Held Unit := do
  let union ← content register
  let new ← readValue type (some value)
  let old ← orFault (storage.get index union)
  setContent register none
  let edited ← orFault (storage.edit type mode old (storage.hold new))
  log edited.events
  replaceContent storage types register (storage.place index edited.value)

end

/-- What an edit of the union in the register with a value of the type makes of the active value,
and what it leads to, whichever access it is made through. The same state is reached by building the
union again around the edited value, and up to identities by operations that take the value out and
construct another one. An edit after it comes to what one edit comes to, and assigning what is there
already to no change. -/
structure EditsInPlace (types : List Ty) (state : State Tagged) (register : Register) (union : Choice)
    (type : Ty) (mode : EditMode) (literal : Literal) (new : Datum) : Prop where
  makes :
    mode.Makes type union.value new (union.edited mode new).value (union.value.edit mode new).events
  leads : ∀ demand target, target.find? types = some (type, union.index) →
    StepShows types (.edit demand mode target (some register) (some literal)) state
      (demand.hit (union.edited mode new).value) (state.edited register union mode new)
      (new.ids.map .created ++ (union.value.edit mode new).events)
  tag : ((state.edited register union mode new).content register).map Tagged.tag =
    (state.content register).map Tagged.tag
  holds : (state.edited register union mode new).Holds types register (union.edited mode new)
  presents : Presents types (state.edited register union mode new) register (union.edited mode new)
  elsewhere : state.AgreesBut register (state.edited register union mode new)
  rebuilt : rebuild .tagged types type union.index mode register literal state =
    .ok ⟨.ok (), state.edited register union mode new,
      new.ids.map .created ++ (union.value.edit mode new).events⟩
  reconstructed : ∀ required target literal' value,
    target.find? types = some (type, union.index) →
    (Literal.read type state.nextId literal').value = some value →
    value.anonymous = (union.edited mode new).value.anonymous → ∃ entries last,
      steps .tagged types [.take required target (some register),
          .construct target (some register) (some literal')] state = .ok (entries, last) ∧
        last.Holds types register ⟨union.index, value⟩ ∧
        (state.edited register union mode new).AgreesBut register last ∧
        ((union.edited mode new).value.ids = [] → last = state.edited register union mode new)
  composed : ∀ demand target mode' literal' new', target.find? types = some (type, union.index) →
    (Literal.read type (state.nextId + new.ids.length) literal').value = some new' →
    StepShows types (.edit demand mode' target (some register) (some literal'))
        (state.edited register union mode new)
        (demand.hit ((union.edited mode new).edited mode' new').value)
        ((state.edited register union mode new).edited register (union.edited mode new) mode' new')
        (new'.ids.map .created ++ ((union.edited mode new).value.edit mode' new').events) ∧
      (union.edited mode new).edited mode' new' =
        union.edited (mode.followedBy mode') (new.edit mode' new').value
  assigned : mode = .assign → new.anonymous = union.value.anonymous →
    (union.edited mode new).value.anonymous = union.value.anonymous ∧
      (union.value.ids = [] → state.edited register union mode new = state)

variable {types : List Ty} {state : State Choice} {register : Register} {union : Choice} {type : Ty}
  {literal : Literal} {new : Datum}

theorem bind_ok {Held Answer Next : Type} {state middle next : State Held}
    {first : Procedure Held Answer} {value : Answer} {answer : Except Failure Next} {events events' : List Event}
    (ran : first state = .ok ⟨.ok value, middle, events⟩) (rest : Answer → Procedure Held Next)
    (followed : rest value middle = .ok ⟨answer, next, events'⟩) :
    (first >>= rest) state = .ok ⟨answer, next, events ++ events'⟩ := by
  simp only [bind_eq_andThen, andThen, ran, followed]

theorem replaceContent_vacant {Held Value : Type} {storage : Storage Held Value} {types : List Ty}
    {state : State Held} {register : Register} {union : Held} (empty : state.content register = none) :
    replaceContent storage types register union state =
      .ok ⟨.ok (), state.put register (some union), []⟩ := by
  have looked : content? register state = .ok ⟨.ok none, state, []⟩ := by
    rw [← empty]
    rfl
  rw [replaceContent, bind_of_quiet looked, bind_of_quiet rfl]
  rfl

theorem readValue_ok {Held : Type} {state : State Held}
    (read : (literal.read type state.nextId).value = some new) :
    (readValue type (some literal) : Procedure Held Datum) state =
      .ok ⟨.ok new, { state with nextId := state.nextId + new.ids.length }, new.ids.map .created⟩ := by
  obtain ⟨created, counted⟩ := Literal.createsRules.read type state.nextId literal new read
  have made : (make fun nextId => .ok (literal.read type nextId) : Procedure Held (Option Datum)) state =
      .ok ⟨.ok (some new), { state with nextId := state.nextId + new.ids.length },
        new.ids.map .created⟩ := by
    simp only [make, read, created, counted]
  rw [readValue, bind_of_quiet rfl, bind_eq_andThen, andThen, made]
  simp only [operand, orFail, answer, List.append_nil]

theorem rebuild_stored (typed : union.Typed types) (found : typeAt? types union.index = some type)
    (held : state.content register = some union) (mode : EditMode)
    (read : (literal.read type state.nextId).value = some new) :
    rebuild .tagged types type union.index mode register literal state.stored =
      .ok ⟨.ok (), state.stored.edited register union mode new,
        new.ids.map .created ++ (union.value.edit mode new).events⟩ := by
  have heldStored := State.held_stored held
  have got : Storage.tagged.get union.index union.stored = .ok (Stored.ofDatum union.value) :=
    Chain.read_place union.index _
  obtain ⟨active, -, activeFound, typedValue⟩ := typed.found
  cases found.symm.trans activeFound
  have edited : (orFault (Storage.tagged.edit type mode (Stored.ofDatum union.value)
      (Storage.tagged.hold new)) : Procedure Tagged (Edited Stored)) = orFault (.ok
        ⟨Stored.ofDatum (union.value.edit mode new).value, (union.value.edit mode new).events⟩) :=
    congrArg orFault (Stored.edit_ofDatum mode typedValue new)
  have readNew : (readValue type (some literal) : Procedure Tagged Datum) state.stored =
      .ok ⟨.ok new, { state.stored with nextId := state.nextId + new.ids.length },
        new.ids.map .created⟩ := readValue_ok read
  let emptied : State Tagged :=
    { state.stored.put register none with nextId := state.nextId + new.ids.length }
  -- The register is empty when the union is built again, so nothing is dropped with it.
  have replaced : replaceContent .tagged types register (union.edited mode new).stored emptied =
      .ok ⟨.ok (), emptied.put register (some (union.edited mode new).stored), []⟩ :=
    replaceContent_vacant state.stored.content_put_self
  have again : emptied.put register (some (union.edited mode new).stored) =
      state.stored.edited register union mode new := by
    have put := state.stored.put_put register none (some (union.edited mode new).stored)
    exact congrArg (fun next : State Tagged => { next with nextId := state.nextId + new.ids.length }) put
  rw [again] at replaced
  rw [rebuild, bind_of_quiet (content_occupied heldStored)]
  apply bind_ok readNew
  rw [got, bind_of_quiet rfl, bind_of_quiet rfl, edited, bind_of_quiet rfl]
  have logged : log (union.value.edit mode new).events emptied =
      .ok ⟨.ok (), emptied, (union.value.edit mode new).events⟩ := rfl
  have together := bind_ok logged
    (fun _ => replaceContent .tagged types register (union.edited mode new).stored) replaced
  rw [List.append_nil] at together
  exact together

theorem reconstruct_stored (typed : state.Typed types) (held : state.content register = some union)
    {target : Selector Ty} (picked : target.find? types = some (type, union.index)) (required : Bool)
    (read : (literal.read type state.nextId).value = some new) :
    let last : State Choice :=
      { state.put register (some ⟨union.index, new⟩) with nextId := state.nextId + new.ids.length }
    (∃ entries, steps .tagged types [.take required target (some register),
        .construct target (some register) (some literal)] state.stored = .ok (entries, last.stored)) ∧
      last.Typed types := by
  intro last
  obtain ⟨taken, typedMiddle⟩ := stepShows_stored typed (take_found held picked required)
  obtain ⟨-, short, -⟩ := (typed.registers register union held).found
  have shows : (perform .plain types (.construct target (some register) (some literal))).Shows
      (state.put register none) [] .done
      { (state.put register none).put register (some ⟨union.index, new⟩) with
        nextId := state.nextId + new.ids.length }
      (new.ids.map .created ++ Choice.dropsOf ((state.put register none).content register)) :=
    construct_shows (Selector.build?_eq_some_iff.mpr ⟨short, picked⟩) read
  rw [State.put_put] at shows
  obtain ⟨constructed, typedLast⟩ := stepShows_stored typedMiddle shows
  exact ⟨⟨_, steps_cons_ok_iff.mpr ⟨_, _, _, taken,
    steps_cons_ok_iff.mpr ⟨_, _, _, constructed, rfl, rfl⟩, rfl⟩⟩, typedLast⟩

theorem editsInPlace_stored (typed : state.Typed types) (held : state.content register = some union)
    (found : typeAt? types union.index = some type) (mode : EditMode)
    (read : (literal.read type state.nextId).value = some new) :
    EditsInPlace types state.stored register union type mode literal new := by
  have presents := presents_stored typed held
  have unionTyped := typed.registers register union held
  obtain ⟨active, short, activeFound, typedValue⟩ := unionTyped.found
  cases found.symm.trans activeFound
  have typedNew : new.Typed type := Literal.read_typed read
  have editedTyped : (union.edited mode new).Typed types :=
    Choice.typed_of short found (Datum.edit_typed mode typedValue typedNew)
  let next : State Choice :=
    { state.put register (some (union.edited mode new)) with nextId := state.nextId + new.ids.length }
  have stored : next.stored = state.stored.edited register union mode new := state.put_with_stored _ _ _
  have typedPut : (state.put register (some (union.edited mode new))).Typed types := by
    apply typed.put
    intro other same
    cases same
    exact editedTyped
  have typedNext : next.Typed types := typedPut.with_nextId _
  have heldNext : next.content register = some (union.edited mode new) := state.content_put_self
  have presentsNext := presents_stored typedNext heldNext
  have elsewhere : state.stored.AgreesBut register next.stored :=
    (state.agreesBut_put register _ _).stored
  constructor
  · exact Datum.edit_makes typedValue typedNew mode
  · intro demand target picked
    exact (presents.finds target type picked).edit demand mode literal new read
  · rw [← stored, next.content_stored, heldNext, state.content_stored, held]
    rfl
  · rw [← stored]
    exact typedNext.holds_iff.mpr heldNext
  · rw [← stored]
    exact presentsNext
  · rw [← stored]
    exact elsewhere
  · exact rebuild_stored unionTyped found held mode read
  · intro required target literal' value picked read' alike
    obtain ⟨⟨entries, ran⟩, typedLast⟩ := reconstruct_stored typed held picked required read'
    refine ⟨entries, _, ran, typedLast.holds_iff.mpr state.content_put_self, ?_, ?_⟩
    · rw [← stored]
      exact ((state.agreesBut_put register _ _).between (state.agreesBut_put register _ _)).stored
    · intro none
      have same : value = (union.edited mode new).value := Datum.eq_of_anonymous none alike
      have noneNew : new.ids = [] := Datum.ids_of_edit none
      rw [← stored]
      subst same
      rw [none, ← noneNew]
      rfl
  · intro demand target mode' literal' new' picked read'
    rw [← stored]
    have typedNew' : new'.Typed type := Literal.read_typed read'
    constructor
    · exact (presentsNext.finds target type picked).edit demand mode' literal' new' read'
    · exact congrArg (Choice.mk union.index) (Datum.edit_edit typedValue typedNew typedNew' mode mode')
  · rintro rfl alike
    refine ⟨alike, ?_⟩
    intro none
    have same : new = union.value := Datum.eq_of_anonymous none alike
    have put : state.put register (some (union.edited .assign new)) = state := by
      have edited : union.edited .assign new = union := congrArg (Choice.mk union.index) same
      rw [edited, ← held, state.put_content]
    have unchanged : next = state := by
      rw [show next = { state.put register (some (union.edited .assign new)) with
        nextId := state.nextId + new.ids.length } from rfl, put, same, none]
      rfl
    rw [← stored, unchanged]

/-- Editing in place obeys the laws of a lens and keeps the alternative. In every reachable state
an edit of what a register holds, with any value of the type that is active there, does what
`EditsInPlace` says, and on the way to any later state the tag in a register changes only by
operations that replace what the register holds. -/
theorem edits_in_place (types : List Ty) (program : List (Op Ty)) :
    ∃ entries, ∃ state : State Tagged,
      steps .tagged types program (State.initial types) = .ok (entries, state) ∧
      (∀ register held, state.content register = some held →
        ∃ union type, state.Holds types register union ∧ typeAt? types union.index = some type ∧
          ∀ mode literal new, (Literal.read type state.nextId literal).value = some new →
            EditsInPlace types state register union type mode literal new) ∧
      ∀ later, ∃ entries' last, steps .tagged types later state = .ok (entries', last) ∧
        ∀ register, (∀ op ∈ later, op.replaces register = false) →
          (last.content register).map Tagged.tag = (state.content register).map Tagged.tag := by
  obtain ⟨entries, state, tagged, -, typed⟩ := steps_initial types program
  refine ⟨entries, state.stored, tagged, ?_, ?_⟩
  · intro register stored storedHeld
    obtain ⟨union, held, -⟩ := State.exists_held storedHeld
    obtain ⟨type, -, found, -⟩ := (typed.registers register union held).found
    refine ⟨union, type, typed.holds_iff.mpr held, found, ?_⟩
    intro mode literal new read
    exact editsInPlace_stored typed held found mode read
  · intro later
    obtain ⟨entries', last, ran, -⟩ := steps_stored typed later
    refine ⟨entries', last.stored, ran, ?_⟩
    intro register kept
    exact steps_tag kept ran

end Machine

end TaggedUnion
