import TaggedUnion.Proofs.Lookup
import TaggedUnion.Proofs.Moves
import TaggedUnion.Proofs.Preservation

/-!
# Building by conversion

To build a union by conversion is to convert the value once and to build the union around its image:
the alternative is the target of the conversion and no other, and the image preserves the value.
-/

set_option autoImplicit false

namespace TaggedUnion

open Registry

/-- In a list of which values can be built a type that is listed once is selected for them. -/
theorem Selector.build?_of_count {types : List Ty} {target : Ty} (short : types.length ≤ maxArity)
    (once : types.count target = 1) :
    ∃ index, (Selector.type target).build? types = some (target, index) := by
  obtain ⟨⟨type, index⟩, picked⟩ :=
    Option.isSome_iff_exists.mp (Selector.build?_type_isSome_iff.mpr ⟨short, once⟩)
  cases Selector.build?_type picked
  exact ⟨index, picked⟩

namespace Machine

open Procedure

section

variable {Held Value : Type} {storage : Storage Held Value} {types : List Ty} {register : Register}
  {source target : Ty} {index : Nat} {conversion : Conversion}

/-- Between the reading of the source and the move there is one conversion. -/
theorem perform_convert (picked : (Selector.type target).build? types = some (target, index))
    (selected : Conversion.find? source target = some conversion) (literal : Literal) :
    perform storage types (.convert target source (some register) (some literal)) = (do
      let value ← readValue source (some literal)
      let image ← convertValue conversion value
      moveIn storage types index register (storage.hold image)
      return .done) := by
  rw [perform, picked, selected]
  exact (answer_andThen (target, index) _).trans
    ((answer_andThen conversion _).trans (answer_andThen register _))

theorem perform_constructText (register : Option Register) (value : Option Literal) :
    perform storage types (.constructText register value) =
      perform storage types (.construct (.type .string) register value) := by
  rw [perform, perform]
  cases picked : (Selector.type .string).build? types with
  | none => rfl
  | some found =>
      obtain ⟨type, index⟩ := found
      cases Selector.build?_type picked
      rfl

end

/-- Building by the conversion, and afterwards, from the state on. -/
structure BuildsByConversion (types : List Ty) (state : State Tagged) (source target : Ty) (index : Nat)
    (conversion : Conversion) : Prop where
  reduces : ∀ register literal,
    perform .tagged types (.convert target source (some register) (some literal)) = (do
      let value ← readValue source (some literal)
      let image ← convertValue conversion value
      moveIn .tagged types index register (Stored.ofDatum image)
      return .done)
  builds : ∀ register literal,
    perform .tagged types (.construct (.type target) (some register) (some literal)) = (do
      let value ← readValue target (some literal)
      moveIn .tagged types index register (Stored.ofDatum value)
      return .done)
  locates : StepShows types (.locate target) state (.number index) state []
  /-- Every value of the source has an image, and it can be moved in. -/
  image : ∀ register value, value.Typed source → ∃ image dropped next,
    image.Typed target ∧ conversion.Preserves value image ∧
    image.ids = value.ids ++ conversion.fresh state.nextId ∧
    convertValue conversion value state = .ok ⟨.ok image,
      { state with nextId := state.nextId + (conversion.fresh state.nextId).length },
      (conversion.fresh state.nextId).map .converted⟩ ∧
    dropContents .tagged types [state.content register] = .ok dropped ∧
    moveIn .tagged types index register (Stored.ofDatum image)
      { state with nextId := state.nextId + (conversion.fresh state.nextId).length } =
        .ok ⟨.ok (), next, dropped⟩ ∧
    next.Holds types register ⟨index, image⟩ ∧ state.AgreesBut register next
  /-- The same from the written form of the value to the image read back, and building the union
  around the written form of the image leads to the same state. -/
  converts : ∀ register literal value, (Literal.read source state.nextId literal).value = some value →
    ∃ image dropped next, image.Typed target ∧ conversion.Preserves value image ∧
      image.ids = value.ids ++ conversion.fresh (state.nextId + value.ids.length) ∧
      dropContents .tagged types [state.content register] = .ok dropped ∧
      StepShows types (.convert target source (some register) (some literal)) state .done next
        (value.ids.map .created ++
          (conversion.fresh (state.nextId + value.ids.length)).map .converted ++ dropped) ∧
      next.Holds types register ⟨index, image⟩ ∧ state.AgreesBut register next ∧
      StepShows types (.index (some register)) next (.number index) next [] ∧
      (∀ demand, StepShows types (.read demand (.type target) (some register)) next
        (demand.hit image) next []) ∧
      ∀ literal', (Literal.read target state.nextId literal').value = some image →
        StepShows types (.construct (.type target) (some register) (some literal')) state .done next
          (image.ids.map .created ++ dropped)
  /-- Unions around images are equal exactly if the sources are. -/
  tells : ∀ register other value value' image image', value.Typed source → value'.Typed source →
    conversion.Preserves value image → conversion.Preserves value' image' →
    state.Holds types register ⟨index, image⟩ → state.Holds types other ⟨index, image'⟩ →
    ∃ equal events, (equal = true ↔ value.Equals value') ∧
      ∀ negated, StepShows types (.compare negated (some register) (some other)) state
        (.truth (equal != negated)) state events

variable {types : List Ty} {state : State Choice} {register : Register} {source target : Ty}
  {index : Nat} {conversion : Conversion}

theorem convert_shows {literal : Literal} {value : Datum} {made : Made Datum}
    (picked : (Selector.type target).build? types = some (target, index))
    (selected : Conversion.find? source target = some conversion)
    (read : (literal.read source state.nextId).value = some value)
    (converted : conversion.convert? (state.nextId + value.ids.length) value = some made) :
    (perform .plain types (.convert target source (some register) (some literal))).Shows state [] .done
      { state.put register (some ⟨index, made.value⟩) with nextId := made.nextId }
      (value.ids.map .created ++ made.events ++ Choice.dropsOf (state.content register)) := by
  rw [perform_convert picked selected]
  apply Leads.bind
  intro outcome ran
  cases (readValue_ok read).symm.trans ran
  apply Leads.bind
  apply convertValue_leads
  intro again was
  cases converted.symm.trans was
  apply Leads.bind
  apply replaceContent_leads
  exact .answer ⟨rfl, rfl, rfl⟩

theorem locate_shows (picked : (Selector.type target).build? types = some (target, index)) :
    (perform .plain types (.locate target)).Shows state [] (.number index) state [] := by
  obtain ⟨short, found⟩ := Selector.build?_found picked
  have counted : (tagOf index).toNat = index := toNat_tagOf (typeAt?_short short found)
  have located : indexOf? types target = some index := by
    obtain ⟨-, picked⟩ := Selector.build?_eq_some_iff.mp picked
    obtain ⟨_, located, same⟩ := Option.map_eq_some_iff.mp picked
    cases same
    exact located
  rw [perform, located]
  exact .bind (.quiet rfl (.answer ⟨congrArg Reply.number counted, rfl, rfl⟩))

theorem convertValue_ok {Held : Type} {state : State Held} {value : Datum} {made : Made Datum}
    (converted : conversion.convert? state.nextId value = some made) :
    (convertValue conversion value : Procedure Held Datum) state =
      .ok ⟨.ok made.value, { state with nextId := made.nextId }, made.events⟩ := by
  simp only [convertValue, make, converted]

/-- Two unions around images of two values. -/
theorem tells_stored (typed : state.Typed types) {other : Register} {value value' image image' : Datum}
    (valueTyped : value.Typed source) (valueTyped' : value'.Typed source)
    (preserves : conversion.Preserves value image) (preserves' : conversion.Preserves value' image')
    (holds : state.stored.Holds types register ⟨index, image⟩)
    (holds' : state.stored.Holds types other ⟨index, image'⟩) :
    ∃ equal events, (equal = true ↔ value.Equals value') ∧
      ∀ negated, StepShows types (.compare negated (some register) (some other)) state.stored
        (.truth (equal != negated)) state.stored events := by
  obtain ⟨type, -, found, imageTyped⟩ := holds.typed.found
  obtain ⟨type', -, found', imageTyped'⟩ := holds'.typed.found
  cases found.symm.trans found'
  have presents := presents_stored typed (typed.holds_iff.mp holds)
  have sides : (Choice.compare ⟨index, image⟩ ⟨index, image'⟩).equal = true ↔ value.Equals value' := by
    rw [Choice.compare, if_pos rfl]
    exact (imageTyped.compare_equal_iff imageTyped').trans
      (preserves.equals_iff valueTyped valueTyped' imageTyped imageTyped' preserves')
  exact ⟨_, _, sides, fun negated => (presents.compare other _ holds' negated).1⟩

theorem image_stored (typed : state.Typed types)
    (picked : (Selector.type target).build? types = some (target, index))
    (selected : Conversion.find? source target = some conversion) (register : Register) {value : Datum}
    (valueTyped : value.Typed source) :
    ∃ image dropped next, image.Typed target ∧ conversion.Preserves value image ∧
      image.ids = value.ids ++ conversion.fresh state.nextId ∧
      convertValue conversion value state.stored = .ok ⟨.ok image,
        { state.stored with nextId := state.nextId + (conversion.fresh state.nextId).length },
        (conversion.fresh state.nextId).map .converted⟩ ∧
      dropContents .tagged types [state.stored.content register] = .ok dropped ∧
      moveIn .tagged types index register (Stored.ofDatum image)
        { state.stored with nextId := state.nextId + (conversion.fresh state.nextId).length } =
          .ok ⟨.ok (), next, dropped⟩ ∧
      next.Holds types register ⟨index, image⟩ ∧ state.stored.AgreesBut register next := by
  obtain ⟨short, found⟩ := Selector.build?_found picked
  obtain ⟨⟨image, nextId, events⟩, converted, imageTyped⟩ :=
    Conversion.convert?_typed selected valueTyped state.nextId
  obtain ⟨ids, rfl, rfl⟩ := Conversion.convert?_fresh converted
  have preserves := Conversion.convert?_preserves selected valueTyped converted
  obtain ⟨-, -, holds, agrees⟩ := holds_built typed short found imageTyped register
    (state.nextId + (conversion.fresh state.nextId).length)
  have counted : State.Typed types
      { state with nextId := state.nextId + (conversion.fresh state.nextId).length } := typed.with_nextId _
  have stored : conversion.convert? state.stored.nextId value = some ⟨image, _, _⟩ := converted
  exact ⟨image, _, _, imageTyped, preserves, ids, convertValue_ok stored,
    dropContents_content typed register, moveIn_stored counted register ⟨index, image⟩, holds, agrees⟩

theorem converts_stored (typed : state.Typed types)
    (picked : (Selector.type target).build? types = some (target, index))
    (selected : Conversion.find? source target = some conversion) (register : Register)
    {literal : Literal} {value : Datum} (read : (literal.read source state.nextId).value = some value) :
    ∃ image dropped next, image.Typed target ∧ conversion.Preserves value image ∧
      image.ids = value.ids ++ conversion.fresh (state.nextId + value.ids.length) ∧
      dropContents .tagged types [state.stored.content register] = .ok dropped ∧
      StepShows types (.convert target source (some register) (some literal)) state.stored .done next
        (value.ids.map .created ++
          (conversion.fresh (state.nextId + value.ids.length)).map .converted ++ dropped) ∧
      next.Holds types register ⟨index, image⟩ ∧ state.stored.AgreesBut register next ∧
      StepShows types (.index (some register)) next (.number index) next [] ∧
      (∀ demand, StepShows types (.read demand (.type target) (some register)) next
        (demand.hit image) next []) ∧
      ∀ literal', (Literal.read target state.nextId literal').value = some image →
        StepShows types (.construct (.type target) (some register) (some literal')) state.stored .done next
          (image.ids.map .created ++ dropped) := by
  obtain ⟨short, found⟩ := Selector.build?_found picked
  have valueTyped : value.Typed source := Literal.read_typed read
  obtain ⟨⟨image, nextId, events⟩, converted, imageTyped⟩ :=
    Conversion.convert?_typed selected valueTyped (state.nextId + value.ids.length)
  obtain ⟨ids, rfl, rfl⟩ := Conversion.convert?_fresh converted
  have preserves := Conversion.convert?_preserves selected valueTyped converted
  obtain ⟨typedBuilt, held, holds, agrees⟩ := holds_built typed short found imageTyped register
    (state.nextId + value.ids.length + (conversion.fresh (state.nextId + value.ids.length)).length)
  have presents := presents_stored typedBuilt held
  obtain ⟨-, accessed⟩ := Selector.build?_eq_some_iff.mp picked
  refine ⟨image, _, _, imageTyped, preserves, ids, dropContents_content typed register,
    (stepShows_stored typed (convert_shows picked selected read converted)).1, holds, agrees,
    presents.index, (presents.finds (.type target) target accessed).read, ?_⟩
  intro literal' read'
  have counted : state.nextId + image.ids.length = state.nextId + value.ids.length +
      (conversion.fresh (state.nextId + value.ids.length)).length := by
    rw [show image.ids = _ from ids, List.length_append, Nat.add_assoc]
  rw [← counted]
  exact (stepShows_stored typed (construct_shows picked read')).1

theorem buildsByConversion_stored (typed : state.Typed types)
    (picked : (Selector.type target).build? types = some (target, index))
    (selected : Conversion.find? source target = some conversion) :
    BuildsByConversion types state.stored source target index conversion where
  reduces _ literal := perform_convert picked selected literal
  builds _ literal := by
    have built : (Builder.selected (.type target)).pick? types = some (target, index) := picked
    exact perform_builder built literal
  locates := (stepShows_stored typed (locate_shows picked)).1
  image register _ valueTyped := image_stored typed picked selected register valueTyped
  converts register _ _ read := converts_stored typed picked selected register read
  tells _ _ _ _ _ _ valueTyped valueTyped' preserves preserves' holds holds' :=
    tells_stored typed valueTyped valueTyped' preserves preserves' holds holds'

/-- Building by conversion is building around the converted value. In every reachable state, for every
type that is listed once and every conversion to it, the value that is read is converted exactly once,
the union is the one that is built around the image, with the type of the image as its active
alternative, and the image preserves the value, so that unions around images of values that differ
differ. Building from text is building around the text. -/
theorem conversions_build (types : List Ty) (program : List (Op Ty)) :
    ∃ entries, ∃ state : State Tagged,
      steps .tagged types program (State.initial types) = .ok (entries, state) ∧
      (∀ source target conversion, types.length ≤ maxArity → types.count target = 1 →
        Conversion.find? source target = some conversion →
        ∃ index, typeAt? types index = some target ∧
          BuildsByConversion types state source target index conversion) ∧
      ∀ register value, perform .tagged types (.constructText register value) =
        perform .tagged types (.construct (.type .string) register value) := by
  obtain ⟨entries, state, tagged, -, typed⟩ := steps_initial types program
  refine ⟨entries, state.stored, tagged, ?_, perform_constructText⟩
  intro source target conversion short once selected
  obtain ⟨index, picked⟩ := Selector.build?_of_count short once
  exact ⟨index, (Selector.build?_found picked).2, buildsByConversion_stored typed picked selected⟩

end Machine

end TaggedUnion
