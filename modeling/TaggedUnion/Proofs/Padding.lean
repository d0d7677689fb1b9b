import TaggedUnion.Proofs.Appending
import TaggedUnion.Proofs.Attempts
import TaggedUnion.Proofs.Moves

/-!
# Padding is exact

A list that is padded has its types at their indices and in each slot that they leave the marker of
the slot, up to the greatest number of alternatives; a longer list cannot be padded. A marker has
one value, so the tag alone tells a union that holds it from all other unions over the list. Else
the alternatives with markers are like all others: in every reachable state unions are built,
cloned, compared, written and dispatched at them.
-/

set_option autoImplicit false

namespace TaggedUnion

open Registry

variable {types : List Ty} {type : Ty} {index slot : Nat}

namespace Registry

/-! ## Where the recursion ends -/

/-- The slots are used up before the types exactly if there are too few of them. -/
theorem padWith_eq_none_iff {placed : List Ty} {slots : List Nat} :
    padWith types placed slots = none ↔ slots.length < types.length := by
  constructor
  · intro refused
    by_contra room
    have filled : padWith types placed slots = some _ := padWith_eq (Nat.le_of_not_lt room)
    cases refused.symm.trans filled
  · intro long
    induction types generalizing placed slots with
    | nil => cases long
    | cons type types ih =>
        cases slots with
        | nil => rfl
        | cons slot slots => exact ih (Nat.lt_of_succ_lt_succ long)

theorem padded?_eq_none_iff : padded? types = none ↔ maxArity < types.length := by
  rw [padded?, padWith_eq_none_iff, List.length_range]

/-- The list leaves the slot to its marker. -/
def Free (types : List Ty) (slot : Nat) : Prop := types.length ≤ slot ∧ slot < maxArity

theorem typeAt?_filler (free : Free types slot) :
    typeAt? (types ++ fillers types) slot = some (.empty slot) := by
  obtain ⟨past, inside⟩ := free
  rw [typeAt?_eq_getElem?, List.getElem?_append_right past, fillers, List.getElem?_map,
    List.getElem?_drop, Nat.add_sub_of_le past, List.getElem?_range inside]
  rfl

section

variable (short : types.length ≤ maxArity)

include short

theorem contains_padded_iff : Contains (types ++ fillers types) type index ↔
    Contains types type index ∨ Free types index ∧ type = .empty index := by
  simp only [contains_iff_typeAt?]
  constructor
  · intro found
    by_cases below : index < types.length
    · rw [typeAt?_eq_getElem?, List.getElem?_append_left below, ← typeAt?_eq_getElem?] at found
      exact .inl found
    · have inside : index < maxArity := length_append_fillers short ▸ typeAt?_lt found
      have free : Free types index := ⟨Nat.le_of_not_lt below, inside⟩
      cases found.symm.trans (typeAt?_filler free)
      exact .inr ⟨free, rfl⟩
  · rintro (given | ⟨free, rfl⟩)
    · exact typeAt?_append _ given
    · exact typeAt?_filler free

theorem indexOf?_filler (free : Free types slot) (unlisted : .empty slot ∉ types) :
    indexOf? (types ++ fillers types) (.empty slot) = some slot := by
  simp only [indexOf?_eq_some_iff, contains_padded_iff short]
  intro other
  constructor
  · rintro (given | ⟨-, same⟩)
    · exact absurd (typeAt?_mem (contains_iff_typeAt?.mp given)) unlisted
    · exact (Ty.empty.inj same).symm
  · rintro rfl
    exact .inr ⟨free, rfl⟩

/-- A marker that is given stands in two places. -/
theorem indexOf?_filler_of_mem (free : Free types slot) (listed : .empty slot ∈ types) :
    indexOf? (types ++ fillers types) (.empty slot) = none := by
  obtain ⟨index, below, same⟩ := List.mem_iff_getElem.mp listed
  have given : Contains types (.empty slot) index := by
    rw [contains_iff_typeAt?, typeAt?_eq_getElem?, List.getElem?_eq_getElem below, same]
  rw [Option.eq_none_iff_forall_ne_some]
  intro position located
  simp only [indexOf?_eq_some_iff, contains_padded_iff short] at located
  have first : index = position := (located index).mp (.inl given)
  have second : slot = position := (located slot).mp (.inr ⟨free, rfl⟩)
  have past := free.1
  omega

end

end Registry

/-! ## Unions that hold a marker -/

def Choice.marker (slot : Nat) : Choice := ⟨slot, .leaf (.empty slot)⟩

section

variable (short : types.length ≤ maxArity) (found : typeAt? types slot = some (.empty slot))

include short found in
theorem Choice.marker_typed : (marker slot).Typed types := typed_of short found (.leaf rfl)

namespace Choice.Typed

variable {union : Choice} (typed : union.Typed types)

include typed found

theorem eq_marker (active : union.index = slot) : union = marker slot := by
  obtain ⟨type, -, found', valueTyped⟩ := typed.found
  obtain ⟨_, value⟩ := union
  cases active
  cases found'.symm.trans found
  cases valueTyped with
  | @leaf value _ held =>
      cases value with
      | empty slot' =>
          obtain rfl : slot' = _ := held
          rfl
      | _ => exact absurd held id

theorem compare_marker : (marker slot).compare union = .quiet (slot == union.index) ∧
    union.compare (marker slot) = .quiet (union.index == slot) := by
  by_cases active : union.index = slot
  · obtain rfl := typed.eq_marker found active
    simp [compare, marker, Datum.compare, Leaf.compare, Leaf.equal]
  · have apart : slot ≠ union.index := Ne.symm active
    rw [beq_false_of_ne active, beq_false_of_ne apart]
    exact ⟨if_neg apart, if_neg active⟩

theorem hash_marker_iff (short : types.length ≤ maxArity) :
    union.hash.bytes = [tagOf slot] ↔ union.index = slot := by
  constructor
  · intro same
    obtain ⟨type, -, found', -⟩ := typed.found
    have tags : tagOf union.index = tagOf slot := (List.cons.inj same).1
    exact (tagOf_inj (typeAt?_short short found') (typeAt?_short short found)).mp tags
  · intro active
    rw [typed.eq_marker found active]
    rfl

end Choice.Typed

/-- Its tag tells the union that holds the marker of the slot from all others over the list. -/
structure MarkerTold (types : List Ty) (slot : Nat) : Prop where
  formed : (Choice.marker slot).stored.WellFormed types
  only : ∀ union : Tagged, union.WellFormed types → union.tag = tagOf slot →
    union = (Choice.marker slot).stored
  compare : ∀ union : Tagged, union.WellFormed types →
    Tagged.compare types (Choice.marker slot).stored union = .ok (.quiet (tagOf slot == union.tag)) ∧
      Tagged.compare types union (Choice.marker slot).stored = .ok (.quiet (union.tag == tagOf slot))
  hash : Tagged.hash types (Choice.marker slot).stored = .ok ⟨[tagOf slot], []⟩
  hashOnly : ∀ union : Tagged, union.WellFormed types → ∃ hashed,
    Tagged.hash types union = .ok hashed ∧ (hashed.bytes = [tagOf slot] ↔ union.tag = tagOf slot)

include short found in
theorem markerTold : MarkerTold types slot := by
  have marked := Choice.marker_typed short found
  have below := typeAt?_short short found
  have active {union : Choice} (typed : union.Typed types) :
      union.stored.tag = tagOf slot ↔ union.index = slot := by
    obtain ⟨type, -, found', -⟩ := typed.found
    exact tagOf_inj (typeAt?_short short found') below
  constructor
  · exact marked.wellFormed
  · intro union formed same
    obtain ⟨choice, typed, rfl⟩ := formed.exists_choice
    rw [typed.eq_marker found ((active typed).mp same)]
  · intro union formed
    obtain ⟨choice, typed, rfl⟩ := formed.exists_choice
    obtain ⟨left, right⟩ := typed.compare_marker found
    have tags : (choice.stored.tag == tagOf slot) = (choice.index == slot) := by
      rw [Bool.eq_iff_iff, beq_iff_eq, beq_iff_eq, active typed]
    rw [marked.compare_stored typed, typed.compare_stored marked, left, right, tags,
      BEq.comm (a := tagOf slot), BEq.comm (a := slot), tags]
    exact ⟨rfl, rfl⟩
  · exact marked.hash_stored
  · intro union formed
    obtain ⟨choice, typed, rfl⟩ := formed.exists_choice
    refine ⟨choice.hash, typed.hash_stored, ?_⟩
    rw [typed.hash_marker_iff found short, active typed]

end

/-! ## Operations on markers -/

namespace Machine

/-- The operation puts the marker of the slot into the register. What was there is dropped. -/
def PutsMarker (types : List Ty) (op : Op Ty) (state : State Tagged) (register : Register)
    (slot : Nat) : Prop :=
  ∃ dropped, dropContents .tagged types [state.content register] = .ok dropped ∧
    StepShows types op state .done (state.put register (some (Choice.marker slot).stored)) dropped

/-- What operations show of a register with the marker of the slot in it. -/
structure ShowsMarker (types : List Ty) (state : State Tagged) (register : Register) (slot : Nat) :
    Prop where
  index : StepShows types (.index (some register)) state (.number slot) state []
  typeName : StepShows types (.typeName (some register)) state
    (.text (Ty.empty slot).qualifiedName) state []
  accesses : ∀ target, target.find? types = some (.empty slot, slot) →
    AccessesFind types state register (.marker slot) target (.empty slot)
  clone : ∀ copied, PutsMarker types (.clone (some register) (some copied)) state copied slot
  drop : StepShows types (.drop (some register)) state .done (state.put register none) []
  compare : ∀ other union, state.Holds types other union → ∀ negated,
    StepShows types (.compare negated (some register) (some other)) state
        (.truth ((slot == union.index) != negated)) state [] ∧
      StepShows types (.compare negated (some other) (some register)) state
        (.truth ((union.index == slot) != negated)) state []
  hash : Ty.allHashable types = true →
    StepShows types (.hash (some register)) state (.bytes [tagOf slot]) state []
  display : Ty.allDisplayable types = true → ∀ style,
    StepShows types (.render .readers (some register) (some style)) state (.text "") state []
  debug : ∀ style,
    StepShows types (.render .inspection (some register) (some style)) state (.text "Empty") state []
  dispatch : ∃ handler handler' events, state.table[slot]? = some handler ∧
    handler.run? (.empty slot) (.leaf (.empty slot)) = some (handler', events) ∧
    StepShows types (.dispatch (some register)) state .done
      { state with table := List.set state.table slot handler' } events

/-- The slot of a marker is used like any other. -/
structure ServesMarker (types : List Ty) (state : State Tagged) (slot : Nat) : Prop where
  picked : (Selector.position slot).build? types = some (.empty slot, slot)
  constructs : ∀ target register, target.build? types = some (.empty slot, slot) →
    PutsMarker types (.construct target (some register) (some .null)) state register slot
  installs : ∀ kind target label, target.find? types = some (.empty slot, slot) →
    StepShows types (.install kind target label) state .done
      { state with table := List.set state.table slot (.install kind (.empty slot) label) } []
  shows : ∀ register, state.content register = some (Choice.marker slot).stored →
    ShowsMarker types state register slot

section

variable {state : State Choice} {register : Register} (typed : state.Typed types)

include typed

theorem put_marker {op : Op Ty} (shows : (perform .plain types op).Shows state [] .done
      (state.put register (some (.marker slot))) (Choice.dropsOf (state.content register))) :
    PutsMarker types op state.stored register slot := by
  have shown := step_shows typed shows
  rw [State.put_stored] at shown
  exact ⟨_, dropContents_content typed register, shown⟩

variable (found : typeAt? types slot = some (.empty slot))

include found

theorem showsMarker_stored (held : state.content register = some (.marker slot)) :
    ShowsMarker types state.stored register slot := by
  have presents := presents_stored typed held
  constructor
  · exact presents.index
  · exact step_shows typed (typeName_shows held found)
  · exact fun target picked => presents.finds target (.empty slot) picked
  · exact fun copied => put_marker typed (clone_shows held copied)
  · rw [← Option.map_none, ← State.put_stored]
    exact step_shows typed (drop_shows held)
  · intro other union holds negated
    obtain ⟨left, right⟩ := holds.typed.compare_marker found
    have compared := presents.compare other union holds negated
    rw [left, right] at compared
    exact compared
  · exact presents.hash
  · exact presents.display
  · exact presents.debug
  · obtain ⟨handler, inSlot, accepts⟩ := typed.table.slot found
    obtain ⟨handler', events, ran, -⟩ := Handler.run?_accepts accepts (.leaf (.empty slot))
    have dispatched : (Choice.marker slot).dispatch types state.table =
        .ok (List.set state.table slot handler', events) := Choice.dispatch_of_slot found inSlot ran
    exact ⟨handler, handler', events, inSlot, ran, step_shows typed (dispatch_shows held dispatched)⟩

theorem servesMarker_stored (short : types.length ≤ maxArity) :
    ServesMarker types state.stored slot := by
  constructor
  · exact Selector.build?_eq_some_iff.mpr ⟨short, Selector.find?_position found⟩
  · intro target register picked
    exact put_marker typed (construct_shows picked rfl)
  · intro kind target label picked
    have installed : (perform .plain types (.install kind target label)).Shows state [] .done
        { state with table := List.set state.table slot (.install kind (.empty slot) label) } [] := by
      intro outcome ran
      rw [perform_install, picked] at ran
      cases ran
      refine ⟨rfl, ?_, rfl⟩
      rw [HandlerTable.install_eq_set]
    exact step_shows typed installed
  · intro register content
    have holds : state.stored.Holds types register (.marker slot) :=
      ⟨Choice.marker_typed short found, content⟩
    exact showsMarker_stored typed found (typed.holds_iff.mp holds)

end

/-! ## Padded lists -/

/-- The type is found at the index, by whatever asks for it. -/
structure Resolves (types : List Ty) (type : Ty) (index : Nat) : Prop where
  located : indexOf? types type = some index
  accessed : (Selector.type type).build? types = some (type, index)
  told : Tells types (.locate type) (.number index)

/-- The list has the given types where they were, and markers in the slots that they leave. -/
structure FillsUp (types padded : List Ty) : Prop where
  length : padded.length = maxArity
  given : padded.take types.length = types
  marked : ∀ slot, Free types slot → typeAt? padded slot = some (.empty slot)
  arity : Tells padded .arity (.number maxArity)
  kept : ∀ type index, Contains types type index → Contains padded type index ∧
    (Selector.position index).build? padded = some (type, index)
  /-- A type that is listed once keeps its index, unless it is the marker of a slot that is left. -/
  resolved : ∀ type index, indexOf? types type = some index →
    (∀ slot, Free types slot → type ≠ .empty slot) → Resolves padded type index
  /-- The markers in the slots that are left are found, unless they are given as well. -/
  fillers : ∀ slot, Free types slot → .empty slot ∉ types → Resolves padded (.empty slot) slot
  ambiguous : ∀ slot, Free types slot → .empty slot ∈ types → indexOf? padded (.empty slot) = none
  hashable : Ty.allHashable padded = Ty.allHashable types
  displayable : Ty.allDisplayable padded = Ty.allDisplayable types

section

variable (short : types.length ≤ maxArity)

include short

theorem resolves_padded (located : indexOf? (types ++ fillers types) type = some index) :
    Resolves (types ++ fillers types) type index := by
  have told := locate_tells located
  rw [toNat_tagOf (typeAt?_short (length_append_fillers short).le (indexOf?_found located))] at told
  have found : (Selector.type type).find? (types ++ fillers types) = some (type, index) := by
    rw [Selector.find?, located]
    rfl
  exact ⟨located, Selector.build?_eq_some_iff.mpr ⟨(length_append_fillers short).le, found⟩, told⟩

theorem fillsUp : FillsUp types (types ++ fillers types) where
  length := length_append_fillers short
  given := List.take_left
  marked _ := typeAt?_filler
  arity := by
    apply Tells.of_answer
    intro state
    rw [perform, toNat_arity (by rw [length_append_fillers short]; decide), length_append_fillers short]
    rfl
  kept type index given := by
    have member := (contains_padded_iff short).mpr (.inl given)
    exact ⟨member, Selector.build?_eq_some_iff.mpr ⟨(length_append_fillers short).le,
      Selector.find?_position (contains_iff_typeAt?.mp member)⟩⟩
  resolved type index located unmarked := by
    apply resolves_padded short
    rw [indexOf?_append, located]
    intro listed
    obtain ⟨slot, past, inside, same⟩ := mem_fillers.mp listed
    exact unmarked slot ⟨past, inside⟩ same
  fillers _ free unlisted := resolves_padded short (indexOf?_filler short free unlisted)
  ambiguous _ := indexOf?_filler_of_mem short
  hashable := by
    have marked : Ty.allHashable (Registry.fillers types) = true := Op.suits_fillers (.hash none)
    rw [Ty.allHashable_append, marked, Bool.and_true]
  displayable := by
    have marked : Ty.allDisplayable (Registry.fillers types) = true :=
      Op.suits_fillers (.render .readers none none)
    rw [Ty.allDisplayable_append, marked, Bool.and_true]

end

/-- Padding fills a list up with markers, exactly, or refuses it. -/
structure PaddingExact (types : List Ty) : Prop where
  refused : padded? types = none ↔ maxArity < types.length
  filledUp : types.length ≤ maxArity → ∃ padded, padded? types = some padded ∧
    FillsUp types padded ∧ (∀ slot, Free types slot → MarkerTold padded slot) ∧
    ∀ program, ∃ entries, ∃ state : State Tagged,
      steps .tagged padded program (State.initial padded) = .ok (entries, state) ∧
      ∀ slot, Free types slot → ServesMarker padded state slot

/-- Whatever the list is, its padded form has exactly its types and the markers of the slots that
they leave, each in its place and each usable wherever a program comes to; and it has none if it is
longer than a union allows. -/
theorem padding_exact (types : List Ty) : PaddingExact types where
  refused := padded?_eq_none_iff
  filledUp := by
    intro short
    have shortPadded := (length_append_fillers short).le
    refine ⟨types ++ fillers types, padded?_eq short, fillsUp short, ?_, ?_⟩
    · exact fun slot free => markerTold shortPadded (typeAt?_filler free)
    · intro program
      obtain ⟨entries, state, tagged, -, typed⟩ := steps_initial (types ++ fillers types) program
      refine ⟨entries, state.stored, tagged, fun slot free => ?_⟩
      exact servesMarker_stored typed (typeAt?_filler free) shortPadded

end Machine

end TaggedUnion
