import TaggedUnion.Proofs.Registers
import TaggedUnion.Proofs.Table
import TaggedUnion.Proofs.Walk

/-!
# Typed states

A state of plain unions is typed if each of its unions holds a value of the alternative at its
index and its table fits the list. On the stored form of a typed union each walk has an outcome, the
one of the operation on the plain union.
-/

set_option autoImplicit false

namespace TaggedUnion

open Registry

/-- The union holds a value of the alternative at its index. -/
def Choice.Typed (types : List Ty) (union : Choice) : Prop :=
  (Datum.variant union.index union.value).Typed (.variant types)

/-- The union in tagged storage. -/
def Choice.stored (union : Choice) : Tagged := Tagged.place union.index (Stored.ofDatum union.value)

/-- The state with its unions in tagged storage. -/
def State.stored (state : State Choice) : State Tagged :=
  ⟨state.registers.map (Option.map Choice.stored), state.table, state.nextId⟩

structure State.Typed (types : List Ty) (state : State Choice) : Prop where
  registers : ∀ register union, state.content register = some union → union.Typed types
  table : state.table.Fits types

variable {types : List Ty}

theorem Choice.Typed.found {union : Choice} (typed : union.Typed types) :
    ∃ type, types.length ≤ maxArity ∧ typeAt? types union.index = some type ∧
      union.value.Typed type := by
  obtain ⟨index, content, type, same, short, found, contentTyped⟩ := Datum.Typed.variant_inv typed
  cases same
  exact ⟨type, short, found, contentTyped⟩

theorem Choice.typed_of {index : Nat} {type : Ty} {value : Datum} (short : types.length ≤ maxArity)
    (found : typeAt? types index = some type) (typed : value.Typed type) :
    Choice.Typed types ⟨index, value⟩ := .variant short found typed

theorem State.initial_typed (types : List Ty) : (State.initial types).Typed types where
  registers register union held := by
    have empty : (State.initial types : State Choice).content register = none :=
      Vector.getElem_replicate register.isLt
    cases empty.symm.trans held
  table := HandlerTable.fresh_fits types

theorem State.initial_stored (types : List Ty) :
    (State.initial types : State Choice).stored = State.initial types := by
  simp [State.stored, State.initial]

/-! ## The walks of a typed union -/

namespace Choice.Typed

variable {union : Choice}

theorem drop_stored (typed : union.Typed types) :
    Tagged.drop types union.stored = .ok union.value.drops := by
  obtain ⟨type, short, found, contentTyped⟩ := typed.found
  unfold Tagged.drop Choice.stored Tagged.place
  rw [Chain.drop_place found (typeAt?_short short found)]
  exact Stored.drop_ofDatum contentTyped

theorem clone_stored (typed : union.Typed types) (nextId : Nat) :
    Tagged.clone types nextId union.stored = .ok ((union.clone nextId).map Choice.stored) := by
  obtain ⟨type, short, found, contentTyped⟩ := typed.found
  simp only [Tagged.clone, Choice.stored, Tagged.place,
    Chain.clone_place found (typeAt?_short short found), Stored.clone_ofDatum contentTyped,
    Fault.ok_bind, Fault.pure_eq_ok]
  rfl

theorem hash_stored (typed : union.Typed types) : Tagged.hash types union.stored = .ok union.hash := by
  obtain ⟨type, short, found, contentTyped⟩ := typed.found
  simp only [Tagged.hash, Choice.stored, Tagged.place,
    Chain.hash_place found (typeAt?_short short found), Stored.hash_ofDatum contentTyped,
    Fault.ok_bind, Fault.pure_eq_ok]
  rfl

theorem compare_stored {other : Choice} (typed : union.Typed types) (otherTyped : other.Typed types) :
    Tagged.compare types union.stored other.stored = .ok (union.compare other) := by
  obtain ⟨type, short, found, contentTyped⟩ := typed.found
  obtain ⟨type', -, found', contentTyped'⟩ := otherTyped.found
  have below := typeAt?_short short found
  simp only [Tagged.compare, Choice.compare, Choice.stored, Tagged.place,
    tagOf_inj below (typeAt?_short short found')]
  split
  · rename_i same
    rw [← same] at found' ⊢
    cases found.symm.trans found'
    rw [Chain.compare_place found below]
    exact Stored.compare_ofDatum contentTyped contentTyped'
  · rfl

theorem debug_stored (typed : union.Typed types) (style : Style) :
    Tagged.debug types style union.stored = .ok (union.value.debug style) := by
  obtain ⟨type, short, found, contentTyped⟩ := typed.found
  unfold Tagged.debug Choice.stored Tagged.place
  rw [Chain.debug_place found (typeAt?_short short found)]
  exact Stored.debug_ofDatum contentTyped style

theorem display_stored (typed : union.Typed types) (shown : Ty.allDisplayable types = true)
    (style : Style) : Tagged.display types style union.stored = .ok (union.value.display style) := by
  obtain ⟨type, short, found, contentTyped⟩ := typed.found
  unfold Tagged.display Choice.stored Tagged.place
  rw [Chain.display_place found (typeAt?_short short found)]
  exact Stored.display_ofDatum contentTyped (Stored.displayable_typeAt? shown found) style

theorem clone (typed : union.Typed types) (nextId : Nat) : (union.clone nextId).value.Typed types := by
  obtain ⟨type, short, found, contentTyped⟩ := typed.found
  exact Choice.typed_of short found (contentTyped.renumber nextId)

theorem active (typed : union.Typed types) {index : Nat} {type : Ty}
    (found : typeAt? types index = some type) (same : tagOf union.index = tagOf index) :
    union.index = index ∧ union.value.Typed type := by
  obtain ⟨type', short, found', contentTyped⟩ := typed.found
  have here : union.index = index :=
    (tagOf_inj (typeAt?_short short found') (typeAt?_short short found)).mp same
  rw [here] at found'
  cases found.symm.trans found'
  exact ⟨here, contentTyped⟩

end Choice.Typed

/-! ## Registers of typed states -/

theorem State.content_stored (state : State Choice) (register : Register) :
    state.stored.content register = (state.content register).map Choice.stored :=
  Vector.getElem_map _ register.isLt

theorem State.put_stored (state : State Choice) (register : Register) (held : Option Choice) :
    (state.put register held).stored = state.stored.put register (held.map Choice.stored) := by
  simp [State.put, State.stored, Vector.map_set]

theorem State.Typed.put {state : State Choice} (typed : state.Typed types) (register : Register)
    {held : Option Choice} (heldTyped : ∀ union, held = some union → union.Typed types) :
    (state.put register held).Typed types where
  registers other union found := by
    by_cases same : register = other
    · subst same
      rw [State.content_put_self] at found
      exact heldTyped union found
    · rw [state.content_put_of_ne same] at found
      exact typed.registers other union found
  table := typed.table

theorem State.Typed.contents {state : State Choice} (typed : state.Typed types) (union : Choice)
    (member : some union ∈ state.registers.toList) : union.Typed types := by
  obtain ⟨register, held⟩ := state.mem_registers_iff.mp member
  exact typed.registers register union held

end TaggedUnion
