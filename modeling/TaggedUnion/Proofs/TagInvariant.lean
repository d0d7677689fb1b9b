import TaggedUnion.Proofs.Refinement

/-!
# Tags in step with their storage

The tag of a union counts the cells before its data: it is below the number of alternatives, and
the chain has exactly as many cells whose field in use is the rest, and then one with data of the
type at the tag. The invariant holds for every union in a reachable state, inside of other values
too, and keeps every walk on its way.
-/

set_option autoImplicit false

namespace TaggedUnion

open Registry

/-- The value in storage has the type, and each union in it has a tag in step with its chain. -/
inductive Stored.WellFormed : Ty → Stored → Prop where
  | leaf {type : Ty} {value : Leaf} : value.HasType type → WellFormed type (.leaf value)
  | list {type : Ty} {items : List Stored} :
      (∀ item ∈ items, WellFormed type item) → WellFormed (.list type) (.list items)
  | none {type : Ty} : WellFormed (.option type) .none
  | some {type : Ty} {content : Stored} :
      WellFormed type content → WellFormed (.option type) (.some content)
  | pair {type type' : Ty} {first second : Stored} :
      WellFormed type first → WellFormed type' second →
      WellFormed (.pair type type') (.pair first second)
  | record {label : String} {type : Ty} {content : Stored} :
      WellFormed type content → WellFormed (.record label type) (.record label content)
  | variant {types : List Ty} {type : Ty} {tag : UInt8} {value : Stored} :
      types.length ≤ maxArity → tag < arity types → typeAt? types tag.toNat = Option.some type →
      WellFormed type value →
      WellFormed (.variant types) (.variant tag (Chain.place tag.toNat value))

/-- A union over the list, with its tag in step. -/
def Tagged.WellFormed (types : List Ty) (union : Tagged) : Prop :=
  (Stored.variant union.tag union.storage).WellFormed (.variant types)

namespace Registry

theorem toNat_arity {types : List Ty} (short : types.length < 256) :
    (arity types).toNat = types.length := by
  induction types with
  | nil => rfl
  | cons type types ih =>
      rw [List.length_cons] at short ⊢
      have rest := ih (by omega)
      simp only [arity, UInt8.toNat_add, UInt8.toNat_one, rest]
      omega

theorem tagOf_lt_arity {types : List Ty} {index : Nat} {type : Ty} (short : types.length ≤ maxArity)
    (found : typeAt? types index = some type) : tagOf index < arity types := by
  have below := typeAt?_lt found
  have counted : (arity types).toNat = types.length :=
    toNat_arity (Nat.lt_of_le_of_lt short (by decide))
  rw [UInt8.lt_iff_toNat_lt, counted, toNat_tagOf (typeAt?_short short found)]
  exact below

/-- The lookup of a name comes to the end of the list exactly for a tag that is not below the
length of the list, and with what the list left of the tag. -/
theorem nameAt_eq_error_iff {types : List Ty} {tag rest : UInt8} :
    nameAt types tag = .error rest ↔
      types.length ≤ tag.toNat ∧ rest.toNat = tag.toNat - types.length := by
  induction types generalizing tag with
  | nil =>
      simp only [nameAt, List.length_nil, Nat.zero_le, Nat.sub_zero, true_and, Except.error.injEq]
      rw [eq_comm, ← UInt8.toNat_inj]
  | cons type types ih =>
      rw [nameAt, List.length_cons]
      split
      · rename_i zero
        subst zero
        simp
      · rename_i more
        have positive : tag.toNat ≠ 0 := fun zero => more (UInt8.toNat_inj.mp zero)
        have one : 1 ≤ tag.toNat := Nat.one_le_iff_ne_zero.mpr positive
        have less : (tag - 1).toNat = tag.toNat - 1 :=
          UInt8.toNat_sub_of_le tag 1 (UInt8.le_iff_toNat_le.mpr one)
        rw [ih, less]
        omega

end Registry

theorem Stored.ofData_wellFormed {type : Ty} {items : List Datum}
    (each : ∀ item ∈ items, (ofDatum item).WellFormed type) :
    ∀ item ∈ ofData items, item.WellFormed type := by
  induction items with
  | nil => exact List.forall_mem_nil _
  | cons first rest ih =>
      intro item member
      rcases List.mem_cons.mp member with same | later
      · exact same ▸ each first List.mem_cons_self
      · exact ih (fun item inside => each item (List.mem_cons_of_mem _ inside)) item later

theorem Datum.Typed.wellFormed {value : Datum} {type : Ty} (typed : value.Typed type) :
    (Stored.ofDatum value).WellFormed type := by
  induction typed with
  | leaf held => exact .leaf held
  | list _ ih => exact .list (Stored.ofData_wellFormed ih)
  | none => exact .none
  | some _ ih => exact .some ih
  | pair _ _ first second => exact .pair first second
  | record _ ih => exact .record ih
  | @variant index content types type short found _ ih =>
      have counted := toNat_tagOf (typeAt?_short short found)
      have placed := Stored.WellFormed.variant short (tagOf_lt_arity short found)
        (by rw [counted]; exact found) ih
      rw [counted] at placed
      exact placed

/-- Of a list of which no values can be built there are no unions. -/
theorem State.Typed.vacant {types : List Ty} {state : State Choice} (typed : state.Typed types)
    (unbuildable : types = [] ∨ maxArity < types.length) (register : Register) :
    state.content register = none := by
  cases held : state.content register with
  | none => rfl
  | some union =>
      obtain ⟨type, short, found, -⟩ := (typed.registers register union held).found
      have inside := typeAt?_lt found
      rcases unbuildable with rfl | long
      · exact absurd inside (Nat.not_lt_zero _)
      · exact absurd short (Nat.not_le_of_lt long)

namespace Machine

open Procedure

theorem nameOfTag_panics {types : List Ty} {tag rest : UInt8} (named : nameAt types tag = .error rest)
    {state : State Choice} {outcome : Outcome Choice Reply}
    (performed : perform .plain types (.nameOfTag (some tag)) state = .ok outcome) :
    outcome.reply = .failed (.panic (.tagOutOfRange rest)) := by
  have failed : perform .plain types (.nameOfTag (some tag)) state =
      .ok ⟨.error (.panic (.tagOutOfRange rest)), state, []⟩ := by
    simp only [perform, operand, orFail, bind_eq_andThen, answer_andThen, named]
    rfl
  cases performed.symm.trans failed
  rfl

/-- In every reachable state each union has a tag in step with its storage, and a list of which no
values can be built has no unions. From there every operation has an outcome, and so have the last
drops: no walk comes to the end of the list or to a field that is not in use. Only the lookup of a
name by a tag that is not below the length of the list panics for a tag out of range. -/
theorem tags_in_step (types : List Ty) (program : List (Op Ty)) :
    ∃ entries final, ∃ state : State Tagged,
      steps .tagged types program (State.initial types) = .ok (entries, state) ∧
      dropContents .tagged types state.registers.toList = .ok final ∧
      (∀ register union, state.content register = some union → union.WellFormed types) ∧
      (types = [] ∨ maxArity < types.length → ∀ register, state.content register = none) ∧
      ∀ op, ∃ entry next, step .tagged types op state = .ok (entry, next) ∧
        ∀ rest, entry.reply = .failed (.panic (.tagOutOfRange rest)) ↔
          ∃ tag, op = .nameOfTag (some tag) ∧ types.length ≤ tag.toNat ∧
            rest.toNat = tag.toNat - types.length := by
  obtain ⟨entries, state, ran, -, typed⟩ := steps_initial types program
  obtain ⟨final, dropped, -⟩ := dropContents_stored typed.contents
  rw [← Vector.toList_map] at dropped
  refine ⟨entries, final, state.stored, ran, dropped, ?_, ?_, ?_⟩
  · intro register union held
    rw [state.content_stored] at held
    obtain ⟨choice, chosen, rfl⟩ := Option.map_eq_some_iff.mp held
    exact (typed.registers register choice chosen).wellFormed
  · intro unbuildable register
    rw [state.content_stored, typed.vacant unbuildable register]
    rfl
  · intro op
    obtain ⟨outcome, performed, stepped, -, -, allowed⟩ := step_stored typed op
    refine ⟨_, _, stepped, fun rest => ?_⟩
    simp only [← nameAt_eq_error_iff]
    constructor
    · exact allowed _
    · rintro ⟨tag, rfl, named⟩
      exact nameOfTag_panics named performed

end Machine

end TaggedUnion
