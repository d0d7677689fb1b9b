import Mathlib.Data.List.Perm.Basic
import TaggedUnion.Proofs.Offering

/-!
# Looking alternatives up

The registry is read in several ways: by deriving that a type is at an index, by the type at an
index, by counting the positions of a type, by counting a tag down. All of them agree, on every list
whose indices and whose length fit into a tag, also on one of which no values can be built.
-/

set_option autoImplicit false

namespace TaggedUnion

open Registry

variable {types : List Ty} {type : Ty} {index : Nat}

namespace Registry

/-! ## The positions of a type -/

theorem positionsFrom_nodup (start : Nat) : (positionsFrom start type types).Nodup := by
  induction types generalizing start with
  | nil => exact List.nodup_nil
  | cons head tail ih =>
      unfold positionsFrom
      split
      · apply List.nodup_cons.mpr
        constructor
        · intro again
          obtain ⟨offset, same, -⟩ := mem_positionsFrom.mp again
          omega
        · exact ih (start + 1)
      · exact ih (start + 1)

theorem length_positionsFrom (start : Nat) :
    (positionsFrom start type types).length = types.count type := by
  induction types generalizing start with
  | nil => rfl
  | cons head tail ih =>
      unfold positionsFrom
      split
      · rename_i same
        rw [List.length_cons, ih, same, List.count_cons_self]
      · rename_i apart
        rw [ih, List.count_cons_of_ne apart]

/-- The positions of a type are the indices at which it can be derived. -/
theorem mem_positions_iff : index ∈ positionsFrom 0 type types ↔ Contains types type index := by
  rw [contains_iff_typeAt?, mem_positionsFrom]
  constructor
  · rintro ⟨offset, rfl, found⟩
    rwa [Nat.zero_add]
  · exact fun found => ⟨index, (Nat.zero_add index).symm, found⟩

theorem indexOf?_eq_some_iff_positions :
    indexOf? types type = some index ↔ positionsFrom 0 type types = [index] := by
  constructor
  · intro located
    unfold indexOf? at located
    split at located
    · rename_i position positions
      cases located
      exact positions
    · cases located
  · intro positions
    rw [indexOf?, positions]

/-- A type is located at an index if this is the only one at which it can be derived. -/
theorem indexOf?_eq_some_iff :
    indexOf? types type = some index ↔ ∀ other, Contains types type other ↔ other = index := by
  rw [indexOf?_eq_some_iff_positions]
  constructor
  · intro positions other
    rw [← mem_positions_iff, positions, List.mem_singleton]
  · intro only
    apply List.perm_singleton.mp
    apply (List.perm_ext_iff_of_nodup (positionsFrom_nodup 0) (List.nodup_singleton index)).mpr
    intro other
    rw [mem_positions_iff, only other, List.mem_singleton]

theorem indexOf?_isSome_iff : (indexOf? types type).isSome = true ↔ types.count type = 1 := by
  rw [← length_positionsFrom 0, List.length_eq_one_iff, Option.isSome_iff_exists]
  simp only [indexOf?_eq_some_iff_positions]

theorem contains_unique_iff : (∃! index, Contains types type index) ↔ types.count type = 1 := by
  rw [← indexOf?_isSome_iff, Option.isSome_iff_exists]
  constructor
  · rintro ⟨index, member, only⟩
    exact ⟨index, indexOf?_eq_some_iff.mpr fun other => ⟨only other, fun same => same ▸ member⟩⟩
  · rintro ⟨index, located⟩
    have only := indexOf?_eq_some_iff.mp located
    exact ⟨index, (only index).mpr rfl, fun other => (only other).mp⟩

end Registry

/-! ## Selection by type -/

/-- The type by which the operation selects an alternative. -/
def Op.selectedType? : Op Ty → Option Ty
  | .construct (.type target) _ _ | .convert target _ _ _ | .test (.type target) _
  | .read _ (.type target) _ | .edit _ _ (.type target) _ _ | .take _ (.type target) _
  | .install _ (.type target) _ | .locate target => some target
  | .constructText _ _ => some .string
  | _ => none

/-- Apart from the place of the type that it selects, the operation finds what it needs. Only what
builds a value needs more: a list of which values can be built, and the conversion it asks for. -/
def Op.admitted (types : List Ty) : Op Ty → Bool
  | .construct _ _ _ | .constructText _ _ => types.length ≤ maxArity
  | .convert target source _ _ =>
    types.length ≤ maxArity && (Conversion.find? source target).isSome
  | _ => true

namespace Selector

/-- The alternative that a type selects is the only one of that type. -/
theorem find?_type_eq_some_iff {picked : Ty × Nat} :
    (Selector.type type).find? types = some picked ↔
      picked.1 = type ∧ ∀ other, Contains types type other ↔ other = picked.2 := by
  rw [find?, Option.map_eq_some_iff]
  constructor
  · rintro ⟨index, located, rfl⟩
    exact ⟨rfl, indexOf?_eq_some_iff.mp located⟩
  · rintro ⟨rfl, only⟩
    exact ⟨picked.2, indexOf?_eq_some_iff.mpr only, rfl⟩

theorem find?_type_isSome_iff :
    ((Selector.type type).find? types).isSome = true ↔ types.count type = 1 := by
  rw [find?, Option.isSome_map, indexOf?_isSome_iff]

theorem build?_type_isSome_iff :
    ((Selector.type type).build? types).isSome = true ↔
      types.length ≤ maxArity ∧ types.count type = 1 := by
  rw [← find?_type_isSome_iff, Option.isSome_iff_exists, Option.isSome_iff_exists]
  simp only [build?_eq_some_iff, exists_and_left]

end Selector

theorem Op.offeredBy_iff_of_selected {op : Op Ty} (selects : op.selectedType? = some type) :
    op.offeredBy types = true ↔ op.admitted types = true ∧ types.count type = 1 := by
  have built : ((Selector.type type).build? types).isSome = true ↔
      decide (types.length ≤ maxArity) = true ∧ types.count type = 1 := by
    rw [Selector.build?_type_isSome_iff, decide_eq_true_iff]
  cases op with
  | construct target =>
      cases target with
      | position => cases selects
      | type target =>
          cases selects
          exact built
  | constructText =>
      cases selects
      exact built
  | convert target source =>
      cases selects
      simp only [offeredBy, admitted, Bool.and_eq_true, built, and_right_comm]
  | test target | read _ target | edit _ _ target | take _ target | install _ target =>
      cases target with
      | position => cases selects
      | type target =>
          cases selects
          simp only [offeredBy, admitted, Selector.find?_type_isSome_iff, true_and]
  | locate target =>
      cases selects
      simp only [offeredBy, admitted, indexOf?_isSome_iff, true_and]
  | _ => cases selects

/-! ## What is told of a list -/

namespace Machine

open Procedure

/-- Whatever the state is, the operation has the reply and changes and logs nothing. -/
def Tells (types : List Ty) (op : Op Ty) (reply : Reply) : Prop :=
  ∀ state : State Tagged,
    step .tagged types op state = .ok (⟨reply, tags .tagged state, []⟩, state)

theorem Tells.of_answer {op : Op Ty} {reply : Reply}
    (performed : ∀ state, perform .tagged types op state = .ok ⟨.ok reply, state, []⟩) :
    Tells types op reply :=
  fun state => step_ok_iff.mpr ⟨_, performed state, rfl, rfl⟩

theorem Tells.of_failure {op : Op Ty} {cause : Failure}
    (performed : ∀ state, perform .tagged types op state = .ok ⟨.error cause, state, []⟩) :
    Tells types op (.failed cause) :=
  fun state => step_ok_iff.mpr ⟨_, performed state, rfl, rfl⟩

theorem locate_tells (located : indexOf? types type = some index) :
    Tells types (.locate type) (.number (tagOf index).toNat) := by
  apply Tells.of_answer
  intro state
  rw [perform, located]
  rfl

theorem typeAt_tells (found : typeAt? types index = some type) :
    Tells types (.typeAt index) (.text type.qualifiedName) := by
  apply Tells.of_answer
  intro state
  rw [perform, found]
  rfl

theorem nameOfTag_tells {tag : UInt8} {name : String} (named : nameAt types tag = .ok name) :
    Tells types (.nameOfTag (some tag)) (.text name) := by
  apply Tells.of_answer
  intro state
  simp only [perform, operand, orFail, bind_eq_andThen, answer_andThen, named]
  rfl

theorem nameOfTag_tells_panic {tag rest : UInt8} (named : nameAt types tag = .error rest) :
    Tells types (.nameOfTag (some tag)) (.failed (.panic (.tagOutOfRange rest))) := by
  apply Tells.of_failure
  intro state
  simp only [perform, operand, orFail, bind_eq_andThen, answer_andThen, named]
  rfl

/-- All ways to look up an alternative of the list, its index, its type and its name agree. -/
structure LookupsAgree (types : List Ty) : Prop where
  contains : ∀ type index, Contains types type index ↔ typeAt? types index = some type
  /-- The tag of an index is the index, and there is room to count to the next. -/
  counted : ∀ type index, Contains types type index →
    (tagOf index).toNat = index ∧ 1 + (tagOf index).toNat < 256
  unique : ∀ type, (∃! index, Contains types type index) ↔ types.count type = 1
  /-- An operation that selects by a type means the only alternative of that type. -/
  selected : ∀ type index, (Selector.type type).find? types = some (type, index) ↔
    ∀ other, Contains types type other ↔ other = index
  located : ∀ type, types.count type = 1 → ∃ index, typeAt? types index = some type ∧
    Tells types (.locate type) (.number index) ∧
    Tells types (.typeAt index) (.text type.qualifiedName) ∧
    Tells types (.nameOfTag (some (tagOf index))) (.text type.qualifiedName)
  refused : ∀ type op, op.selectedType? = some type → types.count type ≠ 1 →
    Tells types op (.failed .unsupported)
  arity : Tells types .arity (.number types.length)
  named : ∀ tag : UInt8, tag.toNat < types.length → ∃ type, typeAt? types tag.toNat = some type ∧
    Tells types (.nameOfTag (some tag)) (.text type.qualifiedName)
  outOfRange : ∀ tag : UInt8, types.length ≤ tag.toNat → ∃ rest,
    Tells types (.nameOfTag (some tag)) (.failed (.panic (.tagOutOfRange rest))) ∧
    (Panic.tagOutOfRange rest).message = "internal error: entered unreachable code: tag " ++
      (tag.toNat - types.length).repr ++ " is out of range"
  /-- Wherever a program comes to, a list of which no values can be built has no unions, and an
  operation that selects by a type is offered exactly if the type is listed exactly once, unless it
  builds a value that cannot be built. -/
  reached : ∀ program, ∃ entries, ∃ state : State Tagged,
    steps .tagged types program (State.initial types) = .ok (entries, state) ∧
    (maxArity < types.length → ∀ register, state.content register = none) ∧
    ∀ type op, op.selectedType? = some type →
      ∃ entry next, step .tagged types op state = .ok (entry, next) ∧
        (entry.reply ≠ .failed .unsupported ↔ op.admitted types = true ∧ types.count type = 1)

theorem located_of_count (counted : types.length ≤ 255) (once : types.count type = 1) :
    ∃ index, typeAt? types index = some type ∧
      Tells types (.locate type) (.number index) ∧
      Tells types (.typeAt index) (.text type.qualifiedName) ∧
      Tells types (.nameOfTag (some (tagOf index))) (.text type.qualifiedName) := by
  obtain ⟨index, located⟩ := Option.isSome_iff_exists.mp (indexOf?_isSome_iff.mpr once)
  have found := indexOf?_found located
  have short : index < 256 := by
    have below := typeAt?_lt found
    omega
  have tells := locate_tells located
  rw [toNat_tagOf short] at tells
  exact ⟨index, found, tells, typeAt_tells found, nameOfTag_tells (nameAt_tagOf found short)⟩

theorem refused_of_count {op : Op Ty} (selects : op.selectedType? = some type)
    (repeated : types.count type ≠ 1) : Tells types op (.failed .unsupported) := by
  have missing : op.offeredBy types = false := by
    rw [← Bool.not_eq_true, Op.offeredBy_iff_of_selected selects]
    exact fun offers => repeated offers.2
  exact .of_failure (perform_not_offered .tagged missing)

theorem nameOfTag_below {tag : UInt8} (below : tag.toNat < types.length) :
    ∃ type, typeAt? types tag.toNat = some type ∧
      Tells types (.nameOfTag (some tag)) (.text type.qualifiedName) := by
  have found : typeAt? types tag.toNat = some types[tag.toNat] := by
    rw [typeAt?_eq_getElem?, List.getElem?_eq_getElem below]
  have named := nameAt_tagOf found tag.toNat_lt
  rw [tagOf_toNat] at named
  exact ⟨_, found, nameOfTag_tells named⟩

theorem nameOfTag_beyond {tag : UInt8} (beyond : types.length ≤ tag.toNat) :
    ∃ rest, Tells types (.nameOfTag (some tag)) (.failed (.panic (.tagOutOfRange rest))) ∧
      (Panic.tagOutOfRange rest).message = "internal error: entered unreachable code: tag " ++
        (tag.toNat - types.length).repr ++ " is out of range" := by
  have small : tag.toNat - types.length < 256 := Nat.lt_of_le_of_lt (Nat.sub_le _ _) tag.toNat_lt
  obtain ⟨rest, counted⟩ : ∃ rest : UInt8, rest.toNat = tag.toNat - types.length :=
    ⟨UInt8.ofNat (tag.toNat - types.length), UInt8.toNat_ofNat_of_lt' small⟩
  rw [← counted]
  exact ⟨rest, nameOfTag_tells_panic (nameAt_eq_error_iff.mpr ⟨beyond, counted⟩), rfl⟩

/-- On every list whose length fits into a tag, all ways to look up an alternative agree. -/
theorem lookups_agree (types : List Ty) (counted : types.length ≤ 255) : LookupsAgree types where
  contains _ _ := contains_iff_typeAt?
  counted type index member := by
    have below := typeAt?_lt (contains_iff_typeAt?.mp member)
    rw [toNat_tagOf (by omega)]
    omega
  unique _ := contains_unique_iff
  selected _ _ := Selector.find?_type_eq_some_iff.trans (and_iff_right rfl)
  located _ := located_of_count counted
  refused _ _ := refused_of_count
  arity := by
    apply Tells.of_answer
    intro state
    rw [perform, toNat_arity (by omega)]
    rfl
  named _ := nameOfTag_below
  outOfRange _ := nameOfTag_beyond
  reached := by
    intro program
    obtain ⟨entries, state, ran, -, typed⟩ := steps_initial types program
    refine ⟨entries, state.stored, ran, ?_, ?_⟩
    · intro long register
      rw [state.content_stored, typed.vacant (.inr long) register]
      rfl
    · intro type op selects
      obtain ⟨outcome, -, stepped, -⟩ := step_stored typed op
      refine ⟨_, _, stepped, ?_⟩
      rw [ne_eq, step_unsupported_iff stepped, Bool.not_eq_false, Op.offeredBy_iff_of_selected selects]

/-- A list of which no values can be built, with one type listed once and one listed repeatedly. -/
def overfull : List Ty := .string :: List.replicate 17 .bool

theorem lookups_agree_of_overfull :
    overfull.length ≤ 255 ∧ maxArity < overfull.length ∧ overfull.count .string = 1 ∧
      overfull.count .bool ≠ 1 ∧ LookupsAgree overfull :=
  ⟨by decide, by decide, by decide, by decide, lookups_agree overfull (by decide)⟩

end Machine

end TaggedUnion
