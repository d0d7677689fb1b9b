import TaggedUnion.Proofs.TagInvariant

/-!
# Lists in another order

A program that selects alternatives by their types alone does not notice in which order pairwise
different alternatives are listed. Its runs over two orders of one list differ in the indices that
they tell, and these are renamed as the order renames them.
-/

set_option autoImplicit false

namespace TaggedUnion

open Registry

/-- The operation selects by type or selects no alternative, and tells no order otherwise: neither
by the name of an index or a tag nor by handlers that are labelled by their slots. -/
def Op.orderless : Op Ty → Bool
  | .construct (.position _) _ _ | .test (.position _) _ | .read _ (.position _) _
  | .edit _ _ (.position _) _ _ | .take _ (.position _) _ | .install _ (.position _) _ => false
  | .typeAt _ | .nameOfTag _ | .fillTable => false
  | _ => true

/-- The index that the second list gives to the alternative at an index of the first. -/
def Registry.transfer (types types' : List Ty) (index : Nat) : Nat :=
  ((typeAt? types index).bind (indexOf? types')).getD index

variable {types types' : List Ty}

section

variable (distinct : types.Nodup) (permuted : types.Perm types')

include distinct permuted

theorem Registry.transfer_found {index : Nat} {type : Ty} (found : typeAt? types index = some type) :
    typeAt? types' (transfer types types' index) = some type := by
  have listed : type ∈ types' := permuted.mem_iff.mp (typeAt?_mem found)
  obtain ⟨index', held⟩ := List.mem_iff_getElem?.mp listed
  rw [← typeAt?_eq_getElem?] at held
  have located := indexOf?_of_nodup (permuted.nodup_iff.mp distinct) held
  rw [transfer, found, Option.bind_some, located, Option.getD_some, held]

theorem Registry.indexOf?_transfer (type : Ty) :
    indexOf? types' type = (indexOf? types type).map (transfer types types') := by
  have distinct' := permuted.nodup_iff.mp distinct
  by_cases listed : type ∈ types
  · obtain ⟨index, held⟩ := List.mem_iff_getElem?.mp listed
    rw [← typeAt?_eq_getElem?] at held
    rw [indexOf?_of_nodup distinct held]
    exact indexOf?_of_nodup distinct' (transfer_found distinct permuted held)
  · rw [indexOf?_eq_none listed, indexOf?_eq_none (mt permuted.mem_iff.mpr listed)]
    rfl

theorem Reindexing.transfer : Reindexing types' types (transfer types types') where
  short short := permuted.length_eq ▸ short
  found := transfer_found distinct permuted
  inj {left right} leftInside rightInside same := by
    have leftHeld : typeAt? types left = some types[left] := by
      rw [typeAt?_eq_getElem?, List.getElem?_eq_getElem leftInside]
    have rightHeld : typeAt? types right = some types[right] := by
      rw [typeAt?_eq_getElem?, List.getElem?_eq_getElem rightInside]
    -- What comes to one place is one type, which the first list has only once.
    have leftFound := transfer_found distinct permuted leftHeld
    rw [same, transfer_found distinct permuted rightHeld] at leftFound
    exact (distinct.getElem_inj_iff.mp (Option.some.inj leftFound)).symm

theorem Selector.alike_find?_transfer (target : Ty) :
    (Selector.type target).Alike Selector.find? types' types (transfer types types') := by
  rw [Alike, find?, find?, indexOf?_transfer distinct permuted, Option.map_map, Option.map_map]
  rfl

theorem Selector.alike_build?_transfer (target : Ty) :
    (Selector.type target).Alike Selector.build? types' types (transfer types types') := by
  rw [Alike, build?, build?, permuted.length_eq, alike_find?_transfer distinct permuted target]
  split <;> rfl

omit distinct in
theorem onlyType?_perm : onlyType? types' = onlyType? types := by
  match types, permuted with
  | [], permuted => rw [permuted.nil_eq]
  | [type], permuted => rw [List.singleton_perm.mp permuted]
  | first :: second :: rest, permuted =>
      match types', permuted.length_eq with
      | _ :: _ :: _, _ => rfl

theorem Op.alike_transfer (short : types.length ≤ maxArity) {op : Op Ty}
    (orderless : op.orderless = true) : op.Alike types' types (transfer types types') := by
  cases op with
  | construct target =>
      cases target with
      | position => cases orderless
      | type target => exact Selector.alike_build?_transfer distinct permuted target
  | convert | constructText => exact Selector.alike_build?_transfer distinct permuted _
  | test target | read _ target | edit _ _ target | take _ target | install _ target =>
      cases target with
      | position => cases orderless
      | type target => exact Selector.alike_find?_transfer distinct permuted target
  | wrap | unwrap => exact onlyType?_perm permuted
  | locate target =>
      have moved := indexOf?_transfer distinct permuted target
      cases located : indexOf? types target with
      | none =>
          rw [located] at moved
          simp only [Alike, moved, located, Option.map_none]
      | some index =>
          rw [located] at moved
          have found := indexOf?_found located
          have short' : types'.length ≤ maxArity := permuted.length_eq ▸ short
          have counted := toNat_tagOf (typeAt?_short short found)
          have counted' := toNat_tagOf (typeAt?_short short' (transfer_found distinct permuted found))
          simp only [Alike, moved, located, Option.map_some, counted, counted']
  | arity =>
      have below : types.length < 256 := short.trans_lt (by decide)
      have counted := toNat_arity below
      rw [permuted.length_eq] at below counted
      exact UInt8.toNat_inj.mp ((toNat_arity below).trans counted.symm)
  | typeAt | nameOfTag | fillTable => cases orderless
  | hash =>
      change Ty.allHashable types' = Ty.allHashable types
      rw [Ty.allHashable_eq_all, Ty.allHashable_eq_all, permuted.all_eq]
  | render audience =>
      cases audience with
      | inspection => rfl
      | readers =>
          change Ty.allDisplayable types' = Ty.allDisplayable types
          rw [Ty.allDisplayable_eq_all, Ty.allDisplayable_eq_all, permuted.all_eq]
  | index | typeName | drop | move | swap | clone | compare | dispatch | freshTable | unknown =>
      trivial

end

namespace Machine

/-- A run over pairwise different alternatives is the run over them in any other order, with every
index that it tells renamed to that of the same alternative there. -/
theorem run_permuted {types types' : List Ty} (distinct : types.Nodup) (short : types.length ≤ maxArity)
    (permuted : types.Perm types') {program : List (Op Ty)}
    (orderless : ∀ op ∈ program, op.orderless = true) :
    ∃ transcript, run .tagged types program = .ok transcript ∧
      run .tagged types' program = .ok (transcript.reindex (transfer types types') program) := by
  apply run_reindexed (.transfer distinct permuted)
  intro op listed
  exact op.alike_transfer distinct permuted short (orderless op listed)

/-- A hash over two orders of two alternatives. -/
theorem run_permuted_of_swap :
    ∃ transcript,
      run .tagged [.bool, .string]
          [.construct (.type .bool) (some 0) (some (.truth true)), .hash (some 0)] = .ok transcript ∧
      run .tagged [.string, .bool]
          [.construct (.type .bool) (some 0) (some (.truth true)), .hash (some 0)] =
        .ok (transcript.reindex (transfer [.bool, .string] [.string, .bool])
          [.construct (.type .bool) (some 0) (some (.truth true)), .hash (some 0)]) :=
  run_permuted (by decide) (by decide) (.swap .string .bool []) (by decide)

end Machine

end TaggedUnion
