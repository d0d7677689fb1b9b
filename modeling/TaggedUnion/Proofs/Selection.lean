import TaggedUnion.Machine.Step
import TaggedUnion.Proofs.Walk

/-!
# Selected alternatives

Whatever a selector picks is an alternative of the list: the type at the index it comes with. If a
value is to be built, the list is moreover one of which values can be built.
-/

set_option autoImplicit false

namespace TaggedUnion

open Registry

variable {types : List Ty} {type : Ty} {index : Nat}

namespace Registry

theorem mem_positionsFrom {start : Nat} :
    index ∈ positionsFrom start type types ↔
      ∃ offset, index = start + offset ∧ typeAt? types offset = some type := by
  induction types generalizing start with
  | nil => simp [positionsFrom, typeAt?]
  | cons head tail ih =>
      have split : (∃ offset, index = start + offset ∧ typeAt? (head :: tail) offset = some type) ↔
          (index = start ∧ head = type) ∨
            ∃ offset, index = start + 1 + offset ∧ typeAt? tail offset = some type := by
        constructor
        · rintro ⟨offset, same, found⟩
          cases offset with
          | zero => exact .inl ⟨same, Option.some.inj found⟩
          | succ offset => exact .inr ⟨offset, by omega, found⟩
        · rintro (⟨same, rfl⟩ | ⟨offset, same, found⟩)
          · exact ⟨0, same, rfl⟩
          · exact ⟨offset + 1, by omega, found⟩
      rw [split, ← ih]
      rw [positionsFrom]
      split_ifs with here <;> simp [here]

theorem indexOf?_found (located : indexOf? types type = some index) :
    typeAt? types index = some type := by
  unfold indexOf? at located
  split at located
  · rename_i position positions
    cases located
    have listed : index ∈ positionsFrom 0 type types := by rw [positions]; exact List.mem_singleton_self _
    obtain ⟨offset, rfl, found⟩ := mem_positionsFrom.mp listed
    rwa [Nat.zero_add]
  · cases located

theorem positionsFrom_eq_nil {start : Nat} (absent : type ∉ types) : positionsFrom start type types = [] := by
  rw [List.eq_nil_iff_forall_not_mem]
  intro index listed
  obtain ⟨offset, -, found⟩ := mem_positionsFrom.mp listed
  exact absent (typeAt?_mem found)

theorem indexOf?_eq_none (absent : type ∉ types) : indexOf? types type = none := by
  rw [indexOf?, positionsFrom_eq_nil absent]

/-- A type that is listed exactly once is located where it is. -/
theorem indexOf?_of_nodup (distinct : types.Nodup) (found : typeAt? types index = some type) :
    indexOf? types type = some index := by
  suffices once : ∀ start, positionsFrom start type types = [start + index] by
    rw [indexOf?, once 0, Nat.zero_add]
  induction types generalizing index with
  | nil => cases found
  | cons head tail ih =>
      intro start
      obtain ⟨absent, distinctTail⟩ := List.nodup_cons.mp distinct
      cases index with
      | zero =>
          cases found
          rw [positionsFrom, if_pos rfl, positionsFrom_eq_nil absent]
          rfl
      | succ index =>
          have apart : head ≠ type := fun same => absent (same ▸ typeAt?_mem found)
          rw [positionsFrom, if_neg apart, ih distinctTail found, Nat.add_right_comm, Nat.add_assoc]

/-! ### Lists that begin with the list -/

variable (more : List Ty)

theorem typeAt?_append (found : typeAt? types index = some type) :
    typeAt? (types ++ more) index = some type := by
  rw [typeAt?_eq_getElem?, List.getElem?_append_left (typeAt?_lt found), ← typeAt?_eq_getElem?]
  exact found

theorem positionsFrom_append (start : Nat) :
    positionsFrom start type (types ++ more) =
      positionsFrom start type types ++ positionsFrom (start + types.length) type more := by
  induction types generalizing start with
  | nil => rfl
  | cons head tail ih =>
      have shifted : start + 1 + tail.length = start + (head :: tail).length := by
        rw [List.length_cons]
        omega
      rw [List.cons_append, positionsFrom, positionsFrom, ih, shifted]
      split_ifs <;> rfl

variable {more} in
theorem indexOf?_append (absent : type ∉ more) : indexOf? (types ++ more) type = indexOf? types type := by
  rw [indexOf?, positionsFrom_append, positionsFrom_eq_nil absent, List.append_nil]
  rfl

end Registry

theorem onlyType?_found (only : onlyType? types = some type) : types = [type] := by
  unfold onlyType? at only
  split at only
  · cases only
    rfl
  · cases only

namespace Selector

theorem find?_found {target : Selector Ty} (picked : target.find? types = some (type, index)) :
    typeAt? types index = some type := by
  cases target with
  | type target =>
      obtain ⟨position, located, same⟩ := Option.map_eq_some_iff.mp picked
      cases same
      exact indexOf?_found located
  | position position =>
      obtain ⟨found, located, same⟩ := Option.map_eq_some_iff.mp picked
      cases same
      exact located

/-- A selection by type picks that type. -/
theorem find?_type {target : Ty} (picked : (Selector.type target).find? types = some (type, index)) :
    type = target := by
  obtain ⟨_, _, same⟩ := Option.map_eq_some_iff.mp picked
  cases same
  rfl

theorem build?_eq_some_iff {target : Selector Ty} {picked : Ty × Nat} :
    target.build? types = some picked ↔
      types.length ≤ maxArity ∧ target.find? types = some picked := by
  unfold build?
  split
  · rename_i short
    exact (and_iff_right short).symm
  · rename_i long
    constructor
    · nofun
    · exact fun both => absurd both.1 long

theorem build?_found {target : Selector Ty} (picked : target.build? types = some (type, index)) :
    types.length ≤ maxArity ∧ typeAt? types index = some type := by
  obtain ⟨short, picked⟩ := build?_eq_some_iff.mp picked
  exact ⟨short, find?_found picked⟩

theorem build?_type {target : Ty} (picked : (Selector.type target).build? types = some (type, index)) :
    type = target :=
  find?_type (build?_eq_some_iff.mp picked).2

end Selector

end TaggedUnion
