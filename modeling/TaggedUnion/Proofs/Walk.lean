import TaggedUnion.Proofs.Reach
import TaggedUnion.Proofs.Typing

/-!
# Walks over stored plain values

On the stored form of a typed plain value each walk has an outcome, and it is that of the operation
on the plain value itself.
-/

set_option autoImplicit false

namespace TaggedUnion

open Registry

/-! ## The stored form of typed plain values -/

namespace Stored

variable {value : Datum} {type : Ty}

theorem viewAll_ofData {items : List Datum}
    (each : ∀ item ∈ items, (ofDatum item).view type = .ok item) :
    viewAll type (ofData items) = .ok items := by
  induction items with
  | nil => rfl
  | cons item items ih =>
      have first := each item List.mem_cons_self
      have rest := ih fun item member => each item (List.mem_cons_of_mem _ member)
      simp only [ofData, viewAll, first, rest, Fault.ok_bind, Fault.pure_eq_ok]

/-- What is stored is read back. -/
theorem view_ofDatum (typed : value.Typed type) : (ofDatum value).view type = .ok value := by
  induction typed with
  | leaf => simp only [ofDatum, view]
  | list _ ih => simp only [ofDatum, view, viewAll_ofData ih, Fault.ok_bind, Fault.pure_eq_ok]
  | none => simp only [ofDatum, view]
  | some _ ih => simp only [ofDatum, view, ih, Fault.ok_bind, Fault.pure_eq_ok]
  | pair _ _ first second =>
      simp only [ofDatum, view, first, second, Fault.ok_bind, Fault.pure_eq_ok]
  | record _ ih => simp only [ofDatum, view, ih, Fault.ok_bind, Fault.pure_eq_ok]
  | variant short found _ ih =>
      have below := typeAt?_short short found
      simp only [ofDatum, view, Chain.view_place found below, ih, Fault.ok_bind, Fault.pure_eq_ok,
        toNat_tagOf below]

theorem drop_leaf (leaf : Leaf) : leaf.drop = (Datum.leaf leaf).drops := by
  cases leaf <;> rfl

theorem dropAll_ofData {items : List Datum}
    (each : ∀ item ∈ items, (ofDatum item).drop type = .ok item.drops) :
    dropAll type (ofData items) = .ok (Datum.list items).drops := by
  induction items with
  | nil => rfl
  | cons item items ih =>
      have first := each item List.mem_cons_self
      have rest := ih fun item member => each item (List.mem_cons_of_mem _ member)
      simp only [ofData, dropAll, first, rest, Fault.ok_bind, Fault.pure_eq_ok]
      simp only [Datum.drops, Datum.ids, Datum.allIds, List.map_append]

theorem drop_ofDatum (typed : value.Typed type) : (ofDatum value).drop type = .ok value.drops := by
  induction typed with
  | leaf => simp only [ofDatum, drop, drop_leaf]
  | list _ ih => simp only [ofDatum, drop, dropAll_ofData ih]
  | none => rfl
  | some _ ih =>
      simp only [ofDatum, drop]
      exact ih
  | pair _ _ first second =>
      simp only [ofDatum, drop, first, second, Fault.ok_bind, Fault.pure_eq_ok]
      simp only [Datum.drops, Datum.ids, List.map_append]
  | record _ ih =>
      simp only [ofDatum, drop]
      exact ih
  | variant short found _ ih =>
      simp only [ofDatum, drop]
      rw [Chain.drop_place found (typeAt?_short short found)]
      exact ih

/-! ### Clones -/

theorem clones_append (fresh : Nat) (first second : List Nat) :
    ((first ++ second).zip (List.range' fresh (first.length + second.length))).map
        (fun ids => Event.cloned ids.1 ids.2) =
      (first.zip (List.range' fresh first.length)).map (fun ids => Event.cloned ids.1 ids.2) ++
        (second.zip (List.range' (fresh + first.length) second.length)).map
          (fun ids => Event.cloned ids.1 ids.2) := by
  rw [← List.range'_append_1, List.zip_append (by simp), List.map_append]

theorem clone_leaf (nextId : Nat) (leaf : Leaf) :
    leaf.clone nextId =
      ⟨leaf.renumber nextId, nextId + leaf.ids.length, (Datum.leaf leaf).clones nextId⟩ := by
  cases leaf <;> rfl

/-- What cloning a plain value makes when the copies are numbered from the given identity on. -/
def cloneOf (nextId : Nat) (value : Datum) : Made Stored :=
  ⟨ofDatum (value.renumber nextId), nextId + value.ids.length, value.clones nextId⟩

theorem cloneAll_ofData {items : List Datum} {nextId : Nat}
    (each : ∀ item ∈ items, ∀ nextId, (ofDatum item).clone type nextId = .ok (cloneOf nextId item)) :
    cloneAll type nextId (ofData items) =
      .ok ⟨ofData (Datum.renumberAll nextId items), nextId + (Datum.allIds items).length,
        (Datum.list items).clones nextId⟩ := by
  induction items generalizing nextId with
  | nil => rfl
  | cons item items ih =>
      have first := each item List.mem_cons_self nextId
      have rest := @ih (nextId + item.ids.length)
        fun item member => each item (List.mem_cons_of_mem _ member)
      simp only [ofData, cloneAll, first, cloneOf, rest, Fault.ok_bind, Fault.pure_eq_ok]
      simp only [Datum.renumberAll, ofData, Datum.allIds, List.length_append, Nat.add_assoc,
        Datum.clones, Datum.ids, clones_append]

/-- Cloning a stored value numbers the copies of its identities consecutively. -/
theorem clone_ofDatum (typed : value.Typed type) (nextId : Nat) :
    (ofDatum value).clone type nextId = .ok (cloneOf nextId value) := by
  induction typed generalizing nextId with
  | leaf =>
      simp only [ofDatum, clone, clone_leaf]
      rfl
  | list _ ih =>
      simp only [ofDatum, clone, cloneAll_ofData ih, Fault.ok_bind, Fault.pure_eq_ok]
      rfl
  | none => rfl
  | some _ ih =>
      simp only [ofDatum, clone, ih, Fault.ok_bind, Fault.pure_eq_ok]
      rfl
  | pair _ _ first second =>
      simp only [ofDatum, clone, first, cloneOf, second, Fault.ok_bind, Fault.pure_eq_ok]
      simp only [Datum.renumber, ofDatum, Datum.ids, List.length_append, Nat.add_assoc,
        Datum.clones, clones_append]
  | record _ ih =>
      simp only [ofDatum, clone, ih, Fault.ok_bind, Fault.pure_eq_ok]
      rfl
  | variant short found _ ih =>
      simp only [ofDatum, clone, Chain.clone_place found (typeAt?_short short found), ih,
        Fault.ok_bind, Fault.pure_eq_ok]
      rfl

/-! ### Comparisons -/

theorem sequence_ok (first second : Verdict) :
    Verdict.sequence (.ok first) (.ok second) = .ok (first.andThen second) := by
  unfold Verdict.sequence Verdict.andThen
  cases decided : first.equal <;> simp [decided]

theorem length_ofData (items : List Datum) : (ofData items).length = items.length := by
  induction items with
  | nil => rfl
  | cons item items ih => simp only [ofData, List.length_cons, ih]

theorem compareAll_ofData {lefts rights : List Datum}
    (each : ∀ left ∈ lefts, ∀ right, right.Typed type →
      (ofDatum left).compare type (ofDatum right) = .ok (left.compare right))
    (rightsTyped : ∀ right ∈ rights, right.Typed type) :
    compareAll type (ofData lefts) (ofData rights) = .ok (Datum.compareAll lefts rights) := by
  induction lefts generalizing rights with
  | nil => cases rights <;> simp only [ofData, compareAll, Datum.compareAll]
  | cons left lefts ih =>
      cases rights with
      | nil => simp only [ofData, compareAll, Datum.compareAll]
      | cons right rights =>
          have first := each left List.mem_cons_self right (rightsTyped right List.mem_cons_self)
          have rest := ih (fun left member => each left (List.mem_cons_of_mem _ member))
            (fun right member => rightsTyped right (List.mem_cons_of_mem _ member))
          simp only [ofData, compareAll, Datum.compareAll, first, rest, sequence_ok]

theorem compare_ofDatum {left right : Datum} (leftTyped : left.Typed type)
    (rightTyped : right.Typed type) :
    (ofDatum left).compare type (ofDatum right) = .ok (left.compare right) := by
  induction leftTyped generalizing right with
  | leaf held =>
      obtain ⟨leaf, rfl⟩ := rightTyped.leaf_inv held
      simp only [ofDatum, compare, Datum.compare]
  | list _ ih =>
      obtain ⟨items, rfl, rights⟩ := rightTyped.list_inv
      simp only [ofDatum, compare, Datum.compare, length_ofData]
      split
      · exact compareAll_ofData (fun left member right typed => ih left member typed) rights
      · rfl
  | none =>
      rcases rightTyped.option_inv with rfl | ⟨content, rfl, -⟩ <;>
        simp only [ofDatum, compare, Datum.compare]
  | some _ ih =>
      rcases rightTyped.option_inv with rfl | ⟨content, rfl, contentTyped⟩
      · simp only [ofDatum, compare, Datum.compare]
      · simp only [ofDatum, compare, Datum.compare]
        exact ih contentTyped
  | pair _ _ firstIH secondIH =>
      obtain ⟨first, second, rfl, firstTyped, secondTyped⟩ := rightTyped.pair_inv
      simp only [ofDatum, compare, Datum.compare, firstIH firstTyped, secondIH secondTyped,
        sequence_ok]
  | record _ ih =>
      obtain ⟨content, rfl, contentTyped⟩ := rightTyped.record_inv
      simp only [ofDatum, compare, Datum.compare]
      exact ih contentTyped
  | variant short found _ ih =>
      obtain ⟨index, content, type, rfl, -, found', contentTyped⟩ := rightTyped.variant_inv
      have below := typeAt?_short short found
      simp only [ofDatum, compare, Datum.compare, tagOf_inj below (typeAt?_short short found')]
      split
      · rename_i same
        subst same
        obtain rfl := Option.some.inj (found.symm.trans found')
        rw [Chain.compare_place found below]
        exact ih contentTyped
      · rfl

/-! ### Hashes and texts -/

theorem hash_leaf (leaf : Leaf) : leaf.hash = ⟨leaf.hashBytes, (Datum.leaf leaf).hashes⟩ := by
  cases leaf <;> rfl

theorem hashAll_ofData {items : List Datum}
    (each : ∀ item ∈ items, (ofDatum item).hash type = .ok ⟨item.hashBytes, item.hashes⟩) :
    hashAll type (ofData items) = .ok ⟨Datum.allHashBytes items, (Datum.list items).hashes⟩ := by
  induction items with
  | nil => rfl
  | cons item items ih =>
      have first := each item List.mem_cons_self
      have rest := ih fun item member => each item (List.mem_cons_of_mem _ member)
      simp only [ofData, hashAll, first, rest, Fault.ok_bind, Fault.pure_eq_ok]
      simp only [Hashed.append, Datum.allHashBytes, Datum.hashes, Datum.ids, Datum.allIds,
        List.map_append]

theorem hash_ofDatum (typed : value.Typed type) :
    (ofDatum value).hash type = .ok ⟨value.hashBytes, value.hashes⟩ := by
  induction typed with
  | leaf => simp only [ofDatum, hash, hash_leaf, Datum.hashBytes]
  | list _ ih =>
      simp only [ofDatum, hash, hashAll_ofData ih, Fault.ok_bind, Fault.pure_eq_ok, length_ofData]
      rfl
  | none => rfl
  | some _ ih =>
      simp only [ofDatum, hash, ih, Fault.ok_bind, Fault.pure_eq_ok]
      rfl
  | pair _ _ first second =>
      simp only [ofDatum, hash, first, second, Fault.ok_bind, Fault.pure_eq_ok]
      simp only [Hashed.append, Datum.hashBytes, Datum.hashes, Datum.ids, List.map_append]
  | record _ ih =>
      simp only [ofDatum, hash]
      exact ih
  | variant short found _ ih =>
      simp only [ofDatum, hash, Chain.hash_place found (typeAt?_short short found), ih,
        Fault.ok_bind, Fault.pure_eq_ok]
      rfl

theorem debugAll_ofData {style : Style} {items : List Datum}
    (each : ∀ item ∈ items, (ofDatum item).debug style type = .ok (item.debug style)) :
    debugAll style type (ofData items) = .ok (Datum.debugAll style items) := by
  induction items with
  | nil => rfl
  | cons item items ih =>
      have first := each item List.mem_cons_self
      have rest := ih fun item member => each item (List.mem_cons_of_mem _ member)
      simp only [ofData, debugAll, first, rest, Fault.ok_bind, Fault.pure_eq_ok, Datum.debugAll]

theorem debug_ofDatum (typed : value.Typed type) (style : Style) :
    (ofDatum value).debug style type = .ok (value.debug style) := by
  induction typed with
  | leaf => simp only [ofDatum, debug, Datum.debug]
  | list _ ih =>
      simp only [ofDatum, debug, debugAll_ofData ih, Fault.ok_bind, Fault.pure_eq_ok, Datum.debug]
  | none => simp only [ofDatum, debug, Datum.debug]
  | some _ ih => simp only [ofDatum, debug, ih, Fault.ok_bind, Fault.pure_eq_ok, Datum.debug]
  | pair _ _ first second =>
      simp only [ofDatum, debug, first, second, Fault.ok_bind, Fault.pure_eq_ok, Datum.debug]
  | record _ ih => simp only [ofDatum, debug, ih, Fault.ok_bind, Fault.pure_eq_ok, Datum.debug]
  | variant short found _ ih =>
      simp only [ofDatum, debug, Datum.debug]
      rw [Chain.debug_place found (typeAt?_short short found)]
      exact ih

theorem displayable_typeAt? {types : List Ty} (all : Ty.allDisplayable types = true) {index : Nat}
    {type : Ty} (found : typeAt? types index = Option.some type) : type.displayable = true := by
  rw [Ty.allDisplayable_eq_all] at all
  exact List.all_eq_true.mp all type (typeAt?_mem found)

theorem display_ofDatum (typed : value.Typed type) (shown : type.displayable = true) (style : Style) :
    (ofDatum value).display style type = .ok (value.display style) := by
  induction typed with
  | leaf => simp only [ofDatum, display, Datum.display]
  | variant short found _ ih =>
      unfold Ty.displayable at shown
      simp only [ofDatum, display, Datum.display]
      rw [Chain.display_place found (typeAt?_short short found)]
      exact ih (displayable_typeAt? shown found)
  | _ =>
      unfold Ty.displayable at shown
      cases shown

/-! ### Edits -/

theorem ofDatum_eq_leaf {leaf : Leaf} (same : ofDatum value = .leaf leaf) : value = .leaf leaf := by
  cases value <;> simp only [ofDatum, reduceCtorEq, Stored.leaf.injEq] at same
  exact congrArg Datum.leaf same

theorem ofDatum_eq_list {items : List Stored} (same : ofDatum value = .list items) :
    ∃ values, value = .list values := by
  cases value <;> simp only [ofDatum, reduceCtorEq] at same
  exact ⟨_, rfl⟩

theorem ofData_append (first second : List Datum) :
    ofData (first ++ second) = ofData first ++ ofData second := by
  induction first with
  | nil => rfl
  | cons item items ih => simp only [List.cons_append, ofData, ih]

theorem edit_ofDatum (mode : EditMode) {old : Datum} (oldTyped : old.Typed type) (new : Datum) :
    Stored.edit type mode (ofDatum old) (ofDatum new) =
      .ok ⟨ofDatum (old.edit mode new).value, (old.edit mode new).events⟩ := by
  unfold Datum.edit
  split
  · simp only [ofDatum, Stored.edit]
  · simp only [ofDatum, Stored.edit]
  · simp only [ofDatum, Stored.edit, ofData_append]
  · rename_i noInts noTexts noLists
    unfold Stored.edit
    split
    -- The forms that adding treats apart are those of the plain values.
    · rename_i _ _ _ _ _ _ oldForm newForm
      exact absurd (ofDatum_eq_leaf newForm) (noInts _ _ _ _ rfl (ofDatum_eq_leaf oldForm))
    · rename_i _ _ _ _ oldForm newForm
      exact absurd (ofDatum_eq_leaf newForm) (noTexts _ _ rfl (ofDatum_eq_leaf oldForm))
    · rename_i _ _ _ _ oldForm newForm
      obtain ⟨_, oldList⟩ := ofDatum_eq_list oldForm
      obtain ⟨_, newList⟩ := ofDatum_eq_list newForm
      exact absurd newList (noLists _ _ rfl oldList)
    · simp only [drop_ofDatum oldTyped, Fault.ok_bind, Fault.pure_eq_ok]

end Stored

end TaggedUnion
