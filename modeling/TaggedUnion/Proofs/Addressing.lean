import TaggedUnion.Proofs.Reach

/-!
# Two ways to one slot

What was placed at an index is reached by counting the cells up to the index, and by counting the
tag of the index down along the list of alternatives. With any other tag the one way that all walks
go ends at a field that is not in use.
-/

set_option autoImplicit false

namespace TaggedUnion

open Registry

namespace Chain

variable {types : List Ty} {tag : UInt8} {chain : Chain} {index : Nat} {type : Ty}

theorem compare_of_stray (stray : chain.reach types tag = .error .fieldNotInUse) (other : Chain) :
    chain.compare types tag other = .error .fieldNotInUse ∧
      other.compare types tag chain = .error .fieldNotInUse := by
  induction types generalizing tag chain other with
  | nil => cases stray
  | cons head tail ih =>
      cases chain with
      | data value =>
          have more : tag ≠ 0 := by
            rintro rfl
            cases stray
          cases other <;> simp only [Chain.compare, if_neg more, and_self]
      | next rest =>
          cases other with
          | data value => simp only [Chain.compare, and_self]
          | next rest' =>
              by_cases counted : tag = 0
              · simp only [Chain.compare, if_pos counted, and_self]
              · simp only [reach, if_neg counted] at stray
                simp only [Chain.compare, if_neg counted]
                apply ih
                cases ended : rest.reach tail (tag - 1) with
                | error fault =>
                    rw [ended] at stray
                    exact stray
                | ok stop =>
                    rw [ended] at stray
                    cases stray

/-- Any other tag is counted down before the walk is at the value, or not yet when it is. -/
theorem reach_place_of_ne (found : typeAt? types index = some type) (value : Stored)
    (other : tag ≠ tagOf index) : (place index value).reach types tag = .error .fieldNotInUse := by
  induction types generalizing index tag with
  | nil => cases found
  | cons head tail ih =>
      cases index with
      | zero => exact if_neg other
      | succ index =>
          rw [place, reach]
          split
          · rfl
          · have less : tag - 1 ≠ tagOf index := by
              intro same
              apply other
              rw [tagOf, ← same, UInt8.add_comm, UInt8.sub_add_cancel]
            rw [ih found less]
            rfl

theorem access_place_of_ne {other : Nat} (apart : other ≠ index) (value : Stored) :
    (place index value).read other = .error .fieldNotInUse ∧
      ∀ new, (place index value).write new other = .error .fieldNotInUse := by
  induction index generalizing other with
  | zero =>
      cases other with
      | zero => exact absurd rfl apart
      | succ other => exact ⟨rfl, fun _ => rfl⟩
  | succ index ih =>
      cases other with
      | zero => exact ⟨rfl, fun _ => rfl⟩
      | succ other =>
          obtain ⟨unread, unwritten⟩ := ih fun same => apart (congrArg Nat.succ same)
          refine ⟨unread, fun new => ?_⟩
          rw [place, write, unwritten new]
          rfl

/-- No walk with the tag comes to data: it asks for a field that is not in use. -/
structure Strays (types : List Ty) (tag : UInt8) (chain : Chain) : Prop where
  reach : chain.reach types tag = .error .fieldNotInUse
  drop : chain.drop types tag = .error .fieldNotInUse
  clone : ∀ nextId, chain.clone types tag nextId = .error .fieldNotInUse
  compare : ∀ other, chain.compare types tag other = .error .fieldNotInUse ∧
    other.compare types tag chain = .error .fieldNotInUse
  hash : chain.hash types tag = .error .fieldNotInUse
  debug : ∀ style, chain.debug style types tag = .error .fieldNotInUse
  display : ∀ style, chain.display style types tag = .error .fieldNotInUse
  dispatch : ∀ table : HandlerTable, table.length = types.length →
    chain.dispatch types tag table = .error .fieldNotInUse

theorem strays_of_reach (stray : chain.reach types tag = .error .fieldNotInUse) :
    chain.Strays types tag where
  reach := stray
  drop := by rw [drop_eq_reach, stray]; rfl
  clone nextId := by rw [clone_eq_reach, stray]; rfl
  compare := compare_of_stray stray
  hash := by rw [hash_eq_reach, stray]; rfl
  debug style := by rw [debug_eq_reach, stray]; rfl
  display style := by rw [display_eq_reach, stray]; rfl
  dispatch table matching := by rw [dispatch_eq_reach matching, stray]; rfl

/-- All walks over the list go the way of `reach`, whatever the chain and the tag are. -/
structure OneWay (types : List Ty) : Prop where
  drop : ∀ tag (chain : Chain), chain.drop types tag =
    chain.reach types tag >>= fun stop => stop.value.drop stop.type
  clone : ∀ tag (chain : Chain) nextId, chain.clone types tag nextId =
    chain.reach types tag >>= fun stop => do
      let made ← stop.value.clone stop.type nextId
      return made.map (place stop.steps)
  compare : ∀ tag (left right : Chain) stop stop', left.reach types tag = .ok stop →
    right.reach types tag = .ok stop' →
      left.compare types tag right = stop.value.compare stop.type stop'.value
  hash : ∀ tag (chain : Chain), chain.hash types tag =
    chain.reach types tag >>= fun stop => stop.value.hash stop.type
  debug : ∀ tag (chain : Chain) style, chain.debug style types tag =
    chain.reach types tag >>= fun stop => stop.value.debug style stop.type
  display : ∀ tag (chain : Chain) style, chain.display style types tag =
    chain.reach types tag >>= fun stop => stop.value.display style stop.type
  dispatch : ∀ tag (chain : Chain) (table : HandlerTable), table.length = types.length →
    chain.dispatch types tag table = chain.reach types tag >>= table.runStop

theorem oneWay (types : List Ty) : OneWay types where
  drop _ _ := drop_eq_reach
  clone _ _ := clone_eq_reach
  compare _ _ _ _ _ := compare_of_reach
  hash _ _ := hash_eq_reach
  debug _ _ := debug_eq_reach
  display _ _ := display_eq_reach
  dispatch _ _ _ := dispatch_eq_reach

/-- The index and its tag address one slot, with the value placed at the index in it: every access by
the index, and every walk by the tag. -/
structure OneSlot (types : List Ty) (index : Nat) (type : Ty) (value : Stored) : Prop where
  tag : (tagOf index).toNat = index
  /-- The access by the index, for a look at the value, for an edit or to take it out. -/
  read : (place index value).read index = .ok value
  write : ∀ new, (place index value).write new index = .ok (place index new)
  elsewhere : ∀ other, other ≠ index → (place index value).read other = .error .fieldNotInUse ∧
    ∀ new, (place index value).write new other = .error .fieldNotInUse
  oneWay : OneWay types
  /-- The walk by the tag ends at the value after as many steps as the tag says. -/
  reach : (place index value).reach types (tagOf index) = .ok ⟨(tagOf index).toNat, type, value⟩
  name : nameAt types (tagOf index) = .ok type.qualifiedName
  drop : (place index value).drop types (tagOf index) = value.drop type
  clone : ∀ nextId, (place index value).clone types (tagOf index) nextId = do
    let made ← value.clone type nextId
    return made.map (place index)
  compare : ∀ other, (place index value).compare types (tagOf index) (place index other) =
    value.compare type other
  hash : (place index value).hash types (tagOf index) = value.hash type
  debug : ∀ style, (place index value).debug style types (tagOf index) = value.debug style type
  display : ∀ style, (place index value).display style types (tagOf index) = value.display style type
  /-- The handler in the slot at the index runs on the value, and the other slots stay. -/
  dispatch : ∀ table : HandlerTable, table.length = types.length → ∃ slot, table[index]? = some slot ∧
    (place index value).dispatch types (tagOf index) table = do
      let datum ← value.view type
      match slot.run? type datum with
      | none => .error .wrongType
      | some (slot', events) => return (List.set table index slot', events)
  astray : ∀ tag, tag ≠ tagOf index → Strays types tag (place index value)

/-- Whatever the list is and whatever was placed at one of its indices, the index and its tag address
the same slot of the chain. An index that does not fit into a tag has none. -/
theorem index_and_tag_meet (found : typeAt? types index = some type) (short : index < 256)
    (value : Stored) : OneSlot types index type value := by
  constructor
  · exact toNat_tagOf short
  · exact read_place index value
  · exact write_place index value
  · exact fun other apart => access_place_of_ne apart value
  · exact oneWay types
  · rw [toNat_tagOf short]
    exact reach_place found short value
  · exact nameAt_tagOf found short
  · exact drop_place found short value
  · exact clone_place found short value
  · exact compare_place found short value
  · exact hash_place found short value
  · exact debug_place found short value
  · exact display_place found short value
  · intro table matching
    have inside : index < table.length := matching ▸ typeAt?_lt found
    have inSlot : table[index]? = some table[index] := List.getElem?_eq_getElem inside
    exact ⟨table[index], inSlot, dispatch_place found short value matching inSlot⟩
  · intro tag other
    exact strays_of_reach (reach_place_of_ne found value other)

/-- A union in the second of two slots for it. -/
theorem index_and_tag_meet_of_repeated :
    typeAt? [.string, .variant [.bool, .string], .variant [.bool, .string]] 2 =
        some (.variant [.bool, .string]) ∧ 2 < 256 ∧
      OneSlot [.string, .variant [.bool, .string], .variant [.bool, .string]] 2
        (.variant [.bool, .string]) (.variant 1 (place 1 (.leaf (.string "inner")))) :=
  ⟨rfl, by decide, index_and_tag_meet rfl (by decide) _⟩

end Chain

end TaggedUnion
