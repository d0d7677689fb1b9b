import TaggedUnion.Machine.Storage

/-!
# The way down a chain

All walks that know only a tag go one way down the chain, `Chain.reach`, and differ in what they do
where it ends. So it is enough to follow that one: from the tag of an index it ends at what was placed
at the index.
-/

set_option autoImplicit false

namespace TaggedUnion

open Registry

variable {Answer Next : Type}

@[simp] theorem Fault.ok_bind (value : Answer) (next : Answer → Except Fault Next) :
    (Except.ok value >>= next) = next value := rfl

@[simp] theorem Fault.pure_eq_ok (value : Answer) : (pure value : Except Fault Answer) = .ok value := rfl

/-! ## Counting a tag down -/

namespace Registry

theorem typeAt?_lt {types : List Ty} {index : Nat} {type : Ty} (found : typeAt? types index = some type) :
    index < types.length := by
  rw [typeAt?_eq_getElem?] at found
  exact (List.getElem?_eq_some_iff.mp found).1

theorem typeAt?_mem {types : List Ty} {index : Nat} {type : Ty} (found : typeAt? types index = some type) :
    type ∈ types := by
  rw [typeAt?_eq_getElem?] at found
  exact List.mem_of_getElem? found

theorem typeAt?_short {types : List Ty} {index : Nat} {type : Ty}
    (short : types.length ≤ maxArity) (found : typeAt? types index = some type) : index < 256 := by
  have below := typeAt?_lt found
  unfold maxArity at short
  omega

theorem tagOf_toNat (tag : UInt8) : tagOf tag.toNat = tag :=
  UInt8.toNat_inj.mp (toNat_tagOf tag.toNat_lt)

theorem tagOf_succ_ne_zero {index : Nat} (short : index + 1 < 256) : tagOf (index + 1) ≠ 0 := by
  intro zero
  have counted := toNat_tagOf short
  rw [zero] at counted
  exact absurd counted (by simp)

theorem tagOf_succ_sub_one (index : Nat) : tagOf (index + 1) - 1 = tagOf index := by
  rw [tagOf, UInt8.add_comm, UInt8.add_sub_cancel]

theorem tagOf_inj {left right : Nat} (leftShort : left < 256) (rightShort : right < 256) :
    tagOf left = tagOf right ↔ left = right := by
  constructor
  · intro same
    rw [← toNat_tagOf leftShort, ← toNat_tagOf rightShort, same]
  · exact congrArg tagOf

theorem nameAt_tagOf {types : List Ty} {index : Nat} {type : Ty}
    (found : typeAt? types index = some type) (short : index < 256) :
    nameAt types (tagOf index) = .ok type.qualifiedName := by
  induction types generalizing index with
  | nil => cases found
  | cons head types ih =>
      cases index with
      | zero =>
          cases found
          simp [nameAt, tagOf]
      | succ index =>
          simp only [nameAt, tagOf_succ_ne_zero short, if_false, tagOf_succ_sub_one]
          exact ih found (by omega)

end Registry

/-! ## One way for all walks -/

/-- Where a walk ends: how many cells it passed, and what it found in the last one. -/
structure Stop where
  steps : Nat
  type : Ty
  value : Stored

def Stop.next (stop : Stop) : Stop := { stop with steps := stop.steps + 1 }

/-- The way of a walk: past one cell for each one that is counted down, to the data where nothing is
left of the tag. -/
def Chain.reach : List Ty → UInt8 → Chain → Except Fault Stop
  | [], _, _ => .error .endOfList
  | type :: _, tag, .data value => if tag = 0 then .ok ⟨0, type, value⟩ else .error .fieldNotInUse
  | _ :: types, tag, .next rest =>
    if tag = 0 then .error .fieldNotInUse
    else do
      let stop ← rest.reach types (tag - 1)
      return stop.next

namespace Chain

variable {types : List Ty} {tag : UInt8} {chain : Chain} {index : Nat} {type : Ty}

/-! ## The way of each walk -/

/-- A walk that does nothing on its way makes of a chain what its operation makes of the data at the
end of the way. -/
theorem walk_eq_reach {Result : Type} (walk : List Ty → UInt8 → Chain → Except Fault Result)
    (act : Ty → Stored → Except Fault Result)
    (ended : ∀ tag chain, walk [] tag chain = .error .endOfList)
    (atData : ∀ head tail tag value, walk (head :: tail) tag (.data value) =
      if tag = 0 then act head value else .error .fieldNotInUse)
    (atNext : ∀ head tail tag rest, walk (head :: tail) tag (.next rest) =
      if tag = 0 then .error .fieldNotInUse else walk tail (tag - 1) rest)
    (types : List Ty) (tag : UInt8) (chain : Chain) :
    walk types tag chain = chain.reach types tag >>= fun stop => act stop.type stop.value := by
  induction types generalizing tag chain with
  | nil => exact ended tag chain
  | cons head tail ih =>
      cases chain with
      | data value =>
          rw [atData, reach]
          split <;> rfl
      | next rest =>
          rw [atNext, reach]
          split
          · rfl
          · rw [ih]
            cases rest.reach tail (tag - 1) <;> rfl

theorem view_eq_reach : chain.view types tag =
    chain.reach types tag >>= fun stop => stop.value.view stop.type :=
  walk_eq_reach (fun types tag chain => chain.view types tag) Stored.view
    (fun _ _ => by simp only [Chain.view]) (fun _ _ _ _ => by simp only [Chain.view])
    (fun _ _ _ _ => by simp only [Chain.view]) types tag chain

theorem drop_eq_reach : chain.drop types tag =
    chain.reach types tag >>= fun stop => stop.value.drop stop.type :=
  walk_eq_reach (fun types tag chain => chain.drop types tag) Stored.drop
    (fun _ _ => by simp only [Chain.drop]) (fun _ _ _ _ => by simp only [Chain.drop])
    (fun _ _ _ _ => by simp only [Chain.drop]) types tag chain

theorem hash_eq_reach : chain.hash types tag =
    chain.reach types tag >>= fun stop => stop.value.hash stop.type :=
  walk_eq_reach (fun types tag chain => chain.hash types tag) Stored.hash
    (fun _ _ => by simp only [Chain.hash]) (fun _ _ _ _ => by simp only [Chain.hash])
    (fun _ _ _ _ => by simp only [Chain.hash]) types tag chain

theorem debug_eq_reach (style : Style) : chain.debug style types tag =
    chain.reach types tag >>= fun stop => stop.value.debug style stop.type :=
  walk_eq_reach (fun types tag chain => chain.debug style types tag) (Stored.debug style)
    (fun _ _ => by simp only [Chain.debug]) (fun _ _ _ _ => by simp only [Chain.debug])
    (fun _ _ _ _ => by simp only [Chain.debug]) types tag chain

theorem display_eq_reach (style : Style) : chain.display style types tag =
    chain.reach types tag >>= fun stop => stop.value.display style stop.type :=
  walk_eq_reach (fun types tag chain => chain.display style types tag) (Stored.display style)
    (fun _ _ => by simp only [Chain.display]) (fun _ _ _ _ => by simp only [Chain.display])
    (fun _ _ _ _ => by simp only [Chain.display]) types tag chain

theorem clone_eq_reach (nextId : Nat) : chain.clone types tag nextId =
    chain.reach types tag >>= fun stop => do
      let made ← stop.value.clone stop.type nextId
      return made.map (place stop.steps) := by
  induction types generalizing tag chain with
  | nil => simp only [Chain.clone]; rfl
  | cons head tail ih =>
      cases chain with
      | data value =>
          simp only [Chain.clone, reach]
          split <;> rfl
      | next rest =>
          simp only [Chain.clone, reach]
          split
          · rfl
          · rw [ih]
            cases rest.reach tail (tag - 1) with
            | error fault => rfl
            | ok stop =>
                simp only [Fault.ok_bind, Fault.pure_eq_ok, Stop.next]
                cases stop.value.clone stop.type nextId <;> rfl

theorem reach_data_ok {types : List Ty} {tag : UInt8} {value : Stored} {stop : Stop}
    (reached : (data value).reach (type :: types) tag = .ok stop) :
    tag = 0 ∧ stop = ⟨0, type, value⟩ := by
  rw [reach] at reached
  split at reached
  · cases reached
    exact ⟨‹tag = 0›, rfl⟩
  · cases reached

theorem reach_next_ok {types : List Ty} {tag : UInt8} {rest : Chain} {stop : Stop}
    (reached : (next rest).reach (type :: types) tag = .ok stop) :
    tag ≠ 0 ∧ ∃ later, rest.reach types (tag - 1) = .ok later ∧ stop = later.next := by
  rw [reach] at reached
  split at reached
  · cases reached
  · cases ended : rest.reach types (tag - 1) with
    | error fault =>
        rw [ended] at reached
        cases reached
    | ok later =>
        rw [ended] at reached
        cases reached
        exact ⟨‹¬tag = 0›, later, rfl, rfl⟩

/-- Two chains are walked side by side, to the data that each of them has at the end of the way. -/
theorem compare_of_reach {left right : Chain} {stop stop' : Stop}
    (reached : left.reach types tag = .ok stop) (reached' : right.reach types tag = .ok stop') :
    left.compare types tag right = stop.value.compare stop.type stop'.value := by
  induction types generalizing tag left right stop stop' with
  | nil => cases reached
  | cons head tail ih =>
      cases left with
      | data value =>
          obtain ⟨rfl, rfl⟩ := reach_data_ok reached
          cases right with
          | data value' =>
              obtain ⟨-, rfl⟩ := reach_data_ok reached'
              simp only [Chain.compare, if_true]
          | next rest' => exact absurd rfl (reach_next_ok reached').1
      | next rest =>
          obtain ⟨more, later, ended, rfl⟩ := reach_next_ok reached
          cases right with
          | data value' => exact absurd (reach_data_ok reached').1 more
          | next rest' =>
              obtain ⟨-, later', ended', rfl⟩ := reach_next_ok reached'
              simpa only [Chain.compare, if_neg more, Stop.next] using ih ended ended'

end Chain

namespace HandlerTable

/-- Runs the handler in the slot as many cells down as a walk passed, on the data that it found. -/
def runStop (table : HandlerTable) (stop : Stop) : Except Fault (HandlerTable × List Event) := do
  let value ← stop.value.view stop.type
  match table.runAt? stop.steps stop.type value with
  | none => .error .wrongType
  | some outcome => return outcome

theorem runStop_of_slot {table : HandlerTable} {stop : Stop} {slot : Handler}
    (inSlot : table[stop.steps]? = some slot) : table.runStop stop = do
      let datum ← stop.value.view stop.type
      match slot.run? stop.type datum with
      | none => .error .wrongType
      | some (slot', events) => return (List.set table stop.steps slot', events) := by
  rw [runStop]
  cases stop.value.view stop.type with
  | error fault => rfl
  | ok datum =>
      simp only [Fault.ok_bind, runAt?, inSlot]
      cases slot.run? stop.type datum <;> rfl

theorem runStop_next (slot : Handler) (slots : HandlerTable) (stop : Stop) :
    runStop (slot :: slots) stop.next = do
      let (slots, events) ← slots.runStop stop
      return (slot :: slots, events) := by
  simp only [runStop, Stop.next]
  cases stop.value.view stop.type with
  | error fault => rfl
  | ok datum =>
      simp only [Fault.ok_bind, runAt?, List.getElem?_cons_succ]
      cases slots[stop.steps]? with
      | none => rfl
      | some running =>
          dsimp only
          cases running.run? stop.type datum <;> rfl

end HandlerTable

namespace Chain

variable {types : List Ty} {tag : UInt8} {chain : Chain} {index : Nat} {type : Ty}

theorem dispatch_eq_reach {table : HandlerTable} (matching : table.length = types.length) :
    chain.dispatch types tag table = chain.reach types tag >>= table.runStop := by
  induction types generalizing tag chain table with
  | nil => simp only [Chain.dispatch]; rfl
  | cons head tail ih =>
      obtain ⟨slot, slots, rfl⟩ := List.exists_cons_of_length_eq_add_one matching
      have matchingRest : slots.length = tail.length := Nat.succ.inj matching
      cases chain with
      | data value =>
          simp only [Chain.dispatch, reach]
          split
          · simp only [Fault.ok_bind, HandlerTable.runStop, HandlerTable.runAt?]
            cases value.view head with
            | error fault => rfl
            | ok datum =>
                simp only [Fault.ok_bind, List.getElem?_cons_zero]
                cases slot.run? head datum <;> rfl
          · rfl
      | next rest =>
          simp only [Chain.dispatch, reach]
          split
          · rfl
          · rw [ih matchingRest]
            cases rest.reach tail (tag - 1) with
            | error fault => rfl
            | ok stop => exact (HandlerTable.runStop_next slot slots stop).symm

/-! ## Where the ways end -/

theorem reach_place (found : typeAt? types index = some type) (short : index < 256) (value : Stored) :
    (place index value).reach types (tagOf index) = .ok ⟨index, type, value⟩ := by
  induction types generalizing index with
  | nil => cases found
  | cons head tail ih =>
      cases index with
      | zero =>
          cases found
          rfl
      | succ index =>
          have rest := ih found (by omega)
          simp only [place, reach, if_neg (tagOf_succ_ne_zero short), tagOf_succ_sub_one, rest,
            Fault.ok_bind, Fault.pure_eq_ok, Stop.next]

section

variable (found : typeAt? types index = some type) (short : index < 256) (value : Stored)

include found short

theorem view_place : (place index value).view types (tagOf index) = value.view type := by
  rw [view_eq_reach, reach_place found short]
  rfl

theorem drop_place : (place index value).drop types (tagOf index) = value.drop type := by
  rw [drop_eq_reach, reach_place found short]
  rfl

theorem hash_place : (place index value).hash types (tagOf index) = value.hash type := by
  rw [hash_eq_reach, reach_place found short]
  rfl

theorem debug_place (style : Style) :
    (place index value).debug style types (tagOf index) = value.debug style type := by
  rw [debug_eq_reach, reach_place found short]
  rfl

theorem display_place (style : Style) :
    (place index value).display style types (tagOf index) = value.display style type := by
  rw [display_eq_reach, reach_place found short]
  rfl

theorem compare_place (other : Stored) :
    (place index value).compare types (tagOf index) (place index other) = value.compare type other :=
  compare_of_reach (reach_place found short value) (reach_place found short other)

theorem clone_place (nextId : Nat) : (place index value).clone types (tagOf index) nextId = do
    let made ← value.clone type nextId
    return made.map (place index) := by
  rw [clone_eq_reach, reach_place found short]
  rfl

theorem dispatch_place {table : HandlerTable} (matching : table.length = types.length)
    {slot : Handler} (inSlot : table[index]? = some slot) :
    (place index value).dispatch types (tagOf index) table = do
      let datum ← value.view type
      match slot.run? type datum with
      | none => .error .wrongType
      | some (slot', events) => return (List.set table index slot', events) := by
  rw [dispatch_eq_reach matching, reach_place found short]
  exact HandlerTable.runStop_of_slot inSlot

end

end Chain

end TaggedUnion
