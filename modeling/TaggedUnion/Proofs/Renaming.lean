import TaggedUnion.Proofs.Equality
import TaggedUnion.Proofs.Identities

/-!
# Values up to their identities

Renaming the identities of the tracked leaves keeps everything else of a value. All that unions are
observed by commutes with it: lists of identities, bytes, texts, comparisons, edits and handlers. So
two values that are the same after their identities are forgotten are told apart by the identities
alone.
-/

set_option autoImplicit false

namespace TaggedUnion

open Registry

/-! ## Renaming -/

def Leaf.rename (name : Nat → Nat) : Leaf → Leaf
  | .tracked kind id number => .tracked kind (name id) number
  | leaf => leaf

namespace Datum

mutual

/-- The value with other identities, everywhere the same other one for the same one. -/
def rename (name : Nat → Nat) : Datum → Datum
  | .leaf value => .leaf (value.rename name)
  | list items => .list (renameAll name items)
  | none => .none
  | some content => .some (content.rename name)
  | pair first second => .pair (first.rename name) (second.rename name)
  | record label content => .record label (content.rename name)
  | variant index content => .variant index (content.rename name)

def renameAll (name : Nat → Nat) : List Datum → List Datum
  | [] => []
  | item :: items => item.rename name :: renameAll name items

end

/-- The value without its identities. -/
def anonymous (value : Datum) : Datum := value.rename fun _ => 0

end Datum

def Event.rename (name : Nat → Nat) : Event → Event
  | .created id => .created (name id)
  | .converted id => .converted (name id)
  | .cloned source fresh => .cloned (name source) (name fresh)
  | .compared left right => .compared (name left) (name right)
  | .hashed id => .hashed (name id)
  | .dropped id => .dropped (name id)
  | .ran label count value => .ran label count (value.rename name)
  | .recorded label seen => .recorded label (Datum.renameAll name seen)

def Event.anonymous (event : Event) : Event := event.rename fun _ => 0

def Reply.anonymous : Reply → Reply
  | .value found => .value found.anonymous
  | .optional found => .optional (found.map Datum.anonymous)
  | .ok found => .ok found.anonymous
  | reply => reply

def Verdict.rename (name : Nat → Nat) (verdict : Verdict) : Verdict :=
  ⟨verdict.equal, verdict.events.map (Event.rename name)⟩

/-- The entries show the same replies and events, up to the identities in them. -/
structure Entry.Alike (entry other : Entry) : Prop where
  reply : entry.reply.anonymous = other.reply.anonymous
  events : entry.events.map Event.anonymous = other.events.map Event.anonymous

variable {name : Nat → Nat}

theorem Leaf.ids_rename (leaf : Leaf) : (leaf.rename name).ids = leaf.ids.map name := by
  cases leaf <;> rfl

namespace Datum

theorem renameAll_append (first second : List Datum) :
    renameAll name (first ++ second) = renameAll name first ++ renameAll name second := by
  induction first with
  | nil => rfl
  | cons item items ih => simp only [List.cons_append, renameAll, ih]

theorem length_renameAll (items : List Datum) : (renameAll name items).length = items.length := by
  induction items with
  | nil => rfl
  | cons item items ih => simp only [renameAll, List.length_cons, ih]

mutual

theorem ids_rename : (value : Datum) → (value.rename name).ids = value.ids.map name
  | .leaf value => value.ids_rename
  | .list items => allIds_renameAll items
  | .none => rfl
  | .some content => ids_rename content
  | .pair first second => by
      simp only [rename, ids, ids_rename first, ids_rename second, List.map_append]
  | .record _ content => ids_rename content
  | .variant _ content => ids_rename content

theorem allIds_renameAll : (items : List Datum) → allIds (renameAll name items) = (allIds items).map name
  | [] => rfl
  | item :: items => by
      simp only [renameAll, allIds, ids_rename item, allIds_renameAll items, List.map_append]

end

mutual

theorem rename_rename (name' : Nat → Nat) : (value : Datum) →
    (value.rename name).rename name' = value.rename (name' ∘ name)
  | .leaf value => by cases value <;> rfl
  | .list items => by simp only [rename, renameAll_renameAll name' items]
  | .none => rfl
  | .some content => by simp only [rename, rename_rename name' content]
  | .pair first second => by
      simp only [rename, rename_rename name' first, rename_rename name' second]
  | .record _ content => by simp only [rename, rename_rename name' content]
  | .variant _ content => by simp only [rename, rename_rename name' content]

theorem renameAll_renameAll (name' : Nat → Nat) : (items : List Datum) →
    renameAll name' (renameAll name items) = renameAll (name' ∘ name) items
  | [] => rfl
  | item :: items => by
      simp only [renameAll, rename_rename name' item, renameAll_renameAll name' items]

end

theorem anonymous_rename (value : Datum) : (value.rename name).anonymous = value.anonymous :=
  value.rename_rename _

mutual

theorem rename_eq_self : (value : Datum) → (∀ id ∈ value.ids, name id = id) → value.rename name = value
  | .leaf value, same => by
      cases value with
      | tracked kind id number =>
          have kept : name id = id := same id (List.mem_singleton_self id)
          simp only [rename, Leaf.rename, kept]
      | _ => rfl
  | .list items, same => congrArg list (renameAll_eq_self items same)
  | .none, _ => rfl
  | .some content, same => congrArg some (rename_eq_self content same)
  | .pair first second, same => by
      have firsts := rename_eq_self first fun id member => same id (List.mem_append_left _ member)
      have seconds := rename_eq_self second fun id member => same id (List.mem_append_right _ member)
      simp only [rename, firsts, seconds]
  | .record label content, same => congrArg (record label) (rename_eq_self content same)
  | .variant index content, same => congrArg (variant index) (rename_eq_self content same)

theorem renameAll_eq_self : (items : List Datum) → (∀ id ∈ allIds items, name id = id) →
    renameAll name items = items
  | [], _ => rfl
  | item :: items, same => by
      have first := rename_eq_self item fun id member => same id (List.mem_append_left _ member)
      have rest := renameAll_eq_self items fun id member => same id (List.mem_append_right _ member)
      simp only [renameAll, first, rest]

end

/-- A value without identities is told by the value with its identities forgotten. -/
theorem eq_of_anonymous {value other : Datum} (none : value.ids = [])
    (alike : other.anonymous = value.anonymous) : other = value := by
  have fixed (part : Datum) (empty : part.ids = []) : part.anonymous = part := by
    apply rename_eq_self
    intro id member
    rw [empty] at member
    cases member
  have noOther : other.ids = [] := by
    have same := congrArg ids alike
    rw [anonymous, anonymous, ids_rename, ids_rename, none] at same
    exact List.map_eq_nil_iff.mp same
  rwa [fixed other noOther, fixed value none] at alike

/-! ## Renumbering -/

mutual

/-- Numbering the identities anew is renaming them, by whatever gives the new ones in their order. -/
theorem renumber_eq_rename : (value : Datum) → (fresh : Nat) →
    value.ids.map name = List.range' fresh value.ids.length → value.renumber fresh = value.rename name
  | .leaf value, fresh, named => by
      cases value with
      | tracked kind id number =>
          have renamed : name id = fresh := List.singleton_inj.mp named
          simp only [renumber, rename, Leaf.renumber, Leaf.rename, renamed]
      | _ => rfl
  | .list items, fresh, named => congrArg list (renumberAll_eq_renameAll items fresh named)
  | .none, _, _ => rfl
  | .some content, fresh, named => congrArg some (renumber_eq_rename content fresh named)
  | .pair first second, fresh, named => by
      rw [ids, List.map_append, List.length_append, ← List.range'_append_1] at named
      obtain ⟨firsts, seconds⟩ := List.append_inj named (by simp)
      simp only [renumber, rename, renumber_eq_rename first fresh firsts,
        renumber_eq_rename second _ seconds]
  | .record label content, fresh, named =>
      congrArg (record label) (renumber_eq_rename content fresh named)
  | .variant index content, fresh, named =>
      congrArg (variant index) (renumber_eq_rename content fresh named)

theorem renumberAll_eq_renameAll : (items : List Datum) → (fresh : Nat) →
    (allIds items).map name = List.range' fresh (allIds items).length →
      renumberAll fresh items = renameAll name items
  | [], _, _ => rfl
  | item :: items, fresh, named => by
      rw [allIds, List.map_append, List.length_append, ← List.range'_append_1] at named
      obtain ⟨first, rest⟩ := List.append_inj named (by simp)
      simp only [renumberAll, renameAll, renumber_eq_rename item fresh first,
        renumberAll_eq_renameAll items _ rest]

end

/-- Values with distinct identities are numbered anew by a renaming. -/
theorem exists_renaming {value : Datum} (distinct : value.ids.Nodup) (fresh : Nat) :
    ∃ name : Nat → Nat, value.ids.map name = (value.renumber fresh).ids ∧
      value.renumber fresh = value.rename name := by
  have named : value.ids.map (fun id => fresh + value.ids.idxOf id) =
      List.range' fresh value.ids.length := by
    apply List.ext_getElem
    · simp
    · intro position below _
      have inside : position < value.ids.length := by simpa using below
      simp [distinct.idxOf_getElem position inside]
  exact ⟨_, named.trans (value.ids_renumber fresh).symm, value.renumber_eq_rename fresh named⟩

/-! ## Bytes and texts -/

mutual

theorem hashBytes_rename : (value : Datum) → (value.rename name).hashBytes = value.hashBytes
  | .leaf value => by cases value <;> rfl
  | .list items => by
      simp only [rename, hashBytes, length_renameAll, allHashBytes_renameAll items]
  | .none => rfl
  | .some content => by simp only [rename, hashBytes, hashBytes_rename content]
  | .pair first second => by
      simp only [rename, hashBytes, hashBytes_rename first, hashBytes_rename second]
  | .record _ content => hashBytes_rename content
  | .variant _ content => by simp only [rename, hashBytes, hashBytes_rename content]

theorem allHashBytes_renameAll : (items : List Datum) →
    allHashBytes (renameAll name items) = allHashBytes items
  | [] => rfl
  | item :: items => by
      simp only [renameAll, allHashBytes, hashBytes_rename item, allHashBytes_renameAll items]

end

theorem display_rename (style : Style) : (value : Datum) →
    (value.rename name).display style = value.display style
  | .leaf value => by cases value <;> rfl
  | .list _ | .none | .some _ | .pair _ _ | .record _ _ => rfl
  | .variant _ content => display_rename style content

end Datum

/-- The text of a leaf for inspection, with its identity written in a given way. -/
def Leaf.inspect (write : Nat → String) (style : Style) : Leaf → String
  | .tracked _ id number =>
    Layout.record style.alternate "Tracked" [("id", write id), ("v", Numeral.ofInt style number)]
  | leaf => leaf.debug style

namespace Datum

mutual

/-- The text for inspection, with each identity in it written in a given way. -/
def inspect (write : Nat → String) (style : Style) : Datum → String
  | .leaf value => value.inspect write style
  | list items => Layout.sequence style.alternate "[" "]" (inspectAll write style items)
  | none => "None"
  | some content => Layout.sequence style.alternate "Some(" ")" [content.inspect write style]
  | pair first second =>
    Layout.sequence style.alternate "(" ")" [first.inspect write style, second.inspect write style]
  | record label content =>
    Layout.record style.alternate label [("v", content.inspect write style)]
  | variant _ content => content.inspect write style

def inspectAll (write : Nat → String) (style : Style) : List Datum → List String
  | [] => []
  | item :: items => item.inspect write style :: inspectAll write style items

end

variable {style : Style}

mutual

theorem debug_eq_inspect : (value : Datum) →
    value.debug style = value.inspect (fun id => Numeral.ofInt style id) style
  | .leaf value => by cases value <;> rfl
  | .list items => by simp only [debug, inspect, debugAll_eq_inspectAll items]
  | .none => rfl
  | .some content => by simp only [debug, inspect, debug_eq_inspect content]
  | .pair first second => by
      simp only [debug, inspect, debug_eq_inspect first, debug_eq_inspect second]
  | .record _ content => by simp only [debug, inspect, debug_eq_inspect content]
  | .variant _ content => debug_eq_inspect content

theorem debugAll_eq_inspectAll : (items : List Datum) →
    debugAll style items = inspectAll (fun id => Numeral.ofInt style id) style items
  | [] => rfl
  | item :: items => by
      simp only [debugAll, inspectAll, debug_eq_inspect item, debugAll_eq_inspectAll items]

end

variable {write : Nat → String}

mutual

theorem inspect_rename : (value : Datum) →
    (value.rename name).inspect write style = value.inspect (write ∘ name) style
  | .leaf value => by cases value <;> rfl
  | .list items => by simp only [rename, inspect, inspectAll_renameAll items]
  | .none => rfl
  | .some content => by simp only [rename, inspect, inspect_rename content]
  | .pair first second => by
      simp only [rename, inspect, inspect_rename first, inspect_rename second]
  | .record _ content => by simp only [rename, inspect, inspect_rename content]
  | .variant _ content => inspect_rename content

theorem inspectAll_renameAll : (items : List Datum) →
    inspectAll write style (renameAll name items) = inspectAll (write ∘ name) style items
  | [] => rfl
  | item :: items => by
      simp only [renameAll, inspectAll, inspect_rename item, inspectAll_renameAll items]

end

end Datum

/-! ## Comparisons -/

theorem Verdict.rename_andThen (first second : Verdict) :
    (first.andThen second).rename name = (first.rename name).andThen (second.rename name) := by
  unfold andThen
  cases first with
  | mk equal events =>
      cases equal with
      | false => rfl
      | true => simp only [rename, if_true, List.map_append]

theorem Leaf.compare_rename (left right : Leaf) :
    (left.rename name).compare (right.rename name) = (left.compare right).rename name := by
  cases left <;> cases right <;> rfl

namespace Datum

mutual

theorem compare_rename : (left right : Datum) →
    (left.rename name).compare (right.rename name) = (left.compare right).rename name
  | .leaf left, right => by
      cases right with
      | leaf right => exact left.compare_rename right
      | _ => rfl
  | .list lefts, right => by
      cases right with
      | list rights =>
          simp only [rename, compare, length_renameAll]
          split
          · exact compareAll_rename lefts rights
          · rfl
      | _ => rfl
  | .none, right => by cases right <;> rfl
  | .some left, right => by
      cases right with
      | some right => exact compare_rename left right
      | _ => rfl
  | .pair first second, right => by
      cases right with
      | pair first' second' =>
          simp only [rename, compare, compare_rename first first', compare_rename second second',
            Verdict.rename_andThen]
      | _ => rfl
  | .record _ left, right => by
      cases right with
      | record _ right => exact compare_rename left right
      | _ => rfl
  | .variant index left, right => by
      cases right with
      | variant index' right =>
          simp only [rename, compare]
          split
          · exact compare_rename left right
          · rfl
      | _ => rfl

theorem compareAll_rename : (lefts rights : List Datum) →
    compareAll (renameAll name lefts) (renameAll name rights) = (compareAll lefts rights).rename name
  | [], _ => rfl
  | _ :: _, [] => rfl
  | left :: lefts, right :: rights => by
      simp only [renameAll, compareAll, compare_rename left right, compareAll_rename lefts rights,
        Verdict.rename_andThen]

end

/-! ## Edits -/

theorem drops_rename (value : Datum) :
    (value.rename name).drops = value.drops.map (Event.rename name) := by
  rw [drops, drops, ids_rename, List.map_map, List.map_map]
  rfl

theorem hashes_rename (value : Datum) :
    (value.rename name).hashes = value.hashes.map (Event.rename name) := by
  rw [hashes, hashes, ids_rename, List.map_map, List.map_map]
  rfl

theorem edit_rename (mode : EditMode) (old new : Datum) :
    (old.rename name).edit mode (new.rename name) =
      ⟨(old.edit mode new).value.rename name, (old.edit mode new).events.map (Event.rename name)⟩ := by
  have assigned : (old.rename name).drops = old.drops.map (Event.rename name) := old.drops_rename
  cases mode with
  | assign => exact congrArg (Edited.mk _) assigned
  | add =>
      cases old with
      | leaf value =>
          cases new with
          | leaf value' => cases value <;> cases value' <;> rfl
          | _ => cases value <;> exact congrArg (Edited.mk _) assigned
      | list items =>
          cases new with
          | list items' => simp only [rename, edit, renameAll_append, List.map_nil]
          | _ => exact congrArg (Edited.mk _) assigned
      | _ => exact congrArg (Edited.mk _) assigned

end Datum

end TaggedUnion
