import TaggedUnion.Proofs.Effect
import TaggedUnion.Proofs.Ledger
import TaggedUnion.Proofs.Typing

/-!
# Identities of plain values

What comparing, reading, converting, editing and dispatching plain values does to the identities of
their tracked leaves, as changes of the ledger.
-/

set_option autoImplicit false

namespace TaggedUnion

/-! ## Comparisons -/

/-- The comparison logs only comparisons of an identity of the first list with one of the second. -/
def Verdict.Among (verdict : Verdict) (lefts rights : List Nat) : Prop :=
  ∀ event ∈ verdict.events, ∃ left ∈ lefts, ∃ right ∈ rights, event = .compared left right

namespace Verdict

theorem quiet_among {equal : Bool} {lefts rights : List Nat} : (quiet equal).Among lefts rights :=
  List.forall_mem_nil _

theorem Among.andThen {first second : Verdict} {lefts lefts' rights rights' : List Nat}
    (before : first.Among lefts rights) (after : second.Among lefts' rights') :
    (first.andThen second).Among (lefts ++ lefts') (rights ++ rights') := by
  have early : first.Among (lefts ++ lefts') (rights ++ rights') := by
    intro event member
    obtain ⟨left, inLeft, right, inRight, same⟩ := before event member
    exact ⟨left, List.mem_append_left _ inLeft, right, List.mem_append_left _ inRight, same⟩
  unfold Verdict.andThen
  split
  · intro event member
    rcases List.mem_append.mp member with inFirst | inSecond
    · exact early event inFirst
    · obtain ⟨left, inLeft, right, inRight, same⟩ := after event inSecond
      exact ⟨left, List.mem_append_right _ inLeft, right, List.mem_append_right _ inRight, same⟩
  · exact early

end Verdict

theorem Leaf.compare_among (left right : Leaf) : (left.compare right).Among left.ids right.ids := by
  unfold Leaf.compare
  split
  · intro event member
    cases List.mem_singleton.mp member
    exact ⟨_, List.mem_singleton_self _, _, List.mem_singleton_self _, rfl⟩
  · exact Verdict.quiet_among

namespace Datum

mutual

theorem compare_among : (left right : Datum) → (left.compare right).Among left.ids right.ids
  | .leaf left, right => by
      cases right with
      | leaf right => exact Leaf.compare_among left right
      | _ => exact Verdict.quiet_among
  | .list items, right => by
      cases right with
      | list items' =>
          unfold Datum.compare
          split
          · exact compareAll_among items items'
          · exact Verdict.quiet_among
      | _ => exact Verdict.quiet_among
  | .none, right => by
      cases right <;> exact Verdict.quiet_among
  | .some content, right => by
      cases right with
      | some content' => exact compare_among content content'
      | _ => exact Verdict.quiet_among
  | .pair first second, right => by
      cases right with
      | pair first' second' => exact (compare_among first first').andThen (compare_among second second')
      | _ => exact Verdict.quiet_among
  | .record _ content, right => by
      cases right with
      | record _ content' => exact compare_among content content'
      | _ => exact Verdict.quiet_among
  | .variant index content, right => by
      cases right with
      | variant index' content' =>
          unfold Datum.compare
          split
          · exact compare_among content content'
          · exact Verdict.quiet_among
      | _ => exact Verdict.quiet_among

theorem compareAll_among : (lefts rights : List Datum) →
    (compareAll lefts rights).Among (allIds lefts) (allIds rights)
  | [], _ => Verdict.quiet_among
  | _ :: _, [] => Verdict.quiet_among
  | left :: lefts, right :: rights =>
      (compare_among left right).andThen (compareAll_among lefts rights)

end

/-! ## Identities of plain values -/

theorem allIds_append (first second : List Datum) :
    allIds (first ++ second) = allIds first ++ allIds second := by
  induction first with
  | nil => rfl
  | cons item items ih => simp only [List.cons_append, allIds, ih, List.append_assoc]

theorem allIds_eq_nil {items : List Datum} (each : ∀ item ∈ items, item.ids = []) :
    allIds items = [] := by
  induction items with
  | nil => rfl
  | cons item items ih =>
      have rest := ih fun item member => each item (List.mem_cons_of_mem _ member)
      rw [allIds, each item List.mem_cons_self, rest, List.append_nil]

theorem ids_bytes (bytes : List UInt8) :
    (list (bytes.map fun byte => .leaf (.int .u8 byte.toNat))).ids = [] := by
  apply allIds_eq_nil
  intro item member
  obtain ⟨byte, -, rfl⟩ := List.mem_map.mp member
  rfl

mutual

/-- Renumbering gives a value as many identities as it had, the next free ones. -/
theorem ids_renumber : (value : Datum) → (fresh : Nat) →
    (value.renumber fresh).ids = List.range' fresh value.ids.length
  | .leaf value, fresh => by cases value <;> rfl
  | .list items, fresh => allIds_renumberAll items fresh
  | .none, _ => rfl
  | .some content, fresh => ids_renumber content fresh
  | .pair first second, fresh => by
      simp only [renumber, ids, ids_renumber first, ids_renumber second, List.length_append,
        List.range'_append_1]
  | .record _ content, fresh => ids_renumber content fresh
  | .variant _ content, fresh => ids_renumber content fresh

theorem allIds_renumberAll : (items : List Datum) → (fresh : Nat) →
    allIds (renumberAll fresh items) = List.range' fresh (allIds items).length
  | [], _ => rfl
  | item :: items, fresh => by
      simp only [renumberAll, allIds, ids_renumber item, allIds_renumberAll items, List.length_append,
        List.range'_append_1]

end

end Datum

/-! ## The ledger of made values -/

/-- The identities of a value that may be missing. -/
def Datum.idsOf? (value : Option Datum) : List Nat := value.elim [] ids

theorem Datum.idsOf?_none_add (live : Multiset ℕ) :
    (idsOf? Option.none : Multiset ℕ) + live = live :=
  zero_add live

namespace Literal

/-- While the items of a list are read, the ledger holds the identities of those read before. -/
theorem readItems_keeps {read : Nat → Literal → Made (Option Datum)}
    (part : ∀ nextId item, Keeps 0 nextId (read nextId item).events
      (Datum.idsOf? (read nextId item).value) (read nextId item).nextId)
    (done : List Datum) (nextId : Nat) (items : List Literal) :
    Keeps (Datum.allIds done) nextId (readItems read done nextId items).events
      (Datum.idsOf? (readItems read done nextId items).value) (readItems read done nextId items).nextId := by
  induction items generalizing done nextId with
  | nil => exact .nil
  | cons item items ih =>
      have first := (part nextId item).frame (Datum.allIds done)
      rw [zero_add] at first
      unfold readItems
      dsimp only
      split
      · rename_i missing
        rw [missing] at first
        apply first.append
        rw [Datum.idsOf?_none_add]
        exact .drops _ _
      · rename_i value found
        rw [found] at first
        have rest := ih (done ++ [value]) (read nextId item).nextId
        have together : (Datum.allIds (done ++ [value]) : Multiset ℕ) =
            Datum.idsOf? (some value) + Datum.allIds done := by
          rw [Datum.allIds_append, ← Multiset.coe_add, add_comm]
          simp only [Datum.allIds, List.append_nil]
          rfl
        rw [together] at rest
        exact first.append rest

theorem readAround_keeps (whole : Datum → Datum) (same : ∀ value, (whole value).ids = value.ids)
    {nextId : Nat} {part : Made (Option Datum)}
    (keeps : Keeps 0 nextId part.events (Datum.idsOf? part.value) part.nextId) :
    Keeps 0 nextId (readAround whole part).events (Datum.idsOf? (readAround whole part).value)
      (readAround whole part).nextId := by
  have ids : Datum.idsOf? (readAround whole part).value = Datum.idsOf? part.value := by
    change Datum.idsOf? (part.value.map whole) = _
    cases part.value with
    | none => rfl
    | some value => exact same value
  rw [ids]
  exact keeps

theorem keepsRules :
    ReadingRules fun _ nextId made =>
      Keeps 0 nextId made.events (Datum.idsOf? made.value) made.nextId where
  unread _ _ := .nil
  leaf _ anonymous := by
    have none : (Datum.idsOf? (some (.leaf _)) : Multiset ℕ) = 0 := congrArg _ anonymous
    rw [none]
    exact .nil
  tracked _ := .single .created
  absent _ _ := .nil
  present := readAround_keeps .some fun _ => rfl
  record := readAround_keeps (.record _) fun _ => rfl
  variant _ _ := readAround_keeps (.variant _) fun _ => rfl
  pair := by
    intro type type' nextId first second firstKeeps secondKeeps
    unfold readPair
    split
    · exact firstKeeps
    · rename_i value found
      rw [found] at firstKeeps
      have both := (secondKeeps first.nextId).frame value.ids
      rw [zero_add] at both
      dsimp only
      split
      · rename_i missing
        rw [missing] at both
        have dropped : Keeps (Datum.idsOf? none + value.ids) (second first.nextId).nextId value.drops
            (Datum.idsOf? none) (second first.nextId).nextId := by
          rw [Datum.idsOf?_none_add]
          exact .drops _ _
        exact (firstKeeps.append both).append dropped
      · rename_i value' found'
        rw [found'] at both
        have together : (Datum.idsOf? (some (.pair value value')) : Multiset ℕ) =
            Datum.idsOf? (some value') + value.ids := by
          rw [add_comm]
          rfl
        rw [together]
        exact firstKeeps.append both
  list part nextId items := readItems_keeps part [] nextId items

end Literal

/-- A conversion passes the identities of the value on; a tracked leaf that it makes is new. -/
theorem Conversion.convert?_keeps {conversion : Conversion} {nextId : Nat} {value : Datum}
    {made : Made Datum} (converted : conversion.convert? nextId value = some made) :
    Keeps value.ids nextId made.events made.value.ids made.nextId := by
  unfold convert? at converted
  split at converted
  case h_10 =>
    cases converted
    dsimp only
    rw [Datum.ids_bytes]
    exact .nil
  case h_13 =>
    cases converted
    exact .single .converted
  case h_14 => cases converted
  all_goals
    cases converted
    exact .nil

theorem Supply.keeps {nextId : Nat} {made : Made Datum} (supply : Supply nextId made) :
    Keeps 0 nextId made.events made.value.ids made.nextId := by
  induction supply with
  | @read type literal value found =>
      have keeps := Literal.keepsRules.read type nextId literal
      rw [found] at keeps
      exact keeps
  | converted _ was ih => exact ih.append (Conversion.convert?_keeps was)

/-- An edit drops the old value, or its identities are those of both values together. -/
theorem Datum.edit_keeps (mode : EditMode) (old new : Datum) (nextId : Nat) :
    Keeps (old.ids + new.ids) nextId (old.edit mode new).events (old.edit mode new).value.ids nextId := by
  have assigned : Keeps (old.ids + new.ids) nextId old.drops new.ids nextId := by
    have dropped := (Keeps.drops nextId old.ids).frame new.ids
    rwa [zero_add] at dropped
  unfold Datum.edit
  split
  · exact .nil
  · exact .nil
  · rename_i items items'
    simp only [Datum.ids, Datum.allIds_append]
    exact .nil
  · exact assigned

theorem Handler.run?_keeps {slot slot' : Handler} {type : Ty} {value : Datum} {events : List Event}
    (ran : slot.run? type value = some (slot', events)) (live : Multiset ℕ) (next : ℕ) :
    Keeps live next events live next := by
  unfold Handler.run? at ran
  split at ran
  · cases ran
    exact .nil
  · split at ran <;> cases ran
    exact .single .ran
  · split at ran <;> cases ran
    exact .single .recorded

theorem Choice.dispatch_keeps {union : Choice} {types : List Ty} {table table' : HandlerTable}
    {events : List Event} (dispatched : union.dispatch types table = .ok (table', events))
    (live : Multiset ℕ) (next : ℕ) : Keeps live next events live next := by
  unfold Choice.dispatch at dispatched
  split at dispatched
  · cases dispatched
  · split at dispatched
    · cases dispatched
    · rename_i outcome ran
      cases dispatched
      unfold HandlerTable.runAt? at ran
      split at ran
      · cases ran
      · obtain ⟨⟨slot', logged⟩, run, same⟩ := Option.map_eq_some_iff.mp ran
        cases same
        exact Handler.run?_keeps run live next

end TaggedUnion
