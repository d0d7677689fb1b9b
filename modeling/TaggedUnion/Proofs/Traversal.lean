import TaggedUnion.Proofs.Ownership
import TaggedUnion.Proofs.Presentation

/-!
# What the operations on a whole union touch

Dropping, cloning and hashing a union go over the tracked leaves of its active value, from left to
right and once each. A comparison goes over what faces each other in the two active values, up to
the first place where they differ. None of them touches anything else.
-/

set_option autoImplicit false

namespace TaggedUnion

open Registry

/-! ## What a comparison comes to -/

theorem Verdict.andThen_assoc (first second third : Verdict) :
    (first.andThen second).andThen third = first.andThen (second.andThen third) := by
  unfold andThen
  cases early : first.equal with
  | false => simp [early]
  | true => cases late : second.equal <;> simp [late]

/-- A place at which two values are compared. -/
inductive Facing where
  | leaves (left right : Leaf)
  /-- The values differ before any of their leaves is looked at: in the lengths of lists, in the
  indices of unions or in what is there at all. -/
  | apart

namespace Facing

def equal : Facing → Bool
  | leaves left right => left.equal right
  | apart => false

/-- Only two tracked leaves log it when they are compared. -/
def events : Facing → List Event
  | leaves (.tracked _ id _) (.tracked _ id' _) => [.compared id id']
  | _ => []

/-- All places up to the first one at which the values differ, and that one. -/
def reached : List Facing → List Facing
  | [] => []
  | facing :: rest => if facing.equal then facing :: reached rest else [facing]

/-- The comparison that goes along the places and stops after the first difference. -/
def verdict (facings : List Facing) : Verdict :=
  ⟨facings.all equal, (reached facings).flatMap events⟩

theorem verdict_cons (facing : Facing) (rest : List Facing) :
    verdict (facing :: rest) = (Verdict.mk facing.equal facing.events).andThen (verdict rest) := by
  cases same : facing.equal <;> simp [verdict, Verdict.andThen, reached, same]

theorem verdict_singleton (facing : Facing) : verdict [facing] = ⟨facing.equal, facing.events⟩ := by
  cases same : facing.equal <;> simp [verdict, reached, same]

theorem verdict_append (first second : List Facing) :
    verdict (first ++ second) = (verdict first).andThen (verdict second) := by
  induction first with
  | nil => rfl
  | cons facing rest ih => rw [List.cons_append, verdict_cons, verdict_cons, ih, Verdict.andThen_assoc]

end Facing

theorem Leaf.compare_eq_verdict (left right : Leaf) :
    left.compare right = Facing.verdict [.leaves left right] := by
  rw [Facing.verdict_singleton]
  cases left <;> cases right <;> rfl

namespace Datum

mutual

/-- The places at which two values are compared, from left to right. -/
def facings : Datum → Datum → List Facing
  | .leaf left, .leaf right => [.leaves left right]
  | list left, list right => if left.length = right.length then facingsAll left right else [.apart]
  | none, none => []
  | some left, some right => left.facings right
  | pair first second, pair first' second' => first.facings first' ++ second.facings second'
  | record _ left, record _ right => left.facings right
  | variant index left, variant index' right =>
    if index = index' then left.facings right else [.apart]
  | _, _ => [.apart]

def facingsAll : List Datum → List Datum → List Facing
  | left :: lefts, right :: rights => left.facings right ++ facingsAll lefts rights
  | _, _ => []

end

mutual

theorem compare_eq_verdict : (left right : Datum) →
    left.compare right = Facing.verdict (left.facings right)
  | .leaf left, right => by
      cases right with
      | leaf right => exact left.compare_eq_verdict right
      | _ => rfl
  | .list lefts, right => by
      cases right with
      | list rights =>
          unfold compare facings
          split
          · exact compareAll_eq_verdict lefts rights
          · rfl
      | _ => rfl
  | .none, right => by cases right <;> rfl
  | .some left, right => by
      cases right with
      | some right => exact compare_eq_verdict left right
      | _ => rfl
  | .pair first second, right => by
      cases right with
      | pair first' second' =>
          rw [compare, facings, Facing.verdict_append, compare_eq_verdict first first',
            compare_eq_verdict second second']
      | _ => rfl
  | .record _ left, right => by
      cases right with
      | record _ right => exact compare_eq_verdict left right
      | _ => rfl
  | .variant index left, right => by
      cases right with
      | variant index' right =>
          unfold compare facings
          split
          · exact compare_eq_verdict left right
          · rfl
      | _ => rfl

theorem compareAll_eq_verdict : (lefts rights : List Datum) →
    compareAll lefts rights = Facing.verdict (facingsAll lefts rights)
  | [], _ => rfl
  | _ :: _, [] => rfl
  | left :: lefts, right :: rights => by
      rw [compareAll, facingsAll, Facing.verdict_append, compare_eq_verdict left right,
        compareAll_eq_verdict lefts rights]

end

end Datum

/-! ## Which leaves a comparison pairs -/

/-- The comparisons of leaves at corresponding positions, from left to right. -/
def Log.comparisons (lefts rights : List Nat) : List Event :=
  (lefts.zip rights).map fun ids => .compared ids.1 ids.2

/-- The comparison logs leaves at corresponding positions, beginning with the first ones, and goes
through all of them unless it finds a difference. -/
structure Verdict.Pairs (verdict : Verdict) (lefts rights : List Nat) : Prop where
  begins : verdict.events <+: Log.comparisons lefts rights
  whole : verdict.equal = true →
    lefts.length = rights.length ∧ verdict.events = Log.comparisons lefts rights

section

variable {lefts rights lefts' rights' : List Nat}

theorem Log.comparisons_append (same : lefts.length = rights.length) :
    comparisons (lefts ++ lefts') (rights ++ rights') =
      comparisons lefts rights ++ comparisons lefts' rights' := by
  rw [comparisons, List.zip_append same, List.map_append]
  rfl

theorem Log.comparisons_prefix :
    comparisons lefts rights <+: comparisons (lefts ++ lefts') (rights ++ rights') := by
  apply List.IsPrefix.map
  induction lefts generalizing rights with
  | nil => exact List.nil_prefix
  | cons left lefts ih =>
      cases rights with
      | nil => exact List.nil_prefix
      | cons right rights => exact List.prefix_cons_inj _ |>.mpr ih

namespace Verdict

theorem apart_pairs : (quiet false).Pairs lefts rights where
  begins := List.nil_prefix
  whole := by simp [quiet]

theorem Pairs.andThen {first second : Verdict} (pairs : first.Pairs lefts rights)
    (pairs' : second.Pairs lefts' rights') :
    (first.andThen second).Pairs (lefts ++ lefts') (rights ++ rights') := by
  unfold Verdict.andThen
  split
  · rename_i same
    obtain ⟨lengths, events⟩ := pairs.whole same
    constructor
    · rw [Log.comparisons_append lengths, events]
      exact (List.prefix_append_right_inj _).mpr pairs'.begins
    · intro equal
      obtain ⟨lengths', events'⟩ := pairs'.whole equal
      constructor
      · rw [List.length_append, List.length_append, lengths, lengths']
      · rw [Log.comparisons_append lengths, events, events']
  · rename_i different
    exact ⟨pairs.begins.trans Log.comparisons_prefix, fun equal => absurd equal different⟩

end Verdict

end

theorem Leaf.compare_pairs (left right : Leaf) : (left.compare right).Pairs left.ids right.ids := by
  have nothing {equal : Bool} : (Verdict.quiet equal).Pairs [] [] :=
    ⟨List.nil_prefix, fun _ => ⟨rfl, rfl⟩⟩
  cases left with
  | tracked kind id number =>
      cases right with
      | tracked kind' id' number' => exact ⟨List.prefix_rfl, fun _ => ⟨rfl, rfl⟩⟩
      | _ => exact Verdict.apart_pairs
  | _ => cases right <;> first | exact nothing | exact Verdict.apart_pairs

namespace Datum

mutual

theorem compare_pairs : (left right : Datum) → (left.compare right).Pairs left.ids right.ids
  | .leaf left, right => by
      cases right with
      | leaf right => exact left.compare_pairs right
      | _ => exact Verdict.apart_pairs
  | .list lefts, right => by
      cases right with
      | list rights =>
          unfold compare
          split
          · exact compareAll_pairs lefts rights ‹_›
          · exact Verdict.apart_pairs
      | _ => exact Verdict.apart_pairs
  | .none, right => by
      cases right with
      | none => exact ⟨List.nil_prefix, fun _ => ⟨rfl, rfl⟩⟩
      | _ => exact Verdict.apart_pairs
  | .some left, right => by
      cases right with
      | some right => exact compare_pairs left right
      | _ => exact Verdict.apart_pairs
  | .pair first second, right => by
      cases right with
      | pair first' second' => exact (compare_pairs first first').andThen (compare_pairs second second')
      | _ => exact Verdict.apart_pairs
  | .record _ left, right => by
      cases right with
      | record _ right => exact compare_pairs left right
      | _ => exact Verdict.apart_pairs
  | .variant index left, right => by
      cases right with
      | variant index' right =>
          unfold compare
          split
          · exact compare_pairs left right
          · exact Verdict.apart_pairs
      | _ => exact Verdict.apart_pairs

theorem compareAll_pairs : (lefts rights : List Datum) → lefts.length = rights.length →
    (compareAll lefts rights).Pairs (allIds lefts) (allIds rights)
  | [], [], _ => ⟨List.nil_prefix, fun _ => ⟨rfl, rfl⟩⟩
  | [], _ :: _, lengths => nomatch lengths
  | _ :: _, [], lengths => nomatch lengths
  | left :: lefts, right :: rights, lengths =>
      (compare_pairs left right).andThen (compareAll_pairs lefts rights (Nat.succ.inj lengths))

end

end Datum

/-! ## Unions in storage -/

theorem Choice.ids_stored (union : Choice) : union.stored.storage.ids = union.value.ids :=
  (Chain.ids_place union.index _).trans (Stored.ids_ofDatum union.value)

/-- What the operations on the union log. The tracked leaves of its active value are those in its
storage, whatever the list of alternatives is. -/
structure Tagged.TouchesActive (types : List Ty) (union : Tagged) : Prop where
  viewed : ∃ value, union.view types = .ok value ∧ value.ids = union.storage.ids
  drop : Tagged.drop types union = .ok (union.storage.ids.map .dropped)
  clone : ∀ nextId, ∃ copy, copy.storage.ids = List.range' nextId union.storage.ids.length ∧
    Tagged.clone types nextId union = .ok ⟨copy, nextId + union.storage.ids.length,
      (union.storage.ids.zip copy.storage.ids).map fun ids => .cloned ids.1 ids.2⟩
  hash : ∃ bytes, Tagged.hash types union = .ok ⟨bytes, union.storage.ids.map .hashed⟩
  compare : ∀ other, other.WellFormed types → ∃ verdict,
    Tagged.compare types union other = .ok verdict ∧
      verdict.Pairs union.storage.ids other.storage.ids ∧
      (union.tag ≠ other.tag → verdict = .quiet false) ∧
      (union.tag = other.tag → ∃ value value', union.view types = .ok value ∧
        other.view types = .ok value' ∧ verdict = Facing.verdict (value.facings value'))

theorem Tagged.WellFormed.touchesActive {types : List Ty} {union : Tagged}
    (formed : union.WellFormed types) : union.TouchesActive types := by
  obtain ⟨choice, typed, rfl⟩ := formed.exists_choice
  have ids := choice.ids_stored
  constructor
  · exact ⟨choice.value, typed.view_stored.1, ids.symm⟩
  · rw [ids]
    exact typed.drop_stored
  · intro nextId
    have copied : (choice.clone nextId).value.stored.storage.ids =
        List.range' nextId choice.value.ids.length :=
      (Choice.ids_stored _).trans (choice.value.ids_renumber nextId)
    refine ⟨(choice.clone nextId).value.stored, ?_, ?_⟩
    · rw [copied, ids]
    · rw [copied, ids]
      exact typed.clone_stored nextId
  · rw [ids]
    exact ⟨choice.hash.bytes, typed.hash_stored⟩
  · intro other formedOther
    obtain ⟨choice', typed', rfl⟩ := formedOther.exists_choice
    refine ⟨choice.compare choice', typed.compare_stored typed', ?_, ?_, ?_⟩
    · rw [ids, choice'.ids_stored]
      unfold Choice.compare
      split
      · exact choice.value.compare_pairs choice'.value
      · exact Verdict.apart_pairs
    · intro differ
      have apart : choice.index ≠ choice'.index := fun same =>
        differ ((tag_stored_iff typed typed').mpr same)
      exact if_neg apart
    · intro same
      have together : choice.compare choice' = choice.value.compare choice'.value :=
        if_pos ((tag_stored_iff typed typed').mp same)
      exact ⟨choice.value, choice'.value, typed.view_stored.1, typed'.view_stored.1,
        together.trans (choice.value.compare_eq_verdict choice'.value)⟩

namespace Machine

structure LogsActive (types : List Ty) (state : State Tagged) (register : Register) (union : Tagged) :
    Prop where
  drop : StepShows types (.drop (some register)) state .done (state.put register none)
    (union.storage.ids.map .dropped)
  clone : ∀ target, ∃ after dropped,
    StepShows types (.clone (some register) (some target)) state .done after
        ((union.storage.ids.zip (List.range' state.nextId union.storage.ids.length)).map
            (fun ids => .cloned ids.1 ids.2) ++ dropped) ∧
      (state.content target = none → dropped = []) ∧
      ∀ old, state.content target = some old → dropped = old.storage.ids.map .dropped
  hash : Ty.allHashable types = true → ∃ bytes,
    StepShows types (.hash (some register)) state (.bytes bytes) state (union.storage.ids.map .hashed)
  compare : ∀ other union', state.content other = some union' → ∃ verdict,
    Tagged.compare types union union' = .ok verdict ∧ ∀ negated,
      StepShows types (.compare negated (some register) (some other)) state
        (.truth (verdict.equal != negated)) state verdict.events

theorem logsActive_stored {types : List Ty} {state : State Choice} (typed : state.Typed types)
    {register : Register} {union : Choice} (held : state.content register = some union) :
    LogsActive types state.stored register union.stored := by
  have unionTyped := typed.registers register union held
  have ids := union.ids_stored
  constructor
  · have dropped : StepShows types (.drop (some register)) state.stored .done
        (state.put register none).stored union.value.drops := step_shows typed (drop_shows held)
    rw [State.put_stored] at dropped
    rw [ids]
    exact dropped
  · intro target
    have cloned := step_shows typed (clone_shows held target)
    rw [ids]
    refine ⟨_, Choice.dropsOf (state.content target), cloned, ?_, ?_⟩
    · intro empty
      rw [state.content_stored, Option.map_eq_none_iff] at empty
      rw [empty]
      rfl
    · intro old heldOld
      obtain ⟨choice, chosen, rfl⟩ := State.exists_held heldOld
      rw [chosen, choice.ids_stored]
      rfl
  · intro hashable
    rw [ids]
    exact ⟨union.hash.bytes, step_shows typed (hash_shows held hashable)⟩
  · intro other union' heldOther
    obtain ⟨choice, chosen, rfl⟩ := State.exists_held heldOther
    refine ⟨union.compare choice, unionTyped.compare_stored (typed.registers other choice chosen), ?_⟩
    intro negated
    exact step_shows typed (compare_shows held chosen negated)

/-- The operations on a whole union touch the tracked leaves of its active value and nothing else.
Dropping, cloning and hashing log each of them once, from left to right, and a clone numbers its
leaves consecutively by identities that were never used before. Comparing unions with different
tags logs nothing. Comparing others logs the pairs of leaves at corresponding positions, as far as
the first place where the values differ. -/
theorem only_active_value_touched (types : List Ty) :
    (∀ union : Tagged, union.WellFormed types → union.TouchesActive types) ∧
    ∀ program : List (Op Ty), ∃ entries, ∃ state : State Tagged,
      steps .tagged types program (State.initial types) = .ok (entries, state) ∧
      (∀ id ∈ Log.born (entries.flatMap Entry.events), id < state.nextId) ∧
      ∀ register union, state.content register = some union →
        union.WellFormed types ∧ LogsActive types state register union := by
  constructor
  · exact fun union formed => formed.touchesActive
  · intro program
    obtain ⟨entries, state, tagged, plain, typed⟩ := steps_initial types program
    refine ⟨entries, state.stored, tagged, ?_, ?_⟩
    · intro id born
      rw [(steps_accounts plain).born] at born
      exact List.mem_range.mp born
    · intro register stored storedHeld
      obtain ⟨union, held, rfl⟩ := State.exists_held storedHeld
      exact ⟨(typed.registers register union held).wellFormed, logsActive_stored typed held⟩

end Machine

end TaggedUnion
