import TaggedUnion.Proofs.BinaryValue
import TaggedUnion.Proofs.HashBytes

/-!
# Which unions are equal

Equality is given here by rules, one for each form of value, and without the order in which values
are compared: unions are equal if they have one tag and equal values, binary numbers if they stand
for the same, tracked leaves if they have one number, all other leaves if they are the same. What the
comparison finds is this relation. It is symmetric and transitive, and holds of a value and itself
unless there is something in it that is not a number.
-/

set_option autoImplicit false

namespace TaggedUnion

open Registry

/-! ## The relation -/

/-- Neither a binary number nor a tracked leaf: only the leaf itself equals it. -/
def Leaf.exact : Leaf → Bool
  | .float _ | .tracked _ _ _ => false
  | _ => true

inductive Leaf.Equals : Leaf → Leaf → Prop where
  | float {left right : Binary} {amount : Amount} :
      left.amount? = some amount → right.amount? = some amount → Equals (.float left) (.float right)
  | tracked {kind id id' : Nat} {number : Int} :
      Equals (.tracked kind id number) (.tracked kind id' number)
  | same {leaf : Leaf} : leaf.exact = true → Equals leaf leaf

inductive Datum.Equals : Datum → Datum → Prop where
  | leaf {left right : Leaf} : left.Equals right → Equals (.leaf left) (.leaf right)
  | list {lefts rights : List Datum} :
      lefts.length = rights.length →
      (∀ (position : Nat) (left right : Datum), lefts[position]? = Option.some left →
        rights[position]? = Option.some right → Equals left right) →
      Equals (.list lefts) (.list rights)
  | none : Equals .none .none
  | some {left right : Datum} : Equals left right → Equals (.some left) (.some right)
  | pair {first first' second second' : Datum} :
      Equals first first' → Equals second second' →
      Equals (.pair first second) (.pair first' second')
  | record {label : String} {left right : Datum} :
      Equals left right → Equals (.record label left) (.record label right)
  | variant {index : Nat} {left right : Datum} :
      Equals left right → Equals (.variant index left) (.variant index right)

/-- The leaf is somewhere in the value. -/
inductive Datum.HasLeaf (leaf : Leaf) : Datum → Prop where
  | here : HasLeaf leaf (.leaf leaf)
  | item {items : List Datum} {item : Datum} :
      item ∈ items → HasLeaf leaf item → HasLeaf leaf (.list items)
  | some {content : Datum} : HasLeaf leaf content → HasLeaf leaf (.some content)
  | first {first second : Datum} : HasLeaf leaf first → HasLeaf leaf (.pair first second)
  | second {first second : Datum} : HasLeaf leaf second → HasLeaf leaf (.pair first second)
  | record {label : String} {content : Datum} :
      HasLeaf leaf content → HasLeaf leaf (.record label content)
  | variant {index : Nat} {content : Datum} :
      HasLeaf leaf content → HasLeaf leaf (.variant index content)

def Leaf.isNaN : Leaf → Bool
  | .float number => number.isNaN
  | _ => false

namespace Ty

mutual

/-- Values of the type hold neither binary numbers nor tracked leaves. -/
def exact : Ty → Bool
  | int _ | bool | char | unit | string | fixedText | empty _ => true
  | float _ | tracked _ => false
  | record _ content => content.exact
  | list item | option item => item.exact
  | pair first second => first.exact && second.exact
  | variant alternatives => allExact alternatives

def allExact : List Ty → Bool
  | [] => true
  | type :: types => type.exact && allExact types

end

theorem exact_of_typeAt? {types : List Ty} {index : Nat} {type : Ty} (exact : allExact types = true)
    (found : typeAt? types index = some type) : type.exact = true := by
  induction types generalizing index with
  | nil => cases found
  | cons head tail ih =>
      rw [allExact, Bool.and_eq_true] at exact
      cases index with
      | zero =>
          cases found
          exact exact.1
      | succ index => exact ih exact.2 found

end Ty

/-! ## Leaves -/

namespace Leaf

variable {left middle right leaf : Leaf} {type : Ty}

theorem equals_iff_of_exact (exact : left.exact = true) : left.Equals right ↔ left = right := by
  constructor
  · intro equals
    cases equals with
    | float | tracked => cases exact
    | same => rfl
  · rintro rfl
    exact .same exact

theorem equal_iff_of_exact (exact : left.exact = true) : left.equal right = true ↔ left = right := by
  unfold Leaf.equal
  split
  · cases exact
  · cases exact
  · exact beq_iff_eq

theorem equal_iff_equals (leftHeld : left.HasType type) (rightHeld : right.HasType type) :
    left.equal right = true ↔ left.Equals right := by
  cases left with
  | float number =>
      cases type <;> try exact absurd leftHeld id
      cases right <;> try exact absurd rightHeld id
      rw [Leaf.equal, Binary.equal_iff_amount (leftHeld.1.trans rightHeld.1.symm) leftHeld.2 rightHeld.2]
      constructor
      · rintro ⟨amount, leftFound, rightFound⟩
        exact .float leftFound rightFound
      · intro equals
        cases equals with
        | float leftFound rightFound => exact ⟨_, leftFound, rightFound⟩
        | same exact => cases exact
  | tracked kind identity number =>
      cases type <;> try exact absurd leftHeld id
      cases right <;> try exact absurd rightHeld id
      obtain ⟨rfl, -⟩ := leftHeld
      obtain ⟨rfl, -⟩ := rightHeld
      rw [Leaf.equal, beq_iff_eq]
      constructor
      · rintro rfl
        exact .tracked
      · intro equals
        cases equals with
        | tracked => rfl
        | same exact => cases exact
  | _ => rw [equal_iff_of_exact rfl, equals_iff_of_exact rfl]

theorem Equals.symm (equals : left.Equals right) : right.Equals left := by
  cases equals with
  | float leftFound rightFound => exact .float rightFound leftFound
  | tracked => exact .tracked
  | same exact => exact .same exact

theorem Equals.trans (first : left.Equals middle) (second : middle.Equals right) : left.Equals right := by
  cases first with
  | float leftFound found =>
      cases second with
      | float found' rightFound =>
          cases found.symm.trans found'
          exact .float leftFound rightFound
      | same exact => cases exact
  | tracked =>
      cases second with
      | tracked => exact .tracked
      | same exact => cases exact
  | same exact => exact second

theorem equals_self_iff : leaf.Equals leaf ↔ leaf.isNaN = false := by
  constructor
  · intro equals
    cases equals with
    | float found _ => exact Binary.amount?_isSome_iff.mp (Option.isSome_of_eq_some found)
    | tracked => rfl
    | same exact =>
        cases leaf with
        | float => cases exact
        | _ => rfl
  · intro isNumber
    cases leaf with
    | float number =>
        obtain ⟨amount, found⟩ := Option.isSome_iff_exists.mp (Binary.amount?_isSome_iff.mpr isNumber)
        exact .float found found
    | tracked => exact .tracked
    | _ => exact .same rfl

theorem HasType.exact (held : leaf.HasType type) (exact : type.exact = true) : leaf.exact = true := by
  cases leaf with
  | float | tracked =>
      cases type with
      | float | tracked => cases exact
      | _ => exact absurd held id
  | _ => rfl

end Leaf

/-! ## Values -/

namespace Datum

variable {left middle right value : Datum} {type : Ty}

theorem compareAll_equal_iff {lefts rights : List Datum} (lengths : lefts.length = rights.length) :
    (compareAll lefts rights).equal = true ↔
      ∀ (position : Nat) (left right : Datum), lefts[position]? = Option.some left →
        rights[position]? = Option.some right → (left.compare right).equal = true := by
  induction lefts generalizing rights with
  | nil =>
      constructor
      · exact nofun
      · exact fun _ => rfl
  | cons left lefts ih =>
      cases rights with
      | nil => cases lengths
      | cons right rights =>
          rw [compareAll, Verdict.andThen_equal, Bool.and_eq_true, ih (Nat.succ.inj lengths)]
          constructor
          · rintro ⟨first, rest⟩ position item item' found found'
            cases position with
            | zero =>
                cases found
                cases found'
                exact first
            | succ position => exact rest position item item' found found'
          · intro each
            exact ⟨each 0 left right rfl rfl, fun position => each (position + 1)⟩

/-! ### Equal values part by part -/

theorem equals_leaf_iff {left right : Leaf} : (leaf left).Equals (leaf right) ↔ left.Equals right := by
  constructor
  · rintro ⟨equals⟩
    exact equals
  · exact .leaf

theorem equals_list_iff {lefts rights : List Datum} :
    (list lefts).Equals (list rights) ↔ lefts.length = rights.length ∧
      ∀ (position : Nat) (left right : Datum), lefts[position]? = Option.some left →
        rights[position]? = Option.some right → left.Equals right := by
  constructor
  · intro equals
    cases equals with
    | list lengths items => exact ⟨lengths, items⟩
  · exact fun both => .list both.1 both.2

theorem equals_some_iff : (some left).Equals (some right) ↔ left.Equals right := by
  constructor
  · intro equals
    cases equals with
    | some equals => exact equals
  · exact .some

theorem equals_pair_iff {first first' second second' : Datum} :
    (pair first second).Equals (pair first' second') ↔ first.Equals first' ∧ second.Equals second' := by
  constructor
  · intro equals
    cases equals with
    | pair firsts seconds => exact ⟨firsts, seconds⟩
  · exact fun both => .pair both.1 both.2

theorem equals_record_iff {label : String} :
    (record label left).Equals (record label right) ↔ left.Equals right := by
  constructor
  · intro equals
    cases equals with
    | record equals => exact equals
  · exact .record

theorem equals_variant_iff {index index' : Nat} :
    (variant index left).Equals (variant index' right) ↔ index = index' ∧ left.Equals right := by
  constructor
  · intro equals
    cases equals with
    | variant equals => exact ⟨rfl, equals⟩
  · rintro ⟨rfl, equals⟩
    exact .variant equals

/-- The comparison finds no difference exactly if the values are equal. -/
theorem Typed.compare_equal_iff (leftTyped : left.Typed type) (rightTyped : right.Typed type) :
    (left.compare right).equal = true ↔ left.Equals right := by
  induction leftTyped generalizing right with
  | leaf held =>
      obtain ⟨leaf, rfl⟩ := rightTyped.leaf_inv held
      obtain ⟨held'⟩ := rightTyped
      rw [compare, Leaf.compare_equal, Leaf.equal_iff_equals held held', equals_leaf_iff]
  | @list lefts _ _ ih =>
      obtain ⟨rights, rfl, each⟩ := rightTyped.list_inv
      have items (position : Nat) (left right : Datum) (inLeft : lefts[position]? = Option.some left)
          (inRight : rights[position]? = Option.some right) :=
        ih left (List.mem_of_getElem? inLeft) (each right (List.mem_of_getElem? inRight))
      rw [compare, equals_list_iff]
      split
      · rename_i lengths
        rw [compareAll_equal_iff lengths, and_iff_right lengths]
        constructor
        · intro equal position left right inLeft inRight
          exact (items position left right inLeft inRight).mp
            (equal position left right inLeft inRight)
        · intro equals position left right inLeft inRight
          exact (items position left right inLeft inRight).mpr
            (equals position left right inLeft inRight)
      · rename_i lengths
        exact iff_of_false Bool.false_ne_true fun both => lengths both.1
  | none =>
      rcases rightTyped.option_inv with rfl | ⟨content, rfl, -⟩
      · exact iff_of_true rfl .none
      · exact iff_of_false Bool.false_ne_true nofun
  | some _ ih =>
      rcases rightTyped.option_inv with rfl | ⟨content, rfl, contentTyped⟩
      · exact iff_of_false Bool.false_ne_true nofun
      · rw [compare, ih contentTyped, equals_some_iff]
  | pair _ _ firstIH secondIH =>
      obtain ⟨first, second, rfl, firstTyped, secondTyped⟩ := rightTyped.pair_inv
      rw [compare, Verdict.andThen_equal, Bool.and_eq_true, firstIH firstTyped, secondIH secondTyped,
        equals_pair_iff]
  | record _ ih =>
      obtain ⟨content, rfl, contentTyped⟩ := rightTyped.record_inv
      rw [compare, ih contentTyped, equals_record_iff]
  | @variant index _ _ _ _ found _ ih =>
      obtain ⟨index', content, type', same, -, found', contentTyped⟩ := rightTyped.variant_inv
      rw [same, compare, equals_variant_iff]
      split
      · rename_i here
        rw [← here] at found'
        cases found.symm.trans found'
        rw [ih contentTyped, and_iff_right here]
      · rename_i apart
        exact iff_of_false Bool.false_ne_true fun both => apart both.1

theorem Equals.symm (equals : left.Equals right) : right.Equals left := by
  induction equals with
  | leaf equals => exact .leaf equals.symm
  | list lengths _ ih =>
      apply Equals.list lengths.symm
      intro position left right inLeft inRight
      exact ih position right left inRight inLeft
  | none => exact .none
  | some _ ih => exact .some ih
  | pair _ _ first second => exact .pair first second
  | record _ ih => exact .record ih
  | variant _ ih => exact .variant ih

theorem Equals.trans (first : left.Equals middle) (second : middle.Equals right) : left.Equals right := by
  induction first generalizing right with
  | leaf equals =>
      cases second with
      | leaf equals' => exact .leaf (equals.trans equals')
  | @list lefts middles lengths _ ih =>
      cases second with
      | @list _ rights lengths' items' =>
          apply Equals.list (lengths.trans lengths')
          intro position left right inLeft inRight
          -- The list in the middle is as long, so it has an item at the position too.
          have inside := (List.getElem?_eq_some_iff.mp inLeft).1
          have inMiddle := List.getElem?_eq_getElem (lengths ▸ inside)
          exact ih position left _ inLeft inMiddle (items' position _ right inMiddle inRight)
  | none => exact second
  | some _ ih =>
      cases second with
      | some equals' => exact .some (ih equals')
  | pair _ _ firstIH secondIH =>
      cases second with
      | pair firsts seconds => exact .pair (firstIH firsts) (secondIH seconds)
  | record _ ih =>
      cases second with
      | record equals' => exact .record (ih equals')
  | variant _ ih =>
      cases second with
      | variant equals' => exact .variant (ih equals')

theorem Equals.isNumber {leaf : Leaf} (equals : value.Equals value) (inside : value.HasLeaf leaf) :
    leaf.isNaN = false := by
  induction inside with
  | here => exact Leaf.equals_self_iff.mp (equals_leaf_iff.mp equals)
  | item member _ ih =>
      obtain ⟨position, found⟩ := List.mem_iff_getElem?.mp member
      exact ih ((equals_list_iff.mp equals).2 position _ _ found found)
  | some _ ih => exact ih (equals_some_iff.mp equals)
  | first _ ih => exact ih (equals_pair_iff.mp equals).1
  | second _ ih => exact ih (equals_pair_iff.mp equals).2
  | record _ ih => exact ih (equals_record_iff.mp equals)
  | variant _ ih => exact ih (equals_variant_iff.mp equals).2

/-- A value equals itself unless there is something in it that is not a number. -/
theorem Typed.equals_self_iff (typed : value.Typed type) :
    value.Equals value ↔ ∀ leaf, value.HasLeaf leaf → leaf.isNaN = false := by
  constructor
  · exact fun equals leaf inside => equals.isNumber inside
  · intro numbers
    induction typed with
    | leaf => exact .leaf (Leaf.equals_self_iff.mpr (numbers _ .here))
    | list _ ih =>
        apply Equals.list rfl
        intro position left right inLeft inRight
        cases inLeft.symm.trans inRight
        have member := List.mem_of_getElem? inLeft
        exact ih left member fun leaf inside => numbers leaf (.item member inside)
    | none => exact .none
    | some _ ih => exact .some (ih fun leaf inside => numbers leaf (.some inside))
    | pair _ _ firstIH secondIH =>
        exact .pair (firstIH fun leaf inside => numbers leaf (.first inside))
          (secondIH fun leaf inside => numbers leaf (.second inside))
    | record _ ih => exact .record (ih fun leaf inside => numbers leaf (.record inside))
    | variant _ _ _ ih => exact .variant (ih fun leaf inside => numbers leaf (.variant inside))

/-- Of an exact type only the value itself equals a value. -/
theorem Typed.equals_iff_eq (typed : left.Typed type) (exact : type.exact = true) :
    left.Equals right ↔ left = right := by
  induction typed generalizing right with
  | leaf held =>
      constructor
      · intro equals
        cases equals with
        | leaf equals => rw [(Leaf.equals_iff_of_exact (held.exact exact)).mp equals]
      · rintro rfl
        exact .leaf (.same (held.exact exact))
  | @list lefts _ _ ih =>
      constructor
      · intro equals
        cases equals with
        | @list _ rights lengths items =>
            congr 1
            apply List.ext_getElem lengths
            intro position inLeft inRight
            have found := List.getElem?_eq_getElem inLeft
            apply (ih lefts[position] (List.getElem_mem inLeft) exact).mp
            exact items position _ _ found (List.getElem?_eq_getElem inRight)
      · rintro rfl
        apply Equals.list rfl
        intro position left right inLeft inRight
        cases inLeft.symm.trans inRight
        exact (ih left (List.mem_of_getElem? inLeft) exact).mpr rfl
  | none =>
      constructor
      · intro equals
        cases equals
        rfl
      · rintro rfl
        exact .none
  | some _ ih =>
      constructor
      · intro equals
        cases equals with
        | some equals => rw [(ih exact).mp equals]
      · rintro rfl
        exact .some ((ih exact).mpr rfl)
  | pair _ _ firstIH secondIH =>
      rw [Ty.exact, Bool.and_eq_true] at exact
      constructor
      · intro equals
        cases equals with
        | pair firsts seconds => rw [(firstIH exact.1).mp firsts, (secondIH exact.2).mp seconds]
      · rintro rfl
        exact .pair ((firstIH exact.1).mpr rfl) ((secondIH exact.2).mpr rfl)
  | record _ ih =>
      constructor
      · intro equals
        cases equals with
        | record equals => rw [(ih exact).mp equals]
      · rintro rfl
        exact .record ((ih exact).mpr rfl)
  | variant _ found _ ih =>
      have alternative := Ty.exact_of_typeAt? exact found
      constructor
      · intro equals
        cases equals with
        | variant equals => rw [(ih alternative).mp equals]
      · rintro rfl
        exact .variant ((ih alternative).mpr rfl)

end Datum

/-! ## Unions -/

/-- The comparison of the unions finds no difference. -/
def Tagged.Equal (types : List Ty) (left right : Tagged) : Prop :=
  ∃ verdict, Tagged.compare types left right = .ok verdict ∧ verdict.equal = true

theorem Choice.compare_equal_iff {types : List Ty} {left right : Choice} (leftTyped : left.Typed types)
    (rightTyped : right.Typed types) :
    (left.compare right).equal = true ↔ left.index = right.index ∧ left.value.Equals right.value := by
  have compared := Datum.Typed.compare_equal_iff leftTyped rightTyped
  rwa [Datum.compare, Datum.equals_variant_iff] at compared

namespace Tagged

variable {types : List Ty}

theorem equal_stored_iff {left right : Choice} (leftTyped : left.Typed types)
    (rightTyped : right.Typed types) :
    Equal types left.stored right.stored ↔
      left.index = right.index ∧ left.value.Equals right.value := by
  rw [← Choice.compare_equal_iff leftTyped rightTyped, Equal, leftTyped.compare_stored rightTyped]
  constructor
  · rintro ⟨verdict, same, equal⟩
    cases same
    exact equal
  · exact fun equal => ⟨_, rfl, equal⟩

theorem tag_stored_iff {left right : Choice} (leftTyped : left.Typed types)
    (rightTyped : right.Typed types) : left.stored.tag = right.stored.tag ↔ left.index = right.index := by
  rw [← UInt8.toNat_inj, leftTyped.view_stored.2, rightTyped.view_stored.2]

theorem stored_eq_iff {left right : Choice} (leftTyped : left.Typed types)
    (rightTyped : right.Typed types) (exact : Ty.allExact types = true) :
    Equal types left.stored right.stored ↔ left = right := by
  obtain ⟨type, -, found, contentTyped⟩ := leftTyped.found
  rw [equal_stored_iff leftTyped rightTyped,
    contentTyped.equals_iff_eq (Ty.exact_of_typeAt? exact found)]
  cases left
  cases right
  rw [Choice.mk.injEq]

end Tagged

namespace Machine

open Procedure

variable {types : List Ty}

theorem compare_reply {state : State Tagged} {first second : Register} {left right : Tagged}
    {verdict : Verdict} (leftHeld : state.content first = some left)
    (rightHeld : state.content second = some right)
    (compared : Tagged.compare types left right = .ok verdict) (negated : Bool) :
    step .tagged types (.compare negated (some first) (some second)) state =
      .ok (⟨.truth (verdict.equal != negated), tags .tagged state, verdict.events⟩, state) := by
  have verdictRead : (orFault (Storage.tagged.compare types left right) : Procedure Tagged Verdict) state =
      .ok ⟨.ok verdict, state, []⟩ := by
    change orFault (Tagged.compare types left right) state = _
    rw [compared]
    rfl
  apply step_ok_iff.mpr
  refine ⟨⟨.ok (.truth (verdict.equal != negated)), state, verdict.events⟩, ?_, rfl, rfl⟩
  rw [perform, bind_of_quiet rfl, bind_of_quiet (content_occupied leftHeld), bind_of_quiet rfl,
    bind_of_quiet (content_occupied rightHeld), bind_of_quiet verdictRead]
  simp only [log, bind_eq_andThen, andThen, pure, answer, List.append_nil]

end Machine

/-- Equality of unions over the list is the relation that it is meant to be. -/
structure Tagged.EqualityLaws (types : List Ty) : Prop where
  structural : ∀ left right : Tagged, left.WellFormed types → right.WellFormed types →
    ∃ value value' verdict, left.view types = .ok value ∧ right.view types = .ok value' ∧
      Tagged.compare types left right = .ok verdict ∧
      (verdict.equal = true ↔ left.tag = right.tag ∧ value.Equals value')
  /-- If the tags differ, whatever is in storage plays no part, and no comparison is logged. -/
  apart : ∀ left right : Tagged, left.tag ≠ right.tag →
    Tagged.compare types left right = .ok (.quiet false)
  /-- Of two unions in registers it is told whether they are equal or, negated, whether they differ. -/
  replied : ∀ (state : State Tagged) first second left right, state.content first = some left →
    state.content second = some right → left.WellFormed types → right.WellFormed types →
      ∃ verdict, Tagged.compare types left right = .ok verdict ∧ ∀ negated,
        Machine.step .tagged types (.compare negated (some first) (some second)) state =
          .ok (⟨.truth (verdict.equal != negated), Machine.tags .tagged state, verdict.events⟩, state)
  symm : ∀ left right : Tagged, left.WellFormed types → right.WellFormed types →
    Equal types left right → Equal types right left
  trans : ∀ left middle right : Tagged, left.WellFormed types → middle.WellFormed types →
    right.WellFormed types → Equal types left middle → Equal types middle right →
      Equal types left right
  self : ∀ union : Tagged, union.WellFormed types → ∃ value, union.view types = .ok value ∧
    (Equal types union union ↔ ∀ leaf, value.HasLeaf leaf → leaf.isNaN = false)
  exact : Ty.allExact types = true → ∀ left right : Tagged, left.WellFormed types →
    right.WellFormed types →
      (Equal types left right ↔ left.tag = right.tag ∧ left.view types = right.view types)
  exchanged : Ty.allExact types = true → ∀ left right : Tagged, left.WellFormed types →
    right.WellFormed types → Equal types left right →
      ∀ (state : State Tagged) register, state.content register = some left → ∀ program,
        Machine.steps .tagged types program (state.put register (some right)) =
          Machine.steps .tagged types program state

theorem Tagged.equality_laws (types : List Ty) : EqualityLaws types where
  structural := by
    intro left right leftFormed rightFormed
    obtain ⟨choice, typed, rfl⟩ := leftFormed.exists_choice
    obtain ⟨choice', typed', rfl⟩ := rightFormed.exists_choice
    refine ⟨_, _, _, typed.view_stored.1, typed'.view_stored.1, typed.compare_stored typed', ?_⟩
    rw [Choice.compare_equal_iff typed typed', tag_stored_iff typed typed']
  apart := by
    intro left right differ
    rw [Tagged.compare, if_neg differ]
  replied := by
    intro state first second left right leftHeld rightHeld leftFormed rightFormed
    obtain ⟨choice, typed, rfl⟩ := leftFormed.exists_choice
    obtain ⟨choice', typed', rfl⟩ := rightFormed.exists_choice
    have compared := typed.compare_stored typed'
    exact ⟨_, compared, Machine.compare_reply leftHeld rightHeld compared⟩
  symm := by
    intro left right leftFormed rightFormed equal
    obtain ⟨choice, typed, rfl⟩ := leftFormed.exists_choice
    obtain ⟨choice', typed', rfl⟩ := rightFormed.exists_choice
    obtain ⟨same, equals⟩ := (equal_stored_iff typed typed').mp equal
    exact (equal_stored_iff typed' typed).mpr ⟨same.symm, equals.symm⟩
  trans := by
    intro left middle right leftFormed middleFormed rightFormed first second
    obtain ⟨choice, typed, rfl⟩ := leftFormed.exists_choice
    obtain ⟨between, typedBetween, rfl⟩ := middleFormed.exists_choice
    obtain ⟨choice', typed', rfl⟩ := rightFormed.exists_choice
    obtain ⟨same, equals⟩ := (equal_stored_iff typed typedBetween).mp first
    obtain ⟨same', equals'⟩ := (equal_stored_iff typedBetween typed').mp second
    exact (equal_stored_iff typed typed').mpr ⟨same.trans same', equals.trans equals'⟩
  self := by
    intro union formed
    obtain ⟨choice, typed, rfl⟩ := formed.exists_choice
    obtain ⟨type, -, -, contentTyped⟩ := typed.found
    refine ⟨choice.value, typed.view_stored.1, ?_⟩
    rw [equal_stored_iff typed typed, contentTyped.equals_self_iff]
    exact and_iff_right rfl
  exact := by
    intro exact left right leftFormed rightFormed
    obtain ⟨choice, typed, rfl⟩ := leftFormed.exists_choice
    obtain ⟨choice', typed', rfl⟩ := rightFormed.exists_choice
    rw [stored_eq_iff typed typed' exact, tag_stored_iff typed typed', typed.view_stored.1,
      typed'.view_stored.1, Except.ok.injEq]
    cases choice
    cases choice'
    rw [Choice.mk.injEq]
  exchanged := by
    intro exact left right leftFormed rightFormed equal state register held program
    obtain ⟨choice, typed, rfl⟩ := leftFormed.exists_choice
    obtain ⟨choice', typed', rfl⟩ := rightFormed.exists_choice
    rw [← (stored_eq_iff typed typed' exact).mp equal, ← held, state.put_content]

/-- A union that holds one of the two zeros. -/
def Tagged.zero (negative : Bool) : Tagged :=
  (Choice.mk 0 (.leaf (.float ⟨.double, negative, 0, 0⟩))).stored

theorem Tagged.equality_laws_of_zeros :
    (zero true).WellFormed [.float .double] ∧ (zero false).WellFormed [.float .double] ∧
      Equal [.float .double] (zero true) (zero false) := by
  have typed (negative : Bool) :
      (Choice.mk 0 (.leaf (.float ⟨.double, negative, 0, 0⟩))).Typed [.float .double] := by
    apply Choice.typed_of (by decide) rfl
    cases negative with
    | false => exact .leaf ⟨rfl, by decide⟩
    | true => exact .leaf ⟨rfl, by decide⟩
  have formed (negative : Bool) : (zero negative).WellFormed [.float .double] := (typed negative).wellFormed
  obtain ⟨value, value', verdict, viewed, viewed', compared, decided⟩ :=
    (equality_laws [.float .double]).structural _ _ (formed true) (formed false)
  cases (typed true).view_stored.1.symm.trans viewed
  cases (typed false).view_stored.1.symm.trans viewed'
  have amount (negative : Bool) :
      (⟨.double, negative, 0, 0⟩ : Binary).amount? = some (.finite 0) := by
    cases negative <;> decide +kernel
  exact ⟨formed true, formed false, verdict, compared,
    decided.mpr ⟨rfl, .leaf (.float (amount true) (amount false))⟩⟩

end TaggedUnion
