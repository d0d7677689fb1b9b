import TaggedUnion.Conversion
import TaggedUnion.Edit
import TaggedUnion.Literal
import TaggedUnion.Proofs.Range

/-!
# Typing of made values

`Datum.Typed` states the typing of plain values by one rule for each form of value. Whatever a
program can make is typed: values that are read, converted or edited are values of the type they
were made for.
-/

set_option autoImplicit false

namespace TaggedUnion

open Registry

/-- The value has the type. A union holds a value of the alternative at its index, and its list is
one of which values can be built. -/
inductive Datum.Typed : Datum → Ty → Prop where
  | leaf {value : Leaf} {type : Ty} : value.HasType type → Typed (.leaf value) type
  | list {items : List Datum} {type : Ty} :
      (∀ item ∈ items, Typed item type) → Typed (.list items) (.list type)
  | none {type : Ty} : Typed .none (.option type)
  | some {content : Datum} {type : Ty} : Typed content type → Typed (.some content) (.option type)
  | pair {first second : Datum} {type type' : Ty} :
      Typed first type → Typed second type' → Typed (.pair first second) (.pair type type')
  | record {label : String} {content : Datum} {type : Ty} :
      Typed content type → Typed (.record label content) (.record label type)
  | variant {index : Nat} {content : Datum} {types : List Ty} {type : Ty} :
      types.length ≤ maxArity → typeAt? types index = Option.some type → Typed content type →
      Typed (.variant index content) (.variant types)

/-! ## Values by their type -/

namespace Leaf.HasType

theorem of_int {kind : IntType} {number : Int} {type : Ty} (held : (int kind number).HasType type) :
    type = .int kind ∧ kind.Holds number := by
  cases type with
  | int kind' =>
      unfold HasType at held
      exact ⟨held.1 ▸ rfl, held.1 ▸ held.2⟩
  | _ => exact absurd held id

theorem of_string {text : String} {type : Ty} (held : (string text).HasType type) : type = .string := by
  cases type with
  | string => rfl
  | _ => exact absurd held id

end Leaf.HasType

namespace Datum.Typed

variable {value : Datum}

theorem int_inv {kind : IntType} (typed : value.Typed (.int kind)) :
    ∃ number, value = .leaf (.int kind number) ∧ kind.Holds number := by
  cases typed with
  | @leaf inner _ held =>
      cases inner with
      | int kind' number =>
          unfold Leaf.HasType at held
          exact ⟨number, held.1 ▸ rfl, held.1 ▸ held.2⟩
      | _ => exact absurd held id

theorem float_inv {format : FloatFormat} (typed : value.Typed (.float format)) :
    ∃ number, value = .leaf (.float number) ∧ number.format = format ∧ number.Fits := by
  cases typed with
  | @leaf inner _ held =>
      cases inner with
      | float number => exact ⟨number, rfl, held⟩
      | _ => exact absurd held id

theorem bool_inv (typed : value.Typed .bool) : ∃ truth, value = .leaf (.bool truth) := by
  cases typed with
  | @leaf inner _ held =>
      cases inner with
      | bool truth => exact ⟨truth, rfl⟩
      | _ => exact absurd held id

theorem char_inv (typed : value.Typed .char) : ∃ letter, value = .leaf (.char letter) := by
  cases typed with
  | @leaf inner _ held =>
      cases inner with
      | char letter => exact ⟨letter, rfl⟩
      | _ => exact absurd held id

theorem string_inv (typed : value.Typed .string) : ∃ text, value = .leaf (.string text) := by
  cases typed with
  | @leaf inner _ held =>
      cases inner with
      | string text => exact ⟨text, rfl⟩
      | _ => exact absurd held id

theorem fixedText_inv (typed : value.Typed .fixedText) : ∃ text, value = .leaf (.fixedText text) := by
  cases typed with
  | @leaf inner _ held =>
      cases inner with
      | fixedText text => exact ⟨text, rfl⟩
      | _ => exact absurd held id

theorem leaf_inv {inner : Leaf} {type : Ty} (held : inner.HasType type) (typed : value.Typed type) :
    ∃ leaf, value = .leaf leaf := by
  cases typed with
  | leaf => exact ⟨_, rfl⟩
  | _ => cases inner <;> exact absurd held id

theorem list_inv {type : Ty} (typed : value.Typed (.list type)) :
    ∃ items, value = .list items ∧ ∀ item ∈ items, item.Typed type := by
  cases typed with
  | @leaf inner _ held => cases inner <;> exact absurd held id
  | list each => exact ⟨_, rfl, each⟩

theorem option_inv {type : Ty} (typed : value.Typed (.option type)) :
    value = .none ∨ ∃ content, value = .some content ∧ content.Typed type := by
  cases typed with
  | @leaf inner _ held => cases inner <;> exact absurd held id
  | none => exact .inl rfl
  | some content => exact .inr ⟨_, rfl, content⟩

theorem pair_inv {type type' : Ty} (typed : value.Typed (.pair type type')) :
    ∃ first second, value = .pair first second ∧ first.Typed type ∧ second.Typed type' := by
  cases typed with
  | @leaf inner _ held => cases inner <;> exact absurd held id
  | pair first second => exact ⟨_, _, rfl, first, second⟩

theorem record_inv {label : String} {type : Ty} (typed : value.Typed (.record label type)) :
    ∃ content, value = .record label content ∧ content.Typed type := by
  cases typed with
  | @leaf inner _ held => cases inner <;> exact absurd held id
  | record content => exact ⟨_, rfl, content⟩

theorem variant_inv {types : List Ty} (typed : value.Typed (.variant types)) :
    ∃ index content type, value = .variant index content ∧ types.length ≤ maxArity ∧
      typeAt? types index = Option.some type ∧ content.Typed type := by
  cases typed with
  | @leaf inner _ held => cases inner <;> exact absurd held id
  | variant short found content => exact ⟨_, _, _, rfl, short, found, content⟩

end Datum.Typed

/-! ## Renumbered values -/

theorem Leaf.HasType.renumber {value : Leaf} {type : Ty} (held : value.HasType type) (fresh : Nat) :
    (value.renumber fresh).HasType type := by
  cases value with
  | tracked =>
      cases type with
      | tracked => exact held
      | _ => exact absurd held id
  | _ => exact held

namespace Datum

theorem renumberAll_typed {items : List Datum} {type : Ty}
    (each : ∀ item ∈ items, ∀ fresh, (item.renumber fresh).Typed type) (fresh : Nat) :
    ∀ item ∈ renumberAll fresh items, item.Typed type := by
  induction items generalizing fresh with
  | nil => exact List.forall_mem_nil _
  | cons first rest ih =>
      intro item member
      rcases List.mem_cons.mp member with same | later
      · exact same ▸ each first List.mem_cons_self fresh
      · exact ih (fun item inside => each item (List.mem_cons_of_mem _ inside)) _ item later

theorem Typed.renumber {value : Datum} {type : Ty} (typed : value.Typed type) (fresh : Nat) :
    (value.renumber fresh).Typed type := by
  induction typed generalizing fresh with
  | leaf held => exact .leaf (held.renumber fresh)
  | list _ ih => exact .list (renumberAll_typed ih fresh)
  | none => exact .none
  | some _ ih => exact .some (ih fresh)
  | pair _ _ first second => exact .pair (first fresh) (second _)
  | record _ ih => exact .record (ih fresh)
  | variant short found _ ih => exact .variant short found (ih fresh)

end Datum

/-! ## Read values -/

namespace Literal

theorem readInt?_holds {kind : IntType} {literal : Literal} {number : Int}
    (found : literal.readInt? kind = some number) : kind.Holds number := by
  unfold readInt? at found
  split at found
  · split at found
    · rename_i accepted
      cases found
      exact of_decide_eq_true (Bool.and_eq_true_iff.mp accepted).2
    · cases found
  · split at found
    · exact IntType.ofText?_holds found
    · cases found
  · cases found

/-- A leaf that is read has the type it is read as, and no identity. -/
theorem readLeaf?_typed {type : Ty} {literal : Literal} {value : Leaf}
    (found : literal.readLeaf? type = some value) : value.HasType type ∧ value.ids = [] := by
  unfold readLeaf? at found
  split at found
  · obtain ⟨number, read, rfl⟩ := Option.map_eq_some_iff.mp found
    exact ⟨⟨rfl, readInt?_holds read⟩, rfl⟩
  · obtain ⟨number, read, rfl⟩ := Option.map_eq_some_iff.mp found
    exact ⟨Binary.ofText?_fits read, rfl⟩
  · cases found; exact ⟨trivial, rfl⟩
  · split at found
    · cases found; exact ⟨trivial, rfl⟩
    · cases found
  · cases found; exact ⟨trivial, rfl⟩
  · cases found; exact ⟨trivial, rfl⟩
  · cases found; exact ⟨trivial, rfl⟩
  · cases found; exact ⟨rfl, rfl⟩
  · cases found

/-- A property of readings, by the type that is read and the first free identity, that holds for
whatever can be read of each form of type provided that it holds of the parts. -/
structure ReadingRules (motive : Ty → Nat → Made (Option Datum) → Prop) : Prop where
  unread : ∀ type nextId, motive type nextId (unread nextId)
  leaf : ∀ {type nextId} {value : Leaf}, value.HasType type → value.ids = [] →
    motive type nextId ⟨some (.leaf value), nextId, []⟩
  tracked : ∀ {kind nextId number}, IntType.i32.Holds number →
    motive (.tracked kind) nextId
      ⟨some (.leaf (.tracked kind nextId number)), nextId + 1, [.created nextId]⟩
  absent : ∀ type nextId, motive (.option type) nextId ⟨some .none, nextId, []⟩
  present : ∀ {type nextId part}, motive type nextId part →
    motive (.option type) nextId (readAround .some part)
  record : ∀ {label type nextId part}, motive type nextId part →
    motive (.record label type) nextId (readAround (.record label) part)
  pair : ∀ {type type' nextId first} {second : Nat → Made (Option Datum)},
    motive type nextId first → (∀ nextId, motive type' nextId (second nextId)) →
    motive (.pair type type') nextId (readPair first second)
  list : ∀ {type} {read : Nat → Literal → Made (Option Datum)},
    (∀ nextId item, motive type nextId (read nextId item)) →
    ∀ nextId items, motive (.list type) nextId (readItems read [] nextId items)
  variant : ∀ {types type index nextId part}, types.length ≤ maxArity →
    typeAt? types index = some type → motive type nextId part →
    motive (.variant types) nextId (readAround (.variant index) part)

theorem readAlternative_eq_unread {types : List Ty} {index : Nat} (missing : typeAt? types index = none)
    (nextId : Nat) (literal : Literal) : readAlternative types index nextId literal = unread nextId := by
  induction types generalizing index with
  | nil => rfl
  | cons type types ih =>
      cases index with
      | zero => cases missing
      | succ index => exact ih missing

namespace ReadingRules

variable {motive : Ty → Nat → Made (Option Datum) → Prop}

theorem readLeaf (rules : ReadingRules motive) (type : Ty) (nextId : Nat) (literal : Literal) :
    motive type nextId ⟨(literal.readLeaf? type).map .leaf, nextId, []⟩ := by
  cases found : literal.readLeaf? type with
  | none => exact rules.unread type nextId
  | some value =>
      obtain ⟨held, anonymous⟩ := readLeaf?_typed found
      exact rules.leaf held anonymous

mutual

/-- Every reading has the property. -/
theorem read (rules : ReadingRules motive) :
    (type : Ty) → (nextId : Nat) → (literal : Literal) → motive type nextId (read type nextId literal)
  | .int _, nextId, literal => rules.readLeaf _ nextId literal
  | .float _, nextId, literal => rules.readLeaf _ nextId literal
  | .bool, nextId, literal => rules.readLeaf _ nextId literal
  | .char, nextId, literal => rules.readLeaf _ nextId literal
  | .unit, nextId, literal => rules.readLeaf _ nextId literal
  | .string, nextId, literal => rules.readLeaf _ nextId literal
  | .fixedText, nextId, literal => rules.readLeaf _ nextId literal
  | .empty _, nextId, literal => rules.readLeaf _ nextId literal
  | .tracked kind, nextId, literal => by
      unfold Literal.read readTracked
      split
      · rename_i found
        exact rules.tracked (readInt?_holds found)
      · exact rules.unread _ nextId
  | .record label type, nextId, literal => by
      unfold Literal.read
      split
      · rename_i content _
        exact rules.record (rules.read type nextId content)
      · exact rules.unread _ nextId
  | .list type, nextId, literal => by
      cases literal with
      | list items => exact rules.list (fun nextId item => rules.read type nextId item) nextId items
      | _ => exact rules.readLeaf _ nextId _
  | .option type, nextId, literal => by
      cases literal with
      | null => exact rules.absent type nextId
      | object fields =>
          simp only [Literal.read]
          split
          · rename_i content _
            exact rules.present (rules.read type nextId content)
          · exact rules.unread _ nextId
      | _ => exact rules.readLeaf _ nextId _
  | .pair type type', nextId, literal => by
      cases literal with
      | list items =>
          rcases items with _ | ⟨first, _ | ⟨second, _ | ⟨third, rest⟩⟩⟩
          · exact rules.readLeaf _ nextId _
          · exact rules.readLeaf _ nextId _
          · exact rules.pair (rules.read type nextId first)
              fun nextId => rules.read type' nextId second
          · exact rules.readLeaf _ nextId _
      | _ => exact rules.readLeaf _ nextId _
  | .variant types, nextId, literal => by
      cases literal with
      | object fields =>
          simp only [Literal.read]
          split
          · rename_i index content _ _
            split
            · rename_i short
              cases found : typeAt? types index with
              | none =>
                  rw [readAlternative_eq_unread found]
                  exact rules.unread _ nextId
              | some type => exact rules.variant short found (rules.readAlternative types found nextId content)
            · exact rules.unread _ nextId
          · exact rules.unread _ nextId
      | _ => exact rules.readLeaf _ nextId _

theorem readAlternative (rules : ReadingRules motive) :
    (types : List Ty) → {index : Nat} → {type : Ty} → typeAt? types index = some type →
    (nextId : Nat) → (literal : Literal) →
    motive type nextId (Literal.readAlternative types index nextId literal)
  | [], _, _, found, _, _ => nomatch found
  | type :: _, 0, _, found, nextId, literal => by
      cases found
      exact rules.read type nextId literal
  | _ :: types, _ + 1, _, found, nextId, literal => rules.readAlternative types found nextId literal

end

end ReadingRules

theorem readItems_typed {type : Ty} {read : Nat → Literal → Made (Option Datum)}
    (part : ∀ nextId item value, (read nextId item).value = some value → value.Typed type)
    (items : List Literal) {done : List Datum} (before : ∀ item ∈ done, item.Typed type) {nextId : Nat}
    {value : Datum} (found : (readItems read done nextId items).value = some value) :
    value.Typed (.list type) := by
  induction items generalizing done nextId with
  | nil =>
      cases found
      exact .list before
  | cons item items ih =>
      unfold readItems at found
      dsimp only at found
      split at found
      · cases found
      · rename_i first firstFound
        have together : ∀ item ∈ done ++ [first], item.Typed type := by
          intro item member
          rcases List.mem_append.mp member with earlier | last
          · exact before item earlier
          · exact List.mem_singleton.mp last ▸ part _ _ _ firstFound
        exact ih together found

/-- The rules of reading hold for the typing of what is read. -/
theorem typedRules :
    ReadingRules fun type _ made => ∀ value, made.value = some value → value.Typed type where
  unread := by intro _ _ _ found; cases found
  leaf held _ _ found := by cases found; exact .leaf held
  tracked held _ found := by cases found; exact .leaf ⟨rfl, held⟩
  absent _ _ _ found := by cases found; exact .none
  present part _ found := by
    obtain ⟨content, read, rfl⟩ := Option.map_eq_some_iff.mp found
    exact .some (part content read)
  record part _ found := by
    obtain ⟨content, read, rfl⟩ := Option.map_eq_some_iff.mp found
    exact .record (part content read)
  pair := by
    intro type type' nextId first second firstTyped secondTyped value found
    unfold readPair at found
    split at found
    · rename_i missing
      rw [missing] at found
      cases found
    · rename_i left leftFound
      dsimp only at found
      split at found
      · cases found
      · rename_i right rightFound
        cases found
        exact .pair (firstTyped left leftFound) (secondTyped _ right rightFound)
  list part _ items _ found := readItems_typed part items (List.forall_mem_nil _) found
  variant short found part _ read := by
    obtain ⟨content, inner, rfl⟩ := Option.map_eq_some_iff.mp read
    exact .variant short found (part content inner)

theorem read_typed {type : Ty} {nextId : Nat} {literal : Literal} {value : Datum}
    (found : (read type nextId literal).value = some value) : value.Typed type :=
  typedRules.read type nextId literal value found

end Literal

/-! ## Converted and edited values -/

/-- A conversion between two types is defined on all values of the one and gives values of the
other. -/
theorem Conversion.convert?_typed {source target : Ty} {conversion : Conversion}
    (selected : find? source target = some conversion) {value : Datum} (typed : value.Typed source)
    (nextId : Nat) :
    ∃ made, conversion.convert? nextId value = some made ∧ made.value.Typed target := by
  unfold find? at selected
  split at selected
  case h_1 =>
    split at selected <;> cases selected
    rename_i widens
    obtain ⟨number, rfl, range⟩ := typed.int_inv
    exact ⟨_, rfl, .leaf ⟨rfl, range.widens widens⟩⟩
  case h_2 =>
    cases selected
    obtain ⟨truth, rfl⟩ := typed.bool_inv
    exact ⟨_, rfl, .leaf ⟨rfl, IntType.holds_truth _ truth⟩⟩
  case h_3 =>
    split at selected <;> cases selected
    rename_i all
    obtain ⟨letter, rfl⟩ := typed.char_inv
    exact ⟨_, rfl, .leaf ⟨rfl, all.2.of_le (by have := IntType.letter_le letter; omega)⟩⟩
  case h_4 =>
    cases selected
    obtain ⟨number, rfl, -⟩ := typed.int_inv
    exact ⟨_, rfl, .leaf trivial⟩
  case h_5 =>
    split at selected <;> cases selected
    rename_i short
    obtain ⟨number, rfl, range⟩ := typed.int_inv
    have bits := range.natAbs_lt.trans_le (Nat.pow_le_pow_right (by decide) short)
    exact ⟨_, rfl, .leaf ⟨Binary.ofScaled_format .., Binary.ofInt_fits bits⟩⟩
  case h_6 =>
    cases selected
    obtain ⟨number, rfl, single, fits⟩ := typed.float_inv
    exact ⟨_, rfl, .leaf (Binary.widen_fits single fits)⟩
  case h_7 =>
    cases selected
    obtain ⟨letter, rfl⟩ := typed.char_inv
    exact ⟨_, rfl, .leaf trivial⟩
  case h_8 =>
    cases selected
    obtain ⟨text, rfl⟩ := typed.string_inv
    exact ⟨_, rfl, .leaf trivial⟩
  case h_9 =>
    cases selected
    obtain ⟨text, rfl⟩ := typed.fixedText_inv
    exact ⟨_, rfl, .leaf trivial⟩
  case h_10 =>
    cases selected
    obtain ⟨text, rfl⟩ := typed.string_inv
    refine ⟨_, rfl, .list fun item member => ?_⟩
    obtain ⟨byte, -, rfl⟩ := List.mem_map.mp member
    exact .leaf ⟨rfl, IntType.holds_byte byte⟩
  case h_11 =>
    cases selected
    obtain ⟨number, rfl, range⟩ := typed.int_inv
    exact ⟨_, rfl, .leaf ⟨rfl, range⟩⟩
  case h_12 =>
    split at selected <;> cases selected
    rename_i same
    exact ⟨_, rfl, .some (same ▸ typed)⟩
  case h_13 =>
    split at selected <;> cases selected
    rename_i same
    exact ⟨_, rfl, .variant (Nat.one_le_ofNat) rfl (same ▸ typed)⟩
  case h_14 => cases selected

theorem Datum.edit_typed {type : Ty} (mode : EditMode) {old new : Datum} (oldTyped : old.Typed type)
    (newTyped : new.Typed type) : (old.edit mode new).value.Typed type := by
  unfold Datum.edit
  split
  · cases oldTyped with
    | leaf held =>
        obtain ⟨rfl, -⟩ := held.of_int
        exact .leaf ⟨rfl, IntType.wrap_holds _ _⟩
  · cases oldTyped with
    | leaf held =>
        obtain rfl := held.of_string
        exact .leaf trivial
  · cases oldTyped with
    | list items =>
        cases newTyped with
        | list items' =>
            refine .list fun item member => ?_
            rcases List.mem_append.mp member with earlier | later
            · exact items item earlier
            · exact items' item later
  · exact newTyped

end TaggedUnion
