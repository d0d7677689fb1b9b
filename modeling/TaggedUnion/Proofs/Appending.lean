import TaggedUnion.Proofs.TagInvariant
import TaggedUnion.Registry.Padding

/-!
# Lists with more alternatives

Alternatives that follow those of a list are not noticed by a program whose operations the list
offers and that does not ask where the list ends. In particular a list can be told from its padded
form only by where it ends.
-/

set_option autoImplicit false

namespace TaggedUnion

open Registry

/-! ## Operations within a list -/

/-- The list offers the operation. -/
def Op.offeredBy (types : List Ty) : Op Ty → Bool
  | .construct target _ _ => (target.build? types).isSome
  | .convert target source _ _ =>
    ((Selector.type target).build? types).isSome && (Conversion.find? source target).isSome
  | .constructText _ _ => ((Selector.type .string).build? types).isSome
  | .test target _ | .read _ target _ | .edit _ _ target _ _ | .take _ target _
  | .install _ target _ => (target.find? types).isSome
  | .wrap _ _ | .unwrap _ => (onlyType? types).isSome
  | .locate target => (indexOf? types target).isSome
  | .typeAt asked => (typeAt? types asked).isSome
  | .hash _ => Ty.allHashable types
  | .render audience _ _ => audience.served types
  | .unknown => false
  | .index _ | .typeName _ | .arity | .nameOfTag _ | .drop _ | .move _ _ | .swap _ _ | .clone _ _
  | .compare _ _ _ | .dispatch _ | .freshTable | .fillTable => true

/-- The operation does not ask where the list ends: neither for its arity nor for the name of a tag
past its end nor for its only alternative. -/
def Op.openEnded (types : List Ty) : Op Ty → Bool
  | .arity | .wrap _ _ | .unwrap _ => false
  | .nameOfTag (some tag) => decide (tag < Registry.arity types)
  | _ => true

/-- The types have the traits that the operation needs. -/
def Op.suits (types : List Ty) : Op Ty → Bool
  | .hash _ => Ty.allHashable types
  | .render .readers _ _ => Ty.allDisplayable types
  | _ => true

variable {types more : List Ty}

/-- What a list does not offer fails as such and leaves everything as it was. -/
theorem Machine.perform_not_offered {Held Value : Type} (storage : Storage Held Value) {op : Op Ty}
    (missing : op.offeredBy types = false) (state : State Held) :
    perform storage types op state = .ok ⟨.error .unsupported, state, []⟩ := by
  have none_of {Answer : Type} {value : Option Answer} (absent : value.isSome = false) : value = none :=
    Option.isNone_iff_eq_none.mp (by simpa using absent)
  cases op with
  | construct | test | read | edit | take | install | constructText | wrap | unwrap | locate | typeAt =>
      rw [perform, none_of missing]
      rfl
  | convert target source register value =>
      rw [perform]
      rcases Bool.and_eq_false_iff.mp missing with absent | absent
      · rw [none_of absent]
        rfl
      · rw [none_of absent]
        cases (Selector.type target).build? types <;> rfl
  | hash =>
      have absent : Ty.allHashable types = false := missing
      rw [perform, absent]
      rfl
  | render audience =>
      have absent : audience.served types = false := missing
      rw [perform, absent]
      rfl
  | unknown => rfl
  | index | typeName | arity | nameOfTag | drop | move | swap | clone | compare | dispatch
  | freshTable | fillTable => cases missing

/-! ## Longer lists -/

theorem Ty.allHashable_append (types more : List Ty) :
    allHashable (types ++ more) = (allHashable types && allHashable more) := by
  rw [allHashable_eq_all, allHashable_eq_all, allHashable_eq_all, List.all_append]

theorem Ty.allDisplayable_append (types more : List Ty) :
    allDisplayable (types ++ more) = (allDisplayable types && allDisplayable more) := by
  rw [allDisplayable_eq_all, allDisplayable_eq_all, allDisplayable_eq_all, List.all_append]

section

variable (short : (types ++ more).length ≤ maxArity) (fresh : ∀ type ∈ types, type ∉ more)

include fresh

theorem Selector.find?_append {target : Selector Ty} {picked : Ty × Nat}
    (found : target.find? types = some picked) : target.find? (types ++ more) = some picked := by
  cases target with
  | type target =>
      obtain ⟨index, located, rfl⟩ := Option.map_eq_some_iff.mp found
      have absent := fresh target (typeAt?_mem (indexOf?_found located))
      rw [find?, indexOf?_append absent, located]
      rfl
  | position index =>
      obtain ⟨type, listed, rfl⟩ := Option.map_eq_some_iff.mp found
      rw [find?, typeAt?_append more listed]
      rfl

theorem Selector.alike_find?_append {target : Selector Ty}
    (offered : (target.find? types).isSome = true) :
    target.Alike Selector.find? (types ++ more) types id := by
  obtain ⟨picked, found⟩ := Option.isSome_iff_exists.mp offered
  rw [Alike, found]
  exact find?_append fresh found

include short

theorem Selector.alike_build?_append {target : Selector Ty}
    (offered : (target.build? types).isSome = true) :
    target.Alike Selector.build? (types ++ more) types id := by
  obtain ⟨picked, built⟩ := Option.isSome_iff_exists.mp offered
  obtain ⟨-, found⟩ := build?_eq_some_iff.mp built
  rw [Alike, built]
  exact build?_eq_some_iff.mpr ⟨short, find?_append fresh found⟩

theorem Op.alike_append {op : Op Ty} (offered : op.offeredBy types = true)
    (openEnded : op.openEnded types = true) (suits : op.suits more = true) :
    op.Alike (types ++ more) types id := by
  cases op with
  | construct | constructText => exact Selector.alike_build?_append short fresh offered
  | convert =>
      exact Selector.alike_build?_append short fresh (Bool.and_eq_true_iff.mp offered).1
  | test | read | edit | take | install => exact Selector.alike_find?_append fresh offered
  | wrap | unwrap | arity => cases openEnded
  | locate target =>
      obtain ⟨index, located⟩ := Option.isSome_iff_exists.mp offered
      have absent := fresh target (typeAt?_mem (indexOf?_found located))
      exact congrArg (Option.map _) (indexOf?_append absent)
  | typeAt asked =>
      obtain ⟨type, listed⟩ := Option.isSome_iff_exists.mp offered
      exact (typeAt?_append more listed).trans listed.symm
  | nameOfTag given =>
      rintro tag rfl
      have inside := UInt8.lt_iff_toNat_lt.mp (of_decide_eq_true openEnded)
      have shorter : types.length < 256 := by
        rw [List.length_append] at short
        exact (Nat.le_add_right _ _).trans_lt (short.trans_lt (by decide))
      rw [toNat_arity shorter] at inside
      -- Counting the tag down comes to the name before the first list ends.
      have listed : typeAt? types tag.toNat = some types[tag.toNat] := by
        rw [typeAt?_eq_getElem?, List.getElem?_eq_getElem inside]
      have named := nameAt_tagOf listed tag.toNat_lt
      have named' := nameAt_tagOf (typeAt?_append more listed) tag.toNat_lt
      rw [tagOf_toNat] at named named'
      rw [named, named']
  | hash =>
      have suited : Ty.allHashable more = true := suits
      change Ty.allHashable (types ++ more) = Ty.allHashable types
      rw [Ty.allHashable_append, suited, Bool.and_true]
  | render audience =>
      cases audience with
      | inspection => rfl
      | readers =>
          have suited : Ty.allDisplayable more = true := suits
          change Ty.allDisplayable (types ++ more) = Ty.allDisplayable types
          rw [Ty.allDisplayable_append, suited, Bool.and_true]
  | fillTable => exact fun _ _ => rfl
  | index | typeName | drop | move | swap | clone | compare | dispatch | freshTable => trivial
  | unknown => cases offered

omit fresh in
theorem Reindexing.append : Reindexing (types ++ more) types id where
  short _ := short
  found := typeAt?_append more
  inj _ _ same := same

end

/-! ## Padded lists -/

namespace Registry

theorem padWith_eq {placed : List Ty} {slots : List Nat} (short : types.length ≤ slots.length) :
    padWith types placed slots = some (placed ++ types ++ (slots.drop types.length).map .empty) := by
  induction types generalizing placed slots with
  | nil => simp [padWith]
  | cons type types ih =>
      cases slots with
      | nil => cases short
      | cons slot slots =>
          rw [padWith, ih (Nat.le_of_succ_le_succ short)]
          simp

/-- The markers of the slots that a list leaves. -/
def fillers (types : List Ty) : List Ty := ((List.range maxArity).drop types.length).map .empty

theorem padded?_eq (short : types.length ≤ maxArity) : padded? types = some (types ++ fillers types) :=
  padWith_eq (by simpa using short)

theorem length_append_fillers (short : types.length ≤ maxArity) :
    (types ++ fillers types).length = maxArity := by
  simp only [fillers, List.length_append, List.length_map, List.length_drop, List.length_range]
  omega

theorem mem_fillers {type : Ty} :
    type ∈ fillers types ↔ ∃ slot, types.length ≤ slot ∧ slot < maxArity ∧ type = .empty slot := by
  simp only [fillers, List.mem_map, List.mem_drop_iff_getElem, List.getElem_range, List.length_range]
  constructor
  · rintro ⟨slot, ⟨offset, inside, rfl⟩, rfl⟩
    exact ⟨_, Nat.le_add_right _ _, by omega, rfl⟩
  · rintro ⟨slot, past, inside, rfl⟩
    exact ⟨slot, ⟨slot - types.length, by omega, by omega⟩, rfl⟩

theorem all_fillers {trait : Ty → Bool} (marked : ∀ slot, trait (.empty slot) = true) :
    (fillers types).all trait = true := by
  rw [List.all_eq_true]
  intro type listed
  obtain ⟨slot, -, -, rfl⟩ := mem_fillers.mp listed
  exact marked slot

end Registry

theorem Op.suits_fillers (op : Op Ty) : op.suits (fillers types) = true := by
  cases op with
  | hash => exact (Ty.allHashable_eq_all _).trans (all_fillers fun _ => rfl)
  | render audience =>
      cases audience with
      | readers => exact (Ty.allDisplayable_eq_all _).trans (all_fillers fun _ => rfl)
      | inspection => rfl
  | _ => rfl

namespace Machine

/-- A run over a list is also the run over each longer one whose further alternatives are new and
have the traits that the program needs, and over its padded form. -/
theorem run_append {types : List Ty} {program : List (Op Ty)}
    (offered : ∀ op ∈ program, op.offeredBy types = true)
    (openEnded : ∀ op ∈ program, op.openEnded types = true) :
    ∃ transcript, run .tagged types program = .ok transcript ∧
      (∀ more : List Ty, (types ++ more).length ≤ maxArity → (∀ type ∈ types, type ∉ more) →
        (∀ op ∈ program, op.suits more = true) →
        run .tagged (types ++ more) program = .ok transcript) ∧
      (types.length ≤ maxArity →
        (∀ slot, types.length ≤ slot → slot < maxArity → .empty slot ∉ types) →
        ∃ padded, padded? types = some padded ∧ run .tagged padded program = .ok transcript) := by
  obtain ⟨transcript, ran⟩ := run_ends types program
  have longer (more : List Ty) (short : (types ++ more).length ≤ maxArity)
      (fresh : ∀ type ∈ types, type ∉ more) (suits : ∀ op ∈ program, op.suits more = true) :
      run .tagged (types ++ more) program = .ok transcript := by
    obtain ⟨transcript', ran', moved⟩ := run_reindexed (.append short) fun op listed =>
      Op.alike_append short fresh (offered op listed) (openEnded op listed) (suits op listed)
    cases ran'.symm.trans ran
    rw [Transcript.reindex_id (run_length ran)] at moved
    exact moved
  refine ⟨transcript, ran, longer, fun short unmarked => ⟨types ++ fillers types, padded?_eq short, ?_⟩⟩
  -- A padded list is a longer one, whose further alternatives are the markers of its free slots.
  refine longer _ (length_append_fillers short).le ?_ fun op _ => op.suits_fillers
  intro type listed filler
  obtain ⟨slot, past, inside, rfl⟩ := mem_fillers.mp filler
  exact unmarked slot past inside listed

/-- A union that is dispatched on a table with a closure in every slot. -/
theorem run_append_of_filled_table :
    ∃ transcript,
      run .tagged [.bool, .string]
          [.construct (.type .bool) (some 0) (some (.truth true)), .fillTable, .dispatch (some 0)] =
        .ok transcript ∧
      run .tagged [.bool, .string, .char]
          [.construct (.type .bool) (some 0) (some (.truth true)), .fillTable, .dispatch (some 0)] =
        .ok transcript ∧
      ∃ padded, padded? [.bool, .string] = some padded ∧
        run .tagged padded
            [.construct (.type .bool) (some 0) (some (.truth true)), .fillTable, .dispatch (some 0)] =
          .ok transcript := by
  obtain ⟨transcript, ran, longer, padding⟩ := @run_append [.bool, .string]
    [.construct (.type .bool) (some 0) (some (.truth true)), .fillTable, .dispatch (some 0)]
    (by decide) (by decide)
  have unmarked (slot : Nat) : Ty.empty slot ∉ [Ty.bool, Ty.string] := by simp
  exact ⟨transcript, ran, longer [.char] (by decide) (by decide) (by decide),
    padding (by decide) fun slot _ _ => unmarked slot⟩

end Machine

end TaggedUnion
