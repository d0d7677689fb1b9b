import TaggedUnion.Proofs.Renaming

/-!
# New identities from another start

Whatever hands out identities takes the next free ones and makes no other use of them. So it does the
same from any first free identity on, up to a renaming that counts along with it: readings that come
to nothing do so too.
-/

set_option autoImplicit false

namespace TaggedUnion

open Registry

/-- From the first identity up to the limit the renaming counts on from the start. -/
def Numbers (name : Nat → Nat) (first limit start : Nat) : Prop :=
  ∀ offset, first + offset < limit → name (first + offset) = start + offset

/-- From any first free identity both do the same, up to a renaming that counts along. -/
def Numbered {Value : Type} (name : Nat → Nat) (change : Value → Value) (making other : Nat → Made Value) :
    Prop :=
  ∀ first, first ≤ (making first).nextId ∧
    ∀ start, Numbers name first (making first).nextId start →
      other start = ⟨change (making first).value, start + ((making first).nextId - first),
        (making first).events.map (Event.rename name)⟩

variable {name : Nat → Nat}

namespace Numbers

variable {first middle limit start : Nat}

theorem left (numbers : Numbers name first limit start) (within : middle ≤ limit) :
    Numbers name first middle start :=
  fun offset below => numbers offset (by omega)

theorem right (numbers : Numbers name first limit start) (after : first ≤ middle) :
    Numbers name middle limit (start + (middle - first)) := by
  intro offset below
  have counted := numbers (middle - first + offset) (by omega)
  rw [show first + (middle - first + offset) = middle + offset by omega] at counted
  rw [counted]
  omega

theorem map_range' {count : Nat} (numbers : Numbers name first limit start)
    (within : first + count ≤ limit) :
    (List.range' first count).map name = List.range' start count := by
  apply List.ext_getElem
  · simp only [List.length_map, List.length_range']
  · intro offset below _
    rw [List.length_map, List.length_range'] at below
    simp only [List.getElem_map, List.getElem_range', Nat.one_mul]
    exact numbers offset (by omega)

end Numbers

namespace Datum

/-! ## Clones -/

mutual

theorem renumber_rename {name' : Nat → Nat} : (value : Datum) → {first limit start : Nat} →
    Numbers name first limit start → first + value.ids.length ≤ limit →
    (value.rename name').renumber start = (value.renumber first).rename name
  | .leaf value, first, limit, start, numbers, within => by
      cases value with
      | tracked kind id number =>
          have named : name first = start := numbers 0 within
          simp only [rename, renumber, Leaf.rename, Leaf.renumber, named]
      | _ => rfl
  | .list items, _, _, _, numbers, within => congrArg list (renumberAll_renameAll items numbers within)
  | .none, _, _, _, _, _ => rfl
  | .some content, _, _, _, numbers, within => congrArg some (renumber_rename content numbers within)
  | .pair left right, first, limit, start, numbers, within => by
      rw [ids, List.length_append] at within
      have later := numbers.right (Nat.le_add_right first left.ids.length)
      rw [Nat.add_sub_cancel_left] at later
      simp only [rename, renumber, ids_rename, List.length_map]
      rw [renumber_rename left numbers (by omega), renumber_rename right later (by omega)]
  | .record label content, _, _, _, numbers, within =>
      congrArg (record label) (renumber_rename content numbers within)
  | .variant index content, _, _, _, numbers, within =>
      congrArg (variant index) (renumber_rename content numbers within)

theorem renumberAll_renameAll {name' : Nat → Nat} : (items : List Datum) → {first limit start : Nat} →
    Numbers name first limit start → first + (allIds items).length ≤ limit →
    renumberAll start (renameAll name' items) = renameAll name (renumberAll first items)
  | [], _, _, _, _, _ => rfl
  | item :: items, first, limit, start, numbers, within => by
      rw [allIds, List.length_append] at within
      have later := numbers.right (Nat.le_add_right first item.ids.length)
      rw [Nat.add_sub_cancel_left] at later
      simp only [renameAll, renumberAll, ids_rename, List.length_map]
      rw [renumber_rename item numbers (by omega), renumberAll_renameAll items later (by omega)]

end

theorem clones_rename {value : Datum} {first limit start : Nat} (numbers : Numbers name first limit start)
    (within : first + value.ids.length ≤ limit) :
    (value.rename name).clones start = (value.clones first).map (Event.rename name) := by
  rw [clones, clones, ids_rename, List.length_map, ← numbers.map_range' within, List.zip_map,
    List.map_map, List.map_map]
  rfl

end Datum

def Choice.rename (name : Nat → Nat) (union : Choice) : Choice := ⟨union.index, union.value.rename name⟩

theorem Choice.compare_rename (left right : Choice) :
    (left.rename name).compare (right.rename name) = (left.compare right).rename name := by
  unfold compare
  by_cases same : left.index = right.index
  · have same' : (left.rename name).index = (right.rename name).index := same
    rw [if_pos same, if_pos same']
    exact Datum.compare_rename left.value right.value
  · have apart : (left.rename name).index ≠ (right.rename name).index := same
    rw [if_neg same, if_neg apart]
    rfl

theorem Choice.clone_numbered (union : Choice) :
    Numbered name (Choice.rename name) (fun nextId => union.clone nextId)
      fun nextId => (union.rename name).clone nextId := by
  intro first
  refine ⟨Nat.le_add_right _ _, ?_⟩
  intro start numbers
  have within : first + union.value.ids.length ≤ (union.clone first).nextId := Nat.le_refl _
  have counted : (union.clone first).nextId - first = union.value.ids.length := Nat.add_sub_cancel_left ..
  rw [counted]
  simp only [clone, rename, Datum.renumber_rename union.value numbers within,
    Datum.clones_rename numbers within, Datum.ids_rename, List.length_map]

/-! ## Conversions -/

theorem Conversion.convert?_rename {conversion : Conversion} {value : Datum} {first : Nat}
    {made : Made Datum} (converted : conversion.convert? first value = some made) :
    first ≤ made.nextId ∧ ∀ start, Numbers name first made.nextId start →
      conversion.convert? start (value.rename name) = some ⟨made.value.rename name,
        start + (made.nextId - first), made.events.map (Event.rename name)⟩ := by
  unfold convert? at converted
  split at converted
  case h_10 text =>
    cases converted
    refine ⟨Nat.le_refl _, fun start _ => ?_⟩
    have anonymous := Datum.ids_bytes (text.toList.flatMap String.utf8EncodeChar)
    have same := Datum.rename_eq_self _ fun id member =>
      show name id = id from absurd (anonymous ▸ member) List.not_mem_nil
    simp only [convert?, Datum.rename, Leaf.rename, Nat.sub_self, Nat.add_zero, List.map_nil] at same ⊢
    rw [same]
  case h_13 kind _ number =>
    cases converted
    refine ⟨Nat.le_add_right _ _, fun start numbers => ?_⟩
    have named : name first = start := numbers 0 (Nat.lt_succ_self first)
    simp only [convert?, Datum.rename, Leaf.rename, named, Nat.add_sub_cancel_left, List.map_cons,
      List.map_nil, Event.rename]
  case h_14 => cases converted
  all_goals
    cases converted
    refine ⟨Nat.le_refl _, fun start _ => ?_⟩
    simp only [convert?, Datum.rename, Leaf.rename, Nat.sub_self, Nat.add_zero, List.map_nil]

/-! ## Readings -/

namespace Literal

/-- The reading counts along from any first free identity. -/
abbrev ReadsAlike (name : Nat → Nat) (reading : Nat → Made (Option Datum)) : Prop :=
  Numbered name (Option.map (Datum.rename name)) reading reading

theorem unread_alike : ReadsAlike name unread := by
  intro first
  refine ⟨Nat.le_refl first, fun start _ => ?_⟩
  simp only [unread, Nat.sub_self, Nat.add_zero, Option.map_none, List.map_nil]

theorem constant_alike {value : Option Datum} (anonymous : ∀ found, value = some found → found.ids = []) :
    ReadsAlike name fun nextId => ⟨value, nextId, []⟩ := by
  intro first
  refine ⟨Nat.le_refl first, fun start _ => ?_⟩
  have same : value.map (Datum.rename name) = value := by
    cases value with
    | none => rfl
    | some found =>
        refine congrArg some (found.rename_eq_self ?_)
        rw [anonymous found rfl]
        exact nofun
  simp only [Nat.sub_self, Nat.add_zero, same, List.map_nil]

theorem readLeaf?_alike (type : Ty) (literal : Literal) :
    ReadsAlike name fun nextId => ⟨(literal.readLeaf? type).map .leaf, nextId, []⟩ := by
  apply constant_alike
  intro found was
  obtain ⟨value, read, rfl⟩ := Option.map_eq_some_iff.mp was
  exact (readLeaf?_typed read).2

theorem readTracked_alike (kind : Nat) (literal : Literal) :
    ReadsAlike name fun nextId => readTracked kind nextId literal := by
  intro first
  cases read : literal.readInt? .i32 with
  | none =>
      simp only [readTracked, read]
      exact unread_alike first
  | some number =>
      simp only [readTracked, read]
      refine ⟨Nat.le_add_right _ _, fun start numbers => ?_⟩
      have named : name first = start := numbers 0 (Nat.lt_succ_self first)
      simp only [Option.map_some, Datum.rename, Leaf.rename, named, Nat.add_sub_cancel_left,
        List.map_cons, List.map_nil, Event.rename]

theorem readAround_alike {whole : Datum → Datum} {part : Nat → Made (Option Datum)}
    (through : ∀ value, (whole value).rename name = whole (value.rename name))
    (alike : ReadsAlike name part) : ReadsAlike name fun nextId => readAround whole (part nextId) := by
  intro first
  obtain ⟨later, renamed⟩ := alike first
  refine ⟨later, fun start numbers => ?_⟩
  dsimp only [readAround, Made.map]
  rw [renamed start numbers]
  simp only [Option.map_map]
  congr 2
  funext value
  exact (through value).symm

theorem readPair_alike {left right : Nat → Made (Option Datum)} (leftAlike : ReadsAlike name left)
    (rightAlike : ReadsAlike name right) : ReadsAlike name fun nextId => readPair (left nextId) right := by
  intro first
  obtain ⟨later, renamed⟩ := leftAlike first
  cases found : (left first).value with
  | none =>
      simp only [readPair, found]
      refine ⟨later, fun start numbers => ?_⟩
      rw [renamed start numbers, found]
      rfl
  | some value =>
      obtain ⟨later', renamed'⟩ := rightAlike (left first).nextId
      have alike (start : Nat) (numbers : Numbers name first (right (left first).nextId).nextId start) :
          left start = ⟨some (value.rename name), start + ((left first).nextId - first),
            (left first).events.map (Event.rename name)⟩ := by
        rw [renamed start (numbers.left later'), found]
        rfl
      have alike' (start : Nat) (numbers : Numbers name first (right (left first).nextId).nextId start) :
          right (start + ((left first).nextId - first)) =
            ⟨(right (left first).nextId).value.map (Datum.rename name),
              start + ((right (left first).nextId).nextId - first),
              (right (left first).nextId).events.map (Event.rename name)⟩ := by
        rw [renamed' _ (numbers.right later)]
        congr 1
        omega
      cases found' : (right (left first).nextId).value with
      | none =>
          simp only [readPair, found, found']
          refine ⟨later.trans later', fun start numbers => ?_⟩
          simp only [alike start numbers, alike' start numbers, found', Option.map_none,
            List.map_append, Datum.drops_rename]
      | some value' =>
          simp only [readPair, found, found']
          refine ⟨later.trans later', fun start numbers => ?_⟩
          simp only [alike start numbers, alike' start numbers, found', Option.map_some,
            List.map_append, Datum.rename]

theorem readItems_alike {read : Nat → Literal → Made (Option Datum)}
    (part : ∀ item, ReadsAlike name fun nextId => read nextId item) (items : List Literal)
    (done : List Datum) :
    Numbered name (Option.map (Datum.rename name)) (fun nextId => readItems read done nextId items)
      fun nextId => readItems read (Datum.renameAll name done) nextId items := by
  -- On the items that are left; those read before are renamed too.
  induction items generalizing done with
  | nil =>
      intro first
      refine ⟨Nat.le_refl first, fun start _ => ?_⟩
      simp only [readItems, Nat.sub_self, Nat.add_zero, Option.map_some, Datum.rename, List.map_nil]
  | cons item items ih =>
      intro first
      obtain ⟨later, renamed⟩ := part item first
      cases found : (read first item).value with
      | none =>
          simp only [readItems, found]
          refine ⟨later, fun start numbers => ?_⟩
          have dropped : (Datum.list (Datum.renameAll name done)).drops = _ :=
            (Datum.list done).drops_rename
          simp only [renamed start numbers, found, Option.map_none, List.map_append, dropped]
      | some value =>
          obtain ⟨later', renamed'⟩ := ih (done ++ [value]) (read first item).nextId
          dsimp only at later later'
          simp only [readItems, found]
          refine ⟨later.trans later', fun start numbers => ?_⟩
          have rest := renamed' _ (numbers.right later)
          have together : Datum.renameAll name (done ++ [value]) =
              Datum.renameAll name done ++ [value.rename name] := Datum.renameAll_append done [value]
          rw [together] at rest
          simp only [renamed start (numbers.left later'), found, Option.map_some, rest, List.map_append]
          congr 1
          omega

mutual

theorem read_alike : (type : Ty) → (literal : Literal) →
    ReadsAlike name fun nextId => read type nextId literal
  | .int _, literal => readLeaf?_alike _ literal
  | .float _, literal => readLeaf?_alike _ literal
  | .bool, literal => readLeaf?_alike _ literal
  | .char, literal => readLeaf?_alike _ literal
  | .unit, literal => readLeaf?_alike _ literal
  | .string, literal => readLeaf?_alike _ literal
  | .fixedText, literal => readLeaf?_alike _ literal
  | .empty _, literal => readLeaf?_alike _ literal
  | .tracked kind, literal => readTracked_alike kind literal
  | .record label type, literal => by
      unfold read
      cases literal.field? "v" with
      | none => exact unread_alike
      | some content => exact readAround_alike (fun _ => rfl) (read_alike type content)
  | .list type, literal => by
      cases literal with
      | list items => exact readItems_alike (fun item => read_alike type item) items []
      | _ => exact readLeaf?_alike _ _
  | .option type, literal => by
      cases literal with
      | null => exact constant_alike fun _ found => Option.some.inj found ▸ rfl
      | object fields =>
          simp only [read]
          cases fields.lookup "some" with
          | none => exact unread_alike
          | some content => exact readAround_alike (fun _ => rfl) (read_alike type content)
      | _ => exact readLeaf?_alike _ _
  | .pair type type', literal => by
      cases literal with
      | list items =>
          rcases items with _ | ⟨first, _ | ⟨second, _ | ⟨third, rest⟩⟩⟩
          · exact readLeaf?_alike _ _
          · exact readLeaf?_alike _ _
          · exact readPair_alike (read_alike type first) (read_alike type' second)
          · exact readLeaf?_alike _ _
      | _ => exact readLeaf?_alike _ _
  | .variant types, literal => by
      cases literal with
      | object fields =>
          simp only [read]
          split
          · rename_i index content _ _
            split
            · exact readAround_alike (fun _ => rfl) (readAlternative_alike types index content)
            · exact unread_alike
          · exact unread_alike
      | _ => exact readLeaf?_alike _ _

theorem readAlternative_alike : (types : List Ty) → (index : Nat) → (literal : Literal) →
    ReadsAlike name fun nextId => readAlternative types index nextId literal
  | [], _, _ => unread_alike
  | type :: _, 0, literal => read_alike type literal
  | _ :: types, index + 1, literal => readAlternative_alike types index literal

end

end Literal

end TaggedUnion
