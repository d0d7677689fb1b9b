import TaggedUnion.Proofs.Identities
import TaggedUnion.Proofs.Typing

/-!
# Edits of plain values

An edit assigns a value or adds one to what is there. What it makes of the two values is told by a
relation that names every result: sums of integers within their type, texts and lists one after the
other, and for all else the new value. Two edits in a row are one edit.
-/

set_option autoImplicit false

namespace TaggedUnion

theorem IntType.wrap_wrap_add (kind : IntType) (left right : Int) :
    kind.wrap (kind.wrap left + right) = kind.wrap (left + right) := by
  unfold wrap
  split
  · exact Int.bmod_add_bmod
  · exact Int.emod_add_emod left kind.span right

theorem IntType.wrap_add_wrap (kind : IntType) (left right : Int) :
    kind.wrap (left + kind.wrap right) = kind.wrap (left + right) := by
  rw [Int.add_comm, wrap_wrap_add, Int.add_comm]

theorem IntType.span_dvd_wrap_sub (kind : IntType) (number : Int) :
    (kind.span : Int) ∣ kind.wrap number - number := by
  have rest : kind.wrap number % kind.span = number % kind.span := by
    unfold wrap
    split
    · exact Int.bmod_emod
    · exact Int.emod_emod_of_dvd number (dvd_refl _)
  exact Int.dvd_of_emod_eq_zero (Int.emod_eq_emod_iff_emod_sub_eq_zero.mp rest)

/-- Adding to a value of the type keeps the value and appends to it. -/
def Ty.grows : Ty → Bool
  | .int _ | .string | .list _ => true
  | _ => false

/-- What an edit makes of a value of the type, and what it logs. Integers are added up to the span of
their type, texts and lists are put one after the other; all else is replaced, and dropped. -/
inductive EditMode.Makes : EditMode → Ty → Datum → Datum → Datum → List Event → Prop where
  | assigned {type : Ty} {old new : Datum} : Makes .assign type old new new old.drops
  | sum {kind : IntType} {left right total : Int} : kind.Holds total →
      (kind.span : Int) ∣ total - (left + right) →
      Makes .add (.int kind) (.leaf (.int kind left)) (.leaf (.int kind right))
        (.leaf (.int kind total)) []
  | text {left right : String} :
      Makes .add .string (.leaf (.string left)) (.leaf (.string right))
        (.leaf (.string (left ++ right))) []
  | list {type : Ty} {left right : List Datum} :
      Makes .add (.list type) (.list left) (.list right) (.list (left ++ right)) []
  | replaced {type : Ty} {old new : Datum} :
      type.grows = false → Makes .add type old new new old.drops

/-- How one edit does what an edit and then another one do. -/
def EditMode.followedBy : EditMode → EditMode → EditMode
  | _, .assign => .assign
  | mode, .add => mode

namespace Datum

variable {type : Ty} {old new new' : Datum}

theorem edit_add_of_not_grows (typed : old.Typed type) (fixed : type.grows = false) (new : Datum) :
    old.edit .add new = ⟨new, old.drops⟩ := by
  unfold edit
  split
  · cases typed with
    | leaf held =>
        obtain ⟨rfl, -⟩ := held.of_int
        cases fixed
  · cases typed with
    | leaf held =>
        obtain rfl := held.of_string
        cases fixed
  · cases typed with
    | list => cases fixed
  · rfl

/-- Two edits in a row come to the value of one edit with what the second makes of the first. -/
theorem edit_edit (typed : old.Typed type) (typedNew : new.Typed type) (typedNew' : new'.Typed type)
    (mode mode' : EditMode) :
    ((old.edit mode new).value.edit mode' new').value =
      (old.edit (mode.followedBy mode') (new.edit mode' new').value).value := by
  cases mode' with
  | assign => rfl
  | add =>
      cases mode with
      | assign => rfl
      | add =>
          cases grows : type.grows with
          | false =>
              have edited := edit_add_of_not_grows typed grows
              have editedNew := edit_add_of_not_grows typedNew grows
              rw [EditMode.followedBy, edited, editedNew, edited]
          | true =>
              cases type with
              | int kind =>
                  obtain ⟨number, rfl, -⟩ := typed.int_inv
                  obtain ⟨number', rfl, -⟩ := typedNew.int_inv
                  obtain ⟨number'', rfl, -⟩ := typedNew'.int_inv
                  simp only [edit, EditMode.followedBy, IntType.wrap_wrap_add, IntType.wrap_add_wrap,
                    Int.add_assoc]
              | string =>
                  obtain ⟨text, rfl⟩ := typed.string_inv
                  obtain ⟨text', rfl⟩ := typedNew.string_inv
                  obtain ⟨text'', rfl⟩ := typedNew'.string_inv
                  simp only [edit, EditMode.followedBy, String.append_assoc]
              | list item =>
                  obtain ⟨items, rfl, -⟩ := typed.list_inv
                  obtain ⟨items', rfl, -⟩ := typedNew.list_inv
                  obtain ⟨items'', rfl, -⟩ := typedNew'.list_inv
                  simp only [edit, EditMode.followedBy, List.append_assoc]
              | _ => cases grows

theorem edit_makes (typed : old.Typed type) (typedNew : new.Typed type) (mode : EditMode) :
    mode.Makes type old new (old.edit mode new).value (old.edit mode new).events := by
  cases mode with
  | assign => exact .assigned
  | add =>
      cases grows : type.grows with
      | false =>
          rw [edit_add_of_not_grows typed grows]
          exact .replaced grows
      | true =>
          cases type with
          | int kind =>
              obtain ⟨number, rfl, -⟩ := typed.int_inv
              obtain ⟨number', rfl, -⟩ := typedNew.int_inv
              exact .sum (kind.wrap_holds _) (kind.span_dvd_wrap_sub _)
          | string =>
              obtain ⟨text, rfl⟩ := typed.string_inv
              obtain ⟨text', rfl⟩ := typedNew.string_inv
              exact .text
          | list item =>
              obtain ⟨items, rfl, -⟩ := typed.list_inv
              obtain ⟨items', rfl, -⟩ := typedNew.list_inv
              exact .list
          | _ => cases grows

theorem ids_of_edit {mode : EditMode} (none : (old.edit mode new).value.ids = []) : new.ids = [] := by
  unfold edit at none
  split at none
  · rfl
  · rfl
  · rw [ids, allIds_append] at none
    exact (List.append_eq_nil_iff.mp none).2
  · exact none

end Datum

end TaggedUnion
