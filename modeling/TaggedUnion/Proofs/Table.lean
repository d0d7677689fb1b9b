import TaggedUnion.Machine.Storage
import TaggedUnion.Proofs.Walk

/-!
# Handler tables by their slots

A table fits a list of alternatives if it has a slot for each of them and each slot accepts the
values of its alternative. Tables without handlers and with a closure in every slot fit, and a
fitting table fits with another handler in a slot that accepts the values of the slot.
-/

set_option autoImplicit false

namespace TaggedUnion

open Registry

namespace Handler

theorem install_accepts (kind : HandlerKind) (type : Ty) (label : String) :
    (install kind type label).Accepts type := by
  cases kind <;> rfl

/-- A handler that accepts values of a type can be run on them, and accepts them afterwards. -/
theorem run?_accepts {slot : Handler} {type : Ty} (accepts : slot.Accepts type) (value : Datum) :
    ∃ slot' events, slot.run? type value = some (slot', events) ∧ slot'.Accepts type := by
  cases slot with
  | unhandled => exact ⟨_, _, rfl, trivial⟩
  | closure accepted label runs =>
      have same : accepted = type := accepts
      exact ⟨_, _, if_pos same, same⟩
  | recorder accepted label seen =>
      have same : accepted = type := accepts
      exact ⟨_, _, if_pos same, same⟩

end Handler

namespace HandlerTable

variable {table : HandlerTable} {types : List Ty}

theorem fits_iff : table.Fits types ↔ table.length = types.length ∧
    ∀ index slot type, table[index]? = some slot → typeAt? types index = some type →
      slot.Accepts type := by
  induction table generalizing types with
  | nil =>
      cases types with
      | nil => simp [Fits]
      | cons => simp [Fits]
  | cons first slots ih =>
      cases types with
      | nil => simp [Fits]
      | cons head tail =>
          simp only [Fits, ih, List.length_cons, Nat.add_right_cancel_iff]
          constructor
          · rintro ⟨accepts, same, each⟩
            refine ⟨same, fun index slot type held found => ?_⟩
            cases index with
            | zero =>
                cases held
                cases found
                exact accepts
            | succ index => exact each index slot type (by simpa using held) found
          · rintro ⟨same, each⟩
            refine ⟨each 0 first head rfl rfl, same, fun index slot type held found => ?_⟩
            exact each (index + 1) slot type (by simpa using held) found

theorem Fits.length_eq (fits : table.Fits types) : table.length = types.length := (fits_iff.mp fits).1

/-- Each alternative has a slot, and the slot accepts its values. -/
theorem Fits.slot (fits : table.Fits types) {index : Nat} {type : Ty}
    (found : typeAt? types index = some type) :
    ∃ slot, table[index]? = some slot ∧ slot.Accepts type := by
  have inside : index < table.length := fits.length_eq ▸ typeAt?_lt found
  have held := List.getElem?_eq_getElem inside
  exact ⟨table[index], held, (fits_iff.mp fits).2 index _ type held found⟩

/-- Fitting tables with the same slots are the same. -/
theorem Fits.ext {table' : HandlerTable} (fits : table.Fits types) (fits' : table'.Fits types)
    (same : ∀ {index type}, typeAt? types index = some type → table[index]? = table'[index]?) :
    table = table' := by
  apply List.ext_getElem?
  intro index
  cases found : typeAt? types index with
  | some type => exact same found
  | none =>
      rw [typeAt?_eq_getElem?, List.getElem?_eq_none_iff] at found
      rw [List.getElem?_eq_none (fits.length_eq.trans_le found),
        List.getElem?_eq_none (fits'.length_eq.trans_le found)]

theorem Fits.set (fits : table.Fits types) {index : Nat} {type : Ty} {handler : Handler}
    (found : typeAt? types index = some type) (accepts : handler.Accepts type) :
    HandlerTable.Fits (List.set table index handler) types := by
  obtain ⟨same, each⟩ := fits_iff.mp fits
  refine fits_iff.mpr ⟨by simpa using same, fun position slot type' held found' => ?_⟩
  by_cases here : index = position
  · subst here
    have inside : index < table.length := same ▸ typeAt?_lt found
    rw [List.getElem?_set_self inside] at held
    cases held
    cases found.symm.trans found'
    exact accepts
  · rw [List.getElem?_set_ne here] at held
    exact each position slot type' held found'

theorem fresh_fits (types : List Ty) : (fresh types).Fits types := by
  induction types with
  | nil => trivial
  | cons type types ih => exact ⟨trivial, ih⟩

theorem filledFrom_fits (start : Nat) (types : List Ty) : (filledFrom start types).Fits types := by
  induction types generalizing start with
  | nil => trivial
  | cons type types ih => exact ⟨Handler.install_accepts .closure type _, ih (start + 1)⟩

theorem fresh_slot {type : Ty} {slot : Nat} (found : typeAt? types slot = some type) :
    (fresh types)[slot]? = some .unhandled := by
  rw [typeAt?_eq_getElem?] at found
  rw [fresh, List.getElem?_map, found]
  rfl

theorem filledFrom_slot {type : Ty} {start slot : Nat} (found : typeAt? types slot = some type) :
    (filledFrom start types)[slot]? = some (.install .closure type ("fill" ++ (start + slot).repr)) := by
  induction types generalizing start slot with
  | nil => cases found
  | cons head types ih =>
      cases slot with
      | zero =>
          cases found
          rfl
      | succ slot =>
          rw [filledFrom, List.getElem?_cons_succ, ih found, Nat.add_right_comm, Nat.add_assoc]

end HandlerTable

end TaggedUnion
