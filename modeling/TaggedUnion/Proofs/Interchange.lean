import TaggedUnion.Proofs.Refinement

/-!
# Selection by type and by index

An operation that selects an alternative by a type, which is then listed exactly once, and its
counterpart that selects by the index of the type are the same procedure. So operations of a program
may be exchanged for their counterparts, in any selection, and its run shows no difference.
-/

set_option autoImplicit false

namespace TaggedUnion

open Registry

/-- The selection by the index of the type, if the type is listed exactly once. -/
def Selector.byIndex (types : List Ty) : Selector Ty → Selector Ty
  | .type target =>
    match indexOf? types target with
    | some index => .position index
    | none => .type target
  | .position index => .position index

/-- The counterpart that selects by index. Checked accesses, optional edits, taking values out and
conversions select by type only. -/
def Op.byIndex (types : List Ty) : Op Ty → Op Ty
  | .construct target register value => .construct (target.byIndex types) register value
  | .test target register => .test (target.byIndex types) register
  | .read .optional target register => .read .optional (target.byIndex types) register
  | .read .required target register => .read .required (target.byIndex types) register
  | .edit .required mode target register value =>
    .edit .required mode (target.byIndex types) register value
  | .install kind target label => .install kind (target.byIndex types) label
  | op => op

/-- The program with its operations at the chosen places exchanged. -/
def byIndexWhere (types : List Ty) (chosen : Nat → Bool) (program : List (Op Ty)) : List (Op Ty) :=
  program.mapIdx fun place op => if chosen place then op.byIndex types else op

variable {types : List Ty}

/-- The selection by index comes with the type that is listed there, which is the one that was asked
for. So both report the same alternative too. -/
theorem Selector.find?_byIndex (target : Selector Ty) :
    (target.byIndex types).find? types = target.find? types := by
  cases target with
  | position index => rfl
  | type target =>
      cases located : indexOf? types target with
      | none => simp only [byIndex, located]
      | some index => simp only [byIndex, find?, located, indexOf?_found located, Option.map_some]

theorem Selector.build?_byIndex (target : Selector Ty) :
    (target.byIndex types).build? types = target.build? types := by
  rw [build?, find?_byIndex]
  rfl

namespace Machine

variable {Held Value : Type} {storage : Storage Held Value}

theorem perform_byIndex (op : Op Ty) :
    perform storage types (op.byIndex types) = perform storage types op := by
  cases op with
  | construct target register value => simp only [Op.byIndex, perform, Selector.build?_byIndex]
  | test target register => simp only [Op.byIndex, perform, Selector.find?_byIndex]
  | read demand target register =>
      cases demand with
      | checked => rfl
      | optional | required => simp only [Op.byIndex, perform, Selector.find?_byIndex]
  | edit demand mode target register value =>
      cases demand with
      | optional | checked => rfl
      | required => simp only [Op.byIndex, perform, Selector.find?_byIndex]
  | install kind target label => simp only [Op.byIndex, perform, Selector.find?_byIndex]
  | _ => rfl

theorem step_byIndex (op : Op Ty) (state : State Held) :
    step storage types (op.byIndex types) state = step storage types op state := by
  rw [step, perform_byIndex]
  rfl

theorem steps_byIndexWhere (chosen : Nat → Bool) (program : List (Op Ty)) (state : State Held) :
    steps storage types (byIndexWhere types chosen program) state = steps storage types program state := by
  induction program generalizing chosen state with
  | nil => rfl
  | cons op program ih =>
      have first : step storage types (if chosen 0 then op.byIndex types else op) state =
          step storage types op state := by
        split
        · exact step_byIndex op state
        · rfl
      -- In the rest of the program every operation stands one place earlier.
      have rest := ih fun place => chosen (place + 1)
      simp only [byIndexWhere, List.mapIdx_cons, steps] at rest ⊢
      simp only [first, rest]

/-- Exchanging any of the operations of a program for their counterparts by index changes nothing
that is seen of its run. -/
theorem run_byIndexWhere (types : List Ty) (program : List (Op Ty)) (chosen : Nat → Bool) :
    ∃ transcript, run .tagged types program = .ok transcript ∧
      run .tagged types (byIndexWhere types chosen program) = .ok transcript := by
  obtain ⟨transcript, ran⟩ := run_ends types program
  have same : run .tagged types (byIndexWhere types chosen program) = run .tagged types program := by
    rw [run, steps_byIndexWhere]
    rfl
  exact ⟨transcript, ran, same.trans ran⟩

end Machine

end TaggedUnion
