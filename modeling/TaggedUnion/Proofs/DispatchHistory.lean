import TaggedUnion.Proofs.Effect
import TaggedUnion.Proofs.Refinement

/-!
# What a dispatch logs, by the history of the run

The history of a run tells when handlers came into the slots of the table and which values were
dispatched. From it alone follows what a dispatch logs: the last handler that came into the slot of
the active alternative, and the values that were dispatched there since.
-/

set_option autoImplicit false

namespace TaggedUnion

open Registry

/-- The active value of a union. -/
def Tagged.view (types : List Ty) (union : Tagged) : Except Fault Datum :=
  union.storage.view types union.tag

/-- What happens to the handlers in a run. -/
inductive Happening where
  /-- The table without handlers came into place. -/
  | cleared
  /-- The table with a closure in every slot came into place. -/
  | filled
  | installed (kind : HandlerKind) (slot : Nat) (label : String)
  /-- A union with this active alternative and this active value was dispatched. -/
  | dispatched (slot : Nat) (value : Datum)

namespace Happening

/-- What is in the slot afterwards came there by it. -/
def sets (slot : Nat) : Happening → Bool
  | cleared | filled => true
  | installed _ slot' _ => slot' == slot
  | dispatched _ _ => false

/-- The handler that comes into the slot, by its kind and its label. -/
def handler? (slot : Nat) : Happening → Option (HandlerKind × String)
  | filled => some (.closure, "fill" ++ slot.repr)
  | installed kind _ label => some (kind, label)
  | cleared | dispatched _ _ => none

/-- The value that was dispatched to the slot. -/
def value? (slot : Nat) : Happening → Option Datum
  | dispatched slot' value => if slot' = slot then some value else none
  | _ => none

end Happening

namespace History

/-- The handler that came into the slot last, if there is one. -/
def handler? (slot : Nat) (history : List Happening) : Option (HandlerKind × String) :=
  (history.reverse.find? (·.sets slot)).bind (·.handler? slot)

/-- What happened since the slot was set last. -/
def since (slot : Nat) (history : List Happening) : List Happening :=
  (history.reverse.takeWhile fun happening => !happening.sets slot).reverse

/-- The values that were dispatched to the slot since it was set last. -/
def values (slot : Nat) (history : List Happening) : List Datum :=
  (since slot history).filterMap (·.value? slot)

/-- What the dispatch of the value to the slot logs after the history. -/
def logged (slot : Nat) (value : Datum) (history : List Happening) : List Event :=
  match handler? slot history with
  | none => []
  | some (.closure, label) => [.ran label ((values slot history).length + 1) value]
  | some (.recorder, label) => [.recorded label (values slot history ++ [value])]

/-- What the slot holds after the history. -/
def holds (slot : Nat) (type : Ty) (history : List Happening) : Handler :=
  match handler? slot history with
  | none => .unhandled
  | some (.closure, label) => .closure type label (values slot history).length
  | some (.recorder, label) => .recorder type label (values slot history)

variable {slot : Nat} {history : List Happening} {happening : Happening}

theorem handler?_set (set : happening.sets slot = true) :
    handler? slot (history ++ [happening]) = happening.handler? slot := by
  simp [handler?, set]

theorem handler?_unset (unset : happening.sets slot = false) :
    handler? slot (history ++ [happening]) = handler? slot history := by
  simp [handler?, unset]

theorem values_set (set : happening.sets slot = true) : values slot (history ++ [happening]) = [] := by
  simp [values, since, set]

theorem since_unset (unset : happening.sets slot = false) :
    since slot (history ++ [happening]) = since slot history ++ [happening] := by
  simp [since, unset]

theorem values_unset (unset : happening.sets slot = false) :
    values slot (history ++ [happening]) = values slot history ++ (happening.value? slot).toList := by
  rw [values, since_unset unset, List.filterMap_append, List.filterMap_cons, List.filterMap_nil]
  cases happening.value? slot <;> rfl

/-! ### The slot along a history -/

variable {type : Ty}

theorem holds_installed (kind : HandlerKind) (label : String) :
    holds slot type (history ++ [.installed kind slot label]) = .install kind type label := by
  have set : (Happening.installed kind slot label).sets slot = true := beq_self_eq_true slot
  rw [holds, handler?_set set, values_set set]
  cases kind <;> rfl

theorem holds_filled :
    holds slot type (history ++ [.filled]) = .install .closure type ("fill" ++ slot.repr) := by
  rw [holds, handler?_set rfl, values_set rfl]
  rfl

theorem holds_cleared : holds slot type (history ++ [.cleared]) = .unhandled := by
  rw [holds, handler?_set rfl]
  rfl

theorem holds_other (unset : happening.sets slot = false) (other : happening.value? slot = none) :
    holds slot type (history ++ [happening]) = holds slot type history := by
  rw [holds, handler?_unset unset, values_unset unset, other, Option.toList_none, List.append_nil]
  rfl

/-- The handler in the slot takes a dispatched value, logs what the history says and remembers it. -/
theorem run?_holds (value : Datum) :
    (holds slot type history).run? type value =
      some (holds slot type (history ++ [.dispatched slot value]), logged slot value history) := by
  have taken : (Happening.dispatched slot value).value? slot = some value := if_pos rfl
  unfold holds logged
  rw [handler?_unset rfl, values_unset rfl, taken]
  split
  · rfl
  · simp [Handler.run?]
  · simp [Handler.run?]

end History

/-- The operation is one on handlers. -/
def Op.onHandlers : Op Ty → Bool
  | .install _ _ _ | .dispatch (some _) | .freshTable | .fillTable => true
  | _ => false

theorem Effect.table_kept {types : List Ty} {state next : State Choice} {op : Op Ty}
    {events : List Event} (effect : Effect types state op next events) (other : op.onHandlers = false) :
    next.table = state.table := by
  cases effect with
  | installed | dispatched | freshened | filled => cases other
  | _ => rfl

theorem Choice.Typed.view_stored {types : List Ty} {union : Choice} (typed : union.Typed types) :
    union.stored.view types = .ok union.value ∧ union.stored.tag.toNat = union.index := by
  obtain ⟨type, short, found, contentTyped⟩ := typed.found
  have below := typeAt?_short short found
  exact ⟨(Chain.view_place found below _).trans (Stored.view_ofDatum contentTyped), toNat_tagOf below⟩

namespace Machine

/-- What the operation does to the handlers, if anything. -/
def happening? (types : List Ty) (op : Op Ty) (state : State Tagged) : Option Happening :=
  match op with
  | .freshTable => some .cleared
  | .fillTable => some .filled
  | .install kind target label =>
    (target.find? types).map fun (_, index) => .installed kind index label
  | .dispatch (some register) =>
    match state.content register with
    | none => none
    | some union =>
      match union.view types with
      | .ok value => some (.dispatched union.tag.toNat value)
      | .error _ => none
  | _ => none

/-- The history of the operations of a program. -/
def history (types : List Ty) : List (Op Ty) → State Tagged → List Happening
  | [], _ => []
  | op :: program, state =>
    (happening? types op state).toList ++
      match step .tagged types op state with
      | .ok (_, next) => history types program next
      | .error _ => []

end Machine

/-! ## Tables along a history -/

/-- Each slot of the table holds what the history says. -/
def HandlerTable.Follows (table : HandlerTable) (types : List Ty) (history : List Happening) : Prop :=
  ∀ slot type, typeAt? types slot = some type → table[slot]? = some (History.holds slot type history)

namespace HandlerTable

variable {types : List Ty} {table : HandlerTable} {history : List Happening} {index : Nat} {type : Ty}

theorem follows_nil : (fresh types).Follows types [] := fun _ _ found => fresh_slot found

theorem follows_cleared : (fresh types).Follows types (history ++ [.cleared]) := by
  intro slot type found
  rw [History.holds_cleared]
  exact fresh_slot found

theorem follows_filled : (filled types).Follows types (history ++ [.filled]) := by
  intro slot type found
  rw [History.holds_filled, filled, filledFrom_slot found, Nat.zero_add]

/-- One slot is overwritten with what the history says next, and the others are kept. -/
theorem Follows.set {happening : Happening} {handler : Handler} (follows : table.Follows types history)
    (found : typeAt? types index = some type)
    (here : History.holds index type (history ++ [happening]) = handler)
    (elsewhere : ∀ slot, index ≠ slot → happening.sets slot = false ∧ happening.value? slot = none) :
    HandlerTable.Follows (List.set table index handler) types (history ++ [happening]) := by
  intro slot other foundOther
  by_cases same : index = slot
  · subst same
    cases found.symm.trans foundOther
    have inside := (List.getElem?_eq_some_iff.mp (follows index type found)).1
    rw [List.getElem?_set_self inside, here]
  · obtain ⟨unset, passed⟩ := elsewhere slot same
    rw [List.getElem?_set_ne same, follows slot other foundOther, History.holds_other unset passed]

theorem Follows.install (follows : table.Follows types history) (found : typeAt? types index = some type)
    (kind : HandlerKind) (label : String) :
    (HandlerTable.install (.install kind type label) index table).Follows types
      (history ++ [.installed kind index label]) := by
  rw [install_eq_set]
  exact follows.set found (History.holds_installed kind label)
    fun slot apart => ⟨beq_false_of_ne apart, rfl⟩

/-- A dispatch logs what the history says, and the table follows the history with the dispatch. -/
theorem Follows.dispatch (follows : table.Follows types history) {union : Choice}
    (found : typeAt? types union.index = some type) :
    ∃ table', union.dispatch types table = .ok (table', History.logged union.index union.value history) ∧
      HandlerTable.Follows table' types (history ++ [.dispatched union.index union.value]) := by
  refine ⟨_, ?_, follows.set found rfl fun slot apart => ⟨rfl, if_neg apart⟩⟩
  simp only [Choice.dispatch, found, runAt?, follows union.index type found, History.run?_holds,
    Option.map_some]

end HandlerTable

namespace Machine

open Procedure

variable {types : List Ty}

theorem perform_install {state : State Choice} (kind : HandlerKind) (target : Selector Ty)
    (label : String) :
    perform .plain types (.install kind target label) state =
      match target.find? types with
      | none => .ok ⟨.error .unsupported, state, []⟩
      | some (type, index) =>
        .ok ⟨.ok .done, { state with table := state.table.install (.install kind type label) index }, []⟩ := by
  simp only [perform, orFail]
  cases target.find? types with
  | none => rfl
  | some picked => rfl

theorem dispatch_vacant {state : State Choice} {register : Register}
    (empty : state.content register = none) :
    (perform .plain types (.dispatch (some register))).Leads state [] fun _ next _ => next = state := by
  refine .bind (.quiet rfl ?_)
  exact .bind (.vacant empty rfl)

theorem dispatch_occupied {state : State Choice} {register : Register} {union : Choice}
    {slots : HandlerTable} {logged : List Event} (held : state.content register = some union)
    (dispatched : union.dispatch types state.table = .ok (slots, logged)) :
    (perform .plain types (.dispatch (some register))).Leads state [] fun answer next events =>
      answer = .ok .done ∧ next = { state with table := slots } ∧ events = logged := by
  refine .bind (.quiet rfl ?_)
  refine .bind (.occupied held ?_)
  refine .bind (.quiet rfl ?_)
  refine .bind (.orFault ?_)
  intro outcome ran
  cases dispatched.symm.trans ran
  refine .bind (.quiet rfl ?_)
  refine .bind (.log ?_)
  exact .answer ⟨rfl, rfl, rfl⟩

theorem happening?_dispatch {state : State Choice} (typed : state.Typed types) {register : Register}
    {union : Choice} (held : state.content register = some union) :
    happening? types (.dispatch (some register)) state.stored =
      some (.dispatched union.index union.value) := by
  obtain ⟨viewed, counted⟩ := (typed.registers register union held).view_stored
  simp only [happening?, state.content_stored, held, Option.map_some, viewed, counted]

/-- A step adds to the history what it does to the handlers. -/
theorem perform_follows {state : State Choice} (typed : state.Typed types) {history : List Happening}
    (follows : state.table.Follows types history) {op : Op Ty} {outcome : Outcome Choice Reply}
    (performed : perform .plain types op state = .ok outcome) :
    outcome.state.table.Follows types (history ++ (happening? types op state.stored).toList) := by
  have kept : outcome.state.table = state.table → happening? types op state.stored = none →
      outcome.state.table.Follows types (history ++ (happening? types op state.stored).toList) := by
    intro same nothing
    rw [same, nothing, Option.toList_none, List.append_nil]
    exact follows
  have effect := perform_effect types op state outcome performed
  cases op with
  | freshTable =>
      cases performed
      exact HandlerTable.follows_cleared
  | fillTable =>
      cases performed
      exact HandlerTable.follows_filled
  | install kind target label =>
      rw [perform_install] at performed
      cases picked : target.find? types with
      | none =>
          rw [picked] at performed
          cases performed
          exact kept rfl (by simp only [happening?, picked, Option.map_none])
      | some selected =>
          rw [picked] at performed
          cases performed
          simp only [happening?, picked, Option.map_some, Option.toList_some]
          exact follows.install (Selector.find?_found picked) kind label
  | dispatch register =>
      cases register with
      | none => exact kept (effect.table_kept rfl) rfl
      | some register =>
          cases held : state.content register with
          | none =>
              have same := dispatch_vacant held outcome performed
              exact kept (congrArg State.table same)
                (by simp only [happening?, state.content_stored, held, Option.map_none])
          | some union =>
              obtain ⟨type, -, found, -⟩ := (typed.registers register union held).found
              obtain ⟨table, dispatched, followed⟩ := follows.dispatch found
              obtain ⟨-, next, -⟩ := dispatch_occupied held dispatched outcome performed
              rw [next, happening?_dispatch typed held, Option.toList_some]
              exact followed
  | _ => exact kept (effect.table_kept rfl) rfl

/-- After a program the table follows its history, by induction on the program. -/
theorem steps_follows {state last : State Choice} (typed : state.Typed types)
    {past : List Happening} (follows : state.table.Follows types past) {program : List (Op Ty)}
    {entries : List Entry} (ran : steps .plain types program state = .ok (entries, last)) :
    last.table.Follows types (past ++ history types program state.stored) := by
  induction program generalizing state past entries with
  | nil =>
      cases ran
      rw [history, List.append_nil]
      exact follows
  | cons op program ih =>
      obtain ⟨outcome, performed, tagged, plain, nextTyped, -⟩ := step_stored typed op
      obtain ⟨entry, next, rest, stepped, remaining, -⟩ := steps_cons_ok_iff.mp ran
      cases stepped.symm.trans plain
      rw [history, tagged, ← List.append_assoc]
      exact ih nextTyped (perform_follows typed follows performed) remaining

/-- What a dispatch does after a run. It logs what the history of the run says: nothing if no
handler came into the slot of the active alternative since the table was cleared, and otherwise one
event of the handler that came there last, with the values that were dispatched to the slot since
then. It changes no register and no identity. -/
theorem dispatch_follows_history (types : List Ty) (program : List (Op Ty)) :
    ∃ entries, ∃ state : State Tagged,
      steps .tagged types program (State.initial types) = .ok (entries, state) ∧
      ∀ register union, state.content register = some union →
        ∃ value entry, ∃ next : State Tagged, union.view types = .ok value ∧
          step .tagged types (.dispatch (some register)) state = .ok (entry, next) ∧
          entry.reply = .done ∧ next.registers = state.registers ∧ next.nextId = state.nextId ∧
          entry.events =
            History.logged union.tag.toNat value (history types program (State.initial types)) := by
  obtain ⟨entries, state, tagged, plain, typed⟩ := steps_initial types program
  have follows := steps_follows (State.initial_typed types) HandlerTable.follows_nil plain
  rw [List.nil_append, State.initial_stored] at follows
  refine ⟨entries, state.stored, tagged, fun register union held => ?_⟩
  rw [state.content_stored] at held
  obtain ⟨choice, chosen, rfl⟩ := Option.map_eq_some_iff.mp held
  obtain ⟨type, -, found, -⟩ := (typed.registers register choice chosen).found
  obtain ⟨viewed, counted⟩ := (typed.registers register choice chosen).view_stored
  obtain ⟨table, dispatched, -⟩ := follows.dispatch found
  obtain ⟨outcome, performed, stepped, -, -, -⟩ := step_stored typed (.dispatch (some register))
  obtain ⟨answered, next, logged⟩ := dispatch_occupied chosen dispatched outcome performed
  refine ⟨choice.value, _, _, viewed, stepped, ?_, ?_, ?_, ?_⟩
  · simp only [entryOf, Outcome.reply, answered]
  · rw [next]
    rfl
  · rw [next]
    rfl
  · rw [counted]
    exact logged

end Machine

end TaggedUnion
