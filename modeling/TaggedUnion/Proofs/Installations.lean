import TaggedUnion.Proofs.HashBytes

/-!
# Handler tables as finite maps

A table into which handlers are installed is a finite map from the indices of the list to handlers:
each slot holds the handler that was installed there last, in the state in which it came, or none.
So only the order of installations into one slot matters. Each slot accepts the values of its
alternative, because an installation is one of a handler that does.
-/

set_option autoImplicit false

namespace TaggedUnion

open Registry

/-- The installation of a handler, in whatever state it is, for an alternative whose values it takes. -/
structure Installation (types : List Ty) where
  index : Nat
  type : Ty
  handler : Handler
  member : Contains types type index
  accepts : handler.Accepts type

namespace Installation

variable {types : List Ty}

def carryOut : List (Installation types) → HandlerTable → HandlerTable
  | [], table => table
  | installation :: rest, table =>
    carryOut rest (table.install installation.handler installation.index)

def table (installations : List (Installation types)) : HandlerTable :=
  carryOut installations (HandlerTable.fresh types)

/-- The installations into the slot, in their order. -/
def into (slot : Nat) (installations : List (Installation types)) : List (Installation types) :=
  installations.filter (·.index == slot)

def last (slot : Nat) (installations : List (Installation types)) : Handler :=
  match (into slot installations).getLast? with
  | some installation => installation.handler
  | none => .unhandled

variable {installations : List (Installation types)} {slots : HandlerTable}

theorem carryOut_append (earlier later : List (Installation types)) :
    carryOut (earlier ++ later) slots = carryOut later (carryOut earlier slots) := by
  induction earlier generalizing slots with
  | nil => rfl
  | cons installation earlier ih => exact ih

theorem length_carryOut : (carryOut installations slots).length = slots.length := by
  induction installations generalizing slots with
  | nil => rfl
  | cons installation installations ih =>
      rw [carryOut, ih, HandlerTable.install_eq_set, List.length_set]

theorem carryOut_fits (fits : slots.Fits types) : (carryOut installations slots).Fits types := by
  induction installations generalizing slots with
  | nil => exact fits
  | cons installation installations ih =>
      rw [carryOut]
      apply ih
      rw [HandlerTable.install_eq_set]
      exact fits.set (contains_iff_typeAt?.mp installation.member) installation.accepts

theorem length_table (installations : List (Installation types)) :
    (table installations).length = types.length := by
  rw [table, length_carryOut, HandlerTable.fresh, List.length_map]

theorem last_concat (slot : Nat) (installation : Installation types) :
    last slot (installations ++ [installation]) =
      if installation.index = slot then installation.handler else last slot installations := by
  unfold last into
  rw [List.filter_append]
  split_ifs with here
  · simp [here]
  · simp [here]

theorem table_slot {slot : Nat} (inside : slot < types.length) :
    (table installations)[slot]? = some (last slot installations) := by
  -- The last installation is the one that decides, so it is split off first.
  induction installations using List.reverseRecOn with
  | nil =>
      have found : typeAt? types slot = some types[slot] := by
        rw [typeAt?_eq_getElem?, List.getElem?_eq_getElem inside]
      exact HandlerTable.fresh_slot found
  | append_singleton installations installation ih =>
      have present : slot < (table installations).length := (length_table installations).symm ▸ inside
      rw [last_concat, table, carryOut_append, ← table, carryOut, carryOut,
        HandlerTable.install_eq_set]
      split_ifs with here
      · rw [here, List.getElem?_set_self present]
      · rw [List.getElem?_set_ne here, ih]

theorem table_eq_map (installations : List (Installation types)) :
    table installations = (List.range types.length).map fun slot => last slot installations := by
  apply List.ext_getElem?
  intro slot
  by_cases inside : slot < types.length
  · rw [table_slot inside, List.getElem?_map, List.getElem?_range inside, Option.map_some]
  · have beyond : types.length ≤ slot := Nat.le_of_not_lt inside
    rw [List.getElem?_eq_none ((length_table installations).trans_le beyond),
      List.getElem?_eq_none (by simpa using beyond)]

theorem table_congr {installations' : List (Installation types)}
    (same : ∀ slot, into slot installations = into slot installations') :
    table installations = table installations' := by
  rw [table_eq_map, table_eq_map]
  apply List.map_congr_left
  intro slot _
  rw [last, last, same]

theorem dispatch_table {tag : UInt8} {type : Ty} {value : Stored}
    (found : typeAt? types tag.toNat = some type) (formed : value.WellFormed type) :
    ∃ datum slot events, value.view type = .ok datum ∧
      (last tag.toNat installations).run? type datum = some (slot, events) ∧
      (Chain.place tag.toNat value).dispatch types tag (table installations) =
        .ok (List.set (table installations) tag.toNat slot, events) ∧
      HandlerTable.Fits (List.set (table installations) tag.toNat slot) types := by
  obtain ⟨datum, typed, rfl⟩ := formed.exists_datum
  have fits : (table installations).Fits types := carryOut_fits (HandlerTable.fresh_fits types)
  have held : (table installations)[tag.toNat]? = some (last tag.toNat installations) :=
    table_slot (typeAt?_lt found)
  obtain ⟨handler, inSlot, accepts⟩ := fits.slot found
  cases held.symm.trans inSlot
  obtain ⟨slot, events, ran, acceptsAfter⟩ := Handler.run?_accepts accepts datum
  have viewed := Stored.view_ofDatum typed
  have dispatched := Chain.dispatch_place found tag.toNat_lt (Stored.ofDatum datum)
    (length_table installations) held
  rw [tagOf_toNat, viewed, Fault.ok_bind, ran] at dispatched
  exact ⟨datum, slot, events, viewed, ran, dispatched, fits.set found acceptsAfter⟩

end Installation

/-! ## Installations in a program -/

/-- The installation of a handler that starts, for the alternative that is picked. -/
def Selector.installation? (types : List Ty) (kind : HandlerKind) (label : String)
    (target : Selector Ty) : Option (Installation types) :=
  match picked : target.find? types with
  | some (alternative, index) =>
    some
      { index := index
        type := alternative
        handler := .install kind alternative label
        member := contains_iff_typeAt?.mpr (find?_found picked)
        accepts := Handler.install_accepts kind alternative label }
  | none => none

def Op.installation? (types : List Ty) : Op Ty → Option (Installation types)
  | .install kind target label => target.installation? types kind label
  | _ => none

/-- The operation installs a handler, or leaves the table alone. -/
def Op.installsAtMost : Op Ty → Bool
  | .install _ _ _ => true
  | op => !op.onHandlers

namespace Machine

variable {types : List Ty} {state last : State Choice} {op : Op Ty}

theorem perform_carriesOut (atMost : op.installsAtMost = true) {outcome : Outcome Choice Reply}
    (performed : perform .plain types op state = .ok outcome) :
    outcome.state.table = Installation.carryOut (op.installation? types).toList state.table := by
  have effect := perform_effect types op state outcome performed
  cases op with
  | install kind target label =>
      rw [perform_install] at performed
      rw [Op.installation?, Selector.installation?]
      split
      · rename_i type position picked
        rw [picked] at performed
        cases performed
        rfl
      · rename_i missing
        rw [missing] at performed
        cases performed
        rfl
  | _ => exact effect.table_kept (by simpa only [Op.installsAtMost, Bool.not_eq_true'] using atMost)

theorem steps_carryOut {program : List (Op Ty)} (atMost : ∀ op ∈ program, op.installsAtMost = true)
    {entries : List Entry} (ran : steps .plain types program state = .ok (entries, last)) :
    last.table = Installation.carryOut (program.filterMap (Op.installation? types)) state.table := by
  induction program generalizing state entries with
  | nil =>
      cases ran
      rfl
  | cons op program ih =>
      obtain ⟨entry, next, rest, stepped, remaining, -⟩ := steps_cons_ok_iff.mp ran
      obtain ⟨outcome, performed, -, rfl⟩ := step_ok_iff.mp stepped
      have first := perform_carriesOut (atMost op List.mem_cons_self) performed
      have installed : (op :: program).filterMap (Op.installation? types) =
          (op.installation? types).toList ++ program.filterMap (Op.installation? types) := by
        rw [List.filterMap_cons]
        cases op.installation? types <;> rfl
      rw [installed, Installation.carryOut_append, ← first]
      exact ih (fun later listed => atMost later (List.mem_cons_of_mem _ listed)) remaining

end Machine

/-- The tables for the list are finite maps from its indices, determined by the last installation into
each slot. -/
structure HandlerTable.LastRules (types : List Ty) : Prop where
  length : ∀ installations : List (Installation types),
    (Installation.table installations).length = types.length ∧
      (types.length < 256 → (Installation.table installations).length = (arity types).toNat)
  slots : ∀ installations : List (Installation types),
    Installation.table installations =
      (List.range types.length).map fun slot => Installation.last slot installations
  reordered : ∀ first second : List (Installation types),
    (∀ slot, Installation.into slot first = Installation.into slot second) →
      Installation.table first = Installation.table second
  fits : ∀ installations : List (Installation types), (Installation.table installations).Fits types
  dispatched : ∀ (installations : List (Installation types)) (tag : UInt8) type (value : Stored),
    typeAt? types tag.toNat = some type → value.WellFormed type →
      ∃ datum slot events, value.view type = .ok datum ∧
        (Installation.last tag.toNat installations).run? type datum = some (slot, events) ∧
        (Chain.place tag.toNat value).dispatch types tag (Installation.table installations) =
          .ok (List.set (Installation.table installations) tag.toNat slot, events) ∧
        HandlerTable.Fits (List.set (Installation.table installations) tag.toNat slot) types
  /-- Whatever a program did before it took a fresh table, the table is the one to which the
  installations since then lead. -/
  programmed : ∀ earlier later : List (Op Ty), (∀ op ∈ later, op.installsAtMost = true) →
    ∃ entries, ∃ state : State Tagged,
      Machine.steps .tagged types (earlier ++ .freshTable :: later) (State.initial types) =
        .ok (entries, state) ∧
      state.table = Installation.table (later.filterMap (Op.installation? types))
  /-- In every reachable state each slot accepts the values of its alternative. -/
  reached : ∀ program, ∃ entries, ∃ state : State Tagged,
    Machine.steps .tagged types program (State.initial types) = .ok (entries, state) ∧
      state.table.Fits types

theorem HandlerTable.last_installation_rules (types : List Ty) : LastRules types where
  length installations := by
    rw [Installation.length_table]
    exact ⟨rfl, fun short => (toNat_arity short).symm⟩
  slots := Installation.table_eq_map
  reordered _ _ := Installation.table_congr
  fits _ := Installation.carryOut_fits (fresh_fits types)
  dispatched _ _ _ _ := Installation.dispatch_table
  programmed := by
    intro earlier later atMost
    obtain ⟨entries, state, tagged, plain, -⟩ :=
      Machine.steps_initial types (earlier ++ .freshTable :: later)
    refine ⟨entries, state.stored, tagged, ?_⟩
    obtain ⟨_, middle, _, -, since, -⟩ := Machine.steps_append_ok_iff.mp plain
    obtain ⟨_, _, _, stepped, remaining, -⟩ := Machine.steps_cons_ok_iff.mp since
    obtain ⟨outcome, performed, -, rfl⟩ := Machine.step_ok_iff.mp stepped
    cases performed
    exact Machine.steps_carryOut atMost remaining
  reached := by
    intro program
    obtain ⟨entries, state, tagged, -, typed⟩ := Machine.steps_initial types program
    exact ⟨entries, state.stored, tagged, typed.table⟩

end TaggedUnion
