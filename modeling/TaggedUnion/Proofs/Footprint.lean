import TaggedUnion.Proofs.Echoes
import TaggedUnion.Proofs.Ownership

/-!
# Footprints of operations

An operation reads and changes registers that it names, slots of the handler table and the supply of
identities. Elsewhere it changes nothing, and what it does does not depend on what is elsewhere: from
every state with the same content of its registers and its slots it does the same, up to the new
identities.
-/

set_option autoImplicit false

namespace TaggedUnion

open Registry

/-! ## Running one slot -/

/-- The identities of what a handler remembers. -/
def Handler.ids : Handler → List Nat
  | .recorder _ _ seen => Datum.allIds seen
  | _ => []

namespace Handler

variable {slot slot' : Handler} {type : Ty} {value : Datum} {events : List Event}

/-- A handler remembers what it remembered and at most the value in addition. -/
theorem run?_ids (ran : slot.run? type value = some (slot', events)) :
    ∀ id ∈ slot'.ids, id ∈ slot.ids ∨ id ∈ value.ids := by
  unfold run? at ran
  split at ran
  · cases ran
    exact nofun
  · split at ran <;> cases ran
    exact nofun
  · rename_i seen
    split at ran <;> cases ran
    intro id member
    have together := Datum.allIds_append seen [value]
    rw [Datum.allIds, Datum.allIds, List.append_nil] at together
    rw [ids, together] at member
    exact List.mem_append.mp member

/-- Whatever fixes the identities of the handler and the value fixes those in its events. -/
theorem run?_fixed {name : Nat → Nat} (ran : slot.run? type value = some (slot', events))
    (same : ∀ id ∈ slot.ids, name id = id) (sameValue : ∀ id ∈ value.ids, name id = id) :
    events.map (Event.rename name) = events := by
  unfold run? at ran
  split at ran
  · cases ran
    rfl
  · split at ran <;> cases ran
    simp only [List.map_cons, List.map_nil, Event.rename, value.rename_eq_self sameValue]
  · rename_i seen
    split at ran <;> cases ran
    have before := Datum.renameAll_eq_self seen same
    simp only [List.map_cons, List.map_nil, Event.rename, Datum.renameAll_append, before,
      Datum.renameAll, value.rename_eq_self sameValue]

end Handler

/-- A dispatch runs the slot at the index of the union, and leaves the other slots as they are. -/
theorem Choice.dispatch_ok_iff {union : Choice} {types : List Ty} {table table' : HandlerTable}
    {events : List Event} :
    union.dispatch types table = .ok (table', events) ↔
      ∃ type slot slot', typeAt? types union.index = some type ∧ table[union.index]? = some slot ∧
        slot.run? type union.value = some (slot', events) ∧ table' = table.set union.index slot' := by
  constructor
  · intro dispatched
    unfold dispatch at dispatched
    split at dispatched
    · cases dispatched
    · rename_i type found
      split at dispatched
      · cases dispatched
      · rename_i outcome ran
        cases dispatched
        unfold HandlerTable.runAt? at ran
        split at ran
        · cases ran
        · rename_i slot here
          obtain ⟨⟨slot', logged⟩, run, same⟩ := Option.map_eq_some_iff.mp ran
          cases same
          exact ⟨type, slot, slot', found, here, run, rfl⟩
  · rintro ⟨type, slot, slot', found, here, ran, rfl⟩
    simp only [dispatch, found, HandlerTable.runAt?, here, ran, Option.map_some]

/-! ## Identities that were handed out -/

/-- The ledger only moves on, and its live identities stay below the next free one. -/
theorem Keeps.bounded {live live' : Multiset ℕ} {next next' : ℕ} {log : List Event}
    (keeps : Keeps live next log live' next') (below : ∀ id ∈ live, id < next) :
    next ≤ next' ∧ ∀ id ∈ live', id < next' := by
  induction keeps with
  | nil => exact ⟨Nat.le_refl _, below⟩
  | @cons live _ _ next _ _ _ _ books _ ih =>
      -- Only a birth moves the next free identity on, by the one that is born.
      have born : ∀ id ∈ next ::ₘ live, id < next + 1 := by
        intro id member
        rcases Multiset.mem_cons.mp member with rfl | earlier
        · exact Nat.lt_succ_self _
        · exact Nat.lt_succ_of_lt (below id earlier)
      cases books with
      | created | converted | cloned =>
          obtain ⟨later, bounded⟩ := ih born
          exact ⟨(Nat.le_succ next).trans later, bounded⟩
      | compared | hashed | ran | recorded => exact ih below
      | dropped => exact ih fun id member => below id (Multiset.mem_cons_of_mem member)

/-- All identities in the registers and in the handlers were handed out. -/
structure State.Bounded (state : State Choice) : Prop where
  registers : ∀ id ∈ state.ids, id < state.nextId
  table : ∀ slot ∈ state.table, ∀ id ∈ slot.ids, id < state.nextId

namespace State.Bounded

variable {types : List Ty} {state next : State Choice} {op : Op Ty} {events : List Event}

theorem initial (types : List Ty) : (State.initial types).Bounded where
  registers := by
    rw [Machine.initial_ids]
    exact fun id member => absurd member (Multiset.notMem_zero id)
  table := by
    intro slot listed
    obtain ⟨type, -, rfl⟩ := List.mem_map.mp listed
    exact nofun

theorem union_below (bounded : state.Bounded) {register : Register} {union : Choice}
    (held : state.content register = some union) : ∀ id ∈ union.value.ids, id < state.nextId :=
  fun id member => bounded.registers id (State.mem_ids held member)

theorem filledFrom_ids (start : Nat) (types : List Ty) :
    ∀ slot ∈ HandlerTable.filledFrom start types, slot.ids = [] := by
  induction types generalizing start with
  | nil => exact nofun
  | cons type types ih =>
      intro slot listed
      rcases List.mem_cons.mp listed with rfl | later
      · rfl
      · exact ih (start + 1) slot later

/-- An effect on the handlers leaves no identity there that was not handed out. -/
theorem table_effect (bounded : state.Bounded) (effect : Effect types state op next events) :
    ∀ slot ∈ next.table, ∀ id ∈ slot.ids, id < state.nextId := by
  cases effect with
  | @installed kind target label type index picked =>
      intro slot listed
      dsimp only at listed
      rw [HandlerTable.install_eq_set] at listed
      rcases List.mem_or_eq_of_mem_set listed with old | rfl
      · exact bounded.table slot old
      · cases kind <;> exact nofun
  | @dispatched register union table events held ran =>
      obtain ⟨type, slot, slot', -, here, run, rfl⟩ := Choice.dispatch_ok_iff.mp ran
      intro other listed id member
      rcases List.mem_or_eq_of_mem_set listed with old | rfl
      · exact bounded.table other old id member
      · rcases Handler.run?_ids run id member with before | new
        · exact bounded.table slot (List.mem_of_getElem? here) id before
        · exact bounded.union_below held id new
  | freshened =>
      intro slot listed
      obtain ⟨type, -, rfl⟩ := List.mem_map.mp listed
      exact nofun
  | filled =>
      intro slot listed id member
      rw [filledFrom_ids 0 types slot listed] at member
      cases member
  | _ => exact bounded.table

theorem effect (bounded : state.Bounded) (effect : Effect types state op next events) : next.Bounded := by
  obtain ⟨later, below⟩ := effect.keeps.bounded bounded.registers
  refine ⟨below, fun slot listed id member => ?_⟩
  exact (bounded.table_effect effect slot listed id member).trans_le later

theorem steps (bounded : state.Bounded) {program : List (Op Ty)} {last : State Choice} {entries : List Entry}
    (ran : Machine.steps .plain types program state = .ok (entries, last)) : last.Bounded := by
  induction program generalizing state entries with
  | nil =>
      cases ran
      exact bounded
  | cons op program ih =>
      obtain ⟨entry, next, rest, stepped, remaining, -⟩ := Machine.steps_cons_ok_iff.mp ran
      obtain ⟨outcome, performed, -, rfl⟩ := Machine.step_ok_iff.mp stepped
      exact ih (bounded.effect (Machine.perform_effect types op state outcome performed)) remaining

variable {name : Nat → Nat}

theorem content_fixed (bounded : state.Bounded) (fixed : ∀ id < state.nextId, name id = id)
    (register : Register) : (state.content register).map (Choice.rename name) = state.content register := by
  cases held : state.content register with
  | none => rfl
  | some union =>
      have same : union.value.rename name = union.value :=
        union.value.rename_eq_self fun id member => fixed id (bounded.union_below held id member)
      exact congrArg (some ∘ Choice.mk union.index) same

end State.Bounded

/-! ## Slots of the handler table -/

/-- The operation reads or overwrites the slot. -/
def Op.usesSlot (types : List Ty) (state : State Choice) (slot : Nat) : Op Ty → Prop
  | .install _ target _ => ∃ type, target.find? types = some (type, slot)
  | .dispatch (some register) => ∃ value, state.content register = some ⟨slot, value⟩
  | .freshTable | .fillTable => True
  | _ => False

theorem Op.onHandlers_of_usesSlot {types : List Ty} {state : State Choice} {slot : Nat} {op : Op Ty}
    (uses : op.usesSlot types state slot) : op.onHandlers = true := by
  cases op with
  | install | freshTable | fillTable => rfl
  | dispatch register =>
      cases register with
      | none => cases uses
      | some register => rfl
  | _ => cases uses

theorem Effect.spares_slot {types : List Ty} {state next : State Choice} {op : Op Ty} {events : List Event}
    (effect : Effect types state op next events) {slot : Nat} (unused : ¬ op.usesSlot types state slot) :
    next.table[slot]? = state.table[slot]? := by
  cases effect with
  | @installed kind target label type index picked =>
      have apart : index ≠ slot := fun same => unused ⟨type, same ▸ picked⟩
      dsimp only
      rw [HandlerTable.install_eq_set, List.getElem?_set_ne apart]
  | @dispatched register union table events held ran =>
      have apart : union.index ≠ slot := fun same => unused ⟨union.value, same ▸ held⟩
      obtain ⟨type, slot', next, -, -, -, rfl⟩ := Choice.dispatch_ok_iff.mp ran
      exact List.getElem?_set_ne apart
  | freshened | filled => exact absurd trivial unused
  | _ => rfl

theorem Op.usesSlot_congr {types : List Ty} {state echo : State Choice} {op : Op Ty} {slot : Nat}
    (contents : ∀ register, op.names register = true → echo.content register = state.content register) :
    op.usesSlot types echo slot ↔ op.usesSlot types state slot := by
  cases op with
  | dispatch register =>
      cases register with
      | none => exact Iff.rfl
      | some register =>
          have same := contents register (beq_self_eq_true (some register))
          simp only [usesSlot, same]
  | _ => exact Iff.rfl

/-- Outside of the footprint of the operation the one state is like the other. -/
structure Op.Frames (types : List Ty) (op : Op Ty) (state next : State Choice) : Prop where
  registers : ∀ register, op.names register = false → next.content register = state.content register
  slots : ∀ slot, ¬ op.usesSlot types state slot → next.table[slot]? = state.table[slot]?

/-- An operation changes nothing outside of its footprint. -/
theorem Machine.perform_frames {types : List Ty} {state : State Choice} {op : Op Ty}
    {outcome : Outcome Choice Reply} (performed : perform .plain types op state = .ok outcome) :
    op.Frames types state outcome.state where
  registers register unnamed := by
    have edited : op.edits register = true → ∀ index value union next,
        Storage.plain.set index value union = .ok next → id (some next) = id (some union) := by
      intro edits
      rw [Op.edits_of_not_names unnamed] at edits
      cases edits
    exact perform_spares (Op.replaces_of_not_names unnamed) edited state [] outcome performed
  slots slot := (perform_effect types op state outcome performed).spares_slot

/-! ## What an operation does from an echo -/

/-- On the footprint of the operation the one outcome is the other up to the renaming, and as many
identities were handed out. -/
structure Op.Carries (types : List Ty) (name : Nat → Nat) (op : Op Ty)
    (state reached echo next : State Choice) : Prop where
  registers : ∀ register, op.names register = true →
    next.content register = (reached.content register).map (Choice.rename name)
  slots : ∀ slot, op.usesSlot types state slot → next.table[slot]? = reached.table[slot]?
  count : next.nextId = echo.nextId + (reached.nextId - state.nextId)

namespace Machine

open Procedure

variable {types : List Ty} {name : Nat → Nat} {state echo : State Choice} {op : Op Ty}
  {outcome : Outcome Choice Reply}

theorem perform_dispatch (register : Register) :
    perform .plain types (.dispatch (some register)) state =
      match state.content register with
      | none => .ok ⟨.error .empty, state, []⟩
      | some union =>
        match union.dispatch types state.table with
        | .error fault => .error fault
        | .ok (slots, events) => .ok ⟨.ok .done, { state with table := slots }, events⟩ := by
  cases held : state.content register with
  | none =>
      have read : state.registers[register] = none := held
      simp only [perform, bind_eq_andThen, andThen, operand, orFail, answer, Procedure.content, content?,
        read, fail, List.append_nil]
  | some union =>
      change (operand (some register) >>= _) state = _
      rw [bind_of_quiet rfl, bind_of_quiet (content_occupied held), bind_of_quiet rfl]
      change (orFault (union.dispatch types state.table) >>= _) state = _
      dsimp only
      cases ran : union.dispatch types state.table with
      | error fault => rfl
      | ok dispatched =>
          obtain ⟨slots, events⟩ := dispatched
          rw [bind_of_quiet rfl]
          change (setTable slots >>= _) state = _
          rw [bind_of_quiet rfl]
          change Except.ok (Outcome.mk (.ok Reply.done) { state with table := slots } (events ++ [])) = _
          rw [List.append_nil]

/-- A text for inspection names no new identity. -/
theorem render_quiet {audience : Audience} {named : Option Register} {style : Option Style} :
    (perform .plain types (.render audience named style)).Leads state [] fun answer next events =>
      (∀ name, answer.map (Reply.rename name) = answer) ∧ next = state ∧ events = [] := by
  refine .bind (offered_leads ⟨fun _ => rfl, rfl, rfl⟩ ?_)
  refine .bind (.operand ⟨fun _ => rfl, rfl, rfl⟩ ?_)
  intro register _
  refine .bind (.content ⟨fun _ => rfl, rfl, rfl⟩ ?_)
  intro union _
  refine .bind (.operand ⟨fun _ => rfl, rfl, rfl⟩ ?_)
  intro form _
  refine .bind (.orFault ?_)
  intro text _
  exact .answer ⟨fun _ => rfl, rfl, rfl⟩

theorem perform_carries_apart (apart : op.onHandlers = false) (bounded : state.Bounded)
    (fixed : ∀ id < state.nextId, name id = id)
    (contents : ∀ register, op.names register = true → echo.content register = state.content register)
    (performed : perform .plain types op state = .ok outcome)
    (numbers : Numbers name state.nextId outcome.state.nextId echo.nextId) :
    ∃ next, perform .plain types op echo = .ok ⟨outcome.answer.map (Reply.rename name), next,
        outcome.events.map (Event.rename name)⟩ ∧
      op.Carries types name state outcome.state echo next := by
  have unused : ∀ slot, ¬ op.usesSlot types state slot := by
    intro slot uses
    cases apart.symm.trans (Op.onHandlers_of_usesSlot uses)
  have echoes : State.Echoes name (fun register => op.names register = true) state echo :=
    fun register named => (contents register named).trans (bounded.content_fixed fixed register).symm
  -- A text for inspection shows identities, but only such as were there before: nothing is renamed.
  by_cases inspects : ∃ named style, op = .render .inspection named style
  · obtain ⟨named, style, rfl⟩ := inspects
    obtain ⟨texts, still, quiet⟩ := render_quiet outcome performed
    have same : ∀ register, (state.content register).map (Choice.rename id) = state.content register :=
      bounded.content_fixed fun _ _ => rfl
    have echoes' : State.Echoes id (fun register => (Op.render .inspection named style).names register = true)
        state echo := fun register named => (contents register named).trans (same register).symm
    have numbers' : Numbers id state.nextId outcome.state.nextId echo.nextId := by
      rw [still]
      exact fun offset below => absurd below (by omega)
    obtain ⟨-, echoed⟩ := perform_echoes (fun _ named => named) rfl (fun _ _ _ => rfl) state outcome performed
    obtain ⟨next, ran, reached, counted⟩ := echoed echo echoes' numbers'
    refine ⟨next, ?_, fun register within => ?_, fun slot uses => absurd uses (unused slot), counted⟩
    · have none : outcome.events = [] := quiet
      rw [texts id, none] at ran
      rw [ran, texts name, none]
      rfl
    · rw [reached register within, still, same register, bounded.content_fixed fixed register]
  · have texts : ∀ named style, op = .render .inspection named style → name = id :=
      fun named style same => absurd ⟨named, style, same⟩ inspects
    obtain ⟨-, echoed⟩ := perform_echoes (fun _ named => named) apart texts state outcome performed
    obtain ⟨next, ran, reached, counted⟩ := echoed echo echoes numbers
    exact ⟨next, ran, reached, fun slot uses => absurd uses (unused slot), counted⟩

theorem unchanged_carries (bounded : state.Bounded) (fixed : ∀ id < state.nextId, name id = id)
    (contents : ∀ register, op.names register = true → echo.content register = state.content register)
    {slots slots' : HandlerTable}
    (same : ∀ slot, op.usesSlot types state slot → slots'[slot]? = slots[slot]?) :
    op.Carries types name state { state with table := slots } echo { echo with table := slots' } where
  registers register named := (contents register named).trans (bounded.content_fixed fixed register).symm
  slots := same
  count := by
    change echo.nextId = echo.nextId + (state.nextId - state.nextId)
    rw [Nat.sub_self, Nat.add_zero]

theorem dispatch_carries {register : Register} (bounded : state.Bounded)
    (fixed : ∀ id < state.nextId, name id = id) (contents : echo.content register = state.content register)
    (slots : ∀ slot, (Op.dispatch (some register)).usesSlot types state slot →
      echo.table[slot]? = state.table[slot]?)
    (performed : perform .plain types (.dispatch (some register)) state = .ok outcome) :
    ∃ next, perform .plain types (.dispatch (some register)) echo =
        .ok ⟨outcome.answer.map (Reply.rename name), next, outcome.events.map (Event.rename name)⟩ ∧
      (Op.dispatch (some register)).Carries types name state outcome.state echo next := by
  have named (other : Register) (named : (Op.dispatch (some register) : Op Ty).names other = true) :
      echo.content other = state.content other := by
    cases eq_of_beq named
    exact contents
  rw [perform_dispatch] at performed ⊢
  rw [contents]
  cases held : state.content register with
  | none =>
      rw [held] at performed
      cases performed
      exact ⟨echo, rfl, unchanged_carries bounded fixed named slots⟩
  | some union =>
      rw [held] at performed
      dsimp only at performed ⊢
      split at performed
      · cases performed
      · rename_i table logged dispatched
        cases performed
        obtain ⟨type, slot, slot', found, here, ran, rfl⟩ := Choice.dispatch_ok_iff.mp dispatched
        have here' := (slots union.index ⟨union.value, held⟩).trans here
        have known := List.mem_of_getElem? here
        have events := Handler.run?_fixed ran (fun id member => fixed id (bounded.table slot known id member))
          fun id member => fixed id (bounded.union_below held id member)
        rw [Choice.dispatch_ok_iff.mpr ⟨type, slot, slot', found, here', ran, rfl⟩]
        dsimp only
        rw [events]
        refine ⟨_, rfl, unchanged_carries bounded fixed named fun position uses => ?_⟩
        have there := slots position uses
        obtain ⟨value, held'⟩ := uses
        cases held.symm.trans held'
        rw [List.getElem?_set_self', List.getElem?_set_self', there]

/-- What an operation does from a state it does from every other one with the same content of its
registers and its slots, up to a renaming that counts the new identities along. -/
theorem perform_carries (bounded : state.Bounded) (fixed : ∀ id < state.nextId, name id = id)
    (contents : ∀ register, op.names register = true → echo.content register = state.content register)
    (slots : ∀ slot, op.usesSlot types state slot → echo.table[slot]? = state.table[slot]?)
    (performed : perform .plain types op state = .ok outcome)
    (numbers : Numbers name state.nextId outcome.state.nextId echo.nextId) :
    ∃ next, perform .plain types op echo = .ok ⟨outcome.answer.map (Reply.rename name), next,
        outcome.events.map (Event.rename name)⟩ ∧
      op.Carries types name state outcome.state echo next := by
  cases handlers : op.onHandlers with
  | false => exact perform_carries_apart handlers bounded fixed contents performed numbers
  | true =>
      cases op with
      | install kind target label =>
          rw [perform_install] at performed ⊢
          cases picked : target.find? types with
          | none =>
              rw [picked] at performed
              cases performed
              exact ⟨echo, rfl, unchanged_carries bounded fixed contents slots⟩
          | some selected =>
              obtain ⟨type, index⟩ := selected
              rw [picked] at performed
              cases performed
              refine ⟨_, rfl, unchanged_carries bounded fixed contents fun slot uses => ?_⟩
              have here := slots slot uses
              obtain ⟨type', picked'⟩ := uses
              cases picked.symm.trans picked'
              rw [HandlerTable.install_eq_set, HandlerTable.install_eq_set, List.getElem?_set_self',
                List.getElem?_set_self', here]
      | dispatch register =>
          cases register with
          | none => cases handlers
          | some register =>
              have same := contents register (beq_self_eq_true (some register))
              exact dispatch_carries bounded fixed same slots performed
      | freshTable | fillTable =>
          cases performed
          exact ⟨_, rfl, unchanged_carries bounded fixed contents fun _ _ => rfl⟩
      | _ => cases handlers

end Machine

end TaggedUnion
