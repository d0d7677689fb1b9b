import TaggedUnion.Proofs.Footprint
import TaggedUnion.Proofs.Untracked

/-!
# Independent operations commute

Two operations on different registers can be carried out in either order, if not both use the handler
table, or if they use different slots of it. Each answers and logs the same in both orders, and both
orders lead to the same state, up to a renaming that exchanges the identities that the one and the
other hand out.
-/

set_option autoImplicit false

namespace TaggedUnion

open Registry

/-! ## Exchanging two blocks of identities -/

/-- The identity after the block of `count` identities from the first on and the block of `count'`
that follows it have been exchanged. -/
def exchanged (first count count' id : Nat) : Nat :=
  if id < first then id
  else if id < first + count then id + count'
  else if id < first + count + count' then id - count
  else id

theorem exchanged_exchanged (first count count' id : Nat) :
    exchanged first count' count (exchanged first count count' id) = id := by
  unfold exchanged
  split_ifs <;> omega

/-- Exchanges two blocks of identities that follow each other. -/
def exchange (first count count' : Nat) : Equiv.Perm Nat where
  toFun := exchanged first count count'
  invFun := exchanged first count' count
  left_inv := exchanged_exchanged first count count'
  right_inv := exchanged_exchanged first count' count

theorem exchange_below {first count count' id : Nat} (below : id < first) :
    exchange first count count' id = id := if_pos below

theorem exchange_numbers (first count count' : Nat) :
    Numbers (exchange first count count') first (first + count) (first + count') := by
  intro offset within
  change exchanged first count count' (first + offset) = first + count' + offset
  unfold exchanged
  split_ifs <;> omega

theorem exchange_comp (first count count' : Nat) :
    (exchange first count count' : Nat → Nat) ∘ exchange first count' count = id :=
  funext fun id => exchanged_exchanged first count' count id

theorem exchange_zero (first : Nat) : exchange first 0 0 = Equiv.refl Nat := by
  apply Equiv.ext
  intro id
  change exchanged first 0 0 id = id
  unfold exchanged
  split_ifs <;> omega

/-! ## Renamed states -/

def Handler.rename (name : Nat → Nat) : Handler → Handler
  | .recorder accepts label seen => .recorder accepts label (Datum.renameAll name seen)
  | slot => slot

/-- The state with other identities in its registers and in its handlers. -/
def State.rename (name : Nat → Nat) (state : State Choice) : State Choice :=
  ⟨state.registers.map (Option.map (Choice.rename name)), state.table.map (Handler.rename name),
    state.nextId⟩

variable {name : Nat → Nat}

theorem Handler.rename_eq_self {slot : Handler} (same : ∀ id ∈ slot.ids, name id = id) :
    slot.rename name = slot := by
  cases slot with
  | recorder accepts label seen =>
      exact congrArg (Handler.recorder accepts label) (Datum.renameAll_eq_self seen same)
  | _ => rfl

theorem HandlerTable.rename_eq_self {table : HandlerTable}
    (same : ∀ slot ∈ table, ∀ id ∈ slot.ids, name id = id) : table.map (Handler.rename name) = table :=
  (List.map_congr_left fun slot listed => Handler.rename_eq_self (same slot listed)).trans (List.map_id table)

theorem State.content_rename (state : State Choice) (register : Register) :
    (state.rename name).content register = (state.content register).map (Choice.rename name) :=
  Vector.getElem_map ..

theorem State.ext_content {Held : Type} {state other : State Held}
    (contents : ∀ register, state.content register = other.content register)
    (tables : state.table = other.table) (counts : state.nextId = other.nextId) : state = other := by
  cases state
  cases other
  cases tables
  cases counts
  congr 1
  exact Vector.ext fun index below => contents ⟨index, below⟩

/-! ### One renaming after another -/

theorem Datum.rename_id (value : Datum) : value.rename id = value := value.rename_eq_self fun _ _ => rfl

theorem Datum.renameAll_id (items : List Datum) : renameAll id items = items :=
  renameAll_eq_self items fun _ _ => rfl

theorem Choice.rename_id : Choice.rename id = id :=
  funext fun union => congrArg (Choice.mk union.index) union.value.rename_id

theorem Handler.rename_id : Handler.rename id = id :=
  funext fun _ => rename_eq_self fun _ _ => rfl

theorem Event.rename_id : Event.rename id = id := by
  funext event
  cases event <;> simp only [rename, Datum.rename_id, Datum.renameAll_id, id]

theorem Reply.rename_id (reply : Reply) : reply.rename id = reply := by
  cases reply with
  | value found | ok found => simp only [rename, Datum.rename_id]
  | optional found => cases found <;> simp only [rename, Option.map_none, Option.map_some, Datum.rename_id]
  | _ => rfl

theorem State.rename_id (state : State Choice) : state.rename id = state := by
  rw [rename, Choice.rename_id, Handler.rename_id, Option.map_id, Vector.map_id, List.map_id]

variable {name' : Nat → Nat}

theorem Choice.rename_comp : Choice.rename name' ∘ Choice.rename name = Choice.rename (name' ∘ name) :=
  funext fun union => congrArg (Choice.mk union.index) (union.value.rename_rename name')

theorem Event.rename_comp : Event.rename name' ∘ Event.rename name = Event.rename (name' ∘ name) := by
  funext event
  cases event <;>
    simp only [Function.comp_apply, rename, Datum.rename_rename, Datum.renameAll_renameAll]

theorem Reply.rename_rename (reply : Reply) :
    (reply.rename name).rename name' = reply.rename (name' ∘ name) := by
  cases reply with
  | value found | ok found => simp only [rename, Datum.rename_rename]
  | optional found =>
      cases found <;> simp only [rename, Option.map_none, Option.map_some, Datum.rename_rename]
  | _ => rfl

/-! ## Two orders -/

namespace Op

/-- The operations name no register together, and they use no slot of the table together. -/
structure Disjoint (types : List Ty) (state : State Choice) (first second : Op Ty) : Prop where
  registers : ∀ register, first.names register = false ∨ second.names register = false
  slots : ∀ slot, ¬ first.usesSlot types state slot ∨ ¬ second.usesSlot types state slot

/-- The operation was carried out after another one: on its footprint this led to what it leads to
from the state, up to the renaming, and elsewhere to what the other one led to. -/
structure After (types : List Ty) (name : Nat → Nat) (op : Op Ty)
    (state alone before last : State Choice) : Prop where
  carries : op.Carries types name state alone before last
  frames : op.Frames types before last

variable {types : List Ty} {state reached reached' last last' : State Choice} {first second : Op Ty}

namespace Disjoint

theorem symm (disjoint : Disjoint types state first second) : Disjoint types state second first where
  registers register := (disjoint.registers register).symm
  slots slot := (disjoint.slots slot).symm

variable (disjoint : Disjoint types state first second) (frames : first.Frames types state reached)
  (frames' : second.Frames types state reached')

include disjoint frames

/-- What the first operation leaves behind is on the footprint of the second what was there. -/
theorem contents (register : Register) (named : second.names register = true) :
    reached.content register = state.content register := by
  apply frames.registers register
  rcases disjoint.registers register with unnamed | unnamed
  · exact unnamed
  · cases named.symm.trans unnamed

theorem slot (slot : Nat) (uses : second.usesSlot types state slot) :
    reached.table[slot]? = state.table[slot]? :=
  frames.slots slot ((disjoint.slots slot).resolve_right (not_not_intro uses))

theorem usesSlot_reached (slot : Nat) :
    second.usesSlot types reached slot ↔ second.usesSlot types state slot :=
  usesSlot_congr (disjoint.contents frames)

include frames'

variable (after : After types name second state reached' reached last)
  {name' : Nat → Nat} (after' : After types name' first state reached reached' last')

include after after'

theorem content_meet (bounded : state.Bounded) (fixed : ∀ id < state.nextId, name' id = id)
    (undone : name' ∘ name = id) (register : Register) :
    last'.content register = (last.content register).map (Choice.rename name') := by
  -- A register belongs to the second operation, to the first, or to neither.
  cases named : second.names register with
  | true =>
      have unnamed := (disjoint.registers register).resolve_right (by rw [named]; exact nofun)
      rw [after'.frames.registers register unnamed, after.carries.registers register named,
        Option.map_map, Choice.rename_comp, undone, Choice.rename_id, Option.map_id, id]
  | false =>
      rw [after.frames.registers register named]
      cases named' : first.names register with
      | true => exact after'.carries.registers register named'
      | false =>
          rw [after'.frames.registers register named', frames'.registers register named,
            frames.registers register named', bounded.content_fixed fixed]

theorem slot_meet (slot : Nat) : last'.table[slot]? = last.table[slot]? ∧
    (last.table[slot]? = reached.table[slot]? ∨ last.table[slot]? = reached'.table[slot]?) := by
  have uses := disjoint.usesSlot_reached frames slot
  have uses' := disjoint.symm.usesSlot_reached frames' slot
  by_cases used : second.usesSlot types state slot
  · have unused := (disjoint.slots slot).resolve_right (not_not_intro used)
    have own := after.carries.slots slot used
    exact ⟨(after'.frames.slots slot (uses'.not.mpr unused)).trans own.symm, .inr own⟩
  · have kept := after.frames.slots slot (uses.not.mpr used)
    refine ⟨?_, .inl kept⟩
    by_cases used' : first.usesSlot types state slot
    · rw [after'.carries.slots slot used', kept]
    · rw [after'.frames.slots slot (uses'.not.mpr used'), kept, frames.slots slot used',
        frames'.slots slot used]

end Disjoint

end Op

namespace Machine

variable {types : List Ty} {state : State Choice} {first second : Op Ty}
  {outcome outcome' : Outcome Choice Reply}

theorem perform_after (disjoint : Op.Disjoint types state first second) (bounded : state.Bounded)
    (fixed : ∀ id < state.nextId, name id = id)
    (performed : perform .plain types first state = .ok outcome)
    (performed' : perform .plain types second state = .ok outcome')
    (numbers : Numbers name state.nextId outcome'.state.nextId outcome.state.nextId) :
    ∃ last, perform .plain types second outcome.state = .ok ⟨outcome'.answer.map (Reply.rename name), last,
        outcome'.events.map (Event.rename name)⟩ ∧
      second.After types name state outcome'.state outcome.state last := by
  have frames := perform_frames performed
  obtain ⟨last, ran, carries⟩ := perform_carries bounded fixed (disjoint.contents frames)
    (disjoint.slot frames) performed' numbers
  exact ⟨last, ran, carries, perform_frames ran⟩

theorem perform_counts (bounded : state.Bounded)
    (performed : perform .plain types first state = .ok outcome) :
    ∃ count, outcome.state.nextId = state.nextId + count := by
  have effect := perform_effect types first state outcome performed
  exact Nat.exists_eq_add_of_le (effect.keeps.bounded bounded.registers).1

/-- Operations with disjoint footprints can be carried out in either order, up to the exchange of the
identities that the one and the other hand out. It leaves the table as it is. -/
theorem perform_commute (disjoint : Op.Disjoint types state first second) (bounded : state.Bounded)
    (performed : perform .plain types first state = .ok outcome)
    (performed' : perform .plain types second state = .ok outcome') {count count' : Nat}
    (counted : outcome.state.nextId = state.nextId + count)
    (counted' : outcome'.state.nextId = state.nextId + count') :
    ∃ last : State Choice,
      perform .plain types second outcome.state =
        .ok ⟨outcome'.answer.map (Reply.rename (exchange state.nextId count' count)), last,
          outcome'.events.map (Event.rename (exchange state.nextId count' count))⟩ ∧
      perform .plain types first outcome'.state =
        .ok ⟨outcome.answer.map (Reply.rename (exchange state.nextId count count')),
          last.rename (exchange state.nextId count count'),
          outcome.events.map (Event.rename (exchange state.nextId count count'))⟩ ∧
      (last.rename (exchange state.nextId count count')).table = last.table := by
  have fixed (count count' : Nat) : ∀ id < state.nextId, exchange state.nextId count count' id = id :=
    fun id below => exchange_below below
  have numbers := exchange_numbers state.nextId count count'
  have numbers' := exchange_numbers state.nextId count' count
  rw [← counted, ← counted'] at numbers numbers'
  obtain ⟨last, ran, after⟩ :=
    perform_after disjoint bounded (fixed count' count) performed performed' numbers'
  obtain ⟨last', ran', after'⟩ :=
    perform_after disjoint.symm bounded (fixed count count') performed' performed numbers
  have frames := perform_frames performed
  have frames' := perform_frames performed'
  have meet := disjoint.slot_meet frames frames' after after'
  have kept : last.table.map (Handler.rename (exchange state.nextId count count')) = last.table := by
    have known := bounded.table_effect (perform_effect types first state outcome performed)
    have known' := bounded.table_effect (perform_effect types second state outcome' performed')
    apply HandlerTable.rename_eq_self
    intro slot listed id member
    obtain ⟨position, here⟩ := List.mem_iff_getElem?.mp listed
    apply fixed
    rcases (meet position).2 with same | same
    · exact known slot (List.mem_of_getElem? (same.symm.trans here)) id member
    · exact known' slot (List.mem_of_getElem? (same.symm.trans here)) id member
  have same : last' = last.rename (exchange state.nextId count count') := by
    apply State.ext_content
    · intro register
      rw [State.content_rename]
      exact disjoint.content_meet frames frames' after after' bounded (fixed count count')
        (exchange_comp state.nextId count count') register
    · exact (List.ext_getElem? fun slot => (meet slot).1).trans kept.symm
    · have counts := after.carries.count
      have counts' := after'.carries.count
      change last'.nextId = last.nextId
      omega
  exact ⟨last, ran, same ▸ ran', kept⟩

end Machine

/-! ## Steps in two orders -/

/-- The operations do not meet in the handler table: one of them is not on handlers, or both dispatch
unions with different active alternatives, or both install into different slots. -/
inductive Op.TableApart (types : List Ty) (state : State Tagged) : Op Ty → Op Ty → Prop where
  | first {first second : Op Ty} : first.onHandlers = false → TableApart types state first second
  | second {first second : Op Ty} : second.onHandlers = false → TableApart types state first second
  | dispatches {register register' : Register} {union union' : Tagged} :
      state.content register = some union → state.content register' = some union' →
      union.tag ≠ union'.tag →
      TableApart types state (.dispatch (some register)) (.dispatch (some register'))
  | installs {kind kind' : HandlerKind} {target target' : Selector Ty} {label label' : String}
      {type type' : Ty} {index index' : Nat} :
      target.find? types = some (type, index) → target'.find? types = some (type', index') →
      index ≠ index' →
      TableApart types state (.install kind target label) (.install kind' target' label')

theorem Op.TableApart.slots {types : List Ty} {state : State Choice} {first second : Op Ty}
    (apart : TableApart types state.stored first second) (slot : Nat) :
    ¬ first.usesSlot types state slot ∨ ¬ second.usesSlot types state slot := by
  rw [← not_and_or]
  rintro ⟨uses, uses'⟩
  cases apart with
  | first other => cases other.symm.trans (onHandlers_of_usesSlot uses)
  | second other => cases other.symm.trans (onHandlers_of_usesSlot uses')
  | dispatches held held' different =>
      obtain ⟨value, here⟩ := uses
      obtain ⟨value', here'⟩ := uses'
      rw [State.content_stored, here] at held
      rw [State.content_stored, here'] at held'
      cases held
      cases held'
      exact different rfl
  | installs picked picked' different =>
      obtain ⟨type, here⟩ := uses
      obtain ⟨type', here'⟩ := uses'
      cases picked.symm.trans here
      cases picked'.symm.trans here'
      exact different rfl

namespace Entry

/-- The other entry shows the same reply and the same events, renamed. -/
structure Renamed (name : Nat → Nat) (entry other : Entry) : Prop where
  reply : other.reply = entry.reply.rename name
  events : other.events = entry.events.map (Event.rename name)

/-- The entries show the same reply and the same events. -/
structure Same (entry other : Entry) : Prop where
  reply : other.reply = entry.reply
  events : other.events = entry.events

variable {entry other : Entry}

theorem Renamed.undo {name' : Nat → Nat} (renamed : entry.Renamed name other)
    (undone : name' ∘ name = id) : other.Renamed name' entry where
  reply := by rw [renamed.reply, Reply.rename_rename, undone, Reply.rename_id]
  events := by rw [renamed.events, List.map_map, Event.rename_comp, undone, Event.rename_id, List.map_id]

theorem Renamed.same (renamed : entry.Renamed id other) : entry.Same other where
  reply := by rw [renamed.reply, Reply.rename_id]
  events := by rw [renamed.events, Event.rename_id, List.map_id]

end Entry

namespace Machine

variable {types : List Ty}

theorem two_steps {state : State Choice} (typed : state.Typed types) {first second : Op Ty}
    {outcome outcome' : Outcome Choice Reply} (performed : perform .plain types first state = .ok outcome)
    (performed' : perform .plain types second outcome.state = .ok outcome') :
    steps .tagged types [first, second] state.stored =
      .ok ([entryOf .plain outcome, entryOf .plain outcome'], outcome'.state.stored) := by
  obtain ⟨_, ran, stepped, -, nextTyped, -⟩ := step_stored typed first
  cases performed.symm.trans ran
  obtain ⟨_, ran', stepped', -⟩ := step_stored nextTyped second
  cases performed'.symm.trans ran'
  exact steps_cons_ok_iff.mpr ⟨_, _, _, stepped, steps_cons_ok_iff.mpr ⟨_, _, _, stepped', rfl, rfl⟩, rfl⟩

theorem entryOf_renamed (outcome : Outcome Choice Reply) (name : Nat → Nat) (last : State Choice) :
    (entryOf .plain outcome).Renamed name
      (entryOf .plain ⟨outcome.answer.map (Reply.rename name), last,
        outcome.events.map (Event.rename name)⟩) where
  reply := by
    unfold entryOf Outcome.reply
    cases outcome.answer with
    | error cause => rfl
    | ok reply => rfl
  events := rfl

/-- Independent operations commute. After any program, two operations that name no register together
and do not meet in the handler table can be carried out in either order. Both orders lead to the same
state, and in both each of the two answers and logs the same, up to a renaming of the identities that
the two hand out. The table is the same, and over a list without tracked leaves everything is. -/
theorem independent_commute (types : List Ty) (program : List (Op Ty)) :
    ∃ entries, ∃ state : State Choice,
      steps .tagged types program (State.initial types) = .ok (entries, state.stored) ∧
      ∀ first second : Op Ty,
        (∀ register, first.names register = false ∨ second.names register = false) →
        first.TableApart types state.stored second →
        ∃ (name : Equiv.Perm ℕ) (last last' : State Choice) (entry entry' other other' : Entry),
          steps .tagged types [first, second] state.stored = .ok ([entry, other], last.stored) ∧
          steps .tagged types [second, first] state.stored = .ok ([other', entry'], last'.stored) ∧
          (∀ id < state.nextId, name id = id) ∧ last' = last.rename name ∧ last'.table = last.table ∧
          entry.Renamed name entry' ∧ other.Renamed name other' ∧
          (Ty.allUntracked types = true → last' = last ∧ entry.Same entry' ∧ other.Same other') := by
  obtain ⟨entries, state, tagged, plain, typed⟩ := steps_initial types program
  have bounded := (State.Bounded.initial types).steps plain
  refine ⟨entries, state, tagged, fun first second registers apart => ?_⟩
  have disjoint : Op.Disjoint types state first second := ⟨registers, apart.slots⟩
  obtain ⟨outcome, performed, -⟩ := step_stored typed first
  obtain ⟨outcome', performed', -⟩ := step_stored typed second
  obtain ⟨count, counted⟩ := perform_counts bounded performed
  obtain ⟨count', counted'⟩ := perform_counts bounded performed'
  obtain ⟨last, ran, ran', kept⟩ := perform_commute disjoint bounded performed performed' counted counted'
  have comp := exchange_comp state.nextId count count'
  have renamed := entryOf_renamed outcome (exchange state.nextId count count')
    (last.rename (exchange state.nextId count count'))
  have renamed' := (entryOf_renamed outcome' (exchange state.nextId count' count) last).undo comp
  refine ⟨exchange state.nextId count count', last, _, _, _, _, _, two_steps typed performed ran,
    two_steps typed performed' ran', fun id below => exchange_below below, rfl, kept, renamed, renamed',
    fun untracked => ?_⟩
  -- Nothing is handed out, so the exchange renames nothing.
  have none := perform_nextId untracked typed performed
  have none' := perform_nextId untracked typed performed'
  obtain rfl : count = 0 := by omega
  obtain rfl : count' = 0 := by omega
  have unchanged : (exchange state.nextId 0 0 : Nat → Nat) = id := by
    rw [exchange_zero]
    rfl
  rw [unchanged] at renamed renamed' ⊢
  exact ⟨last.rename_id, renamed.same, renamed'.same⟩

end Machine

end TaggedUnion
