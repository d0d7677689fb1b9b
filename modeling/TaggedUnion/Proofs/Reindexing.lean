import TaggedUnion.Proofs.Runs
import TaggedUnion.Proofs.Selection
import TaggedUnion.Proofs.TypedState

/-!
# Alternatives at other places

The alternatives of one list can be found at other places of another list, which may have more of
them. What is over the first list then has a form over the second: a union keeps its value at the
place of its index, a table keeps the handler of each alternative, and what is seen of a run tells
places where it told indices.
-/

set_option autoImplicit false

namespace TaggedUnion

open Registry

/-- `types'` has each alternative of `types` at the place of its index, and no two at one place. -/
structure Reindexing (types' types : List Ty) (place : Nat → Nat) : Prop where
  short : types.length ≤ maxArity → types'.length ≤ maxArity
  found : ∀ {index type}, typeAt? types index = some type → typeAt? types' (place index) = some type
  inj : ∀ {left right}, left < types.length → right < types.length → place left = place right →
    left = right

theorem Reindexing.refl (types : List Ty) : Reindexing types types id where
  short short := short
  found found := found
  inj _ _ same := same

/-! ## What is seen, with places for indices -/

section

variable (place : Nat → Nat)

def reindexTag (tag : UInt8) : UInt8 := tagOf (place tag.toNat)

/-- The union with its value at the place of its index. -/
def Choice.reindex (union : Choice) : Choice := ⟨place union.index, union.value⟩

def Mismatch.reindex (report : Mismatch) : Mismatch :=
  { report with
    requestedIndex := reindexTag place report.requestedIndex
    activeIndex := reindexTag place report.activeIndex }

def Failure.reindex : Failure → Failure
  | .mismatch report => .mismatch (report.reindex place)
  | .panic (.mismatch report) => .panic (.mismatch (report.reindex place))
  | cause => cause

/-- The number that is answered is an index. -/
def Op.tellsIndex : Op Ty → Bool
  | .locate _ | .index _ => true
  | _ => false

/-- A hash begins with the tag; other bytes, values and texts tell no index of the list. -/
def Reply.reindex (op : Op Ty) : Reply → Reply
  | .number count => .number (if op.tellsIndex then place count else count)
  | .bytes (tag :: rest) => .bytes (reindexTag place tag :: rest)
  | .failed cause => .failed (cause.reindex place)
  | reply => reply

def Entry.reindex (op : Op Ty) (entry : Entry) : Entry :=
  ⟨entry.reply.reindex place op, entry.tags.map (Option.map (reindexTag place)), entry.events⟩

/-- Events, those of handlers included, tell no index of the list. -/
def Transcript.reindex (program : List (Op Ty)) (transcript : Transcript) : Transcript :=
  ⟨List.zipWith (Entry.reindex place) program transcript.entries, transcript.final⟩

end

/-! ### Every index at its own place -/

@[simp] theorem reindexTag_id (tag : UInt8) : reindexTag id tag = tag := tagOf_toNat tag

@[simp] theorem Failure.reindex_id (cause : Failure) : cause.reindex id = cause := by
  unfold Failure.reindex
  split <;> simp [Mismatch.reindex]

@[simp] theorem Reply.reindex_id (op : Op Ty) (reply : Reply) : reply.reindex id op = reply := by
  unfold Reply.reindex
  split <;> simp

@[simp] theorem Entry.reindex_id (op : Op Ty) (entry : Entry) : entry.reindex id op = entry := by
  have same : Option.map (reindexTag id) = id := by
    funext tag
    cases tag <;> simp
  simp [Entry.reindex, same]

theorem Entry.zipWith_reindex_id {program : List (Op Ty)} {entries : List Entry}
    (each : entries.length = program.length) :
    List.zipWith (Entry.reindex id) program entries = entries := by
  induction program generalizing entries with
  | nil =>
      cases List.length_eq_zero_iff.mp each
      rfl
  | cons op program ih =>
      cases entries with
      | nil => cases each
      | cons entry entries =>
          rw [List.zipWith_cons_cons, Entry.reindex_id, ih (Nat.succ.inj each)]

theorem Transcript.reindex_id {program : List (Op Ty)} {transcript : Transcript}
    (each : transcript.entries.length = program.length) : transcript.reindex id program = transcript := by
  rw [Transcript.reindex, Entry.zipWith_reindex_id each]

/-! ## Unions -/

variable {types' types : List Ty} {place : Nat → Nat}

theorem reindexTag_tagOf (place : Nat → Nat) {index : Nat} (short : index < 256) :
    reindexTag place (tagOf index) = tagOf (place index) := by
  rw [reindexTag, toNat_tagOf short]

theorem Choice.Typed.hash_reindex {union : Choice} (typed : union.Typed types) :
    (union.reindex place).hash =
      ⟨reindexTag place (tagOf union.index) :: union.value.hashBytes, union.value.hashes⟩ := by
  obtain ⟨_, short, found, -⟩ := typed.found
  rw [reindexTag_tagOf place (typeAt?_short short found)]
  rfl

namespace Reindexing

variable (moving : Reindexing types' types place) {union : Choice}

include moving

theorem typed (typed : union.Typed types) : (union.reindex place).Typed types' := by
  obtain ⟨type, short, found, valueTyped⟩ := typed.found
  exact Choice.typed_of (moving.short short) (moving.found found) valueTyped

theorem place_inj {left right : Nat} {type type' : Ty} (found : typeAt? types left = some type)
    (found' : typeAt? types right = some type') : place left = place right ↔ left = right :=
  ⟨moving.inj (typeAt?_lt found) (typeAt?_lt found'), congrArg place⟩

theorem tagOf_place_inj (short : types.length ≤ maxArity) {left right : Nat} {type type' : Ty}
    (found : typeAt? types left = some type) (found' : typeAt? types right = some type') :
    tagOf (place left) = tagOf (place right) ↔ tagOf left = tagOf right := by
  have longShort := moving.short short
  rw [tagOf_inj (typeAt?_short longShort (moving.found found))
    (typeAt?_short longShort (moving.found found')), moving.place_inj found found',
    tagOf_inj (typeAt?_short short found) (typeAt?_short short found')]

theorem compare {other : Choice} (typed : union.Typed types) (typed' : other.Typed types) :
    (union.reindex place).compare (other.reindex place) = union.compare other := by
  obtain ⟨_, -, found, -⟩ := typed.found
  obtain ⟨_, -, found', -⟩ := typed'.found
  simp only [Choice.compare, Choice.reindex, moving.place_inj found found']

theorem name (typed : union.Typed types) :
    ∃ name, nameAt types' (union.reindex place).stored.tag = .ok name ∧ union.name types = .ok name := by
  obtain ⟨type, short, found, -⟩ := typed.found
  have found' := moving.found found
  refine ⟨type.qualifiedName, nameAt_tagOf found' (typeAt?_short (moving.short short) found'), ?_⟩
  simp only [Choice.name, found]

end Reindexing

/-! ## Handler tables -/

/-- The first table has the handler of each alternative at the place of its index. -/
structure HandlerTable.Moved (types' types : List Ty) (place : Nat → Nat)
    (table' table : HandlerTable) : Prop where
  fits' : table'.Fits types'
  fits : table.Fits types
  slots : ∀ {index type}, typeAt? types index = some type → table'[place index]? = table[index]?

namespace Reindexing

variable (moving : Reindexing types' types place) {table' table : HandlerTable}

include moving

theorem fresh : HandlerTable.Moved types' types place (.fresh types') (.fresh types) where
  fits' := HandlerTable.fresh_fits types'
  fits := HandlerTable.fresh_fits types
  slots found := by
    rw [HandlerTable.fresh_slot found, HandlerTable.fresh_slot (moving.found found)]

theorem filled (stays : ∀ index < types.length, place index = index) :
    HandlerTable.Moved types' types place (.filled types') (.filled types) where
  fits' := HandlerTable.filledFrom_fits 0 types'
  fits := HandlerTable.filledFrom_fits 0 types
  slots {index type} found := by
    have found' := moving.found found
    -- The label of a handler tells its slot, so that each alternative has to stay in its place.
    rw [stays index (typeAt?_lt found)] at found' ⊢
    rw [HandlerTable.filled, HandlerTable.filled, HandlerTable.filledFrom_slot found,
      HandlerTable.filledFrom_slot found']

variable {index : Nat} {type : Ty}

theorem setSlot (moved : HandlerTable.Moved types' types place table' table)
    (found : typeAt? types index = some type) {handler : Handler} (accepts : handler.Accepts type) :
    HandlerTable.Moved types' types place (List.set table' (place index) handler)
      (List.set table index handler) where
  fits' := moved.fits'.set (moving.found found) accepts
  fits := moved.fits.set found accepts
  slots {other type'} found' := by
    by_cases here : index = other
    · subst here
      have inside : index < table.length := moved.fits.length_eq ▸ typeAt?_lt found
      have inside' : place index < table'.length :=
        moved.fits'.length_eq ▸ typeAt?_lt (moving.found found)
      rw [List.getElem?_set_self inside, List.getElem?_set_self inside']
    · -- Two alternatives that are apart stay so, and the slot of the other one is kept.
      have apart : place index ≠ place other :=
        fun same => here ((moving.place_inj found found').mp same)
      rw [List.getElem?_set_ne here, List.getElem?_set_ne apart, moved.slots found']

theorem install (moved : HandlerTable.Moved types' types place table' table)
    (found : typeAt? types index = some type) (kind : HandlerKind) (label : String) :
    HandlerTable.Moved types' types place
      (HandlerTable.install (.install kind type label) (place index) table')
      (HandlerTable.install (.install kind type label) index table) := by
  rw [HandlerTable.install_eq_set, HandlerTable.install_eq_set]
  exact moving.setSlot moved found (Handler.install_accepts kind type label)

theorem dispatch {union : Choice} (typed : union.Typed types)
    (moved : HandlerTable.Moved types' types place table' table) :
    ∃ next' next events,
      Tagged.dispatch types' table' (union.reindex place).stored = .ok (next', events) ∧
        union.dispatch types table = .ok (next, events) ∧
          HandlerTable.Moved types' types place next' next := by
  obtain ⟨type, short, found, valueTyped⟩ := typed.found
  obtain ⟨slot, held, accepts⟩ := moved.fits.slot found
  obtain ⟨slot', events, ran, accepts'⟩ := Handler.run?_accepts accepts union.value
  have found' := moving.found found
  refine ⟨_, _, events, ?_, ?_, moving.setSlot moved found accepts'⟩
  · have dispatched := Chain.dispatch_place found' (typeAt?_short (moving.short short) found')
      (Stored.ofDatum union.value) moved.fits'.length_eq ((moved.slots found).trans held)
    rw [Stored.view_ofDatum valueTyped, Fault.ok_bind, ran] at dispatched
    exact dispatched
  · simp only [Choice.dispatch, found, HandlerTable.runAt?, held, ran, Option.map_some]

end Reindexing

/-! ## States -/

/-- The first state holds, in tagged storage and at the places of their indices, the unions of the
second, which are typed. -/
structure State.Moved (types' types : List Ty) (place : Nat → Nat) (tagged : State Tagged)
    (plain : State Choice) : Prop where
  registers : tagged.registers = plain.registers.map (Option.map fun union => (union.reindex place).stored)
  nextId : tagged.nextId = plain.nextId
  typed : ∀ register union, plain.content register = some union → union.Typed types
  table : tagged.table.Moved types' types place plain.table

namespace State.Moved

variable {tagged : State Tagged} {plain : State Choice}

theorem initial (moving : Reindexing types' types place) :
    State.Moved types' types place (State.initial types') (State.initial types) where
  registers := by simp [State.initial]
  nextId := rfl
  typed := (State.initial_typed types).registers
  table := moving.fresh

theorem stateTyped (moved : State.Moved types' types place tagged plain) : plain.Typed types :=
  ⟨moved.typed, moved.table.fits⟩

theorem content (moved : State.Moved types' types place tagged plain) (register : Register) :
    tagged.content register =
      (plain.content register).map fun union => (union.reindex place).stored := by
  rw [State.content, moved.registers]
  exact Vector.getElem_map _ register.isLt

theorem put (moved : State.Moved types' types place tagged plain) (register : Register)
    {held : Option Choice} (heldTyped : ∀ union, held = some union → union.Typed types) :
    State.Moved types' types place
      (tagged.put register (held.map fun union => (union.reindex place).stored))
      (plain.put register held) where
  registers := by simp only [State.put, moved.registers, Vector.map_set]
  nextId := moved.nextId
  typed := (moved.stateTyped.put register heldTyped).registers
  table := moved.table

theorem tags (moved : State.Moved types' types place tagged plain) :
    Machine.tags .tagged tagged = (Machine.tags .plain plain).map (Option.map (reindexTag place)) := by
  unfold Machine.tags
  rw [moved.registers, Vector.toList_map, List.map_map, List.map_map]
  apply List.map_congr_left
  intro held member
  cases held with
  | none => rfl
  | some union =>
      obtain ⟨_, short, found, -⟩ := (moved.stateTyped.contents union member).found
      exact congrArg some (reindexTag_tagOf place (typeAt?_short short found)).symm

/-- At their own places, the unions of a state are those of its stored form. -/
theorem id_iff : State.Moved types types id tagged plain ↔ tagged = plain.stored ∧ plain.Typed types := by
  constructor
  · intro moved
    obtain ⟨registers, table, nextId⟩ := tagged
    obtain ⟨rfl⟩ : registers = _ := moved.registers
    obtain ⟨rfl⟩ : nextId = _ := moved.nextId
    obtain ⟨rfl⟩ : table = plain.table := moved.table.fits'.ext moved.table.fits moved.table.slots
    exact ⟨rfl, moved.stateTyped⟩
  · rintro ⟨rfl, typed⟩
    exact ⟨rfl, rfl, typed.registers, typed.table, typed.table, fun _ => rfl⟩

end State.Moved

end TaggedUnion
