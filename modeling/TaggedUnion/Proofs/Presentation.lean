import TaggedUnion.Proofs.Equality
import TaggedUnion.Proofs.MissedAccess

/-!
# What an occupied register presents

A register holds a plain union if its tag and its chain are the stored form of the union. Then the
union alone decides what every operation on the register shows: what it answers, what it logs and
to which state it leads. All accesses that pick the active alternative find its value, and all
others miss it.
-/

set_option autoImplicit false

namespace TaggedUnion

open Registry

/-- The register holds the stored form of the union. -/
structure State.Holds (types : List Ty) (state : State Tagged) (register : Register) (union : Choice) :
    Prop where
  typed : union.Typed types
  content : state.content register = some union.stored

/-- The states have the same table, and the same content in every register but the one. -/
structure State.AgreesBut {Held : Type} (register : Register) (state next : State Held) : Prop where
  others : ∀ other, register ≠ other → next.content other = state.content other
  table : next.table = state.table

namespace State

theorem agreesBut_put {Held : Type} (state : State Held) (register : Register) (held : Option Held)
    (nextId : Nat) : state.AgreesBut register { state.put register held with nextId := nextId } :=
  ⟨fun _ apart => state.content_put_of_ne apart, rfl⟩

theorem AgreesBut.between {Held : Type} {state first second : State Held} {register : Register}
    (agreesFirst : state.AgreesBut register first) (agreesSecond : state.AgreesBut register second) :
    first.AgreesBut register second where
  others other apart := (agreesSecond.others other apart).trans (agreesFirst.others other apart).symm
  table := agreesSecond.table.trans agreesFirst.table.symm

theorem put_put {Held : Type} (state : State Held) (register : Register) (held held' : Option Held) :
    (state.put register held).put register held' = state.put register held' := by
  cases register
  simp only [put, Vector.set_set]

theorem AgreesBut.stored {state next : State Choice} {register : Register}
    (agrees : state.AgreesBut register next) : state.stored.AgreesBut register next.stored where
  others other apart := by rw [next.content_stored, state.content_stored, agrees.others other apart]
  table := agrees.table

variable {types : List Ty} {state : State Tagged} {register : Register} {union other : Choice}

theorem Holds.unique (holds : state.Holds types register union)
    (holdsOther : state.Holds types register other) : union = other := by
  have same : union.stored = other.stored :=
    Option.some.inj (holds.content.symm.trans holdsOther.content)
  obtain ⟨viewed, counted⟩ := holds.typed.view_stored
  obtain ⟨viewedOther, countedOther⟩ := holdsOther.typed.view_stored
  rw [same] at viewed counted
  have sameIndex : union.index = other.index := counted.symm.trans countedOther
  have sameValue : union.value = other.value := Except.ok.inj (viewed.symm.trans viewedOther)
  cases union
  cases sameIndex
  cases sameValue
  rfl

variable {state : State Choice}

theorem exists_held {stored : Tagged} (held : state.stored.content register = some stored) :
    ∃ union, state.content register = some union ∧ union.stored = stored := by
  rw [state.content_stored] at held
  exact Option.map_eq_some_iff.mp held

theorem held_stored (held : state.content register = some union) :
    state.stored.content register = some union.stored := by
  rw [state.content_stored, held]
  rfl

theorem Typed.with_nextId (typed : state.Typed types) (nextId : Nat) :
    State.Typed types { state with nextId := nextId } :=
  ⟨typed.registers, typed.table⟩

theorem Typed.holds_iff (typed : state.Typed types) :
    state.stored.Holds types register union ↔ state.content register = some union := by
  have holds_of {union : Choice} (held : state.content register = some union) :
      state.stored.Holds types register union :=
    ⟨typed.registers register union held, by rw [state.content_stored, held]; rfl⟩
  constructor
  · intro holds
    obtain ⟨choice, held, -⟩ := exists_held holds.content
    rw [held, (holds_of held).unique holds]
  · exact holds_of

theorem put_with_stored (state : State Choice) (register : Register) (held : Option Choice)
    (nextId : Nat) :
    State.stored { state.put register held with nextId := nextId } =
      { state.stored.put register (held.map Choice.stored) with nextId := nextId } :=
  congrArg (fun next : State Tagged => { next with nextId := nextId }) (state.put_stored register held)

end State

/-- The reply to an access to the alternative that is active. -/
def Demand.hit (value : Datum) : Demand → Reply
  | .optional => .optional (some value)
  | .checked => .ok value
  | .required => .value value

theorem Demand.found_eq_hit (demand : Demand) (value : Datum) :
    demand.found value = demand.hit value := by
  cases demand <;> rfl

theorem Choice.dispatch_of_slot {types : List Ty} {union : Choice} {table : HandlerTable} {type : Ty}
    {slot slot' : Handler} {events : List Event} (found : typeAt? types union.index = some type)
    (inSlot : table[union.index]? = some slot)
    (ran : slot.run? type union.value = some (slot', events)) :
    union.dispatch types table = .ok (List.set table union.index slot', events) := by
  simp only [dispatch, found, HandlerTable.runAt?, inSlot, ran, Option.map_some]

namespace Machine

open Procedure

/-- A step is seen as the reply and the events and leads to the next state. -/
def StepShows (types : List Ty) (op : Op Ty) (state : State Tagged) (reply : Reply)
    (next : State Tagged) (events : List Event) : Prop :=
  step .tagged types op state = .ok (⟨reply, tags .tagged next, events⟩, next)

/-- How the accesses through a register end that pick the active alternative of the union in it. -/
structure AccessesFind (types : List Ty) (state : State Tagged) (register : Register)
    (union : Choice) (target : Selector Ty) (type : Ty) : Prop where
  read : ∀ demand, StepShows types (.read demand target (some register)) state
    (demand.hit union.value) state []
  edit : ∀ demand mode literal value, (Literal.read type state.nextId literal).value = some value →
    StepShows types (.edit demand mode target (some register) (some literal)) state
      (demand.hit (union.value.edit mode value).value)
      { state.put register (some (Choice.stored ⟨union.index, (union.value.edit mode value).value⟩)) with
        nextId := state.nextId + value.ids.length }
      (value.ids.map .created ++ (union.value.edit mode value).events)
  take : ∀ required, StepShows types (.take required target (some register)) state
    (if required then .value union.value else .ok union.value) (state.put register none)
    union.value.drops

/-- All operations that look at the register or access its active value show the union. -/
structure Presents (types : List Ty) (state : State Tagged) (register : Register) (union : Choice) :
    Prop where
  index : StepShows types (.index (some register)) state (.number union.index) state []
  typeName : ∃ type, typeAt? types union.index = some type ∧
    StepShows types (.typeName (some register)) state (.text type.qualifiedName) state []
  test : ∀ target type index, target.find? types = some (type, index) →
    StepShows types (.test target (some register)) state (.truth (index == union.index)) state []
  finds : ∀ target type, target.find? types = some (type, union.index) →
    AccessesFind types state register union target type
  misses : ∀ target type index, target.find? types = some (type, index) → index ≠ union.index →
    ∃ report, report.Between types index union.index ∧
      AccessesMiss types state register union.stored target type report
  compare : ∀ other union', state.Holds types other union' → ∀ negated,
    StepShows types (.compare negated (some register) (some other)) state
        (.truth ((union.compare union').equal != negated)) state (union.compare union').events ∧
      StepShows types (.compare negated (some other) (some register)) state
        (.truth ((union'.compare union).equal != negated)) state (union'.compare union).events
  hash : Ty.allHashable types = true →
    StepShows types (.hash (some register)) state (.bytes union.hash.bytes) state union.hash.events
  display : Ty.allDisplayable types = true → ∀ style,
    StepShows types (.render .readers (some register) (some style)) state
      (.text (union.value.display style)) state []
  debug : ∀ style, StepShows types (.render .inspection (some register) (some style)) state
    (.text (union.value.debug style)) state []
  dispatch : ∃ table events, union.dispatch types state.table = .ok (table, events) ∧
    StepShows types (.dispatch (some register)) state .done { state with table := table } events

variable {types : List Ty} {state : State Choice} {register other : Register} {union union' : Choice}
  {target : Selector Ty} {type : Ty} {index : Nat}

/-- What an operation shows on plain unions is what is seen of the step from their stored forms,
and the step leads to the stored form of a typed state again. -/
theorem stepShows_stored {next : State Choice} (typed : state.Typed types) {op : Op Ty} {reply : Reply}
    {events : List Event} (shows : (perform .plain types op).Shows state [] reply next events) :
    StepShows types op state.stored reply next.stored events ∧ next.Typed types := by
  obtain ⟨outcome, performed, -, -, typedNext, -⟩ := step_stored typed op
  obtain ⟨-, rfl, -⟩ := shows outcome performed
  exact ⟨step_shows typed shows, typedNext⟩

/-! ## Operations that look -/

section

variable (held : state.content register = some union)

include held

theorem index_shows (typed : union.Typed types) :
    (perform .plain types (.index (some register))).Shows state [] (.number union.index) state [] := by
  obtain ⟨active, short, found, -⟩ := typed.found
  rw [perform]
  refine .bind (.quiet rfl ?_)
  refine .bind (.occupied held ?_)
  have counted : (Storage.plain.tag union).toNat = union.index := toNat_tagOf (typeAt?_short short found)
  dsimp only
  rw [counted]
  exact .answer ⟨rfl, rfl, rfl⟩

theorem typeName_shows (found : typeAt? types union.index = some type) :
    (perform .plain types (.typeName (some register))).Shows state [] (.text type.qualifiedName)
      state [] := by
  have named : Storage.plain.name types union = .ok type.qualifiedName := by
    simp only [Storage.plain, Choice.name, found]
  rw [perform]
  refine .bind (.quiet rfl ?_)
  refine .bind (.occupied held ?_)
  dsimp only
  rw [named]
  exact .answer ⟨rfl, rfl, rfl⟩

theorem test_shows (typed : union.Typed types) (picked : target.find? types = some (type, index)) :
    (perform .plain types (.test target (some register))).Shows state [] (.truth (index == union.index))
      state [] := by
  have found := Selector.find?_found picked
  obtain ⟨active, short, activeFound, -⟩ := typed.found
  have below := typeAt?_short short activeFound
  have tested : (Storage.plain.tag union == tagOf index) = (index == union.index) := by
    rw [Bool.eq_iff_iff, beq_iff_eq, beq_iff_eq]
    exact (tagOf_inj below (typeAt?_short short found)).trans eq_comm
  rw [perform, picked]
  refine .bind (.quiet rfl ?_)
  refine .bind (.quiet rfl ?_)
  refine .bind (.occupied held ?_)
  dsimp only
  rw [tested]
  exact .answer ⟨rfl, rfl, rfl⟩

theorem compare_shows (held' : state.content other = some union') (negated : Bool) :
    (perform .plain types (.compare negated (some register) (some other))).Shows state []
      (.truth ((union.compare union').equal != negated)) state (union.compare union').events := by
  rw [perform]
  refine .bind (.quiet rfl ?_)
  refine .bind (.occupied held ?_)
  refine .bind (.quiet rfl ?_)
  refine .bind (.occupied held' ?_)
  refine .bind (.quiet rfl ?_)
  exact .bind (.log (.answer ⟨rfl, rfl, rfl⟩))

theorem hash_shows (hashable : Ty.allHashable types = true) :
    (perform .plain types (.hash (some register))).Shows state [] (.bytes union.hash.bytes) state
      union.hash.events := by
  rw [perform, hashable]
  refine .bind (.quiet rfl ?_)
  refine .bind (.quiet rfl ?_)
  refine .bind (.occupied held ?_)
  refine .bind (.quiet rfl ?_)
  exact .bind (.log (.answer ⟨rfl, rfl, rfl⟩))

theorem render_shows {audience : Audience} {style : Style} {text : String}
    (served : audience.served types = true)
    (written : textFor .plain types audience style union = .ok text) :
    (perform .plain types (.render audience (some register) (some style))).Shows state [] (.text text)
      state [] := by
  rw [perform, served]
  refine .bind (.quiet rfl ?_)
  refine .bind (.quiet rfl ?_)
  refine .bind (.occupied held ?_)
  refine .bind (.quiet rfl ?_)
  dsimp only
  rw [written]
  exact .bind (.quiet rfl (.answer ⟨rfl, rfl, rfl⟩))

theorem dispatch_shows {table : HandlerTable} {events : List Event}
    (dispatched : union.dispatch types state.table = .ok (table, events)) :
    (perform .plain types (.dispatch (some register))).Shows state [] .done { state with table := table }
      events := by
  intro outcome ran
  obtain ⟨answered, next, logged⟩ := dispatch_occupied held dispatched outcome ran
  exact ⟨by rw [answered]; rfl, next, logged⟩

/-! ## Accesses to the active value -/

theorem read_found (picked : target.find? types = some (type, union.index)) (demand : Demand) :
    (perform .plain types (.read demand target (some register))).Shows state []
      (demand.hit union.value) state [] := by
  have active : Storage.plain.tag union = tagOf union.index := rfl
  rw [perform, picked]
  refine .bind (.quiet rfl ?_)
  refine .bind (.quiet rfl ?_)
  refine .bind (.occupied held ?_)
  dsimp only
  rw [if_pos active]
  refine .bind (.orFault ?_)
  intro value got
  rw [Choice.get_value got]
  exact .bind (.quiet rfl (.answer ⟨demand.found_eq_hit _, rfl, rfl⟩))

theorem edit_found (picked : target.find? types = some (type, union.index)) (demand : Demand)
    (mode : EditMode) {literal : Literal} {value : Datum}
    (read : (literal.read type state.nextId).value = some value) :
    (perform .plain types (.edit demand mode target (some register) (some literal))).Shows state []
      (demand.hit (union.value.edit mode value).value)
      { state.put register (some ⟨union.index, (union.value.edit mode value).value⟩) with
        nextId := state.nextId + value.ids.length }
      (value.ids.map .created ++ (union.value.edit mode value).events) := by
  have active : Storage.plain.tag union = tagOf union.index := rfl
  obtain ⟨created, counted⟩ := Literal.createsRules.read type state.nextId literal value read
  rw [perform, picked]
  refine .bind (.quiet rfl ?_)
  refine .bind (.quiet rfl ?_)
  refine .bind (.occupied held ?_)
  refine .bind (.bind (.quiet rfl (.bind (.make ?_))))
  intro made was
  cases was
  rw [read, created, counted]
  refine .quiet rfl ?_
  dsimp only
  rw [if_pos active]
  refine .bind (.orFault ?_)
  intro old got
  rw [Choice.get_value got]
  refine .bind (.quiet rfl ?_)
  refine .bind (.log ?_)
  refine .bind (.orFault ?_)
  intro changed was
  cases (Choice.set_self union.index union.value _).symm.trans was
  refine .bind (.setContent ?_)
  exact .bind (.quiet rfl (.answer ⟨demand.found_eq_hit _, rfl, rfl⟩))

theorem take_found (picked : target.find? types = some (type, union.index)) (required : Bool) :
    (perform .plain types (.take required target (some register))).Shows state []
      (if required then .value union.value else .ok union.value) (state.put register none)
      union.value.drops := by
  have active : Storage.plain.tag union = tagOf union.index := rfl
  rw [perform, picked]
  refine .bind (.quiet rfl ?_)
  refine .bind (.quiet rfl ?_)
  refine .bind (.occupied held ?_)
  dsimp only
  rw [if_pos active]
  refine .bind (.orFault ?_)
  intro value got
  rw [Choice.get_value got]
  refine .bind (.setContent ?_)
  refine .bind (reportTaken_leads ?_)
  exact .answer ⟨rfl, rfl, rfl⟩

/-! ## Operations on whole unions -/

theorem drop_shows :
    (perform .plain types (.drop (some register))).Shows state [] .done (state.put register none)
      union.value.drops := by
  rw [perform]
  refine .bind (.quiet rfl ?_)
  refine .bind (.occupied held ?_)
  refine .bind (.setContent ?_)
  refine .bind (.quiet rfl ?_)
  exact .bind (.log (.answer ⟨rfl, rfl, rfl⟩))

theorem clone_shows (copied : Register) :
    (perform .plain types (.clone (some register) (some copied))).Shows state [] .done
      { state.put copied (some (union.clone state.nextId).value) with
        nextId := (union.clone state.nextId).nextId }
      ((union.clone state.nextId).events ++ Choice.dropsOf (state.content copied)) := by
  rw [perform]
  refine .bind (.quiet rfl ?_)
  refine .bind (.quiet rfl ?_)
  refine .bind (.occupied held ?_)
  refine .bind (.make ?_)
  intro copy was
  cases was
  refine .bind (replaceContent_leads ?_)
  exact .answer ⟨rfl, rfl, rfl⟩

end

theorem construct_shows (picked : target.build? types = some (type, index)) {literal : Literal}
    {value : Datum} (read : (literal.read type state.nextId).value = some value) :
    (perform .plain types (.construct target (some register) (some literal))).Shows state [] .done
      { state.put register (some ⟨index, value⟩) with nextId := state.nextId + value.ids.length }
      (value.ids.map .created ++ Choice.dropsOf (state.content register)) := by
  obtain ⟨created, counted⟩ := Literal.createsRules.read type state.nextId literal value read
  rw [perform, picked]
  refine .bind (.quiet rfl ?_)
  refine .bind (.quiet rfl ?_)
  refine .bind (.bind (.quiet rfl (.bind (.make ?_))))
  intro made was
  cases was
  rw [read, created, counted]
  refine .quiet rfl ?_
  refine .bind (replaceContent_leads ?_)
  exact .answer ⟨rfl, rfl, rfl⟩

/-! ## The register -/

theorem accessesFind_stored (typed : state.Typed types) (held : state.content register = some union)
    (picked : target.find? types = some (type, union.index)) :
    AccessesFind types state.stored register union target type where
  read demand := step_shows typed (read_found held picked demand)
  edit demand mode literal value read := by
    have edited := step_shows typed (edit_found held picked demand mode read)
    rw [State.put_with_stored] at edited
    exact edited
  take required := by
    have taken := step_shows typed (take_found held picked required)
    rw [State.put_stored] at taken
    exact taken

theorem presents_stored (typed : state.Typed types) (held : state.content register = some union) :
    Presents types state.stored register union := by
  have unionTyped := typed.registers register union held
  obtain ⟨active, -, found, -⟩ := unionTyped.found
  exact {
    index := step_shows typed (index_shows held unionTyped)
    typeName := ⟨active, found, step_shows typed (typeName_shows held found)⟩
    test := fun target type index picked => step_shows typed (test_shows held unionTyped picked)
    finds := fun target type picked => accessesFind_stored typed held picked
    misses := fun target type index picked apart => accessesMiss_stored typed held picked apart
    compare := by
      intro other union' holds negated
      have held' := typed.holds_iff.mp holds
      exact ⟨step_shows typed (compare_shows held held' negated),
        step_shows typed (compare_shows held' held negated)⟩
    hash := fun hashable => step_shows typed (hash_shows held hashable)
    display := by
      intro shown style
      have served : Audience.readers.served types = true := shown
      exact step_shows typed (render_shows held served rfl)
    debug := by
      intro style
      have served : Audience.inspection.served types = true := rfl
      exact step_shows typed (render_shows held served rfl)
    dispatch := by
      obtain ⟨slot, inSlot, accepts⟩ := typed.table.slot found
      obtain ⟨slot', events, ran, -⟩ := Handler.run?_accepts accepts union.value
      have dispatched := Choice.dispatch_of_slot found inSlot ran
      exact ⟨_, events, dispatched, step_shows typed (dispatch_shows held dispatched)⟩ }

end Machine

end TaggedUnion
