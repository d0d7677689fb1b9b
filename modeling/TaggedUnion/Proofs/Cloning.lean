import TaggedUnion.Proofs.Appending
import TaggedUnion.Proofs.Frame
import TaggedUnion.Proofs.Ownership
import TaggedUnion.Proofs.Presentation
import TaggedUnion.Proofs.Renaming

/-!
# Clones

A clone has the alternative of the original and its value with fresh identities. Nothing but those
tells the two apart: every operation that observes the one answers the same when it observes the
other. And they are independent: whatever is done to the one, the other stays what it was.
-/

set_option autoImplicit false

namespace TaggedUnion

open Registry

/-! ## Values that differ in their identities -/

theorem Datum.hashBytes_alike {left right : Datum} (alike : left.anonymous = right.anonymous) :
    left.hashBytes = right.hashBytes := by
  have forgotten (value : Datum) : value.anonymous.hashBytes = value.hashBytes := value.hashBytes_rename
  rw [← forgotten left, alike, forgotten right]

theorem Datum.display_alike {left right : Datum} (alike : left.anonymous = right.anonymous)
    (style : Style) : left.display style = right.display style := by
  have forgotten (value : Datum) : value.anonymous.display style = value.display style :=
    value.display_rename style
  rw [← forgotten left, alike, forgotten right]

theorem Datum.hashes_alike {left right : Datum} (alike : left.anonymous = right.anonymous) :
    left.hashes.map Event.anonymous = right.hashes.map Event.anonymous := by
  have renamed := congrArg hashes alike
  rwa [anonymous, anonymous, hashes_rename, hashes_rename] at renamed

/-- The comparisons come to one result by the same events, up to the identities in them. -/
structure Verdict.Alike (verdict other : Verdict) : Prop where
  equal : verdict.equal = other.equal
  events : verdict.events.map Event.anonymous = other.events.map Event.anonymous

theorem Datum.compare_alike {left left' right right' : Datum} (alike : left.anonymous = left'.anonymous)
    (alike' : right.anonymous = right'.anonymous) :
    (left.compare right).Alike (left'.compare right') := by
  have renamed := congrArg₂ compare alike alike'
  simp only [anonymous, compare_rename] at renamed
  have equal := congrArg Verdict.equal renamed
  have events := congrArg Verdict.events renamed
  exact ⟨equal, events⟩

theorem Datum.edit_alike {left right : Datum} (alike : left.anonymous = right.anonymous)
    (mode : EditMode) (new : Datum) :
    (left.edit mode new).value.anonymous = (right.edit mode new).value.anonymous ∧
      (left.edit mode new).events.map Event.anonymous =
        (right.edit mode new).events.map Event.anonymous := by
  have renamed := congrArg (fun value : Datum => value.edit mode new.anonymous) alike
  simp only [anonymous, edit_rename] at renamed
  exact ⟨congrArg Edited.value renamed, congrArg Edited.events renamed⟩

theorem Handler.run?_alike {slot slot₁ slot₂ : Handler} {type : Ty} {left right : Datum}
    {events events' : List Event} (alike : left.anonymous = right.anonymous)
    (ran : slot.run? type left = some (slot₁, events))
    (ran' : slot.run? type right = some (slot₂, events')) :
    events.map Event.anonymous = events'.map Event.anonymous := by
  have same : left.rename (fun _ => 0) = right.rename fun _ => 0 := alike
  cases slot with
  | unhandled =>
      cases ran
      cases ran'
      rfl
  | closure accepts label runs =>
      rw [run?] at ran ran'
      split at ran <;> cases ran
      rw [if_pos ‹_›] at ran'
      cases ran'
      simp only [List.map_cons, List.map_nil, Event.anonymous, Event.rename, same]
  | recorder accepts label seen =>
      rw [run?] at ran ran'
      split at ran <;> cases ran
      rw [if_pos ‹_›] at ran'
      cases ran'
      simp only [List.map_cons, List.map_nil, Event.anonymous, Event.rename, Datum.renameAll_append,
        Datum.renameAll, same]

/-- The unions have one alternative, and values that differ in nothing but their identities. -/
structure Choice.Alike (left right : Choice) : Prop where
  index : left.index = right.index
  value : left.value.anonymous = right.value.anonymous

namespace Choice

variable {left right third : Choice}

theorem Alike.compare_left (alike : left.Alike right) (third : Choice) :
    (left.compare third).Alike (right.compare third) := by
  unfold compare
  rw [alike.index]
  split
  · exact Datum.compare_alike alike.value rfl
  · exact ⟨rfl, rfl⟩

theorem Alike.compare_right (alike : left.Alike right) (third : Choice) :
    (third.compare left).Alike (third.compare right) := by
  unfold compare
  rw [alike.index]
  split
  · exact Datum.compare_alike rfl alike.value
  · exact ⟨rfl, rfl⟩

theorem Alike.dispatch (alike : left.Alike right) {types : List Ty} {table table₁ table₂ : HandlerTable}
    {events events' : List Event} (ran : left.dispatch types table = .ok (table₁, events))
    (ran' : right.dispatch types table = .ok (table₂, events')) :
    events.map Event.anonymous = events'.map Event.anonymous := by
  unfold Choice.dispatch at ran ran'
  rw [← alike.index] at ran'
  cases found : typeAt? types left.index with
  | none =>
      rw [found] at ran
      cases ran
  | some type =>
      simp only [found, HandlerTable.runAt?] at ran ran'
      cases inSlot : table[left.index]? with
      | none =>
          rw [inSlot] at ran
          cases ran
      | some slot =>
          rw [inSlot] at ran ran'
          dsimp only at ran ran'
          cases first : slot.run? type left.value with
          | none =>
              rw [first] at ran
              cases ran
          | some outcome =>
              cases second : slot.run? type right.value with
              | none =>
                  rw [second] at ran'
                  cases ran'
              | some outcome' =>
                  rw [first] at ran
                  rw [second] at ran'
                  cases ran
                  cases ran'
                  exact Handler.run?_alike alike.value first second

end Choice

theorem Mismatch.Between.unique {types : List Ty} {target source : Nat} {report other : Mismatch}
    (between : report.Between types target source) (betweenOther : other.Between types target source) :
    report = other := by
  obtain ⟨requested, requestedIndex, active, activeIndex⟩ := between
  obtain ⟨requested', requestedIndex', active', activeIndex'⟩ := betweenOther
  cases report
  cases other
  cases Option.some.inj (requested.symm.trans requested')
  cases Option.some.inj (active.symm.trans active')
  cases UInt8.toNat_inj.mp (requestedIndex.trans requestedIndex'.symm)
  cases UInt8.toNat_inj.mp (activeIndex.trans activeIndex'.symm)
  rfl

/-! ## Observers -/

inductive Observer where
  | index
  | typeName
  | test (target : Selector Ty)
  | read (demand : Demand) (target : Selector Ty)
  | edit (demand : Demand) (mode : EditMode) (target : Selector Ty) (value : Literal)
  | compareWith (negated : Bool) (third : Register)
  | compareTo (negated : Bool) (third : Register)
  | hash
  | display (style : Style)
  | dispatch

def Observer.at (register : Register) : Observer → Op Ty
  | index => .index (some register)
  | typeName => .typeName (some register)
  | test target => .test target (some register)
  | read demand target => .read demand target (some register)
  | edit demand mode target value => .edit demand mode target (some register) (some value)
  | compareWith negated third => .compare negated (some register) (some third)
  | compareTo negated third => .compare negated (some third) (some register)
  | hash => .hash (some register)
  | display style => .render .readers (some register) (some style)
  | dispatch => .dispatch (some register)

namespace Machine

open Procedure

/-- In the state the operations show the same but for identities. -/
def ShowAlike (types : List Ty) (state : State Tagged) (op other : Op Ty) : Prop :=
  ∃ entry next entry' next', step .tagged types op state = .ok (entry, next) ∧
    step .tagged types other state = .ok (entry', next') ∧ entry.Alike entry'

theorem StepShows.alike {types : List Ty} {state next next' : State Tagged} {op other : Op Ty}
    {reply reply' : Reply} {events events' : List Event}
    (shows : StepShows types op state reply next events)
    (showsOther : StepShows types other state reply' next' events')
    (replies : reply.anonymous = reply'.anonymous)
    (logs : events.map Event.anonymous = events'.map Event.anonymous) :
    ShowAlike types state op other :=
  ⟨_, next, _, next', shows, showsOther, replies, logs⟩

variable {types : List Ty} {state : State Choice} {left right register third : Register}
  {union union' : Choice}

theorem unoffered_shows {state : State Tagged} {op : Op Ty} (missing : op.offeredBy types = false) :
    StepShows types op state (.failed .unsupported) state [] :=
  step_ok_iff.mpr ⟨_, perform_not_offered .tagged missing state, rfl, rfl⟩

theorem compare_shows_vacant (held : state.content register = some union)
    (empty : state.content third = none) (negated : Bool) :
    (perform .plain types (.compare negated (some register) (some third))).Shows state []
        (.failed .empty) state [] ∧
      (perform .plain types (.compare negated (some third) (some register))).Shows state []
        (.failed .empty) state [] := by
  constructor
  · rw [perform]
    refine .bind (.quiet rfl ?_)
    refine .bind (.occupied held ?_)
    refine .bind (.quiet rfl ?_)
    exact .bind (.vacant empty ⟨rfl, rfl, rfl⟩)
  · rw [perform]
    refine .bind (.quiet rfl ?_)
    exact .bind (.vacant empty ⟨rfl, rfl, rfl⟩)

theorem edit_shows_misread {target : Selector Ty} {type : Ty} {index : Nat} {literal : Literal}
    (picked : target.find? types = some (type, index)) (held : state.content register = some union)
    (misread : (literal.read type state.nextId).value = none) (demand : Demand) (mode : EditMode) :
    (perform .plain types (.edit demand mode target (some register) (some literal))).Shows state []
      (.failed .badInput) { state with nextId := (literal.read type state.nextId).nextId }
      (literal.read type state.nextId).events := by
  rw [perform, picked]
  refine .bind (.quiet rfl ?_)
  refine .bind (.quiet rfl ?_)
  refine .bind (.occupied held ?_)
  refine .bind (.bind (.quiet rfl (.bind (.make ?_))))
  intro made was
  cases was
  rw [misread]
  exact .fail ⟨rfl, rfl, rfl⟩

section

variable (typed : state.Typed types) (held : state.content left = some union)
  (held' : state.content right = some union') (alike : union.Alike union')

include typed held held' alike

theorem compare_alike (negated : Bool) (third : Register) :
    ShowAlike types state.stored (.compare negated (some left) (some third))
        (.compare negated (some right) (some third)) ∧
      ShowAlike types state.stored (.compare negated (some third) (some left))
        (.compare negated (some third) (some right)) := by
  cases other : state.content third with
  | none =>
      obtain ⟨first, second⟩ := compare_shows_vacant held other negated
      obtain ⟨first', second'⟩ := compare_shows_vacant held' other negated
      exact ⟨StepShows.alike (step_shows typed first) (step_shows typed first') rfl rfl,
        StepShows.alike (step_shows typed second) (step_shows typed second') rfl rfl⟩
  | some union₃ =>
      have holds := typed.holds_iff.mpr other
      obtain ⟨first, second⟩ := (presents_stored typed held).compare third union₃ holds negated
      obtain ⟨first', second'⟩ := (presents_stored typed held').compare third union₃ holds negated
      have onLeft := alike.compare_left union₃
      have onRight := alike.compare_right union₃
      exact ⟨first.alike first' (by rw [onLeft.equal]) onLeft.events,
        second.alike second' (by rw [onRight.equal]) onRight.events⟩

theorem read_alike (demand : Demand) {target : Selector Ty} {type : Ty} {index : Nat}
    (picked : target.find? types = some (type, index)) :
    ShowAlike types state.stored (.read demand target (some left))
      (.read demand target (some right)) := by
  have first := presents_stored typed held
  have second := presents_stored typed held'
  have value : (demand.hit union.value).anonymous = (demand.hit union'.value).anonymous := by
    cases demand <;> simp only [Demand.hit, Reply.anonymous, Option.map_some, alike.value]
  by_cases active : index = union.index
  · subst active
    have found := (first.finds target type picked).read demand
    have found' := (second.finds target type (alike.index ▸ picked)).read demand
    exact StepShows.alike found found' value rfl
  · obtain ⟨report, between, miss⟩ := first.misses target type index picked active
    obtain ⟨report', between', miss'⟩ := second.misses target type index picked (alike.index ▸ active)
    cases between.unique (alike.index ▸ between')
    exact StepShows.alike (miss.read demand) (miss'.read demand) rfl rfl

theorem edit_alike (demand : Demand) (mode : EditMode) {target : Selector Ty} {type : Ty} {index : Nat}
    (picked : target.find? types = some (type, index)) (literal : Literal) :
    ShowAlike types state.stored (.edit demand mode target (some left) (some literal))
      (.edit demand mode target (some right) (some literal)) := by
  cases read : (literal.read type state.nextId).value with
  | none =>
      have first := step_shows typed (edit_shows_misread picked held read demand mode)
      have second := step_shows typed (edit_shows_misread picked held' read demand mode)
      exact StepShows.alike first second rfl rfl
  | some new =>
      have first := presents_stored typed held
      have second := presents_stored typed held'
      by_cases active : index = union.index
      · subst active
        have found := (first.finds target type picked).edit demand mode literal new read
        have found' := (second.finds target type (alike.index ▸ picked)).edit demand mode literal new read
        obtain ⟨value, events⟩ := Datum.edit_alike alike.value mode new
        apply found.alike found'
        · cases demand <;> simp only [Demand.hit, Reply.anonymous, Option.map_some, value]
        · rw [List.map_append, List.map_append, events]
      · obtain ⟨report, between, miss⟩ := first.misses target type index picked active
        obtain ⟨report', between', miss'⟩ :=
          second.misses target type index picked (alike.index ▸ active)
        cases between.unique (alike.index ▸ between')
        let next : State Tagged := { state.stored with nextId := state.nextId + new.ids.length }
        have missed : StepShows types _ state.stored _ next _ := miss.edit demand mode literal new read
        have missed' : StepShows types _ state.stored _ next _ := miss'.edit demand mode literal new read
        exact missed.alike missed' rfl rfl

theorem observed_alike (observer : Observer) :
    ShowAlike types state.stored (observer.at left) (observer.at right) := by
  have first := presents_stored typed held
  have second := presents_stored typed held'
  have unoffered {op other : Op Ty} (missing : op.offeredBy types = false)
      (same : other.offeredBy types = op.offeredBy types) : ShowAlike types state.stored op other :=
    StepShows.alike (unoffered_shows missing) (unoffered_shows (same.trans missing)) rfl rfl
  cases observer with
  | index => exact first.index.alike second.index (by rw [alike.index]) rfl
  | typeName =>
      obtain ⟨type, found, named⟩ := first.typeName
      obtain ⟨type', found', named'⟩ := second.typeName
      rw [alike.index] at found
      cases found.symm.trans found'
      exact named.alike named' rfl rfl
  | test target =>
      cases picked : target.find? types with
      | none => exact unoffered (by simp only [Observer.at, Op.offeredBy, picked, Option.isSome_none]) rfl
      | some pick =>
          have tested := first.test target pick.1 pick.2 picked
          have tested' := second.test target pick.1 pick.2 picked
          exact tested.alike tested' (by rw [alike.index]) rfl
  | read demand target =>
      cases picked : target.find? types with
      | none => exact unoffered (by simp only [Observer.at, Op.offeredBy, picked, Option.isSome_none]) rfl
      | some pick => exact read_alike typed held held' alike demand picked
  | edit demand mode target literal =>
      cases picked : target.find? types with
      | none => exact unoffered (by simp only [Observer.at, Op.offeredBy, picked, Option.isSome_none]) rfl
      | some pick => exact edit_alike typed held held' alike demand mode picked literal
  | compareWith negated third => exact (compare_alike typed held held' alike negated third).1
  | compareTo negated third => exact (compare_alike typed held held' alike negated third).2
  | hash =>
      cases hashable : Ty.allHashable types with
      | false => exact unoffered (by simp only [Observer.at, Op.offeredBy, hashable]) rfl
      | true =>
          apply (first.hash hashable).alike (second.hash hashable)
          · simp only [Choice.hash, Reply.anonymous, alike.index, Datum.hashBytes_alike alike.value]
          · exact Datum.hashes_alike alike.value
  | display style =>
      cases shown : Ty.allDisplayable types with
      | false =>
          exact unoffered
            (by simp only [Observer.at, Op.offeredBy, Audience.served, shown]) rfl
      | true =>
          apply (first.display shown style).alike (second.display shown style) _ rfl
          rw [Datum.display_alike alike.value style]
  | dispatch =>
      obtain ⟨table, events, ran, dispatched⟩ := first.dispatch
      obtain ⟨table', events', ran', dispatched'⟩ := second.dispatch
      exact dispatched.alike dispatched' rfl (alike.dispatch ran ran')

end

/-! ## The clone of a union -/

/-- The second union is a copy of the first one: it has the same alternative, and in its value each
identity is replaced by a fresh one, which the log does not know. -/
structure Copies (log : List Event) (name : Nat → Nat) (union copy : Choice) : Prop where
  index : copy.index = union.index
  value : copy.value = union.value.rename name
  distinct : copy.value.ids.Nodup
  fresh : ∀ id ∈ copy.value.ids, id ∉ Log.born log

/-- The registers are told apart by identities alone. Where a text for inspection shows one of the
value in the first register, it shows the one with the new name for the second register. -/
structure ToldByIdentities (types : List Ty) (state : State Tagged) (first second : Register)
    (value : Datum) (name : Nat → Nat) : Prop where
  observed : ∀ observer : Observer, ShowAlike types state (observer.at first) (observer.at second)
  inspected : ∀ style,
    StepShows types (.render .inspection (some first) (some style)) state
        (.text (value.inspect (fun id => Numeral.ofInt style id) style)) state [] ∧
      StepShows types (.render .inspection (some second) (some style)) state
        (.text (value.inspect (fun id => Numeral.ofInt style (name id)) style)) state []

/-- Whatever a program does that does not name the register, the register holds in the end what it
held. -/
def Independent (types : List Ty) (state : State Tagged) (register : Register) : Prop :=
  ∀ later : List (Op Ty), (∀ op ∈ later, op.names register = false) →
    ∃ entries last, steps .tagged types later state = .ok (entries, last) ∧
      last.content register = state.content register

theorem independent_stored (typed : state.Typed types) (register : Register) :
    Independent types state.stored register := by
  intro later unnamed
  obtain ⟨entries, last, ran, -, -⟩ := steps_stored typed later
  exact ⟨entries, last.stored, ran, steps_content unnamed ran⟩

theorem clone_copies {log : List Event} {live : Multiset ℕ} {nextId : Nat}
    (accounts : Accounts log live nextId) (held : (union.value.ids : Multiset ℕ) ≤ live) :
    ∃ name, Copies log name union (union.clone nextId).value := by
  have distinct : union.value.ids.Nodup :=
    Multiset.coe_nodup.mp (Multiset.nodup_of_le held accounts.nodup)
  obtain ⟨name, -, renamed⟩ := Datum.exists_renaming distinct nextId
  have numbered : (union.clone nextId).value.value.ids = List.range' nextId union.value.ids.length :=
    union.value.ids_renumber nextId
  refine ⟨name, rfl, renamed, ?_, ?_⟩
  · rw [numbered]
    exact List.nodup_range'
  · intro id member
    rw [numbered] at member
    rw [accounts.born, List.mem_range]
    exact Nat.not_lt.mpr (List.left_le_of_mem_range' member)

theorem Copies.alike {log : List Event} {name : Nat → Nat} {copy : Choice}
    (copies : Copies log name union copy) : union.Alike copy where
  index := copies.index.symm
  value := by rw [copies.value, Datum.anonymous_rename]

theorem toldByIdentities_stored (typed : state.Typed types) (held : state.content left = some union)
    (held' : state.content right = some union') {log : List Event} {name : Nat → Nat}
    (copies : Copies log name union union') :
    ToldByIdentities types state.stored left right union.value name where
  observed := observed_alike typed held held' copies.alike
  inspected style := by
    have first := (presents_stored typed held).debug style
    have second := (presents_stored typed held').debug style
    rw [Datum.debug_eq_inspect] at first second
    rw [copies.value, Datum.inspect_rename] at second
    exact ⟨first, second⟩

/-- Cloning is faithful and independent. In every reachable state the clone of what one register
holds takes the place of what another one held, or the register itself, which is dropped after the
copy was made. The copy differs from the original in its identities alone, which were never used
before, and nothing else tells the two registers apart. No program that does not name a register
changes what it holds, whatever it does to the other one. -/
theorem clone_faithful_independent (types : List Ty) (program : List (Op Ty)) :
    ∃ entries, ∃ state : State Tagged,
      steps .tagged types program (State.initial types) = .ok (entries, state) ∧
      ∀ source held, state.content source = some held →
        ∃ union, state.Holds types source union ∧ ∀ target, ∃ copy name after dropped,
          StepShows types (.clone (some source) (some target)) state .done after
            ((union.value.ids.zip copy.value.ids).map (fun ids => .cloned ids.1 ids.2) ++ dropped) ∧
          (∀ old, state.Holds types target old → dropped = old.value.drops) ∧
          (state.content target = none → dropped = []) ∧
          after.Holds types target copy ∧ Copies (entries.flatMap Entry.events) name union copy ∧
          Independent types after target ∧
          (source ≠ target → after.Holds types source union ∧
            ToldByIdentities types after source target union.value name ∧
            Independent types after source) := by
  obtain ⟨entries, state, tagged, plain, typed⟩ := steps_initial types program
  refine ⟨entries, state.stored, tagged, ?_⟩
  intro source stored storedHeld
  obtain ⟨union, held, -⟩ := State.exists_held storedHeld
  refine ⟨union, typed.holds_iff.mpr held, ?_⟩
  intro target
  have contained : (union.value.ids : Multiset ℕ) ≤ state.ids := by
    rw [State.ids_take held]
    exact Multiset.le_add_right _ _
  obtain ⟨name, copies⟩ := clone_copies (steps_accounts plain) contained
  let copy := (union.clone state.nextId).value
  let after : State Choice :=
    { state.put target (some copy) with nextId := state.nextId + union.value.ids.length }
  have cloned : (perform .plain types (.clone (some source) (some target))).Shows state [] .done after
      ((union.clone state.nextId).events ++ Choice.dropsOf (state.content target)) :=
    clone_shows held target
  obtain ⟨shows, typedAfter⟩ := stepShows_stored typed cloned
  have heldTarget : after.content target = some copy := state.content_put_self
  refine ⟨copy, name, after.stored, Choice.dropsOf (state.content target), ?_, ?_, ?_,
    typedAfter.holds_iff.mpr heldTarget, copies, independent_stored typedAfter target, ?_⟩
  · have numbered : copy.value.ids = List.range' state.nextId union.value.ids.length :=
      union.value.ids_renumber state.nextId
    rw [numbered]
    exact shows
  · intro old holds
    rw [typed.holds_iff.mp holds]
    rfl
  · intro empty
    rw [state.content_stored, Option.map_eq_none_iff] at empty
    rw [empty]
    rfl
  · intro apart
    have heldSource : after.content source = some union :=
      (state.content_put_of_ne apart.symm).trans held
    exact ⟨typedAfter.holds_iff.mpr heldSource,
      toldByIdentities_stored typedAfter heldSource heldTarget copies,
      independent_stored typedAfter source⟩

end Machine

end TaggedUnion
