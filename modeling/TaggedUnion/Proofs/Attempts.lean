import TaggedUnion.Proofs.Edits
import TaggedUnion.Proofs.Lookup
import TaggedUnion.Proofs.Presentation

/-!
# Attempts at the alternatives of a union

Every way to get at an alternative of a union is an attempt that finds something exactly if the
alternative is the active one. If the alternatives are tried one after another, in whatever order
and by whatever attempts that do not cost the union, one attempt finds the value and all others
find nothing.
-/

set_option autoImplicit false

namespace TaggedUnion

open Registry

inductive Attempt where
  | test (target : Selector Ty)
  | read (demand : Demand) (target : Selector Ty)
  | edit (demand : Demand) (mode : EditMode) (target : Selector Ty) (value : Literal)
  | take (required : Bool) (target : Selector Ty)

def Reply.finds : Reply → Bool
  | .truth found => found
  | .value _ | .ok _ | .optional (some _) => true
  | _ => false

namespace Attempt

def target : Attempt → Selector Ty
  | test target | read _ target | edit _ _ target _ | take _ target => target

def op (register : Register) : Attempt → Op Ty
  | test target => .test target (some register)
  | read demand target => .read demand target (some register)
  | edit demand mode target value => .edit demand mode target (some register) (some value)
  | take required target => .take required target (some register)

def index? (types : List Ty) (attempt : Attempt) : Option Nat :=
  (attempt.target.find? types).map Prod.snd

/-- What the attempt comes with is a value of the alternative that is tried. -/
def Supplied (types : List Ty) : Attempt → Prop
  | edit _ _ target value => ∀ type index, target.find? types = some (type, index) →
      ∀ nextId, (Literal.read type nextId value).value.isSome = true
  | _ => True

/-- A union in which another alternative is active is given back. -/
def givesBack : Attempt → Bool
  | take required _ => !required
  | _ => true

/-- The attempt found the value of the union and replied with it, edited if it was found for that.
The content is what it left behind. -/
def Found (types : List Ty) (union : Choice) : Attempt → Reply → Option Choice → Prop
  | test _, reply, content => reply = .truth true ∧ content = some union
  | read demand _, reply, content => reply = demand.hit union.value ∧ content = some union
  | edit demand mode target literal, reply, content => ∃ type nextId new edited events,
      target.find? types = some (type, union.index) ∧
        (Literal.read type nextId literal).value = some new ∧
        mode.Makes type union.value new edited events ∧
        reply = demand.hit edited ∧ content = some ⟨union.index, edited⟩
  | take required _, reply, content =>
      reply = (if required then .value union.value else .ok union.value) ∧ content = none

/-- The attempt is made at another alternative than the active one, if the register holds a union
at all. -/
def Astray (types : List Ty) (content : Option Choice) (attempt : Attempt) : Prop :=
  ∃ index, attempt.index? types = some index ∧ ∀ union, content = some union → index ≠ union.index

variable {types : List Ty} {union : Choice} {attempt : Attempt} {reply : Reply} {content : Option Choice}

theorem Found.finds (found : attempt.Found types union reply content) : reply.finds = true := by
  have shown (demand : Demand) (value : Datum) : (demand.hit value).finds = true := by
    cases demand <;> rfl
  cases attempt with
  | test target =>
      rw [found.1]
      rfl
  | read demand target =>
      rw [found.1]
      exact shown demand _
  | edit demand mode target literal =>
      obtain ⟨type, nextId, new, edited, events, -, -, -, replied, -⟩ := found
      rw [replied]
      exact shown demand _
  | take required target =>
      rw [found.1]
      cases required <;> rfl

theorem Found.index {other : Choice} (found : attempt.Found types union reply content)
    (held : content = some other) : other.index = union.index := by
  cases attempt with
  | test | read =>
      cases found.2.symm.trans held
      rfl
  | edit =>
      obtain ⟨type, nextId, new, edited, events, -, -, -, -, left⟩ := found
      cases left.symm.trans held
      rfl
  | take => cases found.2.symm.trans held

end Attempt

theorem Selector.find?_position {types : List Ty} {index : Nat} {type : Ty}
    (found : typeAt? types index = some type) :
    (Selector.position index).find? types = some (type, index) := by
  rw [find?, found]
  rfl

theorem Demand.missed_finds (demand : Demand) (report : Mismatch) :
    (demand.missed report).finds = false := by
  cases demand <;> rfl

theorem List.getElem?_middle {Item : Type} {before after : List Item} {middle item : Item}
    {position : Nat} (found : (before ++ middle :: after)[position]? = some item) :
    (position = before.length ∧ item = middle) ∨
      position ≠ before.length ∧ (item ∈ before ∨ item ∈ after) := by
  induction before generalizing position with
  | nil =>
      cases position with
      | zero =>
          cases found
          exact .inl ⟨rfl, rfl⟩
      | succ position => exact .inr ⟨Nat.succ_ne_zero position, .inr (List.mem_of_getElem? found)⟩
  | cons first before ih =>
      cases position with
      | zero =>
          cases found
          exact .inr ⟨(Nat.succ_ne_zero before.length).symm, .inl List.mem_cons_self⟩
      | succ position =>
          rcases ih found with ⟨same, here⟩ | ⟨apart, inBefore | inAfter⟩
          · exact .inl ⟨congrArg Nat.succ same, here⟩
          · exact .inr ⟨fun same => apart (Nat.succ.inj same), .inl (List.mem_cons_of_mem first inBefore)⟩
          · exact .inr ⟨fun same => apart (Nat.succ.inj same), .inr inAfter⟩

namespace Machine

open Procedure

variable {types : List Ty} {state : State Choice} {register : Register} {union : Choice}
  {attempt : Attempt}

theorem attempt_vacant {type : Ty} {index : Nat}
    (picked : attempt.target.find? types = some (type, index)) (empty : state.content register = none) :
    (perform .plain types (attempt.op register)).Shows state [] (.failed .empty) state [] := by
  cases attempt with
  | test | read | edit | take =>
      simp only [Attempt.target] at picked
      rw [Attempt.op, perform, picked]
      refine .bind (.quiet rfl ?_)
      refine .bind (.quiet rfl ?_)
      exact .bind (.vacant empty ⟨rfl, rfl, rfl⟩)

/-- An attempt that goes astray finds nothing and changes nothing but the next free identity. -/
theorem astray_step (typed : state.Typed types) (givesBack : attempt.givesBack = true)
    (supplied : attempt.Supplied types) (astray : attempt.Astray types (state.content register)) :
    ∃ entry nextId, step .tagged types (attempt.op register) state.stored =
        .ok (entry, State.stored { state with nextId := nextId }) ∧
      entry.reply.finds = false := by
  obtain ⟨_, tried, elsewhere⟩ := astray
  obtain ⟨⟨type, index⟩, picked, rfl⟩ := Option.map_eq_some_iff.mp tried
  cases held : state.content register with
  | none => exact ⟨_, state.nextId, step_shows typed (attempt_vacant picked held), rfl⟩
  | some union =>
      have presents := presents_stored typed held
      have apart : index ≠ union.index := elsewhere union held
      obtain ⟨report, -, misses⟩ := presents.misses _ type index picked apart
      cases attempt with
      | test target =>
          have tested := presents.test target type index picked
          exact ⟨_, state.nextId, tested, beq_false_of_ne apart⟩
      | read demand target =>
          exact ⟨_, state.nextId, misses.read demand, demand.missed_finds report⟩
      | edit demand mode target literal =>
          obtain ⟨new, read⟩ := Option.isSome_iff_exists.mp (supplied type index picked state.nextId)
          exact ⟨_, state.nextId + new.ids.length, misses.edit demand mode literal new read,
            demand.missed_finds report⟩
      | take required target =>
          cases required with
          | false => exact ⟨_, state.nextId, misses.returned, rfl⟩
          | true => cases givesBack

theorem found_step (typed : state.Typed types) (held : state.content register = some union)
    (tried : attempt.index? types = some union.index) (supplied : attempt.Supplied types) :
    ∃ entry, ∃ next : State Choice,
      step .tagged types (attempt.op register) state.stored = .ok (entry, next.stored) ∧
        next.Typed types ∧ attempt.Found types union entry.reply (next.content register) ∧
        state.AgreesBut register next := by
  obtain ⟨⟨type, index⟩, picked, same⟩ := Option.map_eq_some_iff.mp tried
  cases same
  have unchanged : state.AgreesBut register state := ⟨fun _ _ => rfl, rfl⟩
  cases attempt with
  | test target =>
      have tested := (presents_stored typed held).test target type union.index picked
      rw [beq_self_eq_true] at tested
      exact ⟨_, state, tested, typed, ⟨rfl, held⟩, unchanged⟩
  | read demand target =>
      have found := step_shows typed (read_found held picked demand)
      exact ⟨_, state, found, typed, ⟨rfl, held⟩, unchanged⟩
  | edit demand mode target literal =>
      obtain ⟨new, read⟩ := Option.isSome_iff_exists.mp (supplied type union.index picked state.nextId)
      obtain ⟨edited, typedNext⟩ := stepShows_stored typed (edit_found held picked demand mode read)
      obtain ⟨active, -, activeFound, typedValue⟩ := (typed.registers register union held).found
      cases (Selector.find?_found picked).symm.trans activeFound
      have makes := Datum.edit_makes typedValue (Literal.read_typed read) mode
      exact ⟨_, _, edited, typedNext,
        ⟨type, state.nextId, new, _, _, picked, read, makes, rfl, state.content_put_self⟩,
        state.agreesBut_put register _ _⟩
  | take required target =>
      obtain ⟨taken, typedNext⟩ := stepShows_stored typed (take_found held picked required)
      exact ⟨_, _, taken, typedNext, ⟨rfl, state.content_put_self⟩,
        state.agreesBut_put register none state.nextId⟩

/-- Every attempt finds something exactly if it is made at the active alternative, and what it finds
is the value. -/
theorem attempt_finds_iff (typed : state.Typed types) (held : state.content register = some union)
    {index : Nat} (tried : attempt.index? types = some index) (supplied : attempt.Supplied types) :
    ∃ entry next, step .tagged types (attempt.op register) state.stored = .ok (entry, next) ∧
      (entry.reply.finds = true ↔ index = union.index) ∧
      (index = union.index → ∃ content, next.content register = content.map Choice.stored ∧
        attempt.Found types union entry.reply content) := by
  by_cases active : index = union.index
  · subst active
    obtain ⟨entry, next, stepped, -, found, -⟩ := found_step typed held tried supplied
    exact ⟨entry, next.stored, stepped, ⟨fun _ => rfl, fun _ => found.finds⟩,
      fun _ => ⟨next.content register, next.content_stored register, found⟩⟩
  · suffices missed : ∃ entry next,
        step .tagged types (attempt.op register) state.stored = .ok (entry, next) ∧
          entry.reply.finds = false by
      obtain ⟨entry, next, stepped, nothing⟩ := missed
      refine ⟨entry, next, stepped, ?_, fun same => absurd same active⟩
      rw [nothing]
      exact ⟨fun finds => absurd finds Bool.false_ne_true, fun same => absurd same active⟩
    have astray : attempt.Astray types (state.content register) := by
      refine ⟨index, tried, ?_⟩
      intro other same
      cases held.symm.trans same
      exact active
    cases givesBack : attempt.givesBack with
    | true =>
        obtain ⟨entry, nextId, stepped, nothing⟩ := astray_step typed givesBack supplied astray
        exact ⟨entry, _, stepped, nothing⟩
    | false =>
        -- Only taking out what is required costs the union if it is not there.
        obtain ⟨⟨type, position⟩, picked, same⟩ := Option.map_eq_some_iff.mp tried
        cases same
        obtain ⟨report, -, misses⟩ :=
          (presents_stored typed held).misses attempt.target type position picked active
        obtain ⟨value, -, refused⟩ := misses.refused
        cases attempt with
        | take required target =>
            cases required with
            | false => cases givesBack
            | true => exact ⟨_, _, refused, rfl⟩
        | test | read | edit => cases givesBack

variable (register) in
theorem astray_steps (attempts : List Attempt) (typed : state.Typed types)
    (givesBack : ∀ attempt ∈ attempts, attempt.givesBack = true)
    (supplied : ∀ attempt ∈ attempts, attempt.Supplied types)
    (astray : ∀ attempt ∈ attempts, attempt.Astray types (state.content register)) :
    ∃ entries nextId, steps .tagged types (attempts.map (Attempt.op register)) state.stored =
        .ok (entries, State.stored { state with nextId := nextId }) ∧
      ∀ entry ∈ entries, entry.reply.finds = false := by
  induction attempts generalizing state with
  | nil => exact ⟨[], state.nextId, rfl, fun entry member => absurd member List.not_mem_nil⟩
  | cons attempt attempts ih =>
      obtain ⟨entry, middle, stepped, nothing⟩ := astray_step typed (givesBack attempt List.mem_cons_self)
        (supplied attempt List.mem_cons_self) (astray attempt List.mem_cons_self)
      let next : State Choice := { state with nextId := middle }
      have typedNext : next.Typed types := typed.with_nextId middle
      obtain ⟨entries, last, ran, nothingElse⟩ := ih typedNext
        (fun other member => givesBack other (List.mem_cons_of_mem attempt member))
        (fun other member => supplied other (List.mem_cons_of_mem attempt member))
        (fun other member => astray other (List.mem_cons_of_mem attempt member))
      refine ⟨entry :: entries, last, steps_cons_ok_iff.mpr ⟨entry, _, entries, stepped, ran, rfl⟩, ?_⟩
      intro other member
      rcases List.mem_cons.mp member with rfl | later
      · exact nothing
      · exact nothingElse other later

/-- One of the attempts finds the value of the union in the register and decides what the register
holds in the end. All others find nothing. -/
def FindOnce (types : List Ty) (state : State Tagged) (register : Register) (union : Choice)
    (attempts : List Attempt) : Prop :=
  ∃ before finder after, attempts = before ++ finder :: after ∧
    finder.index? types = some union.index ∧ ∃ entries last,
      steps .tagged types (attempts.map (Attempt.op register)) state = .ok (entries, last) ∧
      state.AgreesBut register last ∧
      ∃ content, last.content register = content.map Choice.stored ∧
        ∀ position entry, entries[position]? = some entry →
          (entry.reply.finds = true ↔ position = before.length) ∧
            (position = before.length → finder.Found types union entry.reply content)

/-- If each alternative is tried once, one attempt is at the active one and all others go astray. -/
theorem exists_finder {attempts : List Attempt} {active : Nat}
    (each : (attempts.map (Attempt.index? types)).Perm ((List.range types.length).map some))
    (below : active < types.length) :
    ∃ before finder after, attempts = before ++ finder :: after ∧ finder.index? types = some active ∧
      ∀ attempt ∈ before ++ after, ∃ index, attempt.index? types = some index ∧ index ≠ active := by
  have listed : some active ∈ attempts.map (Attempt.index? types) :=
    each.mem_iff.mpr (List.mem_map_of_mem (List.mem_range.mpr below))
  have distinct : (attempts.map (Attempt.index? types)).Nodup :=
    each.nodup_iff.mpr (List.nodup_range.map (Option.some_injective Nat))
  obtain ⟨finder, member, finds⟩ := List.mem_map.mp listed
  obtain ⟨before, after, rfl⟩ := List.append_of_mem member
  refine ⟨before, finder, after, rfl, finds, ?_⟩
  intro attempt inside
  have moved : (before ++ finder :: after).Perm (finder :: (before ++ after)) := List.perm_middle
  have once := (moved.map (Attempt.index? types)).nodup_iff.mp distinct
  have member' := moved.mem_iff.mpr (List.mem_cons_of_mem finder inside)
  have tried := each.mem_iff.mp (List.mem_map_of_mem member')
  obtain ⟨index, -, same⟩ := List.mem_map.mp tried
  refine ⟨index, same.symm, ?_⟩
  rintro rfl
  have again : finder.index? types ∈ (before ++ after).map (Attempt.index? types) := by
    rw [finds, same]
    exact List.mem_map_of_mem inside
  exact (List.nodup_cons.mp once).1 again

theorem attempts_find_once (typed : state.Typed types) (held : state.content register = some union)
    {attempts : List Attempt}
    (each : (attempts.map (Attempt.index? types)).Perm ((List.range types.length).map some))
    (givesBack : ∀ attempt ∈ attempts, attempt.givesBack = true)
    (supplied : ∀ attempt ∈ attempts, attempt.Supplied types) :
    FindOnce types state.stored register union attempts := by
  obtain ⟨type, -, found, -⟩ := (typed.registers register union held).found
  obtain ⟨before, finder, after, rfl, finds, others⟩ := exists_finder each (typeAt?_lt found)
  have astray {attempt : Attempt} (inside : attempt ∈ before ++ after) {content : Option Choice}
      (active : ∀ held, content = some held → held.index = union.index) :
      attempt.Astray types content := by
    obtain ⟨index, tried, apart⟩ := others attempt inside
    refine ⟨index, tried, ?_⟩
    intro other same
    rw [active other same]
    exact apart
  obtain ⟨entriesBefore, nextId, ranBefore, nothingBefore⟩ := astray_steps register before typed
    (fun attempt inside => givesBack attempt (List.mem_append_left _ inside))
    (fun attempt inside => supplied attempt (List.mem_append_left _ inside))
    (fun attempt inside => astray (List.mem_append_left _ inside) fun other same => by
      cases held.symm.trans same
      rfl)
  let middle : State Choice := { state with nextId := nextId }
  have typedMiddle : middle.Typed types := typed.with_nextId nextId
  obtain ⟨entry, next, stepped, typedNext, foundValue, agrees⟩ := found_step typedMiddle held finds
    (supplied finder (List.mem_append_right _ List.mem_cons_self))
  obtain ⟨entriesAfter, last, ranAfter, nothingAfter⟩ := astray_steps register after typedNext
    (fun attempt inside =>
      givesBack attempt (List.mem_append_right _ (List.mem_cons_of_mem finder inside)))
    (fun attempt inside =>
      supplied attempt (List.mem_append_right _ (List.mem_cons_of_mem finder inside)))
    (fun attempt inside => astray (List.mem_append_right _ inside) fun _ same => foundValue.index same)
  let final : State Choice := { next with nextId := last }
  have agreesFinal : state.AgreesBut register final := ⟨agrees.others, agrees.table⟩
  refine ⟨before, finder, after, rfl, finds, entriesBefore ++ entry :: entriesAfter, final.stored,
    ?_, agreesFinal.stored, next.content register, next.content_stored register, ?_⟩
  · rw [List.map_append, List.map_cons]
    apply steps_append_ok_iff.mpr
    exact ⟨entriesBefore, middle.stored, entry :: entriesAfter, ranBefore,
      steps_cons_ok_iff.mpr ⟨entry, next.stored, entriesAfter, stepped, ranAfter, rfl⟩, rfl⟩
  · have counted : entriesBefore.length = before.length := by
      rw [steps_length ranBefore, List.length_map]
    intro position other seen
    rw [← counted]
    rcases List.getElem?_middle seen with ⟨same, rfl⟩ | ⟨apart, inside⟩
    · exact ⟨⟨fun _ => same, fun _ => foundValue.finds⟩, fun _ => foundValue⟩
    · have nothing : other.reply.finds = false := by
        rcases inside with inBefore | inAfter
        · exact nothingBefore other inBefore
        · exact nothingAfter other inAfter
      rw [nothing]
      exact ⟨⟨fun finds => absurd finds Bool.false_ne_true, fun same => absurd same apart⟩,
        fun same => absurd same apart⟩

/-- The union in the register has one active alternative, and all that asks for it or gets at it
agrees on which one it is and on its value. -/
structure ActiveAlone (types : List Ty) (state : State Tagged) (register : Register) (union : Choice) :
    Prop where
  below : union.index < (arity types).toNat
  index : StepShows types (.index (some register)) state (.number union.index) state []
  typeName : ∃ type, typeAt? types union.index = some type ∧
    StepShows types (.typeName (some register)) state (.text type.qualifiedName) state []
  test : ∀ position < (arity types).toNat,
    StepShows types (.test (.position position) (some register)) state
      (.truth (position == union.index)) state []
  attempt : ∀ (attempt : Attempt) index, attempt.index? types = some index → attempt.Supplied types →
    ∃ entry next, step .tagged types (attempt.op register) state = .ok (entry, next) ∧
      (entry.reply.finds = true ↔ index = union.index) ∧
      (index = union.index → ∃ content, next.content register = content.map Choice.stored ∧
        attempt.Found types union entry.reply content)
  attempts : ∀ attempts : List Attempt,
    (attempts.map (Attempt.index? types)).Perm ((List.range types.length).map some) →
    (∀ attempt ∈ attempts, attempt.givesBack = true) →
    (∀ attempt ∈ attempts, attempt.Supplied types) → FindOnce types state register union attempts

/-- In every reachable state each union has exactly one active alternative, also in a list with
repeated types. The index, the name of the type, the tests and all ways to get at the value agree
on it, and trying all alternatives in any order finds the value once. -/
theorem one_active_alternative (types : List Ty) (program : List (Op Ty)) :
    ∃ entries, ∃ state : State Tagged,
      steps .tagged types program (State.initial types) = .ok (entries, state) ∧
      ∀ register held, state.content register = some held →
        ∃ union, state.Holds types register union ∧ ActiveAlone types state register union := by
  obtain ⟨entries, state, tagged, -, typed⟩ := steps_initial types program
  refine ⟨entries, state.stored, tagged, ?_⟩
  intro register stored storedHeld
  obtain ⟨union, held, -⟩ := State.exists_held storedHeld
  have presents := presents_stored typed held
  have unionTyped := typed.registers register union held
  obtain ⟨type, short, found, -⟩ := unionTyped.found
  have counted : (arity types).toNat = types.length :=
    toNat_arity (short.trans_lt (by decide))
  refine ⟨union, typed.holds_iff.mpr held, ?_⟩
  constructor
  · rw [counted]
    exact typeAt?_lt found
  · exact presents.index
  · exact presents.typeName
  · intro position below
    rw [counted] at below
    have listed : typeAt? types position = some types[position] := by
      rw [typeAt?_eq_getElem?, List.getElem?_eq_getElem below]
    exact presents.test _ _ position (Selector.find?_position listed)
  · intro attempt index tried supplied
    exact attempt_finds_iff typed held tried supplied
  · intro attempts each givesBack supplied
    exact attempts_find_once typed held each givesBack supplied

end Machine

end TaggedUnion
