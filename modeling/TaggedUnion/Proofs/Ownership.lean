import TaggedUnion.Proofs.Identities
import TaggedUnion.Proofs.Refinement

/-!
# Ownership of tracked leaves

The ledger can follow the log of every run, and its live identities are at each point the ones in
the registers. So no identity is lost and none is held twice, and at the end of a run each one that
came to life was dropped exactly once.
-/

set_option autoImplicit false

namespace TaggedUnion

/-! ## The ledger of registers -/

/-- The identities in the content of a register. -/
def Choice.idsOf (content : Option Choice) : List Nat := content.elim [] fun union => union.value.ids

theorem Choice.idsOf_none_add (live : Multiset ℕ) : (idsOf none : Multiset ℕ) + live = live :=
  zero_add live

theorem Choice.dropsOf_eq (content : Option Choice) :
    Choice.dropsOf content = (Choice.idsOf content).map .dropped := by
  cases content <;> rfl

/-- The identities in all registers. -/
def State.ids (state : State Choice) : Multiset ℕ := state.registers.toList.flatMap Choice.idsOf

theorem Choice.idsOf_between (before after : List (Option Choice)) (content : Option Choice) :
    ((before ++ content :: after).flatMap idsOf : Multiset ℕ) =
      idsOf content + (before.flatMap idsOf + after.flatMap idsOf : Multiset ℕ) := by
  rw [List.flatMap_append, List.flatMap_cons, ← Multiset.coe_add, ← Multiset.coe_add, add_left_comm]

namespace State

variable {state : State Choice} {register : Register} {union : Choice}

/-- Overwriting a register replaces its identities and leaves the others in place. -/
theorem ids_split (state : State Choice) (register : Register) :
    ∃ others : Multiset ℕ, state.ids = Choice.idsOf (state.content register) + others ∧
      ∀ held, (state.put register held).ids = Choice.idsOf held + others := by
  have inside : register.val < state.registers.toList.length := by simp
  have held : state.registers.toList[register.val] = state.content register :=
    Vector.getElem_toList inside
  refine ⟨(state.registers.toList.take register).flatMap Choice.idsOf +
    (state.registers.toList.drop (register + 1)).flatMap Choice.idsOf, ?_, fun content => ?_⟩
  · have split : state.registers.toList = state.registers.toList.take register ++
        state.content register :: state.registers.toList.drop (register + 1) := by
      rw [← held, List.getElem_cons_drop, List.take_append_drop]
    exact (congrArg (fun contents => (contents.flatMap Choice.idsOf : Multiset ℕ)) split).trans
      (Choice.idsOf_between ..)
  · rw [ids, put, Vector.toList_set, List.set_eq_take_append_cons_drop, if_pos inside]
    exact Choice.idsOf_between ..

/-- A union that comes into a register is held from then on, and what was there is dropped. -/
theorem put_keeps (state : State Choice) (register : Register) (held : Option Choice) (next : ℕ) :
    Keeps (Choice.idsOf held + state.ids) next (Choice.dropsOf (state.content register))
      (state.put register held).ids next := by
  obtain ⟨others, before, after⟩ := state.ids_split register
  have dropped := (Keeps.drops next (Choice.idsOf (state.content register))).frame
    (Choice.idsOf held + others)
  rw [zero_add, add_left_comm] at dropped
  rw [before, after, Choice.dropsOf_eq]
  exact dropped

theorem ids_take (held : state.content register = some union) :
    state.ids = union.value.ids + (state.put register none).ids := by
  obtain ⟨others, before, after⟩ := state.ids_split register
  rw [before, after, held]
  exact congrArg _ (zero_add others).symm

theorem mem_ids (held : state.content register = some union) {id : ℕ} (member : id ∈ union.value.ids) :
    id ∈ state.ids := by
  rw [ids_take held]
  exact Multiset.mem_add.mpr (.inl member)

theorem ids_swap (state : State Choice) (first second : Register) :
    ((state.put first (state.content second)).put second (state.content first)).ids = state.ids := by
  obtain ⟨others, before, after⟩ := state.ids_split first
  obtain ⟨others', before', after'⟩ := (state.put first (state.content second)).ids_split second
  have kept : (state.put first (state.content second)).content second = state.content second := by
    by_cases same : first = second
    · subst same
      exact content_put_self state
    · exact content_put_of_ne state same
  rw [after, kept] at before'
  have rest : others = others' := add_left_cancel before'
  rw [after', before, rest]

end State

/-- What an operation logs turns the identities in the registers before it into those after it. -/
theorem Effect.keeps {types : List Ty} {state next : State Choice} {op : Op Ty} {events : List Event}
    (effect : Effect types state op next events) :
    Keeps state.ids state.nextId events next.ids next.nextId := by
  cases effect with
  | still => exact .nil
  | @misread _ type literal unread =>
      have keeps := (Literal.keepsRules.read type state.nextId literal).frame state.ids
      rwa [unread, zero_add, Datum.idsOf?_none_add] at keeps
  | @built _ register index made supply =>
      have supplied := supply.keeps.frame state.ids
      rw [zero_add] at supplied
      exact supplied.append (state.put_keeps register (some ⟨index, made.value⟩) made.nextId)
  | @declined _ made supply =>
      have supplied := supply.keeps.frame state.ids
      have dropped := (Keeps.drops made.nextId made.value.ids).frame state.ids
      rw [zero_add] at supplied dropped
      exact supplied.append dropped
  | @edited _ register index mode old made held supply =>
      obtain ⟨others, before, after⟩ := state.ids_split register
      have supplied := supply.keeps.frame state.ids
      have edited := (Datum.edit_keeps mode old made.value made.nextId).frame others
      rw [zero_add, before, held, ← add_assoc, add_comm (made.value.ids : Multiset ℕ)] at supplied
      have together : Keeps state.ids state.nextId (made.events ++ (old.edit mode made.value).events)
          (state.put register (some ⟨index, (old.edit mode made.value).value⟩)).ids made.nextId := by
        rw [before, after, held]
        exact supplied.append edited
      exact together
  | @emptied _ register union held =>
      have dropped := state.put_keeps register none state.nextId
      rwa [held, Choice.idsOf_none_add] at dropped
  | @moved _ source target union held =>
      have put := (state.put source none).put_keeps target (some union) state.nextId
      rw [State.ids_take held]
      exact put
  | @swapped _ first second =>
      rw [State.ids_swap]
      exact .nil
  | @cloned _ source target union held =>
      have copied : Keeps state.ids state.nextId (union.clone state.nextId).events
          (List.range' state.nextId union.value.ids.length + state.ids)
          (union.clone state.nextId).nextId :=
        .clones fun _ member => State.mem_ids held member
      have put := state.put_keeps target (some (union.clone state.nextId).value)
        (union.clone state.nextId).nextId
      have fresh : Choice.idsOf (some (union.clone state.nextId).value) =
          List.range' state.nextId union.value.ids.length := union.value.ids_renumber state.nextId
      rw [fresh] at put
      exact copied.append put
  | @compared _ left right union union' held held' =>
      refine .compares fun event member => ?_
      have among : (union.compare union').Among union.value.ids union'.value.ids := by
        unfold Choice.compare
        split
        · exact union.value.compare_among union'.value
        · exact Verdict.quiet_among
      obtain ⟨id, inLeft, id', inRight, same⟩ := among event member
      exact ⟨id, State.mem_ids held inLeft, id', State.mem_ids held' inRight, same⟩
  | @hashed _ register union held => exact .hashes fun _ member => State.mem_ids held member
  | installed => exact .nil
  | dispatched _ ran => exact Choice.dispatch_keeps ran _ _
  | freshened => exact .nil
  | filled => exact .nil

/-! ## The identities in tagged storage -/

mutual

/-- The identities of the tracked leaves in a value, from left to right. -/
def Stored.ids : Stored → List Nat
  | .leaf value => value.ids
  | .list items => Stored.allIds items
  | .none => []
  | .some content => content.ids
  | .pair first second => first.ids ++ second.ids
  | .record _ content => content.ids
  | .variant _ storage => storage.ids

def Stored.allIds : List Stored → List Nat
  | [] => []
  | item :: items => item.ids ++ Stored.allIds items

/-- The identities in the data of a chain. -/
def Chain.ids : Chain → List Nat
  | .data value => value.ids
  | .next rest => rest.ids

end

/-- The identities in the unions that the registers hold. -/
def State.heldIds (state : State Tagged) : List Nat :=
  state.registers.toList.flatMap fun content => content.elim [] fun union => union.storage.ids

theorem Chain.ids_place (index : Nat) (value : Stored) : (place index value).ids = value.ids := by
  induction index with
  | zero => rfl
  | succ index ih => exact ih

namespace Stored

mutual

theorem ids_ofDatum : (value : Datum) → (ofDatum value).ids = value.ids
  | .leaf _ => rfl
  | .list items => allIds_ofData items
  | .none => rfl
  | .some content => ids_ofDatum content
  | .pair first second => by
      simp only [ofDatum, ids, Datum.ids, ids_ofDatum first, ids_ofDatum second]
  | .record _ content => ids_ofDatum content
  | .variant index content => (Chain.ids_place index (ofDatum content)).trans (ids_ofDatum content)

theorem allIds_ofData : (items : List Datum) → allIds (ofData items) = Datum.allIds items
  | [] => rfl
  | item :: items => by
      simp only [ofData, allIds, Datum.allIds, ids_ofDatum item, allIds_ofData items]

end

end Stored

theorem State.heldIds_stored (state : State Choice) :
    (state.stored.heldIds : Multiset ℕ) = state.ids := by
  have each : ∀ content : Option Choice, (content.map Choice.stored).elim [] (fun union => union.storage.ids) =
      Choice.idsOf content := by
    intro content
    cases content with
    | none => rfl
    | some union => exact (Chain.ids_place _ _).trans (Stored.ids_ofDatum union.value)
  unfold State.heldIds State.stored State.ids
  rw [Vector.toList_map, List.flatMap_map]
  simp only [each]

/-! ## The ledger of a run -/

/-- The whole log of a run. -/
def Transcript.log (transcript : Transcript) : List Event :=
  transcript.entries.flatMap Entry.events ++ transcript.final

namespace Machine

variable {types : List Ty}

theorem steps_keeps {program : List (Op Ty)} {state last : State Choice} {entries : List Entry}
    (ran : steps .plain types program state = .ok (entries, last)) :
    Keeps state.ids state.nextId (entries.flatMap Entry.events)
      last.ids last.nextId := by
  induction program generalizing state entries with
  | nil =>
      cases ran
      exact .nil
  | cons op program ih =>
      obtain ⟨entry, next, rest, stepped, remaining, rfl⟩ := steps_cons_ok_iff.mp ran
      obtain ⟨outcome, performed, rfl, rfl⟩ := step_ok_iff.mp stepped
      exact (perform_effect types op state outcome performed).keeps.append (ih remaining)

theorem dropContents_eq {contents : List (Option Choice)} {events : List Event}
    (dropped : dropContents .plain types contents = .ok events) :
    events = (contents.flatMap Choice.idsOf).map .dropped := by
  induction contents generalizing events with
  | nil =>
      cases dropped
      rfl
  | cons content contents ih =>
      cases content with
      | none => exact ih dropped
      | some union =>
          unfold dropContents at dropped
          cases remaining : dropContents .plain types contents with
          | error fault =>
              rw [remaining] at dropped
              cases dropped
          | ok others =>
              rw [remaining] at dropped
              cases dropped
              rw [ih remaining, List.flatMap_cons, List.map_append]
              rfl

theorem initial_ids : (State.initial types : State Choice).ids = 0 := by
  simp [State.ids, State.initial, Choice.idsOf, Vector.toList_replicate]

theorem steps_accounts {program : List (Op Ty)} {state : State Choice} {entries : List Entry}
    (ran : steps .plain types program (State.initial types) = .ok (entries, state)) :
    Accounts (entries.flatMap Entry.events) state.ids state.nextId := by
  have keeps := steps_keeps ran
  rw [initial_ids] at keeps
  exact Accounts.empty.keep keeps

/-- Tracked leaves are owned exactly once. After every step the identities that came to life and
were not dropped are those in the registers, each in one place. Every birth is of an identity never
used before, and everything else that is logged of identities is logged of live ones. In the whole
log each identity that came to life is dropped exactly once. -/
theorem owned_exactly_once (types : List Ty) (program : List (Op Ty)) :
    ∃ transcript, run .tagged types program = .ok transcript ∧ Log.Orderly transcript.log ∧
      (∀ id ∈ Log.born transcript.log, (Log.ended transcript.log).count id = 1) ∧
      ∀ earlier later, program = earlier ++ later →
        ∃ before after, ∃ state : State Tagged,
          steps .tagged types earlier (State.initial types) = .ok (before, state) ∧
          transcript.entries = before ++ after ∧ state.heldIds.Nodup ∧
          ∀ id, id ∈ state.heldIds ↔ Log.Live (before.flatMap Entry.events) id := by
  obtain ⟨entries, state, tagged, plain, typed⟩ := steps_initial types program
  obtain ⟨final, taggedDrops, plainDrops⟩ := dropContents_stored typed.contents
  rw [← Vector.toList_map] at taggedDrops
  have settled : Keeps state.ids state.nextId final 0 state.nextId :=
    dropContents_eq plainDrops ▸ .drops _ _
  have accounts := (steps_accounts plain).keep settled
  refine ⟨⟨entries, final⟩, run_of_steps tagged taggedDrops, accounts.orderly,
    fun id born => accounts.settled born, ?_⟩
  rintro earlier later rfl
  obtain ⟨before, middle, after, first, -, rfl⟩ := steps_append_ok_iff.mp plain
  obtain ⟨before', middle', tagged', plain', -⟩ := steps_initial types earlier
  cases first.symm.trans plain'
  have books := steps_accounts first
  refine ⟨before, after, middle.stored, tagged', rfl, ?_, fun id => ?_⟩
  · rw [← Multiset.coe_nodup, State.heldIds_stored]
    exact books.nodup
  · rw [← Multiset.mem_coe, State.heldIds_stored]
    exact books.live id

end Machine

end TaggedUnion
