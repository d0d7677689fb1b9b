import TaggedUnion.Proofs.DispatchHistory

/-!
# Access to an alternative that is not active

An access to another alternative than the active one is a mismatch, which names both. However the
access is made, it leaves the registers and the table as they are, and of a value that came with it
only the creation and the drop are logged. Only taking out an alternative that is required empties
its register, and drops what was there.
-/

set_option autoImplicit false

namespace TaggedUnion

open Registry

/-! ## What reading a value does -/

/-- What was read brought its identities to life from left to right, and nothing else was logged. -/
def Made.Creates (nextId : Nat) (made : Made (Option Datum)) : Prop :=
  ∀ value, made.value = some value →
    made.events = value.ids.map .created ∧ made.nextId = nextId + value.ids.length

namespace Literal

theorem readItems_creates {read : Nat → Literal → Made (Option Datum)}
    (part : ∀ nextId item, (read nextId item).Creates nextId) (items : List Literal)
    {done : List Datum} {nextId : Nat} {value : Datum}
    (found : (readItems read done nextId items).value = some value) :
    ∃ rest, value = .list (done ++ rest) ∧
      (readItems read done nextId items).events = (Datum.allIds rest).map .created ∧
      (readItems read done nextId items).nextId = nextId + (Datum.allIds rest).length := by
  induction items generalizing done nextId with
  | nil =>
      cases found
      exact ⟨[], by rw [List.append_nil], rfl, rfl⟩
  | cons item items ih =>
      unfold readItems at found ⊢
      dsimp only at found ⊢
      split at found
      · cases found
      · rename_i first was
        obtain ⟨rest, rfl, events, next⟩ := ih found
        obtain ⟨firstEvents, firstNext⟩ := part nextId item first was
        refine ⟨first :: rest, by rw [List.append_assoc, List.singleton_append], ?_, ?_⟩ <;> dsimp only
        · rw [firstEvents, events, Datum.allIds, List.map_append]
        · rw [next, firstNext, Datum.allIds, List.length_append, Nat.add_assoc]

theorem readAround_creates (whole : Datum → Datum) (same : ∀ value, (whole value).ids = value.ids)
    {nextId : Nat} {part : Made (Option Datum)} (creates : part.Creates nextId) :
    (readAround whole part).Creates nextId := by
  intro value found
  obtain ⟨content, read, rfl⟩ := Option.map_eq_some_iff.mp found
  rw [same]
  exact creates content read

theorem createsRules : ReadingRules fun _ nextId made => made.Creates nextId where
  unread := by intro _ _ _ found; cases found
  leaf _ anonymous _ found := by
    cases found
    simp only [Datum.ids, anonymous]
    exact ⟨rfl, rfl⟩
  tracked _ _ found := by cases found; exact ⟨rfl, rfl⟩
  absent _ _ _ found := by cases found; exact ⟨rfl, rfl⟩
  present := readAround_creates .some fun _ => rfl
  record {label _ _ _} := readAround_creates (.record label) fun _ => rfl
  variant {_ _ index _ _} _ _ := readAround_creates (.variant index) fun _ => rfl
  pair := by
    intro type type' nextId first second firstCreates secondCreates value found
    unfold readPair at found ⊢
    split at found
    · rename_i missing
      rw [missing] at found
      cases found
    · rename_i left leftFound
      dsimp only at found ⊢
      split at found
      · cases found
      · rename_i right rightFound
        cases found
        obtain ⟨leftEvents, leftNext⟩ := firstCreates left leftFound
        obtain ⟨rightEvents, rightNext⟩ := secondCreates first.nextId right rightFound
        constructor
        · rw [leftEvents, rightEvents, Datum.ids, List.map_append]
        · rw [rightNext, leftNext, Datum.ids, List.length_append, Nat.add_assoc]
  list part nextId items value found := by
    obtain ⟨rest, rfl, events, next⟩ := readItems_creates part items found
    exact ⟨events, next⟩

end Literal

/-! ## The reports -/

/-- The report names the alternatives at both indices. -/
structure Mismatch.Between (types : List Ty) (target source : Nat) (report : Mismatch) : Prop where
  requested : (typeAt? types target).map Ty.qualifiedName = some report.requested
  requestedIndex : report.requestedIndex.toNat = target
  active : (typeAt? types source).map Ty.qualifiedName = some report.active
  activeIndex : report.activeIndex.toNat = source

/-- The message names both alternatives, each with its index. -/
theorem Mismatch.message_eq (report : Mismatch) :
    report.message =
      "wrong alternative accessed: requested \x60" ++ report.requested ++ "\x60 (index " ++
        report.requestedIndex.toNat.repr ++ "), but \x60" ++ report.active ++
        "\x60 (index " ++ report.activeIndex.toNat.repr ++ ") is active" := by
  unfold message alternative
  -- The digits are no literals, and evaluating them would not end.
  generalize report.requestedIndex.toNat.repr = requestedDigits
  generalize report.activeIndex.toNat.repr = activeDigits
  have opening : "wrong alternative accessed: requested \x60" =
      "wrong alternative accessed: requested " ++ "\x60" := by decide
  have between : "), but \x60" = ")" ++ ", but " ++ "\x60" := by decide
  have closing : ") is active" = ")" ++ " is active" := by decide
  simp only [opening, between, closing, String.append_assoc]

/-- The reply to an access to an alternative that is not active. -/
def Demand.missed (report : Mismatch) : Demand → Reply
  | .optional => .optional none
  | .checked => .failed (.mismatch report)
  | .required => .failed (.panic (.mismatch report))

variable {types : List Ty} {target : Selector Ty} {type : Ty} {index : Nat} {union : Choice}

namespace Machine

open Procedure

variable {state : State Choice} {register : Register} {report : Mismatch}

theorem mismatch_reports (typed : union.Typed types) (short : index < 256)
    (found : typeAt? types index = some type) :
    ∃ report, report.Between types index union.index ∧
      mismatch .plain types type index union = pure report := by
  obtain ⟨active, below, activeFound, -⟩ := typed.found
  refine ⟨⟨type.qualifiedName, tagOf index, active.qualifiedName, tagOf union.index⟩, ?_, ?_⟩
  · exact ⟨by rw [found]; rfl, toNat_tagOf short, by rw [activeFound]; rfl,
      toNat_tagOf (typeAt?_short below activeFound)⟩
  · have named : Storage.plain.name types union = .ok active.qualifiedName := by
      simp only [Storage.plain, Choice.name, activeFound]
    rw [mismatch, named]
    rfl

theorem missed_reports {past : List Event} (demand : Demand)
    (reports : mismatch .plain types type index union = pure report) :
    (missed .plain types demand type index union).Shows state past (demand.missed report) state past := by
  cases demand with
  | optional => exact .answer ⟨rfl, rfl, rfl⟩
  | checked =>
      rw [missed, reports]
      exact .bind (.answer (.fail ⟨rfl, rfl, rfl⟩))
  | required =>
      rw [missed, reports]
      exact .bind (.answer (.fail ⟨rfl, rfl, rfl⟩))

section

variable (picked : target.find? types = some (type, index))
  (held : state.content register = some union) (inactive : Storage.plain.tag union ≠ tagOf index)
  (reports : mismatch .plain types type index union = pure report)

include picked held inactive reports

theorem read_missed (demand : Demand) :
    (perform .plain types (.read demand target (some register))).Shows state []
      (demand.missed report) state [] := by
  rw [perform, picked]
  refine .bind (.quiet rfl ?_)
  refine .bind (.quiet rfl ?_)
  refine .bind (.occupied held ?_)
  dsimp only
  rw [if_neg inactive]
  exact missed_reports demand reports

theorem edit_missed (demand : Demand) (mode : EditMode) {literal : Literal} {value : Datum}
    (read : (literal.read type state.nextId).value = some value) :
    (perform .plain types (.edit demand mode target (some register) (some literal))).Shows state []
      (demand.missed report) { state with nextId := state.nextId + value.ids.length }
      (value.ids.map .created ++ value.ids.map .dropped) := by
  obtain ⟨created, counted⟩ := Literal.createsRules.read type state.nextId literal value read
  rw [perform, picked]
  refine .bind (.quiet rfl ?_)
  refine .bind (.quiet rfl ?_)
  refine .bind (.occupied held ?_)
  refine .bind (.bind (.quiet rfl (.bind (.make ?_))))
  intro made was
  cases was
  rw [read, created, counted]
  refine .quiet rfl ?_
  dsimp only
  rw [if_neg inactive]
  refine .bind (.quiet rfl (.bind (.log ?_)))
  exact missed_reports demand reports

omit reports in
theorem take_returned :
    (perform .plain types (.take false target (some register))).Shows state [] .returned state [] := by
  rw [perform, picked]
  refine .bind (.quiet rfl ?_)
  refine .bind (.quiet rfl ?_)
  refine .bind (.occupied held ?_)
  dsimp only
  rw [if_neg inactive]
  exact .answer ⟨rfl, rfl, rfl⟩

theorem take_refused :
    (perform .plain types (.take true target (some register))).Shows state []
      (.failed (.panic (.mismatch report))) (state.put register none) union.value.drops := by
  rw [perform, picked]
  refine .bind (.quiet rfl ?_)
  refine .bind (.quiet rfl ?_)
  refine .bind (.occupied held ?_)
  dsimp only
  rw [if_neg inactive, reports]
  refine .bind (.answer ?_)
  refine .bind (.setContent ?_)
  refine .bind (.quiet rfl ?_)
  exact .bind (.log (.fail ⟨rfl, rfl, rfl⟩))

end

/-- How the accesses through a register to an alternative of the type end in the state: each by the
mismatch, and only taking the alternative out where it is required costs the union. -/
structure AccessesMiss (types : List Ty) (state : State Tagged) (register : Register)
    (union : Tagged) (target : Selector Ty) (type : Ty) (report : Mismatch) : Prop where
  read : ∀ demand, step .tagged types (.read demand target (some register)) state =
    .ok (⟨demand.missed report, tags .tagged state, []⟩, state)
  edit : ∀ demand mode literal value, (Literal.read type state.nextId literal).value = some value →
    step .tagged types (.edit demand mode target (some register) (some literal)) state =
      .ok (⟨demand.missed report, tags .tagged state,
          value.ids.map .created ++ value.ids.map .dropped⟩,
        { state with nextId := state.nextId + value.ids.length })
  returned : step .tagged types (.take false target (some register)) state =
    .ok (⟨.returned, tags .tagged state, []⟩, state)
  refused : ∃ value, union.view types = .ok value ∧
    step .tagged types (.take true target (some register)) state =
      .ok (⟨.failed (.panic (.mismatch report)), tags .tagged (state.put register none), value.drops⟩,
        state.put register none)

theorem accessesMiss_stored (typed : state.Typed types) (held : state.content register = some union)
    (picked : target.find? types = some (type, index)) (apart : index ≠ union.index) :
    ∃ report, report.Between types index union.index ∧
      AccessesMiss types state.stored register union.stored target type report := by
  have found := Selector.find?_found picked
  have unionTyped := typed.registers register union held
  obtain ⟨active, short, activeFound, -⟩ := unionTyped.found
  have below := typeAt?_short short found
  have inactive : Storage.plain.tag union ≠ tagOf index := fun same =>
    apart ((tagOf_inj (typeAt?_short short activeFound) below).mp same).symm
  obtain ⟨report, between, reports⟩ := mismatch_reports unionTyped below found
  refine ⟨report, between, ⟨?_, ?_, ?_, ?_⟩⟩
  · intro demand
    exact step_shows typed (read_missed picked held inactive reports demand)
  · intro demand mode literal value read
    exact step_shows typed (edit_missed picked held inactive reports demand mode read)
  · exact step_shows typed (take_returned picked held inactive)
  · have refused := step_shows typed (take_refused picked held inactive reports)
    rw [State.put_stored] at refused
    exact ⟨union.value, unionTyped.view_stored.1, refused⟩

/-- In every reachable state an access to another alternative than the active one, also to one of
the same type, is a mismatch of the two, however the access is made, and panics with a message that
names both. -/
theorem missed_access_atomic (types : List Ty) (program : List (Op Ty)) :
    ∃ entries, ∃ state : State Tagged,
      steps .tagged types program (State.initial types) = .ok (entries, state) ∧
      ∀ register union, state.content register = some union →
        ∀ (target : Selector Ty) (type : Ty) (index : Nat),
          target.find? types = some (type, index) → index ≠ union.tag.toNat →
            ∃ report, report.Between types index union.tag.toNat ∧
              (Panic.mismatch report).message =
                "wrong alternative accessed: requested \x60" ++ report.requested ++ "\x60 (index " ++
                  report.requestedIndex.toNat.repr ++ "), but \x60" ++ report.active ++
                  "\x60 (index " ++ report.activeIndex.toNat.repr ++ ") is active" ∧
              AccessesMiss types state register union target type report := by
  obtain ⟨entries, state, tagged, -, typed⟩ := steps_initial types program
  refine ⟨entries, state.stored, tagged, ?_⟩
  intro register union held target type index picked apart
  rw [state.content_stored] at held
  obtain ⟨choice, chosen, rfl⟩ := Option.map_eq_some_iff.mp held
  obtain ⟨-, counted⟩ := (typed.registers register choice chosen).view_stored
  rw [counted] at apart ⊢
  obtain ⟨report, between, miss⟩ := accessesMiss_stored typed chosen picked apart
  exact ⟨report, between, report.message_eq, miss⟩

end Machine

end TaggedUnion
