import TaggedUnion.Proofs.DispatchHistory
import TaggedUnion.Proofs.Frame
import TaggedUnion.Proofs.Numbering

/-!
# Operations from an echo of a state

One state echoes another in some registers if it holds there the same unions up to a renaming. From
the echo an operation on these registers does what it does from the state, up to the renaming,
whatever the other registers hold and whichever identity is the first free one: it answers the same,
logs the same and leaves an echo behind.
-/

set_option autoImplicit false

namespace TaggedUnion

open Registry

def Reply.rename (name : Nat → Nat) : Reply → Reply
  | .value found => .value (found.rename name)
  | .optional found => .optional (found.map (Datum.rename name))
  | .ok found => .ok (found.rename name)
  | reply => reply

/-- In the registers the second state holds what the first one holds, renamed. -/
def State.Echoes (name : Nat → Nat) (inside : Register → Prop) (state echo : State Choice) : Prop :=
  ∀ register, inside register →
    echo.content register = (state.content register).map (Choice.rename name)

namespace Procedure

variable {name : Nat → Nat} {inside : Register → Prop} {Answer Next : Type}

/-- From every echo the second procedure does what the first does from the state, if the renaming
counts the new identities along. -/
def Echoes (name : Nat → Nat) (inside : Register → Prop) (change : Answer → Answer)
    (procedure other : Procedure Choice Answer) : Prop :=
  ∀ state outcome, procedure state = .ok outcome →
    state.nextId ≤ outcome.state.nextId ∧
      ∀ echo, State.Echoes name inside state echo →
        Numbers name state.nextId outcome.state.nextId echo.nextId →
          ∃ next, other echo = .ok ⟨outcome.answer.map change, next,
              outcome.events.map (Event.rename name)⟩ ∧
            State.Echoes name inside outcome.state next ∧
            next.nextId = echo.nextId + (outcome.state.nextId - state.nextId)

namespace Echoes

variable {change : Answer → Answer} {results : Next → Next}

theorem bind {first other : Procedure Choice Answer} {next next' : Answer → Procedure Choice Next}
    (part : Echoes name inside change first other)
    (rest : ∀ value, Echoes name inside results (next value) (next' (change value))) :
    Echoes name inside results (first >>= next) (other >>= next') := by
  intro state outcome ran
  simp only [bind_eq_andThen, andThen] at ran
  split at ran
  · cases ran
  · rename_i failure middle events failed
    cases ran
    obtain ⟨later, echoed⟩ := part state _ failed
    refine ⟨later, fun echo echoes numbers => ?_⟩
    obtain ⟨reached, ran, both, counted⟩ := echoed echo echoes numbers
    refine ⟨reached, ?_, both, counted⟩
    simp only [bind_eq_andThen, andThen, ran, Except.map]
  · rename_i value middle events answered
    split at ran
    · cases ran
    · rename_i last followed
      cases ran
      obtain ⟨later, echoed⟩ := part state _ answered
      obtain ⟨later', echoed'⟩ := rest value middle last followed
      refine ⟨later.trans later', fun echo echoes numbers => ?_⟩
      obtain ⟨reached, ran, both, counted⟩ := echoed echo echoes (numbers.left later')
      have numbers' : Numbers name middle.nextId last.state.nextId reached.nextId :=
        counted ▸ numbers.right later
      obtain ⟨reached', ran', both', counted'⟩ := echoed' reached both numbers'
      refine ⟨reached', ?_, both', ?_⟩
      · simp only [bind_eq_andThen, andThen, ran, Except.map, ran', List.map_append]
      · dsimp only at later later' counted ⊢
        omega

/-- A part in which there is nothing to rename. -/
theorem same {first other : Procedure Choice Answer} {next next' : Answer → Procedure Choice Next}
    (part : Echoes name inside id first other)
    (rest : ∀ value, Echoes name inside results (next value) (next' value)) :
    Echoes name inside results (first >>= next) (other >>= next') :=
  bind part rest

/-- A part that neither changes the state nor logs. -/
theorem still {procedure other : Procedure Choice Answer} {answer : Except Failure Answer}
    (ran : ∀ state, procedure state = .ok ⟨answer, state, []⟩)
    (ran' : ∀ state, other state = .ok ⟨answer.map change, state, []⟩) :
    Echoes name inside change procedure other := by
  intro state outcome was
  cases (ran state).symm.trans was
  refine ⟨Nat.le_refl _, fun echo echoes _ => ⟨echo, ran' echo, echoes, ?_⟩⟩
  rw [Nat.sub_self, Nat.add_zero]

theorem answer {value other : Answer} (changed : other = change value) :
    Echoes name inside change (pure value) (pure other) :=
  still (fun _ => rfl) fun _ => by rw [changed]; rfl

theorem fail {cause : Failure} : Echoes name inside change (Procedure.fail cause) (Procedure.fail cause) :=
  still (fun _ => rfl) fun _ => rfl

theorem orFail {cause : Failure} {value other : Option Answer} (changed : other = value.map change) :
    Echoes name inside change (Procedure.orFail cause value) (Procedure.orFail cause other) := by
  subst changed
  cases value with
  | none => exact fail
  | some value => exact answer rfl

/-- What is given with the operation is the same for both. -/
theorem given {cause : Failure} {value : Option Answer} {next next' : Answer → Procedure Choice Next}
    (rest : ∀ found, value = some found → Echoes name inside results (next found) (next' found)) :
    Echoes name inside results (Procedure.orFail cause value >>= next)
      (Procedure.orFail cause value >>= next') := by
  cases value with
  | none => exact fail
  | some value =>
      have skip (next : Answer → Procedure Choice Next) :
          Procedure.orFail cause (some value) >>= next = next value := answer_andThen value next
      rw [skip, skip]
      exact rest value rfl

theorem orFault {result other : Except Fault Answer}
    (changed : ∀ value, result = .ok value → other = .ok (change value)) :
    Echoes name inside change (Procedure.orFault result) (Procedure.orFault other) := by
  cases result with
  | error fault => exact nofun
  | ok value =>
      rw [changed value rfl]
      exact answer rfl

theorem log (events : List Event) :
    Echoes name inside id (Procedure.log events) (Procedure.log (events.map (Event.rename name))) := by
  intro state outcome ran
  cases ran
  refine ⟨Nat.le_refl _, fun echo echoes _ => ⟨echo, rfl, echoes, ?_⟩⟩
  rw [Nat.sub_self, Nat.add_zero]

theorem make {making other : Nat → Except Fault (Made Answer)}
    (changed : ∀ first made, making first = .ok made → first ≤ made.nextId ∧
      ∀ start, Numbers name first made.nextId start →
        other start = .ok ⟨change made.value, start + (made.nextId - first),
          made.events.map (Event.rename name)⟩) :
    Echoes name inside change (Procedure.make making) (Procedure.make other) := by
  intro state outcome ran
  unfold Procedure.make at ran
  split at ran
  · cases ran
  · rename_i made was
    cases ran
    obtain ⟨later, renamed⟩ := changed state.nextId made was
    refine ⟨later, fun echo echoes numbers => ?_⟩
    refine ⟨{ echo with nextId := echo.nextId + (made.nextId - state.nextId) }, ?_, echoes, rfl⟩
    simp only [Procedure.make, renamed echo.nextId numbers]
    rfl

/-- Making that never comes to a fault. -/
theorem makeOk {making other : Nat → Made Answer} (numbered : Numbered name change making other) :
    Echoes name inside change (Procedure.make fun nextId => .ok (making nextId))
      (Procedure.make fun nextId => .ok (other nextId)) := by
  apply make
  intro first made was
  cases was
  obtain ⟨later, renamed⟩ := numbered first
  exact ⟨later, fun start numbers => congrArg Except.ok (renamed start numbers)⟩

variable {register : Register}

theorem content? (within : inside register) :
    Echoes name inside (Option.map (Choice.rename name)) (Procedure.content? register)
      (Procedure.content? register) := by
  intro state outcome ran
  cases ran
  refine ⟨Nat.le_refl _, fun echo echoes _ => ⟨echo, ?_, echoes, ?_⟩⟩
  · have held : echo.registers[register] = (state.registers[register]).map (Choice.rename name) :=
      echoes register within
    simp only [Procedure.content?, held]
    rfl
  · rw [Nat.sub_self, Nat.add_zero]

theorem content (within : inside register) :
    Echoes name inside (Choice.rename name) (Procedure.content register) (Procedure.content register) :=
  bind (content? within) fun _ => orFail rfl

theorem setContent (register : Register) (held : Option Choice) :
    Echoes name inside id (Procedure.setContent register held)
      (Procedure.setContent register (held.map (Choice.rename name))) := by
  intro state outcome ran
  cases ran
  refine ⟨Nat.le_refl _, fun echo echoes _ => ?_⟩
  refine ⟨echo.put register (held.map (Choice.rename name)), rfl, ?_, ?_⟩
  · intro other within
    change (echo.put register _).content other = ((state.put register held).content other).map _
    by_cases same : register = other
    · subst same
      rw [State.content_put_self, State.content_put_self]
    · rw [State.content_put_of_ne _ same, State.content_put_of_ne _ same, echoes other within]
  · show echo.nextId = echo.nextId + (state.nextId - state.nextId)
    rw [Nat.sub_self, Nat.add_zero]

end Echoes

end Procedure

namespace Machine

open Procedure

variable {name : Nat → Nat} {inside : Register → Prop} {types : List Ty}

theorem offered_echoes {Next : Type} {results : Next → Next} {condition : Bool}
    {next next' : Unit → Procedure Choice Next}
    (rest : Echoes name inside results (next ()) (next' ())) :
    Echoes name inside results (offered condition >>= next) (offered condition >>= next') := by
  cases condition with
  | false => exact .fail
  | true => exact .same (.answer rfl) fun _ => rest

theorem readValue_echoes (type : Ty) (value : Option Literal) :
    Echoes name inside (Datum.rename name) (readValue type value) (readValue type value) := by
  apply Echoes.given
  intro literal _
  exact .bind (.makeOk (Literal.read_alike type literal)) fun _ => .orFail rfl

theorem convertValue_echoes (conversion : Conversion) (value : Datum) :
    Echoes name inside (Datum.rename name) (convertValue conversion value)
      (convertValue conversion (value.rename name)) := by
  apply Echoes.make
  intro first made was
  split at was
  · rename_i made converted
    cases was
    obtain ⟨later, renamed⟩ := Conversion.convert?_rename converted
    refine ⟨later, fun start numbers => ?_⟩
    rw [renamed start numbers]
  · cases was

theorem replaceContent_echoes {register : Register} (within : inside register) (union : Choice) :
    Echoes name inside id (replaceContent .plain types register union)
      (replaceContent .plain types register (union.rename name)) := by
  apply Echoes.bind (.content? within)
  intro old
  apply Echoes.same (.setContent register (some union))
  intro _
  cases old with
  | none => exact .answer rfl
  | some old =>
      apply Echoes.bind (.orFault fun events was => ?_) fun events => .log events
      cases was
      exact congrArg Except.ok old.value.drops_rename

/-- Building the union that holds a value that is read. -/
theorem build_echoes {type : Ty} {value : Option Literal} {index : Nat} {register : Register}
    (within : inside register) :
    Echoes name inside (Reply.rename name)
      (do
        let value ← readValue type value
        replaceContent .plain types register (Storage.plain.place index (Storage.plain.hold value))
        return Reply.done)
      (do
        let value ← readValue type value
        replaceContent .plain types register (Storage.plain.place index (Storage.plain.hold value))
        return Reply.done) := by
  apply Echoes.bind (readValue_echoes type value)
  intro found
  exact .same (replaceContent_echoes within ⟨index, found⟩) fun _ => .answer rfl

theorem mismatch_echoes (type : Ty) (index : Nat) (union : Choice) :
    Echoes name inside id (mismatch .plain types type index union)
      (mismatch .plain types type index (union.rename name)) := by
  change Echoes name inside id (mismatch .plain types type index union)
    (mismatch .plain types type index union)
  unfold mismatch
  split
  · exact .answer rfl
  · exact .fail

theorem missed_echoes (demand : Demand) (type : Ty) (index : Nat) (union : Choice) :
    Echoes name inside (Reply.rename name) (missed .plain types demand type index union)
      (missed .plain types demand type index (union.rename name)) := by
  cases demand with
  | optional => exact .answer rfl
  | checked | required => exact .same (mismatch_echoes type index union) fun _ => .fail

theorem drop_echoes (union : Choice) :
    Echoes name inside (List.map (Event.rename name)) (orFault (Storage.plain.drop types union))
      (orFault (Storage.plain.drop types (union.rename name))) := by
  apply Echoes.orFault
  intro events was
  cases was
  exact congrArg Except.ok union.value.drops_rename

theorem discard_echoes (type : Ty) (value : Datum) :
    Echoes name inside (List.map (Event.rename name)) (orFault (Storage.plain.discard type value))
      (orFault (Storage.plain.discard type (value.rename name))) :=
  @drop_echoes name inside [] ⟨0, value⟩

theorem view_echoes (type : Ty) (value : Datum) :
    Echoes name inside (Datum.rename name) (orFault (Storage.plain.view type value))
      (orFault (Storage.plain.view type (value.rename name))) := by
  apply Echoes.orFault
  intro viewed was
  cases was
  rfl

theorem get_echoes (index : Nat) (union : Choice) :
    Echoes name inside (Datum.rename name) (orFault (Storage.plain.get index union))
      (orFault (Storage.plain.get index (union.rename name))) := by
  apply Echoes.orFault
  intro value was
  change Choice.get index union = .ok value at was
  unfold Choice.get at was
  split at was
  · rename_i here
    cases was
    exact if_pos here
  · cases was

theorem set_echoes (index : Nat) (value : Datum) (union : Choice) :
    Echoes name inside (Choice.rename name) (orFault (Storage.plain.set index value union))
      (orFault (Storage.plain.set index (value.rename name) (union.rename name))) := by
  apply Echoes.orFault
  intro changed was
  change Choice.set index value union = .ok changed at was
  unfold Choice.set at was
  split at was
  · rename_i here
    cases was
    exact if_pos here
  · cases was

theorem edition_echoes (type : Ty) (mode : EditMode) (old new : Datum) :
    Echoes name inside
      (fun edition => ⟨edition.value.rename name, edition.events.map (Event.rename name)⟩)
      (orFault (Storage.plain.edit type mode old new))
      (orFault (Storage.plain.edit type mode (old.rename name) (new.rename name))) := by
  apply Echoes.orFault
  intro edition was
  cases was
  exact congrArg Except.ok (Datum.edit_rename mode old new)

theorem reportTaken_echoes (type : Ty) (value : Datum) :
    Echoes name inside (Datum.rename name) (reportTaken .plain type value)
      (reportTaken .plain type (value.rename name)) := by
  apply Echoes.bind (view_echoes type value)
  intro reported
  apply Echoes.bind (discard_echoes type value)
  intro events
  exact .same (.log events) fun _ => .answer rfl

theorem take_echoes {required : Bool} {target : Selector Ty} {named : Option Register}
    (covered : ∀ register, named = some register → inside register) :
    Echoes name inside (Reply.rename name) (perform .plain types (.take required target named))
      (perform .plain types (.take required target named)) := by
  apply Echoes.given
  intro ⟨type, index⟩ _
  apply Echoes.given
  intro register here
  apply Echoes.bind (.content (covered register here))
  intro union
  change Echoes name inside _ (if tagOf union.index = tagOf index then _ else _)
    (if tagOf union.index = tagOf index then _ else _)
  split
  · apply Echoes.bind (get_echoes index union)
    intro value
    apply Echoes.same (.setContent register none)
    intro _
    apply Echoes.bind (reportTaken_echoes type value)
    intro reported
    exact .answer (by cases required <;> rfl)
  · cases required with
    | false => exact .answer rfl
    | true =>
        apply Echoes.same (mismatch_echoes type index union)
        intro report
        apply Echoes.same (.setContent register none)
        intro _
        apply Echoes.bind (drop_echoes union)
        intro events
        exact .same (.log events) fun _ => .fail

theorem edit_echoes {demand : Demand} {mode : EditMode} {target : Selector Ty} {named : Option Register}
    {literal : Option Literal} (covered : ∀ register, named = some register → inside register) :
    Echoes name inside (Reply.rename name)
      (perform .plain types (.edit demand mode target named literal))
      (perform .plain types (.edit demand mode target named literal)) := by
  apply Echoes.given
  intro ⟨type, index⟩ _
  apply Echoes.given
  intro register here
  apply Echoes.bind (.content (covered register here))
  intro union
  apply Echoes.bind (readValue_echoes type literal)
  intro value
  change Echoes name inside _ (if tagOf union.index = tagOf index then _ else _)
    (if tagOf union.index = tagOf index then _ else _)
  split
  · apply Echoes.bind (get_echoes index union)
    intro old
    apply Echoes.bind (edition_echoes type mode old value)
    intro edition
    apply Echoes.same (.log edition.events)
    intro _
    apply Echoes.bind (set_echoes index edition.value union)
    intro changed
    apply Echoes.same (.setContent register (some changed))
    intro _
    apply Echoes.bind (view_echoes type edition.value)
    intro viewed
    exact .answer (by cases demand <;> rfl)
  · apply Echoes.bind (discard_echoes type value)
    intro events
    exact .same (.log events) fun _ => missed_echoes demand type index union

theorem comparison_echoes (left right : Choice) :
    Echoes name inside (Verdict.rename name) (orFault (Storage.plain.compare types left right))
      (orFault (Storage.plain.compare types (left.rename name) (right.rename name))) := by
  apply Echoes.orFault
  intro verdict was
  cases was
  exact congrArg Except.ok (Choice.compare_rename left right)

theorem hash_echoes (union : Choice) :
    Echoes name inside (fun hashed => ⟨hashed.bytes, hashed.events.map (Event.rename name)⟩)
      (orFault (Storage.plain.hash types union))
      (orFault (Storage.plain.hash types (union.rename name))) := by
  apply Echoes.orFault
  intro hashed was
  cases was
  simp only [Storage.plain, Choice.hash, Choice.rename, Datum.hashBytes_rename, Datum.hashes_rename]

theorem textFor_echoes {audience : Audience} (texts : audience = .inspection → name = id) (style : Style)
    (union : Choice) :
    Echoes name inside id (orFault (textFor .plain types audience style union))
      (orFault (textFor .plain types audience style (union.rename name))) := by
  apply Echoes.orFault
  intro text was
  cases audience with
  | readers =>
      cases was
      exact congrArg Except.ok (union.value.display_rename style)
  | inspection =>
      cases was
      have same : union.value.rename name = union.value := by
        apply Datum.rename_eq_self
        intro id _
        rw [texts rfl]
        rfl
      exact congrArg (fun value : Datum => Except.ok (value.debug style)) same

/-- Every operation that is not one on handlers echoes itself, but for a text with identities. -/
theorem perform_echoes {op : Op Ty} (covered : ∀ register, op.names register = true → inside register)
    (apart : op.onHandlers = false)
    (texts : ∀ named style, op = .render .inspection named style → name = id) :
    Echoes name inside (Reply.rename name) (perform .plain types op) (perform .plain types op) := by
  have covers {named : Option Register}
      (all : ∀ register, (named == some register) = true → inside register) :
      ∀ register, named = some register → inside register :=
    fun register given => all register (beq_iff_eq.mpr given)
  have coversFirst {source target : Option Register}
      (all : ∀ register, (source == some register || target == some register) = true → inside register) :
      ∀ register, source = some register → inside register :=
    fun register given => all register (Bool.or_eq_true_iff.mpr (.inl (beq_iff_eq.mpr given)))
  have coversSecond {source target : Option Register}
      (all : ∀ register, (source == some register || target == some register) = true → inside register) :
      ∀ register, target = some register → inside register :=
    fun register given => all register (Bool.or_eq_true_iff.mpr (.inr (beq_iff_eq.mpr given)))
  cases op with
  | construct target named value | constructText named value | wrap named value =>
      apply Echoes.given
      intro picked _
      apply Echoes.given
      intro register here
      exact build_echoes (covers covered register here)
  | convert target source named value =>
      apply Echoes.given
      intro picked _
      apply Echoes.given
      intro conversion _
      apply Echoes.given
      intro register here
      apply Echoes.bind (readValue_echoes source value)
      intro found
      apply Echoes.bind (convertValue_echoes conversion found)
      intro image
      apply Echoes.same (replaceContent_echoes (covers covered register here) ⟨picked.2, image⟩)
      exact fun _ => .answer rfl
  | unwrap named =>
      apply Echoes.given
      intro type _
      apply Echoes.given
      intro register here
      apply Echoes.bind (.content (covers covered register here))
      intro union
      apply Echoes.bind (get_echoes 0 union)
      intro value
      apply Echoes.same (.setContent register none)
      intro _
      apply Echoes.bind (reportTaken_echoes type value)
      intro reported
      exact .answer rfl
  | test target named =>
      apply Echoes.given
      intro picked _
      apply Echoes.given
      intro register here
      exact .bind (.content (covers covered register here)) fun union => .answer rfl
  | read demand target named =>
      apply Echoes.given
      intro ⟨type, index⟩ _
      apply Echoes.given
      intro register here
      apply Echoes.bind (.content (covers covered register here))
      intro union
      change Echoes name inside _ (if tagOf union.index = tagOf index then _ else _)
        (if tagOf union.index = tagOf index then _ else _)
      split
      · apply Echoes.bind (get_echoes index union)
        intro value
        apply Echoes.bind (view_echoes type value)
        intro viewed
        exact .answer (by cases demand <;> rfl)
      · exact missed_echoes demand type index union
  | edit demand mode target named literal => exact edit_echoes (covers covered)
  | take required target named => exact take_echoes (covers covered)
  | locate target =>
      apply Echoes.given
      intro index _
      exact .answer rfl
  | typeAt index =>
      apply Echoes.given
      intro type _
      exact .answer rfl
  | index named =>
      apply Echoes.given
      intro register here
      exact .bind (.content (covers covered register here)) fun union => .answer rfl
  | typeName named =>
      apply Echoes.given
      intro register here
      apply Echoes.bind (.content (covers covered register here))
      intro union
      have same : Storage.plain.name types (union.rename name) = Storage.plain.name types union := rfl
      rw [same]
      cases Storage.plain.name types union with
      | error rest => exact .fail
      | ok name => exact .answer rfl
  | arity => exact .answer rfl
  | nameOfTag tag =>
      apply Echoes.given
      intro tag _
      cases nameAt types tag with
      | error rest => exact .fail
      | ok name => exact .answer rfl
  | drop named =>
      apply Echoes.given
      intro register here
      apply Echoes.bind (.content (covers covered register here))
      intro union
      apply Echoes.same (.setContent register none)
      intro _
      apply Echoes.bind (drop_echoes union)
      intro events
      exact .same (.log events) fun _ => .answer rfl
  | move source target =>
      apply Echoes.given
      intro first givenFirst
      apply Echoes.given
      intro second givenSecond
      apply Echoes.bind (.content (coversFirst covered first givenFirst))
      intro union
      apply Echoes.same (.setContent first none)
      intro _
      exact .same (replaceContent_echoes (coversSecond covered second givenSecond) union) fun _ => .answer rfl
  | swap left right =>
      apply Echoes.given
      intro first givenFirst
      apply Echoes.given
      intro second givenSecond
      apply Echoes.bind (.content? (coversFirst covered first givenFirst))
      intro held
      apply Echoes.bind (.content? (coversSecond covered second givenSecond))
      intro held'
      apply Echoes.same (.setContent first held')
      intro _
      exact .same (.setContent second held) fun _ => .answer rfl
  | clone source target =>
      apply Echoes.given
      intro first givenFirst
      apply Echoes.given
      intro second givenSecond
      apply Echoes.bind (.content (coversFirst covered first givenFirst))
      intro union
      apply Echoes.bind (.makeOk union.clone_numbered)
      intro copy
      exact .same (replaceContent_echoes (coversSecond covered second givenSecond) copy) fun _ => .answer rfl
  | compare negated left right =>
      apply Echoes.given
      intro first givenFirst
      apply Echoes.bind (.content (coversFirst covered first givenFirst))
      intro union
      apply Echoes.given
      intro second givenSecond
      apply Echoes.bind (.content (coversSecond covered second givenSecond))
      intro union'
      apply Echoes.bind (comparison_echoes union union')
      intro verdict
      exact .same (.log verdict.events) fun _ => .answer rfl
  | hash named =>
      apply offered_echoes
      apply Echoes.given
      intro register here
      apply Echoes.bind (.content (covers covered register here))
      intro union
      apply Echoes.bind (hash_echoes union)
      intro hashed
      exact .same (.log hashed.events) fun _ => .answer rfl
  | render audience named style =>
      apply offered_echoes
      apply Echoes.given
      intro register here
      apply Echoes.bind (.content (covers covered register here))
      intro union
      apply Echoes.given
      intro form given
      exact .same (textFor_echoes (fun inspects => texts named style (inspects ▸ rfl)) form union)
        fun _ => .answer rfl
  | unknown => exact .fail
  | dispatch register =>
      apply Echoes.given
      intro here given
      subst given
      cases apart
  | install | freshTable | fillTable => cases apart

end Machine

end TaggedUnion
