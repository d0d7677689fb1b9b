import Mathlib
import TaggedUnion.Event

/-!
# The ledger of identities

Which identities a log brings to life, which it names and which it ends. A log is orderly if it
brings each identity to life once and names only live ones. The ledger follows a log event by event
and keeps the live identities and the next free one; whatever it can follow is orderly.
-/

set_option autoImplicit false

namespace TaggedUnion

namespace Event

/-- The identities that the event brings to life. -/
def born : Event → List Nat
  | .created id | .converted id | .cloned _ id => [id]
  | _ => []

/-- The identities that must be live for the event to happen. -/
def named : Event → List Nat
  | .cloned source _ => [source]
  | .compared left right => [left, right]
  | .hashed id | .dropped id => [id]
  | _ => []

/-- The identities that the event ends. -/
def ended : Event → List Nat
  | .dropped id => [id]
  | _ => []

end Event

namespace Log

def born (log : List Event) : List Nat := log.flatMap Event.born

def ended (log : List Event) : List Nat := log.flatMap Event.ended

/-- The identity was brought to life and did not end yet. -/
def Live (log : List Event) (id : Nat) : Prop := id ∈ born log ∧ id ∉ ended log

/-- At each event of the log, what it brings to life was not used before, and what it names is
live. -/
def Orderly (log : List Event) : Prop :=
  ∀ before event after, log = before ++ event :: after →
    (∀ id ∈ event.born, id ∉ born before) ∧ ∀ id ∈ event.named, Live before id

theorem born_snoc (log : List Event) (event : Event) :
    born (log ++ [event]) = born log ++ event.born := by
  rw [born, born, List.flatMap_append, List.flatMap_singleton]

theorem ended_snoc (log : List Event) (event : Event) :
    ended (log ++ [event]) = ended log ++ event.ended := by
  rw [ended, ended, List.flatMap_append, List.flatMap_singleton]

theorem Orderly.snoc {log : List Event} {event : Event} (orderly : Orderly log)
    (unused : ∀ id ∈ event.born, id ∉ born log) (live : ∀ id ∈ event.named, Live log id) :
    Orderly (log ++ [event]) := by
  intro before other after split
  rcases List.eq_nil_or_concat after with rfl | ⟨rest, last, rfl⟩
  · obtain ⟨rfl, same⟩ := List.append_inj' split rfl
    cases same
    exact ⟨unused, live⟩
  · have regrouped : log ++ [event] = (before ++ other :: rest) ++ [last] := by
      rw [split, List.concat_eq_append, List.append_assoc, List.cons_append]
    obtain ⟨rfl, -⟩ := List.append_inj' regrouped rfl
    exact orderly before other rest rfl

end Log

/-! ## Following a log -/

/-- The event changes the live identities and the next free one in this way. -/
inductive Event.Books : Event → Multiset ℕ → ℕ → Multiset ℕ → ℕ → Prop where
  | created {live : Multiset ℕ} {next : ℕ} : Books (.created next) live next (next ::ₘ live) (next + 1)
  | converted {live : Multiset ℕ} {next : ℕ} :
      Books (.converted next) live next (next ::ₘ live) (next + 1)
  | cloned {live : Multiset ℕ} {next source : ℕ} :
      source ∈ live → Books (.cloned source next) live next (next ::ₘ live) (next + 1)
  | compared {live : Multiset ℕ} {next left right : ℕ} :
      left ∈ live → right ∈ live → Books (.compared left right) live next live next
  | hashed {live : Multiset ℕ} {next id : ℕ} : id ∈ live → Books (.hashed id) live next live next
  | dropped {live : Multiset ℕ} {next id : ℕ} : Books (.dropped id) (id ::ₘ live) next live next
  | ran {live : Multiset ℕ} {next : ℕ} {label : String} {count : Nat} {value : Datum} :
      Books (.ran label count value) live next live next
  | recorded {live : Multiset ℕ} {next : ℕ} {label : String} {seen : List Datum} :
      Books (.recorded label seen) live next live next

/-- The events of the log change the ledger one after another. -/
inductive Keeps : Multiset ℕ → ℕ → List Event → Multiset ℕ → ℕ → Prop where
  | nil {live : Multiset ℕ} {next : ℕ} : Keeps live next [] live next
  | cons {live live' live'' : Multiset ℕ} {next next' next'' : ℕ} {event : Event} {log : List Event} :
      event.Books live next live' next' → Keeps live' next' log live'' next'' →
      Keeps live next (event :: log) live'' next''

theorem Event.Books.frame {event : Event} {live live' : Multiset ℕ} {next next' : ℕ}
    (books : event.Books live next live' next') (others : Multiset ℕ) :
    event.Books (live + others) next (live' + others) next' := by
  cases books with
  | created => exact Multiset.cons_add .. ▸ .created
  | converted => exact Multiset.cons_add .. ▸ .converted
  | cloned member => exact Multiset.cons_add .. ▸ .cloned (Multiset.mem_add.mpr (.inl member))
  | compared left right =>
      exact .compared (Multiset.mem_add.mpr (.inl left)) (Multiset.mem_add.mpr (.inl right))
  | hashed member => exact .hashed (Multiset.mem_add.mpr (.inl member))
  | dropped => exact Multiset.cons_add .. ▸ .dropped
  | ran => exact .ran
  | recorded => exact .recorded

namespace Keeps

variable {live live' live'' others : Multiset ℕ} {next next' next'' : ℕ} {log log' : List Event}

theorem single {event : Event} (books : event.Books live next live' next') :
    Keeps live next [event] live' next' := .cons books .nil

theorem append (first : Keeps live next log live' next') (second : Keeps live' next' log' live'' next'') :
    Keeps live next (log ++ log') live'' next'' := by
  induction first with
  | nil => exact second
  | cons books _ ih => exact .cons books (ih second)

/-- Identities that a log does not touch stay live. -/
theorem frame (keeps : Keeps live next log live' next') (others : Multiset ℕ) :
    Keeps (live + others) next log (live' + others) next' := by
  induction keeps with
  | nil => exact .nil
  | cons books _ ih => exact .cons (books.frame others) ih

theorem drops (next : ℕ) (ids : List ℕ) : Keeps ids next (ids.map .dropped) 0 next := by
  induction ids with
  | nil => exact .nil
  | cons id ids ih => exact .cons (Multiset.cons_coe id ids ▸ .dropped) ih

theorem hashes {ids : List ℕ} (each : ∀ id ∈ ids, id ∈ live) :
    Keeps live next (ids.map .hashed) live next := by
  induction ids with
  | nil => exact .nil
  | cons id ids ih =>
      exact .cons (.hashed (each id List.mem_cons_self))
        (ih fun id member => each id (List.mem_cons_of_mem _ member))

theorem compares (each : ∀ event ∈ log, ∃ left ∈ live, ∃ right ∈ live, event = .compared left right) :
    Keeps live next log live next := by
  induction log with
  | nil => exact .nil
  | cons event log ih =>
      obtain ⟨left, leftLive, right, rightLive, rfl⟩ := each event List.mem_cons_self
      exact .cons (.compared leftLive rightLive)
        (ih fun event member => each event (List.mem_cons_of_mem _ member))

theorem clones {ids : List ℕ} (each : ∀ id ∈ ids, id ∈ live) :
    Keeps live next ((ids.zip (List.range' next ids.length)).map fun ids => .cloned ids.1 ids.2)
      (List.range' next ids.length + live) (next + ids.length) := by
  induction ids generalizing live next with
  | nil => exact (zero_add live).symm ▸ .nil
  | cons id ids ih =>
      have first : (Event.cloned id next).Books live next (next ::ₘ live) (next + 1) :=
        .cloned (each id List.mem_cons_self)
      have rest := @ih (next ::ₘ live) (next + 1)
        fun id member => Multiset.mem_cons_of_mem (each id (List.mem_cons_of_mem _ member))
      have count : next + (ids.length + 1) = next + 1 + ids.length := by omega
      have together : (↑(List.range' next (ids.length + 1)) + live : Multiset ℕ) =
          ↑(List.range' (next + 1) ids.length) + next ::ₘ live := by
        rw [List.range'_succ, ← Multiset.cons_coe, Multiset.cons_add, Multiset.add_cons]
      rw [List.length_cons, count, together]
      exact .cons first rest

end Keeps

/-! ## What the ledger shows of a log -/

/-- The log ended with these live identities and this next free one. -/
structure Accounts (log : List Event) (live : Multiset ℕ) (next : ℕ) : Prop where
  born : Log.born log = List.range next
  nodup : live.Nodup
  live : ∀ id, id ∈ live ↔ Log.Live log id
  ended : (Log.ended log).Nodup
  within : ∀ id ∈ Log.ended log, id ∈ Log.born log
  orderly : Log.Orderly log

namespace Accounts

variable {log : List Event} {live live' : Multiset ℕ} {next next' : ℕ}

theorem empty : Accounts [] 0 0 where
  born := rfl
  nodup := Multiset.nodup_zero
  live := by simp [Log.Live, Log.born]
  ended := List.nodup_nil
  within := List.forall_mem_nil _
  orderly before event after split := by simp at split

theorem below (accounts : Accounts log live next) {id : ℕ} (member : id ∈ live) : id < next := by
  have live := (accounts.live id).mp member
  rw [Log.Live, accounts.born] at live
  exact List.mem_range.mp live.1

theorem birth (accounts : Accounts log live next) {event : Event} (born : event.born = [next])
    (ended : event.ended = []) (named : ∀ id ∈ event.named, id ∈ live) :
    Accounts (log ++ [event]) (next ::ₘ live) (next + 1) := by
  have bornAll : Log.born (log ++ [event]) = Log.born log ++ [next] := by rw [Log.born_snoc, born]
  have endedAll : Log.ended (log ++ [event]) = Log.ended log := by
    rw [Log.ended_snoc, ended, List.append_nil]
  have unused : next ∉ Log.born log := by
    rw [accounts.born]
    exact List.not_mem_range_self
  constructor
  · rw [bornAll, accounts.born, List.range_succ]
  · exact Multiset.nodup_cons.mpr ⟨fun member => lt_irrefl _ (accounts.below member), accounts.nodup⟩
  · intro id
    rw [Multiset.mem_cons, accounts.live, Log.Live, Log.Live, bornAll, endedAll, List.mem_append,
      List.mem_singleton]
    constructor
    · rintro (rfl | ⟨before, going⟩)
      · exact ⟨.inr rfl, fun member => unused (accounts.within _ member)⟩
      · exact ⟨.inl before, going⟩
    · rintro ⟨before | rfl, going⟩
      · exact .inr ⟨before, going⟩
      · exact .inl rfl
  · rw [endedAll]
    exact accounts.ended
  · intro id member
    rw [endedAll] at member
    rw [bornAll]
    exact List.mem_append_left _ (accounts.within id member)
  · refine accounts.orderly.snoc ?_ fun id member => (accounts.live id).mp (named id member)
    intro id member
    rw [born] at member
    exact List.mem_singleton.mp member ▸ unused

theorem look (accounts : Accounts log live next) {event : Event} (born : event.born = [])
    (ended : event.ended = []) (named : ∀ id ∈ event.named, id ∈ live) :
    Accounts (log ++ [event]) live next := by
  have bornAll : Log.born (log ++ [event]) = Log.born log := by
    rw [Log.born_snoc, born, List.append_nil]
  have endedAll : Log.ended (log ++ [event]) = Log.ended log := by
    rw [Log.ended_snoc, ended, List.append_nil]
  refine ⟨?_, accounts.nodup, ?_, ?_, ?_, ?_⟩
  · rw [bornAll, accounts.born]
  · intro id
    rw [accounts.live, Log.Live, Log.Live, bornAll, endedAll]
  · rw [endedAll]
    exact accounts.ended
  · rw [endedAll, bornAll]
    exact accounts.within
  · refine accounts.orderly.snoc ?_ fun id member => (accounts.live id).mp (named id member)
    intro id member
    rw [born] at member
    cases member

theorem death {id : ℕ} (accounts : Accounts log (id ::ₘ live) next) :
    Accounts (log ++ [.dropped id]) live next := by
  have alive := (accounts.live id).mp (Multiset.mem_cons_self id live)
  obtain ⟨apart, nodup⟩ := Multiset.nodup_cons.mp accounts.nodup
  have bornAll : Log.born (log ++ [.dropped id]) = Log.born log :=
    (Log.born_snoc log _).trans (List.append_nil _)
  have endedAll : Log.ended (log ++ [.dropped id]) = Log.ended log ++ [id] := Log.ended_snoc log _
  refine ⟨?_, nodup, ?_, ?_, ?_, ?_⟩
  · rw [bornAll, accounts.born]
  · intro other
    have known := accounts.live other
    rw [Log.Live, bornAll, endedAll, List.mem_append, List.mem_singleton, not_or, ← and_assoc, ← Log.Live,
      ← known, Multiset.mem_cons]
    constructor
    · exact fun member => ⟨.inr member, fun same => apart (same ▸ member)⟩
    · rintro ⟨rfl | member, different⟩
      · exact absurd rfl different
      · exact member
  · rw [endedAll]
    exact List.Nodup.append accounts.ended (List.nodup_singleton id)
      (List.disjoint_singleton.mpr alive.2)
  · intro other member
    rw [endedAll, List.mem_append, List.mem_singleton] at member
    rw [bornAll]
    rcases member with earlier | rfl
    · exact accounts.within other earlier
    · exact alive.1
  · refine accounts.orderly.snoc (List.forall_mem_nil _) ?_
    intro other member
    exact List.mem_singleton.mp member ▸ alive

theorem step {event : Event} (accounts : Accounts log live next)
    (books : event.Books live next live' next') : Accounts (log ++ [event]) live' next' := by
  cases books with
  | created => exact accounts.birth rfl rfl (List.forall_mem_nil _)
  | converted => exact accounts.birth rfl rfl (List.forall_mem_nil _)
  | cloned member => exact accounts.birth rfl rfl (List.forall_mem_singleton.mpr member)
  | compared left right =>
      exact accounts.look rfl rfl (List.forall_mem_cons.mpr ⟨left, List.forall_mem_singleton.mpr right⟩)
  | hashed member => exact accounts.look rfl rfl (List.forall_mem_singleton.mpr member)
  | dropped => exact accounts.death
  | ran => exact accounts.look rfl rfl (List.forall_mem_nil _)
  | recorded => exact accounts.look rfl rfl (List.forall_mem_nil _)

/-- Accounts that are in order stay in order along a log that the ledger can follow. -/
theorem keep {events : List Event} (accounts : Accounts log live next)
    (keeps : Keeps live next events live' next') : Accounts (log ++ events) live' next' := by
  induction keeps generalizing log with
  | nil =>
      rw [List.append_nil]
      exact accounts
  | @cons _ _ _ _ _ _ event rest books _ ih =>
      have after := ih (accounts.step books)
      rwa [List.append_assoc] at after

/-- If nothing is live at the end, everything that was brought to life ended exactly once. -/
theorem settled (accounts : Accounts log 0 next) {id : ℕ} (born : id ∈ Log.born log) :
    (Log.ended log).count id = 1 := by
  have finished : id ∈ Log.ended log := by
    by_contra going
    exact Multiset.notMem_zero id ((accounts.live id).mpr ⟨born, going⟩)
  exact List.count_eq_one_of_mem accounts.ended finished

end Accounts

end TaggedUnion
