import TaggedUnion.Proofs.Presentation

/-!
# Texts of unions

A union is written as its active value is, in the same style and by the writer of that value's own
type. So unions leave no trace in a text, at whatever depth they stand: neither the list of
alternatives nor the index nor the number of unions around a value can be told from it.
-/

set_option autoImplicit false

namespace TaggedUnion

open Registry

namespace Datum

mutual

/-- The value with what they hold in place of the unions in it, at every depth. -/
def bare : Datum → Datum
  | .leaf value => .leaf value
  | list items => .list (bareAll items)
  | none => .none
  | some content => .some content.bare
  | pair first second => .pair first.bare second.bare
  | record label content => .record label content.bare
  | variant _ content => content.bare

def bareAll : List Datum → List Datum
  | [] => []
  | item :: items => item.bare :: bareAll items

end

/-- There is no union in the value. -/
inductive Unionless : Datum → Prop where
  | leaf {value : Leaf} : Unionless (.leaf value)
  | list {items : List Datum} : (∀ item ∈ items, Unionless item) → Unionless (.list items)
  | none : Unionless .none
  | some {content : Datum} : Unionless content → Unionless (.some content)
  | pair {first second : Datum} : Unionless first → Unionless second → Unionless (.pair first second)
  | record {label : String} {content : Datum} : Unionless content → Unionless (.record label content)

/-- The value inside as many unions as there are indices, the first one outermost. -/
def nested (indices : List Nat) (value : Datum) : Datum := indices.foldr variant value

mutual

theorem bare_unionless : (value : Datum) → value.bare.Unionless
  | .leaf _ => .leaf
  | .list items => .list (bareAll_unionless items)
  | .none => .none
  | .some content => .some (bare_unionless content)
  | .pair first second => .pair (bare_unionless first) (bare_unionless second)
  | .record _ content => .record (bare_unionless content)
  | .variant _ content => bare_unionless content

theorem bareAll_unionless : (items : List Datum) → ∀ item ∈ bareAll items, item.Unionless
  | [], _, member => nomatch member
  | first :: rest, item, member => by
      rcases List.mem_cons.mp member with same | later
      · exact same ▸ bare_unionless first
      · exact bareAll_unionless rest item later

end

theorem bareAll_eq_map (items : List Datum) : bareAll items = items.map bare := by
  induction items with
  | nil => rfl
  | cons item items ih => rw [bareAll, ih, List.map_cons]

/-- A value without unions is bare already. -/
theorem Unionless.bare_eq {value : Datum} (unionless : value.Unionless) : value.bare = value := by
  induction unionless with
  | leaf | none => rfl
  | @list items _ ih =>
      have same : items.map bare = items := (List.map_congr_left ih).trans (List.map_id' items)
      rw [bare, bareAll_eq_map, same]
  | some _ ih => rw [bare, ih]
  | pair _ _ firstIH secondIH => rw [bare, firstIH, secondIH]
  | record _ ih => rw [bare, ih]

theorem bare_nested (indices : List Nat) (value : Datum) :
    (value.nested indices).bare = value.bare := by
  induction indices with
  | nil => rfl
  | cons index indices ih => exact ih

example : (nested [1, 0] (pair (.leaf .unit) .none)).bare = pair (.leaf .unit) .none := rfl

variable {style : Style}

mutual

/-- The style reaches the leaves and the layout of containers through any number of unions. -/
theorem debug_bare : (value : Datum) → value.bare.debug style = value.debug style
  | .leaf _ | .none => rfl
  | .list items => by rw [bare, debug, debugAll_bareAll items, debug]
  | .some content => by rw [bare, debug, debug_bare content, debug]
  | .pair first second => by rw [bare, debug, debug_bare first, debug_bare second, debug]
  | .record _ content => by rw [bare, debug, debug_bare content, debug]
  | .variant _ content => debug_bare content

theorem debugAll_bareAll : (items : List Datum) → debugAll style (bareAll items) = debugAll style items
  | [] => rfl
  | item :: items => by rw [bareAll, debugAll, debug_bare item, debugAll_bareAll items, debugAll]

end

theorem display_bare : (value : Datum) → value.bare.display style = value.display style
  | .leaf _ | .list _ | .none | .some _ | .pair _ _ | .record _ _ => rfl
  | .variant _ content => display_bare content

end Datum

/-- The texts of a union over the list. -/
structure Choice.WritesValue (types : List Ty) (union : Choice) : Prop where
  /-- The text is the one that the writer for the type of the active value writes. -/
  active : ∃ type, typeAt? types union.index = some type ∧ union.value.Typed type ∧ ∀ style,
    Tagged.debug types style union.stored = (Stored.ofDatum union.value).debug style type ∧
      Tagged.display types style union.stored = (Stored.ofDatum union.value).display style type
  /-- What is taken away are the unions, and nothing else. -/
  unionless : union.value.bare.Unionless ∧ (union.value.Unionless → union.value.bare = union.value)
  inspection : ∀ style, Tagged.debug types style union.stored = .ok (union.value.bare.debug style)
  readers : Ty.allDisplayable types = true → ∀ style,
    Tagged.display types style union.stored = .ok (union.value.bare.display style)
  /-- A union over another list with the same value in it, at whatever depth, has the same texts. -/
  alike : ∀ types' (other : Choice), other.Typed types' → other.value.bare = union.value.bare → ∀ style,
    Tagged.debug types' style other.stored = Tagged.debug types style union.stored ∧
      (Ty.allDisplayable types = true → Ty.allDisplayable types' = true →
        Tagged.display types' style other.stored = Tagged.display types style union.stored)
  nested : ∀ indices (value : Datum), union.value = value.nested indices → ∀ style,
    Tagged.debug types style union.stored = .ok (value.debug style) ∧
      (Ty.allDisplayable types = true →
        Tagged.display types style union.stored = .ok (value.display style))
  /-- The marker of a slot is a bare word for inspection and nothing for readers. -/
  marker : ∀ slot, union.value.bare = .leaf (.empty slot) → ∀ style,
    Tagged.debug types style union.stored = .ok "Empty" ∧
      (Ty.allDisplayable types = true → Tagged.display types style union.stored = .ok "")

theorem Choice.Typed.writesValue {types : List Ty} {union : Choice} (typed : union.Typed types) :
    union.WritesValue types := by
  have inspection (style : Style) :
      Tagged.debug types style union.stored = .ok (union.value.bare.debug style) := by
    rw [typed.debug_stored, Datum.debug_bare]
  have readers (shown : Ty.allDisplayable types = true) (style : Style) :
      Tagged.display types style union.stored = .ok (union.value.bare.display style) := by
    rw [typed.display_stored shown, Datum.display_bare]
  constructor
  · obtain ⟨type, short, found, valueTyped⟩ := typed.found
    have below := typeAt?_short short found
    exact ⟨type, found, valueTyped, fun style =>
      ⟨Chain.debug_place found below _ style, Chain.display_place found below _ style⟩⟩
  · exact ⟨union.value.bare_unionless, fun unionless => unionless.bare_eq⟩
  · exact inspection
  · exact readers
  · intro types' other otherTyped same style
    constructor
    · rw [otherTyped.debug_stored, ← Datum.debug_bare, same, inspection]
    · intro shown shown'
      rw [otherTyped.display_stored shown', ← Datum.display_bare, same, readers shown]
  · intro indices value same style
    rw [inspection, same, Datum.bare_nested, Datum.debug_bare]
    refine ⟨rfl, fun shown => ?_⟩
    rw [readers shown, same, Datum.bare_nested, Datum.display_bare]
  · intro slot same style
    rw [inspection, same]
    refine ⟨rfl, fun shown => ?_⟩
    rw [readers shown, same]
    rfl

namespace Machine

/-- Writing a union is writing its active value. Every union over every list has the texts of its
value without any union around it or in it, in every style; and in every reachable state these are
the texts that are answered for what a register holds. -/
theorem texts_of_active_value (types : List Ty) :
    (∀ union : Choice, union.Typed types → union.WritesValue types) ∧
      ∀ program, ∃ entries, ∃ state : State Tagged,
        steps .tagged types program (State.initial types) = .ok (entries, state) ∧
        ∀ register held, state.content register = some held →
          ∃ union, state.Holds types register union ∧ ∀ style,
            StepShows types (.render .inspection (some register) (some style)) state
                (.text (union.value.bare.debug style)) state [] ∧
              (Ty.allDisplayable types = true →
                StepShows types (.render .readers (some register) (some style)) state
                  (.text (union.value.bare.display style)) state []) := by
  refine ⟨fun union typed => typed.writesValue, ?_⟩
  intro program
  obtain ⟨entries, state, tagged, -, typed⟩ := steps_initial types program
  refine ⟨entries, state.stored, tagged, ?_⟩
  intro register stored storedHeld
  obtain ⟨union, held, -⟩ := State.exists_held storedHeld
  have presents := presents_stored typed held
  refine ⟨union, typed.holds_iff.mpr held, ?_⟩
  intro style
  rw [Datum.debug_bare, Datum.display_bare]
  exact ⟨presents.debug style, fun shown => presents.display shown style⟩

end Machine

end TaggedUnion
