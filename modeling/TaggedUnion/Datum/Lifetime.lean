import TaggedUnion.Event

/-!
# Lifetime and comparison of plain values

Dropping a plain value drops its tracked leaves from left to right; cloning it clones them in the
same order and numbers the copies consecutively; hashing it hashes them in that order. Comparing
two values goes from left to right too and stops at the first difference, so the log shows how far
it came.
-/

set_option autoImplicit false

namespace TaggedUnion

/-- The outcome of a comparison, with what it logged. -/
structure Verdict where
  equal : Bool
  events : List Event

namespace Verdict

/-- Decided without a look at any tracked leaf. -/
def quiet (equal : Bool) : Verdict := ⟨equal, []⟩

/-- First one comparison and then, unless it found a difference, another. -/
def andThen (first second : Verdict) : Verdict :=
  if first.equal then ⟨second.equal, first.events ++ second.events⟩ else first

end Verdict

/-- Compares two leaves. Only two tracked ones log it. -/
def Leaf.compare : Leaf → Leaf → Verdict
  | .tracked kind id number, .tracked kind' id' number' =>
    ⟨(Leaf.tracked kind id number).equal (.tracked kind' id' number'), [.compared id id']⟩
  | left, right => .quiet (left.equal right)

namespace Datum

def drops (value : Datum) : List Event := value.ids.map .dropped

def hashes (value : Datum) : List Event := value.ids.map .hashed

/-- What cloning the value logs if the copies are numbered from `fresh` on. -/
def clones (fresh : Nat) (value : Datum) : List Event :=
  (value.ids.zip (List.range' fresh value.ids.length)).map fun ids => .cloned ids.1 ids.2

mutual

/-- Compares two values: unions by index and then by content, lists by length and then item by
item, all other values part by part. -/
def compare : Datum → Datum → Verdict
  | .leaf left, .leaf right => left.compare right
  | list left, list right =>
    if left.length = right.length then compareAll left right else .quiet false
  | none, none => .quiet true
  | some left, some right => left.compare right
  | pair first second, pair first' second' => (first.compare first').andThen (second.compare second')
  | record _ left, record _ right => left.compare right
  | variant index left, variant index' right =>
    if index = index' then left.compare right else .quiet false
  | _, _ => .quiet false

/-- Compares two lists of values item by item, as far as both go. -/
def compareAll : List Datum → List Datum → Verdict
  | left :: lefts, right :: rights => (left.compare right).andThen (compareAll lefts rights)
  | _, _ => .quiet true

end

end Datum

end TaggedUnion
