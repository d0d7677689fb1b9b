import TaggedUnion.Chain
import TaggedUnion.Datum.Lifetime

/-!
# Equality and hashes in storage

The walks behind equality and hashing. Two unions whose tags differ are unequal and are not walked
at all; a hash starts with the tag.
-/

set_option autoImplicit false

namespace TaggedUnion

/-- First one comparison and then, unless it found a difference, another. -/
def Verdict.sequence (first second : Except Fault Verdict) : Except Fault Verdict := do
  let first ← first
  if first.equal then
    let second ← second
    return first.andThen second
  else return first

mutual

def Stored.compare : Ty → Stored → Stored → Except Fault Verdict
  | _, .leaf left, .leaf right => .ok (left.compare right)
  | .list type, .list left, .list right =>
    if left.length = right.length then Stored.compareAll type left right else .ok (.quiet false)
  | .option _, .none, .none => .ok (.quiet true)
  | .option _, .none, .some _ => .ok (.quiet false)
  | .option _, .some _, .none => .ok (.quiet false)
  | .option type, .some left, .some right => left.compare type right
  | .pair type type', .pair first second, .pair first' second' =>
    Verdict.sequence (first.compare type first') (second.compare type' second')
  | .record _ type, .record _ left, .record _ right => left.compare type right
  | .variant types, .variant tag left, .variant tag' right =>
    if tag = tag' then left.compare types tag right else .ok (.quiet false)
  | _, _, _ => .error .wrongType

/-- Compares values of a type pair by pair, as far as both lists go. -/
def Stored.compareAll : Ty → List Stored → List Stored → Except Fault Verdict
  | type, left :: lefts, right :: rights =>
    Verdict.sequence (left.compare type right) (Stored.compareAll type lefts rights)
  | _, _, _ => .ok (.quiet true)

/-- Compares the active alternatives of two unions with the same tag. -/
def Chain.compare : List Ty → UInt8 → Chain → Chain → Except Fault Verdict
  | [], _, _, _ => .error .endOfList
  | type :: _, tag, .data left, .data right =>
    if tag = 0 then left.compare type right else .error .fieldNotInUse
  | _ :: types, tag, .next left, .next right =>
    if tag = 0 then .error .fieldNotInUse else left.compare types (tag - 1) right
  | _ :: _, _, _, _ => .error .fieldNotInUse

end

/-- What was fed to a hasher, and what was logged meanwhile. -/
structure Hashed where
  bytes : List UInt8
  events : List Event

def Hashed.append (first second : Hashed) : Hashed :=
  ⟨first.bytes ++ second.bytes, first.events ++ second.events⟩

/-- With bytes in front. -/
def Hashed.after (bytes : List UInt8) (hashed : Hashed) : Hashed := ⟨bytes ++ hashed.bytes, hashed.events⟩

def Leaf.hash : Leaf → Hashed
  | .tracked kind id number => ⟨(Leaf.tracked kind id number).hashBytes, [.hashed id]⟩
  | leaf => ⟨leaf.hashBytes, []⟩

mutual

def Stored.hash : Ty → Stored → Except Fault Hashed
  | _, .leaf value => .ok value.hash
  | .list type, .list items => do
    let hashed ← Stored.hashAll type items
    return hashed.after (IntType.u64.littleEndian items.length)
  | .option _, .none => .ok ⟨IntType.u64.littleEndian 0, []⟩
  | .option type, .some content => do
    let hashed ← content.hash type
    return hashed.after (IntType.u64.littleEndian 1)
  | .pair type type', .pair first second => do
    let first ← first.hash type
    let second ← second.hash type'
    return first.append second
  | .record _ type, .record _ content => content.hash type
  | .variant types, .variant tag storage => do
    let hashed ← storage.hash types tag
    return hashed.after [tag]
  | _, _ => .error .wrongType

def Stored.hashAll : Ty → List Stored → Except Fault Hashed
  | _, [] => .ok ⟨[], []⟩
  | type, item :: items => do
    let first ← item.hash type
    let rest ← Stored.hashAll type items
    return first.append rest

def Chain.hash : List Ty → UInt8 → Chain → Except Fault Hashed
  | [], _, _ => .error .endOfList
  | type :: _, tag, .data value => if tag = 0 then value.hash type else .error .fieldNotInUse
  | _ :: types, tag, .next rest => if tag = 0 then .error .fieldNotInUse else rest.hash types (tag - 1)

end

def Tagged.compare (types : List Ty) (left right : Tagged) : Except Fault Verdict :=
  if left.tag = right.tag then left.storage.compare types left.tag right.storage
  else .ok (.quiet false)

/-- Hashes a union: its tag, then its active alternative. -/
def Tagged.hash (types : List Ty) (union : Tagged) : Except Fault Hashed := do
  let hashed ← union.storage.hash types union.tag
  return hashed.after [union.tag]

end TaggedUnion
