import TaggedUnion.Datum

/-!
# Events

What a run logs: the lifetime of tracked leaves, comparisons and hashes of them, and the runs of
handlers.
-/

set_option autoImplicit false

namespace TaggedUnion

inductive Event where
  /-- A tracked leaf was read and has the new identity. -/
  | created (id : Nat)
  /-- A tracked leaf was made from a number and has the new identity. -/
  | converted (id : Nat)
  /-- The leaf `source` was cloned into one with the new identity `fresh`. -/
  | cloned (source fresh : Nat)
  | compared (left right : Nat)
  | hashed (id : Nat)
  | dropped (id : Nat)
  /-- The closure with the label ran for the `count`th time, on the value. -/
  | ran (label : String) (count : Nat) (value : Datum)
  /-- The recorder with the label ran and has seen these values so far. -/
  | recorded (label : String) (seen : List Datum)

end TaggedUnion
