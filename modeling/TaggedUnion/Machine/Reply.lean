import TaggedUnion.Event
import TaggedUnion.Mismatch

/-!
# Replies

What an operation answers, and the causes for which one fails.
-/

set_option autoImplicit false

namespace TaggedUnion

/-- Why a run of a panicking operation ended. -/
inductive Panic where
  | mismatch (mismatch : Mismatch)
  /-- A name was looked up past the end of the list; `rest` is what was left of the tag there. -/
  | tagOutOfRange (rest : UInt8)
  deriving DecidableEq, Repr

def Panic.message : Panic → String
  | .mismatch report => report.message
  | .tagOutOfRange rest =>
    "internal error: entered unreachable code: tag " ++ rest.toNat.repr ++ " is out of range"

/-- Why an operation failed. -/
inductive Failure where
  /-- An operand is missing or wrongly spelled. -/
  | badInput
  | empty
  /-- The list of alternatives does not offer the operation. -/
  | unsupported
  /-- Another alternative is active than the one that was asked for. -/
  | mismatch (mismatch : Mismatch)
  | panic (cause : Panic)
  deriving DecidableEq, Repr

inductive Reply where
  /-- There is nothing to say. -/
  | done
  | truth (value : Bool)
  | number (value : Nat)
  | text (value : String)
  /-- The value that was asked for. -/
  | value (value : Datum)
  /-- The value that was asked for, if there is one. -/
  | optional (value : Option Datum)
  /-- The value, where it might have been a mismatch or a union given back. -/
  | ok (value : Datum)
  /-- The union was given back. -/
  | returned
  | bytes (value : List UInt8)
  | failed (cause : Failure)

end TaggedUnion
