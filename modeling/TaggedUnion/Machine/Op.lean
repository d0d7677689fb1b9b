import TaggedUnion.Edit
import TaggedUnion.Handler
import TaggedUnion.Literal

/-!
# Operations

The operations of a program over four registers, each empty or with a union over one list of
alternatives, and over one handler table. An operation names types by whatever `T` is: by words
in a request, by the types themselves in a program. An operand that was left out or spelled wrongly
is `none`, and which of several such faults is reported is decided when the operation is carried
out.
-/

set_option autoImplicit false

namespace TaggedUnion

abbrev Register := Fin 4

/-- How an operation picks an alternative. -/
inductive Selector (T : Type) where
  /-- By its type, which must be listed exactly once. -/
  | type (type : T)
  | position (index : Nat)
  deriving DecidableEq, Repr

/-- What an access does if another alternative is active. -/
inductive Demand where
  /-- Answers that there is nothing. -/
  | optional
  /-- Reports the mismatch. -/
  | checked
  | required
  deriving DecidableEq, Repr

/-- For whom a text is written. -/
inductive Audience where
  | readers
  | inspection
  deriving DecidableEq, Repr

inductive Op (T : Type) where
  /-- Builds a union that holds the value as the alternative. -/
  | construct (target : Selector T) (register : Option Register) (value : Option Literal)
  /-- Builds a union from a value of another type by one conversion. -/
  | convert (target source : T) (register : Option Register) (value : Option Literal)
  | constructText (register : Option Register) (value : Option Literal)
  /-- Builds a union with a single alternative. -/
  | wrap (register : Option Register) (value : Option Literal)
  /-- Takes the value out of a union with a single alternative. -/
  | unwrap (register : Option Register)
  | test (target : Selector T) (register : Option Register)
  | read (demand : Demand) (target : Selector T) (register : Option Register)
  /-- Edits the active value where it stands and reads it afterwards. -/
  | edit (demand : Demand) (mode : EditMode) (target : Selector T) (register : Option Register)
      (value : Option Literal)
  /-- Takes the active value out. If another alternative is active, the union is given back, or,
  where the alternative is required, dropped. -/
  | take (required : Bool) (target : Selector T) (register : Option Register)
  | locate (target : T)
  | typeAt (index : Nat)
  | index (register : Option Register)
  | typeName (register : Option Register)
  | arity
  /-- The name that the list of alternatives gives to a tag. -/
  | nameOfTag (tag : Option UInt8)
  | drop (register : Option Register)
  | move (source target : Option Register)
  | swap (first second : Option Register)
  | clone (source target : Option Register)
  /-- Tells whether two unions are equal, or, negated, whether they differ. -/
  | compare (negated : Bool) (left right : Option Register)
  | hash (register : Option Register)
  | render (audience : Audience) (register : Option Register) (style : Option Style)
  | install (kind : HandlerKind) (target : Selector T) (label : String)
  | dispatch (register : Option Register)
  /-- Puts the table without handlers in place. -/
  | freshTable
  /-- Puts the table with a closure in every slot in place. -/
  | fillTable
  /-- An operation that the list of alternatives does not offer. -/
  | unknown

end TaggedUnion
