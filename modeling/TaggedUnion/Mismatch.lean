import TaggedUnion.Registry
import TaggedUnion.Text.Layout
import TaggedUnion.Text.Numeral
import TaggedUnion.Text.Quoted

/-!
# Access to the wrong alternative

What is reported when an alternative is asked for that is not the active one: the type and index
that were asked for, and those of the active alternative.
-/

set_option autoImplicit false

namespace TaggedUnion

/-- A mismatch of the requested and the active alternative. -/
structure Mismatch where
  requested : String
  requestedIndex : UInt8
  active : String
  activeIndex : UInt8
  deriving DecidableEq, Repr

namespace Mismatch

def label : String := "WrongAlternativeAccessed"

def alternative (name : String) (index : UInt8) : String :=
  "\x60" ++ name ++ "\x60 (index " ++ index.toNat.repr ++ ")"

/-- The message, which no style changes. -/
def message (mismatch : Mismatch) : String :=
  "wrong alternative accessed: requested " ++ alternative mismatch.requested mismatch.requestedIndex
    ++ ", but " ++ alternative mismatch.active mismatch.activeIndex ++ " is active"

/-- The text for inspection. The style goes to the fields. -/
def debug (style : Style) (mismatch : Mismatch) : String :=
  Layout.record style.alternate label
    [ ("requested", Quoted.ofString mismatch.requested),
      ("requested_index", Numeral.ofInt style mismatch.requestedIndex.toNat),
      ("active", Quoted.ofString mismatch.active),
      ("active_index", Numeral.ofInt style mismatch.activeIndex.toNat) ]

end Mismatch

end TaggedUnion
