/-!
# Styles of text

How a value is to be written: the width it is padded to, with what and on which side, and what its
own writer is to do about precision, plus signs, leading zeros and line breaks. Padding counts
characters and never cuts; a text that is wide enough stays as it is.
-/

set_option autoImplicit false

namespace TaggedUnion

/-- On which side of its field a text stands. -/
inductive Alignment where
  | left
  | right
  | centre
  deriving DecidableEq, Repr

/-- A style. The width zero asks for no padding. -/
structure Style where
  fill : Char
  alignment : Option Alignment
  /-- Numbers that are not negative get a plus sign. -/
  plus : Bool
  /-- Composite values stand on several lines. -/
  alternate : Bool
  /-- Numbers are padded with zeros between sign and digits. -/
  zero : Bool
  width : Nat
  precision : Option Nat
  deriving DecidableEq, Repr

namespace Style

/-- The style that asks for nothing. -/
def plain : Style := ⟨' ', none, false, false, false, 0, none⟩

def filling (fill : Char) (count : Nat) : String := String.ofList (List.replicate count fill)

/-- Pads a text to the width. A text that asks for no side stands on the usual one of its kind.
In the centre the odd fill character goes to the right. -/
def pad (style : Style) (usual : Alignment) (text : String) : String :=
  let missing := style.width - text.length
  let leading : Nat :=
    match style.alignment.getD usual with
    | .left => 0
    | .right => missing
    | .centre => missing / 2
  filling style.fill leading ++ text ++ filling style.fill (missing - leading)

/-- A piece of text in the style: the precision cuts it, then it is padded, on the left if
nothing else is asked for. -/
def text (style : Style) (content : String) : String :=
  style.pad .left <|
    match style.precision with
    | none => content
    | some limit => String.ofList (content.toList.take limit)

/-- A number in the style, from its sign and its digits: leading zeros go between the two and
override fill and side; otherwise both are padded together, on the right if nothing else is
asked for. -/
def number (style : Style) (sign digits : String) : String :=
  if style.zero then
    sign ++ filling '0' (style.width - sign.length - digits.length) ++ digits
  else style.pad .right (sign ++ digits)

/-- What stands for a number that has no digits: it takes no leading zeros and has blanks on its
left in their place. -/
def wordForNumber (style : Style) (sign word : String) : String :=
  if style.zero then { style with fill := ' ', alignment := some .right }.pad .right (sign ++ word)
  else style.pad .right (sign ++ word)

def sign (style : Style) (negative : Bool) : String :=
  if negative then "-" else if style.plus then "+" else ""

/-- The flags a request may give, with the style each asks for. -/
def flags : List (String × Style) :=
  [ ("", plain),
    ("<", { plain with alignment := some .left }),
    (">", { plain with alignment := some .right }),
    ("^", { plain with alignment := some .centre }),
    ("*<", { plain with fill := '*', alignment := some .left }),
    ("*>", { plain with fill := '*', alignment := some .right }),
    ("*^", { plain with fill := '*', alignment := some .centre }),
    ("é^", { plain with fill := 'é', alignment := some .centre }),
    ("0", { plain with zero := true }),
    ("+", { plain with plus := true }),
    ("+0", { plain with plus := true, zero := true }),
    ("*>+", { plain with fill := '*', alignment := some .right, plus := true }),
    ("#", { plain with alternate := true }),
    ("#0", { plain with alternate := true, zero := true }) ]

/-- The greatest width and precision a request may give. -/
def limit : Nat := 200

/-- The style that a request asks for, if its flags are known and its numbers within the limit. -/
def ofRequest? (flagText : String) (width : Nat) (precision : Option Nat) : Option Style :=
  if width ≤ limit ∧ precision.getD 0 ≤ limit then
    (flags.lookup flagText).map fun style => { style with width := width, precision := precision }
  else none

end Style

end TaggedUnion
