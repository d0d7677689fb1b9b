import TaggedUnion.Text.Unmarked

/-!
# Quoted text

Text between quotes, as it is shown to someone who looks for errors: what would leave no mark on
the page is written as an escape. The quote that closes the text is escaped, the other kind of
quote is not.
-/

set_option autoImplicit false

namespace TaggedUnion.Quoted

/-- An escape by code point, in hexadecimal digits between braces. -/
def byCodePoint (char : Char) : String :=
  "\\u\x7b" ++ String.ofList (Nat.toDigits 16 char.toNat) ++ "\x7d"

/-- A character between two quotes of the given kind. -/
def escape (quote char : Char) : String :=
  if char = '\x00' then "\\0"
  else if char = '\t' then "\\t"
  else if char = '\n' then "\\n"
  else if char = '\r' then "\\r"
  else if char = '\\' then "\\\\"
  else if char = quote then String.ofList ['\\', char]
  else if Unmarked.holds char then byCodePoint char
  else String.singleton char

def ofString (text : String) : String :=
  "\"" ++ String.join (text.toList.map (escape '"')) ++ "\""

def ofChar (char : Char) : String := "'" ++ escape '\'' char ++ "'"

end TaggedUnion.Quoted
