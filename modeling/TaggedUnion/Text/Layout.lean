/-!
# Layout of composite values

A composite value is its parts between an opening and a closing text: on one line with commas
between them, or, on several lines, one part a line, four places to the right and with a comma
after each.
-/

set_option autoImplicit false

namespace TaggedUnion.Layout

/-- Every line of the text four places to the right. -/
def indent (text : String) : String :=
  "    " ++ String.join (text.toList.map fun char => if char = '\n' then "\n    " else String.singleton char)

/-- Parts between an opening and a closing text. Without parts there is nothing to break. -/
def sequence (lines : Bool) (opening closing : String) (parts : List String) : String :=
  if parts.isEmpty then opening ++ closing
  else if lines then
    opening ++ "\n" ++ String.join (parts.map fun part => indent part ++ ",\n") ++ closing
  else opening ++ ", ".intercalate parts ++ closing

/-- Named parts between braces, after the name of the whole. -/
def record (lines : Bool) (label : String) (fields : List (String × String)) : String :=
  let parts := fields.map fun field => field.1 ++ ": " ++ field.2
  if lines then sequence true (label ++ " \x7b") "\x7d" parts
  else sequence false (label ++ " \x7b ") " \x7d" parts

end TaggedUnion.Layout
