import TaggedUnion.Registry.Padding

/-!
# The catalog of unions

The unions that a request can name. A schema gives the list of alternatives and says what of it a
request can use: the words that select an alternative by type, the indices that select one by
position, the conversions, and the slots of a handler table that start without a handler and can
be given one.
-/

set_option autoImplicit false

namespace TaggedUnion

/-- A type with the word that stands for it in requests. -/
abbrev NamedType := String × Ty

/-- What a request can use of a list of alternatives. -/
structure Schema where
  alternatives : List Ty
  /-- The types that can select an alternative. -/
  names : List NamedType
  /-- The indices that can select an alternative. -/
  positions : List Nat
  /-- The conversions, each as its target and its source. -/
  conversions : List (NamedType × NamedType)
  /-- The slots that can be given a handler unless all slots have one. -/
  slots : List Nat

namespace Catalog

/-! ## Words for types -/

def int (kind : IntType) : NamedType := (kind.name, .int kind)
def float (format : FloatFormat) : NamedType := (format.name, .float format)
def bool : NamedType := ("bool", .bool)
def char : NamedType := ("char", .char)
def unit : NamedType := ("()", .unit)
def string : NamedType := ("String", .string)
def fixedText : NamedType := ("Box<str>", .fixedText)
def empty (slot : Nat) : NamedType := ("Empty" ++ slot.repr, .empty slot)
def tracked (kind : Nat) : NamedType := ("Tracked" ++ kind.repr, .tracked kind)
def list (item : NamedType) : NamedType := ("Vec<" ++ item.1 ++ ">", .list item.2)
def option (item : NamedType) : NamedType := ("Option<" ++ item.1 ++ ">", .option item.2)

def record (label : String) (content : Ty) : NamedType := (label, .record label content)

/-- A union under a word of its own. -/
def union (word : String) (alternatives : List NamedType) : NamedType :=
  (word, .variant (alternatives.map Prod.snd))

def under (word : String) (type : NamedType) : NamedType := (word, type.2)

/-! ## Schemas -/

/-- A schema of which everything can be used, without conversions. -/
def all (listed : List NamedType) : Schema where
  alternatives := listed.map Prod.snd
  names := listed
  positions := List.range listed.length
  conversions := []
  slots := List.range listed.length

/-- A schema filled up with marker types; requests can name the listed types and the markers of
some of the slots that are left. -/
def padded (listed : List NamedType) (markers : List Nat) : Schema where
  alternatives := (Registry.padded? (listed.map Prod.snd)).getD []
  names := listed ++ markers.map empty
  positions := List.range Registry.maxArity
  conversions := []
  slots := List.range Registry.maxArity

/-- One type for each kind of leaf. -/
def leaves : List NamedType :=
  [ int .u8, int .u16, int .u32, int .u64, int .i8, int .i16, int .i32, int .i64, int .u128, int .i128,
    float .single, float .double, bool, char, unit, string ]

def intText : Schema :=
  { all [int .i32, string] with
    conversions :=
      [(int .i32, int .u8), (int .i32, bool), (string, char), (string, fixedText)] }

def tri : Schema :=
  { all [int .i32, string, float .double] with
    conversions :=
      [(float .double, int .i32), (float .double, float .single), (string, char)] }

def singleInt : Schema :=
  { all [int .i32] with conversions := [(int .i32, int .i16)] }

def singleText : Schema :=
  { all [string] with conversions := [(string, char)] }

def twice : Schema := { all [int .u32, int .u32] with names := [] }

def dup : Schema :=
  { all [string, int .i32, string] with
    names := [int .i32]
    conversions := [(int .i32, int .u16)] }

def structs : Schema := all [record "Si" (.int .i32), record "Sd" (.float .double)]

def trackedPair : Schema :=
  { all [tracked 0, int .i32, tracked 1] with
    conversions := [(tracked 0, int .i32), (tracked 1, int .i32)] }

def trackedDup : Schema := { all [tracked 0, tracked 0] with names := [] }

def trackedList : Schema :=
  all [under "Vec" (list (tracked 0)), union "Inner" [tracked 1, int .i32]]

def ints : Schema :=
  { all [int .u8, int .i8, int .u16, int .i64, int .u128, int .i128, bool, char] with
    conversions :=
      [ (int .i64, int .u8), (int .i64, int .i32), (int .i64, int .u32), (int .i128, int .i64),
        (int .i128, int .u64), (int .u128, int .u64), (int .u128, char), (int .u16, int .u8),
        (char, int .u8), (int .u8, bool) ]
    slots := [0, 3, 7] }

def texts : Schema :=
  { all [char, fixedText, string, bool] with
    conversions := [(string, char), (string, fixedText), (fixedText, string), (char, int .u8)] }

def containers : Schema :=
  { all
      [ list (int .i32), option string, ("Pair", .pair (.int .i32) .string), list string,
        option (int .i32), list (int .u8) ] with
    conversions :=
      [(option (int .i32), int .i32), (option string, string), (list (int .u8), string)]
    slots := [0, 2, 5] }

def shallow : NamedType := union "V" [int .i32, string]

def one : NamedType := union "One" [int .i32]

def deep : NamedType := union "Deep" [shallow, float .double]

def nested : Schema :=
  { all [shallow, one, deep, list shallow] with conversions := [(one, int .i32)] }

def nestedShown : Schema :=
  { all [shallow, one, int .i32] with conversions := [(one, int .i32), (int .i32, int .i8)] }

def full : Schema :=
  { all leaves with
    conversions :=
      [ (int .u64, int .u32), (float .double, float .single), (float .double, int .u32),
        (float .single, int .i16), (int .u32, char), (int .i128, int .u64) ]
    slots := [0, 6, 14, 15] }

def paddedShort : Schema :=
  { padded [int .i32, string] (List.range' 2 14) with
    conversions := [(int .i32, int .i8), (string, char)]
    slots := [0, 1, 4, 15] }

def paddedNone : Schema := { padded [] [0, 1, 15] with slots := [0, 15] }

def paddedLast : Schema :=
  { padded (leaves.filter fun type => type.1 != unit.1) [15] with
    names := [int .u8, int .i64, float .double, string, empty 15]
    slots := [14, 15] }

/-- More alternatives than a union may have, so that no value can be built. -/
def overfull : Schema where
  alternatives := leaves.map Prod.snd ++ [(list (int .u8)).2]
  names := [int .u8, int .i64, string, list (int .u8)]
  positions := [0, 15, 16]
  conversions := []
  slots := []

def nothing : Schema := all []

def schemas : List (String × Schema) :=
  [ ("int_text", intText), ("tri", tri), ("single_int", singleInt), ("single_text", singleText),
    ("twice", twice), ("dup", dup), ("structs", structs), ("tracked", trackedPair),
    ("tracked_dup", trackedDup), ("tracked_list", trackedList), ("ints", ints), ("texts", texts),
    ("containers", containers), ("nested", nested), ("nested_shown", nestedShown), ("full", full),
    ("padded", paddedShort), ("padded_none", paddedNone), ("padded_last", paddedLast),
    ("overfull", overfull), ("none", nothing) ]

def find? (word : String) : Option Schema := schemas.lookup word

end Catalog

end TaggedUnion
