import BusTrial.KeyMap
import BusTrial.Decimal.Binary

/-!
# Values of a message bus

`Value` is the type of everything a property, an argument or a reply can hold.  Several of its
kinds are looked at alike: `integer?` reads the seven integer widths, `text?` the three kinds of
text, and `unwrapped` looks through any number of variants around a value.
-/

namespace BusTrial

/-- A typed value. -/
inductive Value where
  | bool (value : Bool)
  | byte (value : UInt8)
  | int16 (value : Int16)
  | uint16 (value : UInt16)
  | int32 (value : Int32)
  | uint32 (value : UInt32)
  | int64 (value : Int64)
  | uint64 (value : UInt64)
  | double (value : Float)
  | string (text : String)
  | objectPath (text : String)
  | signature (text : String)
  | bytes (values : List UInt8)
  | array (items : List Value)
  /-- A dictionary with text keys; its entries are a `KeyMap`. -/
  | dict (entries : List (String × Value))
  | struct (fields : List Value)
  | variant (inner : Value)
  deriving Inhabited

namespace Value

/-- The dictionary without entries. -/
def emptyOptions : Value :=
  .dict []

/-- The value inside all variants around it. -/
def unwrapped : Value → Value
  | .variant inner => inner.unwrapped
  | value => value

mutual

/-- The type of the value.  An array has the type of its first item, and an empty one that of an
array of texts; every dictionary counts as one of variants. -/
def typeText : Value → String
  | .bool _ => "b"
  | .byte _ => "y"
  | .int16 _ => "n"
  | .uint16 _ => "q"
  | .int32 _ => "i"
  | .uint32 _ => "u"
  | .int64 _ => "x"
  | .uint64 _ => "t"
  | .double _ => "d"
  | .string _ => "s"
  | .objectPath _ => "o"
  | .signature _ => "g"
  | .bytes _ => "ay"
  | .array [] => "as"
  | .array (first :: _) => "a" ++ first.typeText
  | .dict _ => "a\x7bsv\x7d"
  | .struct fields => "(" ++ fieldTypes fields ++ ")"
  | .variant _ => "v"

/-- The types of the fields of a struct, in a row. -/
def fieldTypes : List Value → String
  | [] => ""
  | field :: rest => field.typeText ++ fieldTypes rest

end

/-- The name of the kind of value, looking through variants. -/
def kindName : Value → String
  | .bool _ => "boolean"
  | .byte _ => "byte"
  | .int16 _ => "int16"
  | .uint16 _ => "uint16"
  | .int32 _ => "int32"
  | .uint32 _ => "uint32"
  | .int64 _ => "int64"
  | .uint64 _ => "uint64"
  | .double _ => "double"
  | .string _ => "string"
  | .objectPath _ => "object path"
  | .signature _ => "signature"
  | .bytes _ => "byte array"
  | .array _ => "array"
  | .dict _ => "dict"
  | .struct _ => "struct"
  | .variant inner => inner.kindName

/-- The number, if the value is an integer of any width. -/
def integer? : Value → Option Int
  | .byte value => some value.toNat
  | .int16 value => some value.toInt
  | .uint16 value => some value.toNat
  | .int32 value => some value.toInt
  | .uint32 value => some value.toNat
  | .int64 value => some value.toInt
  | .uint64 value => some value.toNat
  | .variant inner => inner.integer?
  | _ => none

/-- The number, if the value is a double. -/
def double? : Value → Option Float
  | .double value => some value
  | .variant inner => inner.double?
  | _ => none

/-- The number, if the value is a double or an integer; an integer is rounded to the nearest
double. -/
def number? (value : Value) : Option Float :=
  match value.double? with
  | some x => some x
  | none => value.integer?.map Decimal.nearestInt

/-- The text, if the value is a string, an object path or a signature. -/
def text? : Value → Option String
  | .string text => some text
  | .objectPath text => some text
  | .signature text => some text
  | .variant inner => inner.text?
  | _ => none

/-- The truth value, if the value is one. -/
def bool? : Value → Option Bool
  | .bool value => some value
  | .variant inner => inner.bool?
  | _ => none

/-- False, zero and what is empty do not hold; everything else does. -/
def isTruthy : Value → Bool
  | .bool value => value
  | .double value => value != 0.0
  | .string text => text != ""
  | .objectPath text => text != ""
  | .signature text => text != ""
  | .bytes values => !values.isEmpty
  | .array items => !items.isEmpty
  | .struct fields => !fields.isEmpty
  | .dict entries => !entries.isEmpty
  | .variant inner => inner.isTruthy
  | value => value.integer?.any (· != 0)

/-- The number of characters, bytes, items, fields or entries; numbers and truth values have
none. -/
def size? : Value → Option Nat
  | .string text => some text.length
  | .objectPath text => some text.length
  | .signature text => some text.length
  | .bytes values => some values.length
  | .array items => some items.length
  | .struct fields => some fields.length
  | .dict entries => some entries.length
  | .variant inner => inner.size?
  | _ => none

/-- The value of a key of a dictionary, without the variants around it. -/
def get? (key : String) : Value → Option Value
  | .dict entries => (KeyMap.get? key entries).map unwrapped
  | .variant inner => inner.get? key
  | _ => none

mutual

/-- The values have the same kinds, numbers and texts throughout.  Doubles are compared as numbers:
the two zeros are equal and nothing equals a NaN. -/
def same : Value → Value → Bool
  | .bool a, .bool b => a == b
  | .byte a, .byte b => a == b
  | .int16 a, .int16 b => a == b
  | .uint16 a, .uint16 b => a == b
  | .int32 a, .int32 b => a == b
  | .uint32 a, .uint32 b => a == b
  | .int64 a, .int64 b => a == b
  | .uint64 a, .uint64 b => a == b
  | .double a, .double b => a == b
  | .string a, .string b => a == b
  | .objectPath a, .objectPath b => a == b
  | .signature a, .signature b => a == b
  | .bytes a, .bytes b => a == b
  | .array a, .array b => sameItems a b
  | .dict a, .dict b => sameEntries a b
  | .struct a, .struct b => sameItems a b
  | .variant a, .variant b => same a b
  | _, _ => false

/-- Two rows of values are the same item by item. -/
def sameItems : List Value → List Value → Bool
  | [], [] => true
  | a :: as, b :: bs => same a b && sameItems as bs
  | _, _ => false

/-- Two rows of entries are the same, keys included. -/
def sameEntries : List (String × Value) → List (String × Value) → Bool
  | [], [] => true
  | (k, a) :: as, (l, b) :: bs => k == l && same a b && sameEntries as bs
  | _, _ => false

end

instance : BEq Value := ⟨same⟩

end Value

end BusTrial
