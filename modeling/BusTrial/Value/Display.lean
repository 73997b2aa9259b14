import BusTrial.Value.Basic
import BusTrial.Decimal.Layout

/-!
# Values as text for people

`display` writes a value the way failure messages and reports show it: texts without quotes, bytes
and arrays in brackets, dictionaries in braces, structs in parentheses, and variants as what they
hold.
-/

namespace BusTrial.Value

/-- Doubles are written positionally whatever their size, and without a point when they are whole;
a tie between two shortest forms goes up. -/
def doubleLayout : Decimal.Layout :=
  { positional := none, keepsPoint := false, tie := .up }

mutual

/-- Writes a value. -/
def display : Value → String
  | .bool value => if value then "true" else "false"
  | .byte value => Nat.repr value.toNat
  | .int16 value => Int.repr value.toInt
  | .uint16 value => Nat.repr value.toNat
  | .int32 value => Int.repr value.toInt
  | .uint32 value => Nat.repr value.toNat
  | .int64 value => Int.repr value.toInt
  | .uint64 value => Nat.repr value.toNat
  | .double value => doubleLayout.write value
  | .string text => text
  | .objectPath text => text
  | .signature text => text
  | .bytes values => "[" ++ ", ".intercalate (values.map fun b => Nat.repr b.toNat) ++ "]"
  | .array items => "[" ++ displayItems items ++ "]"
  | .dict entries => "\x7b" ++ displayEntries entries ++ "\x7d"
  | .struct fields => "(" ++ displayItems fields ++ ")"
  | .variant inner => inner.display

/-- Writes a row of values with commas between them. -/
def displayItems : List Value → String
  | [] => ""
  | [item] => item.display
  | item :: rest => item.display ++ ", " ++ displayItems rest

/-- Writes the entries of a dictionary with commas between them. -/
def displayEntries : List (String × Value) → String
  | [] => ""
  | [(key, value)] => key ++ ": " ++ value.display
  | (key, value) :: rest => key ++ ": " ++ value.display ++ ", " ++ displayEntries rest

end

/-- Writes a value that may be absent. -/
def displayOption : Option Value → String
  | none => "None"
  | some value => value.display

end BusTrial.Value
