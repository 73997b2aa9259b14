import BusTrial.KeyMap
import BusTrial.Decimal.Binary

/-!
# JSON values

Integers are kept apart from other numbers: a number that is written without fraction and exponent
and fits in 64 bits, signed or unsigned, is an `int`; every other one is a `float`.  The members of
an object are a `KeyMap`.
-/

namespace BusTrial

/-- A JSON value. -/
inductive Json where
  | null
  | bool (value : Bool)
  | int (value : Int)
  | float (value : Float)
  | string (text : String)
  | array (items : List Json)
  | object (members : List (String × Json))
  deriving Inhabited

namespace Json

/-- The object that holds the last value given for each key. -/
def ofMembers (members : List (String × Json)) : Json :=
  .object (KeyMap.ofList members)

/-- The array of the texts. -/
def ofTexts (texts : List String) : Json :=
  .array (texts.map .string)

/-- A member of an object; other values have none. -/
def member? (key : String) : Json → Option Json
  | .object members => KeyMap.get? key members
  | _ => none

/-- The text of a string. -/
def string? : Json → Option String
  | .string text => some text
  | _ => none

/-- A truth value. -/
def bool? : Json → Option Bool
  | .bool value => some value
  | _ => none

/-- An integer that fits in 64 bits with a sign. -/
def signed? : Json → Option Int
  | .int value => if Decimal.fitsSigned 64 value then some value else none
  | _ => none

/-- An integer that fits in 64 bits without a sign. -/
def unsigned? : Json → Option Nat
  | .int value => if Decimal.fitsUnsigned 64 value then some value.toNat else none
  | _ => none

/-- A number, an integer rounded to the nearest binary64 number. -/
def float? : Json → Option Float
  | .int value => some (Decimal.nearestInt value)
  | .float value => some value
  | _ => none

end Json

end BusTrial
