import BusTrial.Value.Display

/-!
# Loose equality and order

Values read from a bus are compared by what they say and not by how they are typed: `looseEq` takes
integers of all widths by their number, the three kinds of text by their text, bytes as an array of
integers, and looks through variants.  A double equals an integer that rounds to it.

`compare` orders numbers and texts; every other pair is a `CompareError`.
-/

namespace BusTrial

/-- Why two values have no order. -/
inductive CompareError where
  /-- One of two numbers is a NaN. -/
  | unordered (left right : Value)
  /-- The kinds have no common order. -/
  | kinds (left right : Value)

/-- The sentence that reports the error. -/
def CompareError.message : CompareError → String
  | .unordered left right => left.display ++ " and " ++ right.display ++ " are unordered"
  | .kinds left right => "cannot order " ++ left.kindName ++ " against " ++ right.kindName

namespace Value

/-- The value is the integer that a byte holds. -/
def looseEqByte (b : UInt8) (value : Value) : Bool :=
  match value.integer?, value.double? with
  | some n, _ => n == b.toNat
  | none, some x => Decimal.nearestInt b.toNat == x
  | none, none => false

/-- The bytes are the items, one by one. -/
def looseEqBytes : List UInt8 → List Value → Bool
  | [], [] => true
  | b :: bs, item :: items => looseEqByte b item && looseEqBytes bs items
  | _, _ => false

/-- Loose equality of values that are neither variants nor built from values. -/
def looseEqScalar (left right : Value) : Bool :=
  match left.integer?, right.integer? with
  | some a, some b => a == b
  | _, _ =>
    if left.double?.isSome || right.double?.isSome then
      match left.number?, right.number? with
      | some a, some b => a == b
      | _, _ => false
    else
      match left.text?, right.text?, left.bool?, right.bool? with
      | some a, some b, _, _ => a == b
      | _, _, some a, some b => a == b
      | _, _, _, _ => false

mutual

/-- The values say the same, whatever the widths of integers, the kinds of texts and the variants
in them. -/
def looseEq : Value → Value → Bool
  | .variant inner, right => looseEq inner right
  | .bytes values, right =>
    match right.unwrapped with
    | .bytes others => values == others
    | .array items => looseEqBytes values items
    | _ => false
  | .array items, right =>
    match right.unwrapped with
    | .bytes values => looseEqBytes values items
    | .array others => looseEqItems items others
    | _ => false
  | .struct fields, right =>
    match right.unwrapped with
    | .struct others => looseEqItems fields others
    | _ => false
  | .dict entries, right =>
    match right.unwrapped with
    | .dict others => entries.length == others.length && looseEqEntries entries others
    | _ => false
  | left, right => looseEqScalar left right

/-- Two rows of values say the same, item by item. -/
def looseEqItems : List Value → List Value → Bool
  | [], [] => true
  | a :: as, b :: bs => looseEq a b && looseEqItems as bs
  | _, _ => false

/-- Every entry has one with the same key among the others, and the two say the same. -/
def looseEqEntries : List (String × Value) → KeyMap Value → Bool
  | [], _ => true
  | (key, a) :: rest, others =>
    (match others.get? key with
      | some b => looseEq a b
      | none => false) && looseEqEntries rest others

end

/-- The order of two doubles, unless one is a NaN. -/
def compareDoubles (a b : Float) : Option Ordering :=
  if a < b then some .lt else if b < a then some .gt else if a == b then some .eq else none

/-- The order of two numbers or two texts.  Texts are ordered by code points. -/
def compare (left right : Value) : Except CompareError Ordering :=
  match left.integer?, right.integer? with
  | some a, some b => .ok (Ord.compare a b)
  | _, _ =>
    match left.number?, right.number? with
    | some a, some b =>
      match compareDoubles a b with
      | some order => .ok order
      | none => .error (.unordered left right)
    | _, _ =>
      match left.text?, right.text? with
      | some a, some b => .ok (compareOfLessAndEq a b)
      | _, _ => .error (.kinds left right)

end Value

end BusTrial
