import BusTrial.Json.Basic
import BusTrial.Json.Reading
import BusTrial.Decimal.Reading

/-!
# Numbers in JSON text

`NumberText` holds the parts of a written number.  An integer that fits in 64 bits is kept exactly.
Every other number becomes a binary64 number in two roundings: the digits are absorbed into a
64-bit significand for as long as they fit, the rest only count as places, and the significand is
then multiplied or divided by a power of ten.  The last digit can therefore differ from the nearest
number.
-/

namespace BusTrial.Json

/-- The parts of a written number; the digits are characters `0` to `9`. -/
structure NumberText where
  negative : Bool
  whole : List Char
  fraction : List Char
  /-- The sign (`true` is positive) and the digits of the exponent. -/
  exponent : Option (Bool × List Char)
  /-- Neither a point nor an exponent is written. -/
  isInteger : Bool

/-- Takes digits, of which there is one at least.  `cut` is the cause when the text ends there. -/
def takeDigits (cut : Cause) : Reading (List Char) := do
  let (ds, rest) := Decimal.spanDigits (← get)
  set rest
  if ds.isEmpty then Reading.refuseHere cut .illFormedNumber
  return ds

/-- Takes the digits in front of the point.  A leading zero stands alone. -/
def takeWhole (cut : Cause) : Reading (List Char) := do
  if ← Reading.dropIf '0' then
    if (← Reading.next?).any fun c => (Decimal.digit? c).isSome then
      Reading.refuse .illFormedNumber
    return ['0']
  takeDigits cut

/-- Takes the point and the digits after it, if there is a point. -/
def takeFraction (cut : Cause) : Reading (Option (List Char)) := do
  if ← Reading.dropIf '.' then return some (← takeDigits cut)
  return none

/-- Takes the sign of an exponent, if there is one; `true` is positive. -/
def takeSign : Reading Bool := do
  if ← Reading.dropIf '-' then return false
  discard (Reading.dropIf '+')
  return true

/-- Takes an exponent, if there is one. -/
def takeExponent (cut : Cause) : Reading (Option (Bool × List Char)) := do
  if (← Reading.next?).any fun c => c == 'e' || c == 'E' then
    Reading.drop
    let positive ← takeSign
    return some (positive, ← takeDigits cut)
  return none

/-- Takes a number.  Digits after a leading zero are refused, as are a point or an exponent without
digits. -/
def NumberText.take (cut : Cause) : Reading NumberText := do
  let negative ← Reading.dropIf '-'
  let whole ← takeWhole cut
  let fraction ← takeFraction cut
  let exponent ← takeExponent cut
  return { negative, whole, fraction := fraction.getD [], exponent,
           isInteger := fraction.isNone && exponent.isNone }

/-- Absorbs digits into a 64-bit significand while they fit, and counts them. -/
def absorb (significand : Nat) : List Char → Nat × Nat
  | [] => (significand, 0)
  | c :: cs =>
    let next := 10 * significand + (Decimal.digit? c).getD 0
    if next < Decimal.twoTo 64 then
      let (total, count) := absorb next cs
      (total, count + 1)
    else (significand, 0)

/-- The binary64 number nearest to a power of ten. -/
def powerOfTen (exponent : Nat) : Float :=
  Decimal.nearestDecimal false 1 exponent

/-- Divides by `10 ^ 308` until the rest of a negative exponent is within the table of powers; a
64-bit significand is zero after three divisions. -/
def scaleDown : (fuel : Nat) → Float → (exponent : Nat) → Float
  | 0, x, _ => x * 0.0
  | fuel + 1, x, exponent =>
    if exponent ≤ 308 then x / powerOfTen exponent
    else scaleDown fuel (x / powerOfTen 308) (exponent - 308)

/-- `significand * 10 ^ exponent`, or `none` when it is beyond the range. -/
def scale (significand : Nat) (exponent : Int) : Option Float :=
  let x := Decimal.nearestInt significand
  if significand == 0 then some x
  else if 308 < exponent then none
  else if 0 ≤ exponent then
    let scaled := x * powerOfTen exponent.toNat
    if scaled.isInf then none else some scaled
  else some (scaleDown 4 x exponent.natAbs)

/-- The value of a number with a fraction or an exponent, or of an integer beyond 64 bits. -/
def NumberText.float (t : NumberText) : Option Float :=
  let (wholePart, absorbedWhole) := absorb 0 t.whole
  let (significand, absorbedFraction) := absorb wholePart t.fraction
  let places : Int := (t.whole.length - absorbedWhole : Nat) - (absorbedFraction : Int)
  let magnitude := match t.exponent with
    | none => scale significand places
    | some (positive, ds) =>
      let e := Decimal.digitsValue ds
      if e < Decimal.twoTo 31 then scale significand (if positive then places + e else places - e)
      else if significand != 0 && positive then none
      else some 0.0
  magnitude.map fun x => if t.negative then -x else x

/-- The value of a written number.  A negative zero is a float, since no integer is one. -/
def NumberText.value (t : NumberText) : Option Json :=
  let n := Decimal.digitsValue t.whole
  if t.isInteger && !t.negative && Decimal.fitsUnsigned 64 n then some (.int n)
  else if t.isInteger && t.negative && n != 0 && Decimal.fitsSigned 64 (-n) then some (.int (-n))
  else t.float.map .float

/-- The digits after the one with which a number that starts with `value` leaves 31 bits. -/
def digitsBeyond (value : Nat) : List Char → List Char
  | [] => []
  | c :: cs =>
    let next := 10 * value + (Decimal.digit? c).getD 0
    if next < Decimal.twoTo 31 then digitsBeyond next cs else cs

/-- What is left where a number turns out to be out of range: an exponent is not read any further
when it leaves 31 bits, and any other number is read to its end. -/
def NumberText.leftOutOfRange (t : NumberText) (rest : List Char) : List Char :=
  match t.exponent with
  | some (_, ds) => digitsBeyond 0 ds ++ rest
  | none => rest

end BusTrial.Json
