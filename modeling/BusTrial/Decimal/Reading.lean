import BusTrial.Decimal.Binary

/-!
# Reading numbers from text

Three grammars: a natural number (`+` and digits), an integer (one sign and digits) and a
floating-point number.  `readFloat` accepts `infinity`, `inf` and `nan` in any case, and otherwise
a sign, digits with at most one point among or around them, and an exponent; a digit must stand on
one side of the point, and the result is the nearest binary64 number.
-/

namespace BusTrial.Decimal

/-- The value of a decimal digit. -/
def digit? (c : Char) : Option Nat :=
  if '0' ≤ c && c ≤ '9' then some (c.toNat - '0'.toNat) else none

/-- The number that a list of decimal digits writes, or `none` when it is empty or holds
something else. -/
def digits? (cs : List Char) : Option Nat :=
  match cs with
  | [] => none
  | _ => cs.foldlM (fun n c => (digit? c).map (10 * n + ·)) 0

/-- Reads digits with an optional `+` before them. -/
def readNat (cs : List Char) : Option Nat :=
  match cs with
  | '+' :: rest => digits? rest
  | _ => digits? cs

/-- Reads digits with an optional sign before them. -/
def readInt (cs : List Char) : Option Int :=
  match cs with
  | '-' :: rest => (digits? rest).map fun n => -(n : Int)
  | _ => (readNat cs).map Int.ofNat

/-- Reads an integer of an unsigned type of `width` bits. -/
def readUnsigned (width : Nat) (text : String) : Option Nat :=
  (readNat text.toList).filter fun n => fitsUnsigned width n

/-- Reads an integer of a signed type of `width` bits. -/
def readSigned (width : Nat) (text : String) : Option Int :=
  (readInt text.toList).filter (fitsSigned width)

/-- The digits at the front and what follows them. -/
def spanDigits (cs : List Char) : List Char × List Char :=
  cs.span fun c => (digit? c).isSome

/-- The number that a list of digits writes; the empty list writes zero. -/
def digitsValue (cs : List Char) : Nat :=
  cs.foldl (fun n c => 10 * n + (digit? c).getD 0) 0

/-- Reads an exponent that fills the rest of the text: nothing at all, or `e`, an optional sign and
digits. -/
def readExponent : List Char → Option Int
  | [] => some 0
  | e :: rest => if e == 'e' || e == 'E' then readInt rest else none

/-- Reads an unsigned floating-point number. -/
def readMagnitude (negative : Bool) (cs : List Char) : Option Float := do
  let (whole, rest) := spanDigits cs
  let (fraction, rest) := match rest with
    | '.' :: rest => spanDigits rest
    | _ => ([], rest)
  guard (!whole.isEmpty || !fraction.isEmpty)
  let e ← readExponent rest
  return nearestDecimal negative (digitsValue (whole ++ fraction)) (e - fraction.length)

/-- Reads a floating-point number. -/
def readFloat (text : String) : Option Float :=
  let (negative, cs) := match text.toList with
    | '-' :: rest => (true, rest)
    | '+' :: rest => (false, rest)
    | cs => (false, cs)
  let word := String.ofList (cs.map Char.toLower)
  if word == "inf" || word == "infinity" then
    some (infinity negative)
  else if word == "nan" then some (0.0 / 0.0)
  else readMagnitude negative cs

end BusTrial.Decimal
