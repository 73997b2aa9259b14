import BusTrial.Decimal.Reading
import BusTrial.Toml.Quoted

/-!
# Numbers, dates and times in TOML

An integer is decimal, with a sign if need be and without zeros in front, or it has a base
(`0x`, `0o`, `0b`) and no sign; it fits in 64 bits with a sign.  A float has a fraction, an exponent
or both, or is a word; it must not be too large, but may be too small by being too large and
negative.  Between two digits of a number there may be an underscore.
-/

namespace BusTrial.Toml

open Text Text.Take

/-- Takes digits of a kind, with single underscores between some of them; the underscores are
dropped. -/
def takeDigits (kind : Char → Bool) : Take (List Char) := do
  let first ← one kind
  return first :: (← many (one kind <|> char '_' *> one kind))

/-- The character is a decimal digit. -/
def isDigit (c : Char) : Bool :=
  (Decimal.digit? c).isSome

/-- Takes a sign and says whether it is a minus; having none is like having a plus. -/
def takeSign : Take Bool :=
  (do char '-'; return true) <|> (do char '+'; return false) <|> pure false

/-- Takes the decimal digits of a whole number: a zero alone, or digits that begin with another. -/
def takeWhole : Take (List Char) :=
  (do
    guard ((← next?) != some '0')
    takeDigits isDigit)
  <|> (return [← one isDigit])

/-- Takes the digits after a point. -/
def takeFraction : Take (List Char) := do
  char '.'
  takeDigits isDigit

/-- Takes an exponent. -/
def takeExponent : Take Int := do
  let _ ← one fun c => c == 'e' || c == 'E'
  let negative ← takeSign
  let n := Decimal.digitsValue (← takeDigits isDigit)
  return if negative then -n else n

/-- Takes a float that is written with digits. -/
def takeDecimalFloat : Take Float := do
  let negative ← takeSign
  let whole ← takeWhole
  let (fraction, exponent) ←
    (return ([], ← takeExponent)) <|> (return (← takeFraction, (← optional takeExponent).getD 0))
  let x := Decimal.nearestDecimal negative (Decimal.digitsValue (whole ++ fraction))
    (exponent - fraction.length)
  guard (negative || !x.isInf)
  return x

/-- Takes a float that is written as a word. -/
def takeNamedFloat : Take Float := do
  let negative ← takeSign
  (do word "inf"; return Decimal.infinity negative)
    <|> (do word "nan"; return 0.0 / 0.0)

/-- Takes an integer with a base. -/
def takeBased (start : String) (base : Nat) : Take Int := do
  word start
  let value? (c : Char) : Option Nat := (hexValue? c).filter (· < base)
  let ds ← takeDigits fun c => (value? c).isSome
  return ds.foldl (fun n d => base * n + (value? d).getD 0) 0

/-- Takes a decimal integer. -/
def takeDecimal : Take Int := do
  let negative ← takeSign
  let n : Int := Decimal.digitsValue (← takeWhole)
  return if negative then -n else n

/-- Takes an integer. -/
def takeInteger : Take Int := do
  let n ← takeBased "0x" 16 <|> takeBased "0o" 8 <|> takeBased "0b" 2 <|> takeDecimal
  guard (Decimal.fitsSigned 64 n)
  return n

/-! ## Dates and times -/

/-- Takes a number of exactly `digits` digits that lies between two bounds. -/
def takeField (digits least most : Nat) : Take Nat := do
  let n := Decimal.digitsValue (← exactly digits isDigit)
  guard (least ≤ n && n ≤ most)
  return n

/-- The number of days of a month. -/
def daysOfMonth (year month : Nat) : Nat :=
  if month == 2 then
    if year % 4 == 0 && (year % 100 != 0 || year % 400 == 0) then 29 else 28
  else if month == 4 || month == 6 || month == 9 || month == 11 then 30
  else 31

/-- Takes a date. -/
def takeDate : Take Unit := do
  let year ← takeField 4 0 9999
  char '-'
  let month ← takeField 2 1 12
  char '-'
  let _ ← takeField 2 1 (daysOfMonth year month)

/-- Takes a time of day; a minute may have a leap second. -/
def takeTime : Take Unit := do
  let _ ← takeField 2 0 23
  char ':'
  let _ ← takeField 2 0 59
  char ':'
  let _ ← takeField 2 0 60
  let _ ← optional (do char '.'; let _ ← one isDigit; span isDigit)

/-- Takes the distance from Coordinated Universal Time. -/
def takeOffset : Take Unit :=
  discard (one fun c => c == 'Z' || c == 'z') <|> do
    let _ ← one fun c => c == '+' || c == '-'
    let _ ← takeField 2 0 23
    char ':'
    let _ ← takeField 2 0 59

/-- Takes a date, a time of day or both. -/
def takeMoment : Take Unit :=
  (do
    takeDate
    let _ ← optional do
      let _ ← one fun c => c == 'T' || c == 't' || c == ' '
      takeTime
      optional takeOffset)
  <|> takeTime

end BusTrial.Toml
