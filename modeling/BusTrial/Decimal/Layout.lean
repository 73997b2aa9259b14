import BusTrial.Decimal.Shortest

/-!
# Writing decimals

A `Layout` holds the decisions of one number format: which decimal exponents are written
positionally, whether an integer keeps its `.0`, and how ties between two shortest forms go.
`Layout.write` applies them to a binary64 number.  `fixed` writes a given count of places instead,
rounded half to even from the exact value.
-/

namespace BusTrial.Decimal

/-- The decisions of a number format. -/
structure Layout where
  /-- The least and the greatest decimal exponent of the first digit for which a number is written
  positionally; without bounds every number is. -/
  positional : Option (Int × Int)
  /-- An integer written positionally ends in `.0`. -/
  keepsPoint : Bool
  tie : Tie
  deriving Repr

/-- The decimal digits of a number. -/
def digitChars (n : Nat) : List Char :=
  Nat.toDigits 10 n

/-- `count` zeros. -/
def zeros (count : Nat) : List Char :=
  List.replicate count '0'

namespace Scaled

/-- The decimal exponent of the first digit. -/
def leading (s : Scaled) : Int :=
  s.exponent + (digitChars s.digits).length - 1

/-- Writes the decimal with its point in place. -/
def writePositional (keepsPoint : Bool) (s : Scaled) : List Char :=
  let ds := digitChars s.digits
  let whole := s.exponent + ds.length
  if 0 ≤ s.exponent then
    ds ++ zeros s.exponent.toNat ++ if keepsPoint then ['.', '0'] else []
  else if 0 < whole then
    ds.take whole.toNat ++ '.' :: ds.drop whole.toNat
  else
    '0' :: '.' :: zeros (-whole).toNat ++ ds

/-- Writes the decimal with one digit before the point and a signed exponent. -/
def writeScientific (s : Scaled) : List Char :=
  let e := s.leading
  let mantissa := match digitChars s.digits with
    | [] => []
    | [d] => [d]
    | d :: ds => d :: '.' :: ds
  mantissa ++ 'e' :: (if e < 0 then '-' else '+') :: digitChars e.natAbs

/-- Writes the decimal as the layout decides. -/
def write (layout : Layout) (s : Scaled) : List Char :=
  let plain := match layout.positional with
    | none => true
    | some (least, greatest) => s.digits == 0 || (least ≤ s.leading && s.leading ≤ greatest)
  if plain then s.writePositional layout.keepsPoint else s.writeScientific

end Scaled

/-- Writes a binary64 number. -/
def Layout.write (layout : Layout) (x : Float) : String :=
  match classify x with
  | .nan => "NaN"
  | .infinite negative => if negative then "-inf" else "inf"
  | .finite negative m =>
    let text := String.ofList ((m.shortest layout.tie).write layout)
    if negative then "-" ++ text else text

/-- Writes a magnitude with `places` digits after the point, rounded half to even. -/
def Magnitude.fixed (places : Nat) (m : Magnitude) : List Char :=
  let (n, d) := scaleByTwo (m.significand * tenTo places) 1 m.exponent
  let q := roundHalfEven n d
  let fraction := digitChars (q % tenTo places)
  digitChars (q / tenTo places) ++ '.' :: zeros (places - fraction.length) ++ fraction

/-- Writes a binary64 number with `places` digits after the point. -/
def fixed (places : Nat) (x : Float) : String :=
  match classify x with
  | .nan => "NaN"
  | .infinite negative => if negative then "-inf" else "inf"
  | .finite negative m =>
    let text := String.ofList (m.fixed places)
    if negative then "-" ++ text else text

end BusTrial.Decimal
