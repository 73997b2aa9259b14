import BusTrial.Decimal.Binary

/-!
# The fewest digits that read back

`shortest` finds the decimal `digits * 10 ^ exponent` with the fewest digits that lies in the
interval of numbers which round to a given binary64 magnitude; among those with that many digits
it takes the one nearest to the magnitude.  The interval has its ends in it exactly when the
significand is even.

For each count of digits from one on, the two neighbours of the magnitude on that decimal grid are
tried: if any point of a grid lies in the interval, so does one of these.
-/

namespace BusTrial.Decimal

/-- Which of two neighbours is taken when the magnitude lies exactly between them. -/
inductive Tie where
  | up
  | toEven
  deriving DecidableEq, Repr

/-- The decimal `digits * 10 ^ exponent`. -/
structure Scaled where
  digits : Nat
  exponent : Int
  deriving DecidableEq, Repr

/-- A magnitude and the ends of its rounding interval, in units of `1 / denominator`. -/
structure Interval where
  low : Nat
  value : Nat
  high : Nat
  denominator : Nat
  closed : Bool

/-- The numbers that round to a magnitude.  Below a power of two the next smaller number is only
half as far away, unless that is the smallest power of the range. -/
def Magnitude.interval (m : Magnitude) : Interval :=
  let (unit, denominator) := scaleByTwo 1 4 m.exponent
  let v := 4 * m.significand
  let below := if m.significand == twoTo 52 && -1074 < m.exponent then 1 else 2
  { low := (v - below) * unit, value := v * unit, high := (v + 2) * unit, denominator,
    closed := m.significand % 2 == 0 }

/-- The multiples of a power of ten, measured against an interval: in the interval's units times
`scale`, neighbours on the grid are `step` apart. -/
structure Grid where
  step : Nat
  scale : Nat

namespace Interval

/-- The grid of the multiples of `10 ^ exponent`. -/
def grid (i : Interval) (exponent : Int) : Grid :=
  if 0 ≤ exponent then ⟨i.denominator * tenTo exponent.toNat, 1⟩
  else ⟨i.denominator, tenTo (-exponent).toNat⟩

/-- A point given in the interval's units times `scale` rounds to the magnitude. -/
def holds (i : Interval) (point scale : Nat) : Bool :=
  if i.closed then i.low * scale ≤ point && point ≤ i.high * scale
  else i.low * scale < point && point < i.high * scale

/-- The decimal on the grid of multiples of `10 ^ exponent` that reads back and is nearest to the
magnitude, if one reads back at all. -/
def onGrid? (i : Interval) (tie : Tie) (exponent : Int) : Option Scaled :=
  let ⟨step, scale⟩ := i.grid exponent
  let v := i.value * scale
  let below := v / step
  let fitsBelow := i.holds (below * step) scale && 0 < below
  let fitsAbove := i.holds ((below + 1) * step) scale
  let rest := 2 * (v % step)
  let above := step < rest || (rest == step && (tie == .up || below % 2 == 1))
  if fitsBelow && (!fitsAbove || !above) then some ⟨below, exponent⟩
  else if fitsAbove then some ⟨below + 1, exponent⟩
  else none

/-- The first grid that has a decimal which reads back, from `exponent` downwards. -/
def firstOnGrid (i : Interval) (tie : Tie) : (grids : Nat) → (exponent : Int) → Scaled
  | 0, exponent => ⟨0, exponent⟩
  | grids + 1, exponent =>
    match i.onGrid? tie exponent with
    | some found => found
    | none => firstOnGrid i tie grids (exponent - 1)

/-- The decimal exponent of the first digit of the value: `10 ^ e ≤ value < 10 ^ (e + 1)`. -/
def leadingExponent (i : Interval) : Int :=
  let guess := ((i.value.log2 : Int) - (i.denominator.log2 : Int)) * 30103 / 100000
  let atLeast (e : Int) : Bool :=
    let ⟨step, scale⟩ := i.grid e
    step ≤ i.value * scale
  if atLeast (guess + 1) then guess + 1
  else if atLeast guess then guess
  else guess - 1

end Interval

/-- Moves the zeros at the end of the digits into the exponent. -/
def Scaled.dropZeros : (fuel : Nat) → Scaled → Scaled
  | 0, s => s
  | fuel + 1, s =>
    if s.digits != 0 && s.digits % 10 == 0 then dropZeros fuel ⟨s.digits / 10, s.exponent + 1⟩
    else s

/-- The decimal with the fewest digits that reads back as the magnitude; seventeen digits always
suffice. -/
def Magnitude.shortest (tie : Tie) (m : Magnitude) : Scaled :=
  if m.significand == 0 then ⟨0, 0⟩
  else
    let i := m.interval
    (i.firstOnGrid tie 17 i.leadingExponent).dropZeros 20

end BusTrial.Decimal
