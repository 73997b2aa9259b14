import BusTrial.Decimal.Power

/-!
# Binary64 numbers as exact rationals

A finite `Float` is `± significand * 2 ^ exponent`.  `classify` reads that off the bits, and
`nearestBits` goes back: it rounds a rational to the nearest binary64 number, ties to the even
significand.  Everything here is arithmetic on `Nat` and `Int`.
-/

namespace BusTrial.Decimal

/-- The magnitude `significand * 2 ^ exponent` of a finite binary64 number. -/
structure Magnitude where
  significand : Nat
  exponent : Int
  deriving DecidableEq, Repr

/-- What a binary64 number is. -/
inductive Kind where
  | nan
  | infinite (negative : Bool)
  | finite (negative : Bool) (magnitude : Magnitude)
  deriving DecidableEq, Repr

/-- Reads the sign, the exponent and the fraction of a binary64 word. -/
def classifyBits (bits : UInt64) : Kind :=
  let word : Nat := bits.toNat
  let negative : Bool := word / twoTo 63 == 1
  let biased : Nat := word / twoTo 52 % twoTo 11
  let fraction : Nat := word % twoTo 52
  if biased == 2047 then
    if fraction == 0 then .infinite negative else .nan
  else if biased == 0 then .finite negative ⟨fraction, -1074⟩
  else .finite negative ⟨fraction + twoTo 52, (biased : Int) - 1075⟩

/-- What a `Float` is. -/
def classify (x : Float) : Kind :=
  classifyBits x.toBits

/-- `num / den` rounded to an integer, ties to even. -/
def roundHalfEven (num den : Nat) : Nat :=
  let q := num / den
  let r := num % den
  if 2 * r < den then q
  else if den < 2 * r then q + 1
  else if q % 2 == 0 then q else q + 1

/-- `n * 2 ^ e` as a numerator and a denominator. -/
def scaleByTwo (num den : Nat) (e : Int) : Nat × Nat :=
  if 0 ≤ e then (num * twoTo e.toNat, den) else (num, den * twoTo (-e).toNat)

/-- The exponent `e` for which `num / den` lies in `[2 ^ 52, 2 ^ 53) * 2 ^ e`, but no less than
`-1074`, the exponent of the subnormal numbers. -/
def unitExponent (num den : Nat) : Int :=
  let guess := (num.log2 : Int) - (den.log2 : Int) - 52
  let (n, d) := scaleByTwo num den (-guess)
  max (if n < twoTo 52 * d then guess - 1 else guess) (-1074)

/-- The bits of the positive binary64 number nearest to `num / den`, ties to the even
significand; what is too large becomes infinity. -/
def nearestBits (num den : Nat) : UInt64 :=
  if num == 0 then 0
  else
    let e := unitExponent num den
    let (n, d) := scaleByTwo num den (-e)
    let word := (e + 1074).toNat * twoTo 52 + roundHalfEven n d
    .ofNat (min word (2047 * twoTo 52))

/-- The binary64 number nearest to `± num / den`. -/
def nearest (negative : Bool) (num den : Nat) : Float :=
  .ofBits (nearestBits num den ||| if negative then 0x8000000000000000 else 0)

/-- What every number beyond the range is rounded to. -/
def infinity (negative : Bool) : Float :=
  nearest negative (twoTo 1024) 1

/-- The binary64 number nearest to an integer. -/
def nearestInt (n : Int) : Float :=
  nearest (n < 0) n.natAbs 1

/-- The binary64 number nearest to `± digits * 10 ^ exponent`.  An exponent that puts the number
beyond either end of the range is decided without computing the power. -/
def nearestDecimal (negative : Bool) (digits : Nat) (exponent : Int) : Float :=
  let size := (Nat.toDigits 10 digits).length
  if digits == 0 then nearest negative 0 1
  else if 310 < (size : Int) + exponent then infinity negative
  else if (size : Int) + exponent < -330 then nearest negative 0 1
  else if 0 ≤ exponent then nearest negative (digits * tenTo exponent.toNat) 1
  else nearest negative digits (tenTo (-exponent).toNat)

end BusTrial.Decimal
