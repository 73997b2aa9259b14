/-!
# Powers of two and ten, and widths of integers

`twoTo` and `tenTo` are powers of natural numbers.  An integer of `width` bits has a sign or none:
`fitsSigned` and `fitsUnsigned` are the two ranges.
-/

namespace BusTrial.Decimal

/-- Two to the power of `n`. -/
def twoTo (n : Nat) : Nat :=
  Nat.pow 2 n

/-- Ten to the power of `n`. -/
def tenTo (n : Nat) : Nat :=
  Nat.pow 10 n

/-- The integer fits in `width` bits without a sign. -/
def fitsUnsigned (width : Nat) (n : Int) : Bool :=
  decide (0 ≤ n) && decide (n < twoTo width)

/-- The integer fits in `width` bits with a sign. -/
def fitsSigned (width : Nat) (n : Int) : Bool :=
  decide (-(twoTo (width - 1) : Int) ≤ n) && decide (n < twoTo (width - 1))

end BusTrial.Decimal
