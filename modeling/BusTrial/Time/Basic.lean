import BusTrial.Decimal.Layout

/-!
# Points in time and spans of it

An `Instant` counts nanoseconds from the start of 1970 and may lie before it; a `Duration` counts
nanoseconds.  `Duration.seconds` is the number of seconds as a double, in two roundings: the
nanoseconds below a second are divided first and then added to the whole seconds.
-/

namespace BusTrial

/-- A span of time. -/
structure Duration where
  nanos : Nat
  deriving DecidableEq, Repr, Inhabited

namespace Duration

instance : LE Duration := ⟨fun a b => a.nanos ≤ b.nanos⟩
instance : LT Duration := ⟨fun a b => a.nanos < b.nanos⟩
instance (a b : Duration) : Decidable (a ≤ b) := inferInstanceAs (Decidable (a.nanos ≤ b.nanos))
instance (a b : Duration) : Decidable (a < b) := inferInstanceAs (Decidable (a.nanos < b.nanos))
instance : Add Duration := ⟨fun a b => ⟨a.nanos + b.nanos⟩⟩

/-- A number of seconds. -/
def ofSeconds (n : Nat) : Duration := ⟨n * 1000000000⟩

/-- A number of thousandths of a second. -/
def ofMillis (n : Nat) : Duration := ⟨n * 1000000⟩

/-- A number of millionths of a second. -/
def ofMicros (n : Nat) : Duration := ⟨n * 1000⟩

/-- The whole seconds. -/
def wholeSeconds (d : Duration) : Nat := d.nanos / 1000000000

/-- The whole thousandths of a second. -/
def wholeMillis (d : Duration) : Nat := d.nanos / 1000000

/-- The seconds as a double. -/
def seconds (d : Duration) : Float :=
  Decimal.nearestInt d.wholeSeconds + Decimal.nearestInt (d.nanos % 1000000000) / 1e9

/-- The seconds with eight places, in brackets, as stamps show them. -/
def stamp (d : Duration) : String :=
  "[" ++ Decimal.fixed 8 d.seconds ++ "]"

end Duration

/-- A point in time. -/
structure Instant where
  nanos : Int
  deriving DecidableEq, Repr, Inhabited

namespace Instant

/-- The start of 1970. -/
def epoch : Instant := ⟨0⟩

/-- The point a span later. -/
def after (t : Instant) (d : Duration) : Instant := ⟨t.nanos + d.nanos⟩

/-- The point a span earlier. -/
def before (t : Instant) (d : Duration) : Instant := ⟨t.nanos - d.nanos⟩

/-- The whole seconds since the epoch; none have passed before it. -/
def secondsSinceEpoch (t : Instant) : Nat := t.nanos.toNat / 1000000000

end Instant

end BusTrial
