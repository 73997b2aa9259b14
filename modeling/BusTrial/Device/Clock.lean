import BusTrial.Act
import BusTrial.Time.Basic

/-!
# Clocks

A `Clock` on a state tells the time of day and the time since the machine started, and sleeps.  The
time zone of the machine is assumed to be UTC: a clock has no offset of its own.
`SteppedClock` is a clock in memory: its time passes only by sleeping and by `advance`, and it
keeps every span that was slept.
-/

namespace BusTrial

/-- The state has a clock. -/
class Clock (σ : Type) where
  /-- The time of day. -/
  now : σ → Instant
  /-- The time since the machine started, on the clock that stamps journal entries. -/
  monotonic : σ → Duration
  /-- Lets a span of time pass. -/
  sleep : Duration → Act σ Unit

instance {ε σ : Type} [Clock σ] : Clock (ε × σ) where
  now s := Clock.now s.2
  monotonic s := Clock.monotonic s.2
  sleep d := Act.onRight (Clock.sleep d)

/-- A clock in memory. -/
structure SteppedClock where
  now : Instant := .epoch
  monotonic : Duration := .ofSeconds 100
  /-- The spans slept, the first one first. -/
  sleeps : Array Duration := #[]

namespace SteppedClock

/-- Lets time pass without sleeping. -/
def advance (d : Duration) (c : SteppedClock) : SteppedClock :=
  { c with now := c.now.after d, monotonic := c.monotonic + d }

/-- Sleeps. -/
def sleep (d : Duration) (c : SteppedClock) : SteppedClock :=
  { c.advance d with sleeps := c.sleeps.push d }

/-- The sum of the spans slept. -/
def slept (c : SteppedClock) : Duration :=
  c.sleeps.foldl (· + ·) ⟨0⟩

instance : Clock SteppedClock where
  now c := c.now
  monotonic c := c.monotonic
  sleep d := Act.change (sleep d)

end SteppedClock

end BusTrial
