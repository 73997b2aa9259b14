import BusTrial.Probe.Basic
import BusTrial.Value.Compare

/-!
# Assertions about a property

An `Assertion` is a condition on what a read of a property finds (`holds`) together with the sentence
that says what is wrong with a value that does not meet it (`complaint`).  `Probe.assert` waits until
the condition holds; if it does not in time, the complaint is about the value read last.

Equality and nearness can be asserted of a part of the value, which an accessor picks.
-/

namespace BusTrial

/-- Picks the part of a value that is looked at. -/
abbrev Accessor := Value → Except Failure Value

/-- What a test expects of a property. -/
inductive Assertion where
  /-- It says the same as `expected`. -/
  | equal (expected : Value) (accessor : Accessor)
  /-- It is a number at most `delta` away from `expected`. -/
  | near (expected delta : Float) (accessor : Accessor)
  | greater (bound : Value)
  | less (bound : Value)
  /-- It says the same as one of the candidates. -/
  | oneOf (candidates : List Value)
  /-- It is absent or says the same as none of the candidates. -/
  | noneOf (candidates : List Value)
  | truthy
  /-- It is absent or does not hold. -/
  | falsy
  | absent
  | present
  | size (expected : Nat)

namespace Assertion

/-- Looks at the whole value. -/
def whole : Accessor := .ok

/-- Looks at one element of a struct or an array; a variant is not opened for it. -/
def element (index : Nat) : Accessor := fun value =>
  match value with
  | .struct fields | .array fields =>
    match fields[index]? with
    | some field => .ok field
    | none => .error (.assertion ("no field " ++ Nat.repr index))
  | _ => .error (.assertion (value.display ++ " has no fields"))

/-- Looks at what a dictionary, possibly inside variants, has under a key. -/
def entry (key : String) : Accessor := fun value =>
  match value.get? key with
  | some found => .ok found
  | none => .error (.assertion ("no key " ++ key))

/-- The value of a property that must have one. -/
def presentValue (value : Option Value) : Except Failure Value :=
  match value with
  | some v => .ok v
  | none => .error (.assertion "property has no value")

/-- The value says the same as one of the candidates. -/
def among (candidates : List Value) (value : Value) : Bool :=
  candidates.any fun candidate => candidate.looseEq value

/-- The order of a value and a bound. -/
def orderOf (value bound : Value) : Except Failure Ordering :=
  (value.compare bound).mapError fun e => .assertion e.message

/-- Whether a read meets the expectation; some reads cannot be judged. -/
def holds (a : Assertion) (value : Option Value) : Except Failure Bool := do
  match a with
  | .equal expected accessor =>
    return (← accessor (← presentValue value)).looseEq expected
  | .near expected delta accessor =>
    let part ← accessor (← presentValue value)
    match part.number? with
    | some x => return (x - expected).abs ≤ delta
    | none => throw (.assertion (part.display ++ " is not a number"))
  | .greater bound => return (← orderOf (← presentValue value) bound) == .gt
  | .less bound => return (← orderOf (← presentValue value) bound) == .lt
  | .oneOf candidates => return among candidates (← presentValue value)
  | .noneOf candidates => return value.all fun v => !among candidates v
  | .truthy => return value.any Value.isTruthy
  | .falsy => return !value.any Value.isTruthy
  | .absent => return value.isNone
  | .present => return value.isSome
  | .size expected =>
    let v ← presentValue value
    match v.size? with
    | some n => return n == expected
    | none => throw (.assertion (v.kindName ++ " has no length"))

/-- The part of a value that the accessor picks, or the whole value where it picks none. -/
def seen (accessor : Accessor) (value : Option Value) : String :=
  match value.map accessor with
  | some (.ok part) => part.display
  | _ => Value.displayOption value

/-- Candidates as one text. -/
def listText (candidates : List Value) : String :=
  (Value.array candidates).display

/-- What is wrong with a read that does not meet the expectation. -/
def complaint (a : Assertion) (value : Option Value) : String :=
  match a with
  | .equal expected accessor => seen accessor value ++ " != " ++ expected.display
  | .near expected delta accessor =>
    seen accessor value ++ " is not almost equal to " ++ (Value.double expected).display
      ++ " (delta = " ++ (Value.double delta).display ++ ")"
  | .greater bound => Value.displayOption value ++ " is not greater than " ++ bound.display
  | .less bound => Value.displayOption value ++ " is not less than " ++ bound.display
  | .oneOf candidates => Value.displayOption value ++ " not found in " ++ listText candidates
  | .noneOf candidates =>
    Value.displayOption value ++ " unexpectedly found in " ++ listText candidates
  | .truthy => Value.displayOption value ++ " is not true"
  | .falsy => Value.displayOption value ++ " is not false"
  | .absent => Value.displayOption value ++ " is not None"
  | .present => "unexpectedly None"
  | .size expected =>
    match value with
    | none => "None has no length"
    | some v =>
      match v.size? with
      | some n =>
        "Expected length " ++ Nat.repr expected ++ ", but " ++ v.display ++ " has length "
          ++ Nat.repr n
      | none => v.kindName ++ " has no length"

end Assertion

namespace Probe

variable {σ : Type} [Bus σ] [Processes σ] [EventLog σ] [Clock σ]

/-- Waits, as long as the probe's timing allows, until the expectation is met. -/
def assert (a : Assertion) : Act (Probe × σ) Unit := do
  let probe ← Act.read fun (p, _) => p
  let judge (value : Option Value) : Act Unit Bool := .ofExcept (a.holds value)
  let (ended, _) ← Act.within () (waitUntil probe.timing.timeout judge)
  if ← Act.settle ended then return
  let probe ← Act.read fun (p, _) => p
  throw (.assertion (a.complaint probe.last))

end Probe

end BusTrial
