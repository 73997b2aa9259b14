import BusTrial.Probe.Assertion
import BusTrial.Value.Literal

/-!
# Conditions on the command line

A probe on the command line is given one of eight conditions.  `ConditionChoice` holds what was given,
and `condition?` picks the first of them in a fixed order.
-/

namespace BusTrial.CommandLine

/-- A condition on a property. -/
inductive Condition where
  | equals (value : Value)
  | greater (bound : Value)
  | less (bound : Value)
  | present
  | absent
  | truthy
  | falsy
  | length (size : Nat)

/-- The condition as what a probe asserts. -/
def Condition.assertion : Condition → Assertion
  | .equals value => .equal value Assertion.whole
  | .greater bound => .greater bound
  | .less bound => .less bound
  | .present => .present
  | .absent => .absent
  | .truthy => .truthy
  | .falsy => .falsy
  | .length size => .size size

/-- The conditions that were given, with their values as they are written. -/
structure ConditionChoice where
  equals : Option String := none
  greater : Option String := none
  less : Option String := none
  present : Bool := false
  absent : Bool := false
  truthy : Bool := false
  falsy : Bool := false
  length : Option Nat := none
  deriving DecidableEq, Repr

namespace ConditionChoice

/-- All conditions that were given. -/
def all (c : ConditionChoice) : List Condition :=
  (c.equals.map fun text => Condition.equals (.ofLiteral text)).toList
    ++ (c.greater.map fun text => Condition.greater (.ofLiteral text)).toList
    ++ (c.less.map fun text => Condition.less (.ofLiteral text)).toList
    ++ (if c.present then [.present] else [])
    ++ (if c.absent then [.absent] else [])
    ++ (if c.truthy then [.truthy] else [])
    ++ (if c.falsy then [.falsy] else [])
    ++ (c.length.map Condition.length).toList

/-- The first condition that was given. -/
def condition? (c : ConditionChoice) : Option Condition :=
  c.all.head?

/-- The failure of a probe without a condition. -/
def missing : Failure :=
  .plain .commandLine "probe needs a condition"

/-- The first condition that was given; there must be one. -/
def condition (c : ConditionChoice) : Except Failure Condition :=
  match c.condition? with
  | some condition => .ok condition
  | none => .error missing

end ConditionChoice

end BusTrial.CommandLine
