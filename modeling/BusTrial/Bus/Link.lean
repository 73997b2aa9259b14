import BusTrial.Bus.Busctl
import BusTrial.Bus.Scripted

/-!
# The bus in use

A `BusLink` says which bus is used: the one of the state itself, or the system bus through `busctl`.
-/

namespace BusTrial

/-- The bus in use. -/
inductive BusLink where
  /-- The bus of the state. -/
  | direct
  /-- The system bus, through `busctl`. -/
  | system (client : Busctl)
  deriving DecidableEq, Repr

namespace BusLink

variable {σ : Type} [Bus σ] [Processes σ] [EventLog σ]

/-- The value of a property; an object without the property or its interface has none. -/
def getProperty (link : BusLink) (object : ObjectRef) (interface property : String) :
    Act σ (Option Value) :=
  match link with
  | .direct => Bus.getProperty object interface property
  | .system client => client.getProperty object interface property

/-- Calls a method, and takes the values that it replies. -/
def callMethod (link : BusLink) (object : ObjectRef) (interface method : String)
    (arguments : List Value) : Act σ (List Value) :=
  match link with
  | .direct => Bus.callMethod object interface method arguments
  | .system client => client.callMethod object interface method arguments

/-- The description of an object in XML. -/
def introspect (link : BusLink) (object : ObjectRef) : Act σ String :=
  match link with
  | .direct => Bus.introspect object
  | .system _ => Busctl.introspect object

end BusLink

end BusTrial
