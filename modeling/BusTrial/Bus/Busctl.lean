import BusTrial.Bus.TypedReply
import BusTrial.Device.Processes
import BusTrial.Device.RunLog
import BusTrial.ObjectPath
import BusTrial.Time.Basic
import BusTrial.Value.Arguments

/-!
# The system bus through `busctl`

`Busctl` reaches the system bus by running the command `busctl`, which prints a `TypedReply`.  A
property that is absent is told from one that cannot be read by the wording of the error.
-/

namespace BusTrial

/-- A client that runs `busctl`. -/
structure Busctl where
  /-- How long a reply may take. -/
  callTimeout : Duration
  deriving DecidableEq, Repr

namespace Busctl

/-- The request that runs a verb of `busctl` on the system bus. -/
def request (client : Busctl) (verb : String) (words : List String) : Request :=
  { program := "busctl",
    arguments :=
      ["--system", "--json=short",
        "--timeout=" ++ Nat.repr (max client.callTimeout.wholeSeconds 1), verb] ++ words }

/-- The words that name a member of an object. -/
def memberWords (object : ObjectRef) (interface name : String) : List String :=
  [object.service, object.path, interface, name]

/-- The words that pass arguments: their types in one word and then their values. -/
def argumentWords (arguments : List Value) : List String :=
  if arguments.isEmpty then []
  else Value.typesText arguments :: arguments.flatMap Value.arguments

/-- The request that calls a method. -/
def callRequest (client : Busctl) (object : ObjectRef) (interface method : String)
    (arguments : List Value) : Request :=
  client.request "call" (memberWords object interface method ++ argumentWords arguments)

/-- What `busctl` says when the property or its interface is not there. -/
def absentMarkers : List String :=
  ["Unknown property", "UnknownProperty", "No such property", "No such interface",
    "UnknownInterface"]

/-- The errors say that the property is not there. -/
def saysAbsent (errors : String) : Bool :=
  absentMarkers.any (Text.contains errors)

/-- How a failed run is reported. -/
def failure (what : String) (errors : String) : Failure :=
  .bus (what ++ " failed: " ++ Text.trim errors)

/-- What the output of `busctl get-property` says. -/
def propertyOf (object : ObjectRef) (interface property : String) (out : ProcessOutput) :
    Except Failure (Option Value) :=
  if out.exitCode ≠ 0 then
    if saysAbsent out.errors then .ok none
    else .error (failure ("get-property " ++ object.display ++ " " ++ interface ++ "." ++ property)
      out.errors)
  else do
    match ← TypedReply.read out.output with
    | some reply => return some (← reply.value)
    | none => return none

variable {σ : Type} [Processes σ] [EventLog σ]

/-- Reads a property. -/
def getProperty (client : Busctl) (object : ObjectRef) (interface property : String) :
    Act σ (Option Value) := do
  let out ← Processes.run (client.request "get-property" (memberWords object interface property))
  .ofExcept (propertyOf object interface property out)

/-- Calls a method. -/
def callMethod (client : Busctl) (object : ObjectRef) (interface method : String)
    (arguments : List Value) : Act σ (List Value) := do
  report "debug" "bus.call.started"
    [("object", .string object.display), ("interface", .string interface),
      ("method", .string method), ("arg_count", .int arguments.length)]
  let out ← Processes.run (client.callRequest object interface method arguments)
  if out.exitCode ≠ 0 then
    report "warn" "bus.call.failed"
      [("object", .string object.display), ("method", .string method),
        ("exit_code", .int out.exitCode), ("stderr", .string out.errors)]
    throw (failure ("call " ++ object.display ++ " " ++ interface ++ "." ++ method) out.errors)
  match ← Act.ofExcept (TypedReply.read out.output) with
  | some reply => .ofExcept reply.values
  | none => return []

/-- Describes an object. -/
def introspect (object : ObjectRef) : Act σ String := do
  let out ← Processes.run
    { program := "busctl",
      arguments := ["--system", "introspect", "--xml-interface", object.service, object.path] }
  if out.exitCode ≠ 0 then throw (failure ("introspect " ++ object.display) out.errors)
  return out.output

end Busctl

end BusTrial
