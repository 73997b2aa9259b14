import BusTrial.Failure

/-!
# Names of tests

A test is named `module.class.method`.  `TestId.parse` takes the method and the class from the end of
the text, so only the module may hold dots itself; none of the three may be empty.
-/

namespace BusTrial

/-- The name of a test. -/
structure TestId where
  module : String
  testClass : String
  method : String
  deriving DecidableEq, Repr

namespace TestId

/-- Writes the name with dots between its parts. -/
def display (id : TestId) : String :=
  id.module ++ "." ++ id.testClass ++ "." ++ id.method

/-- Cuts off what stands after the last dot; the dot is dropped. -/
def cutLast (cs : List Char) : Option (List Char × List Char) :=
  match cs.reverse.dropWhile (· != '.') with
  | [] => none
  | _ :: before => some (before.reverse, (cs.reverse.takeWhile (· != '.')).reverse)

/-- The parts of a name, if it has three that are not empty. -/
def parts? (cs : List Char) : Option (List Char × List Char × List Char) := do
  let (rest, method) ← cutLast cs
  let (module, testClass) ← cutLast rest
  guard (!module.isEmpty && !testClass.isEmpty && !method.isEmpty)
  return (module, testClass, method)

/-- The failure to read a name. -/
def malformed (text : String) : Failure :=
  .plain .commandLine ("test id \x60" ++ text ++ "\x60 is not of the form module.class.method")

/-- Reads a name. -/
def parse (text : String) : Except Failure TestId :=
  match parts? text.toList with
  | some (module, testClass, method) => .ok ⟨.ofList module, .ofList testClass, .ofList method⟩
  | none => .error (malformed text)

end TestId

end BusTrial
