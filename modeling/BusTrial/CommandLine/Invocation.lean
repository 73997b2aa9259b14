import BusTrial.CommandLine.Condition
import BusTrial.CommandLine.Words
import BusTrial.Decimal.Reading
import BusTrial.FilePath

/-!
# Invocations

An `Invocation` is a command line that has been understood: the settings that all commands share, and
a command with its own.  `Invocation.parse` reads one.

The shared settings may stand before or after the name of the command; if one is given in both places,
the one after the name counts.
-/

namespace BusTrial.CommandLine

/-- Runs a command as a test and records it. -/
structure RecordCommand where
  testId : String
  recordPath : Option FilePath := none
  /-- The test is known to fail now and then. -/
  unstable : Bool := false
  /-- The command to run. -/
  words : List String
  deriving DecidableEq, Repr

/-- Waits until a property meets a condition. -/
structure ProbeCommand where
  object : String
  interface : String
  property : String
  choice : ConditionChoice
  timeoutMillis : Option Nat := none
  deriving DecidableEq, Repr

/-- What is to be done. -/
inductive Command where
  | record (command : RecordCommand)
  | probe (command : ProbeCommand)
  | wipe (device : String)
  | settle
  deriving DecidableEq, Repr

/-- The name of a command. -/
def Command.name : Command → String
  | .record _ => "record"
  | .probe _ => "probe"
  | .wipe _ => "wipe"
  | .settle => "settle"

/-- A command line that has been understood. -/
structure Invocation where
  configPath : Option FilePath := none
  runLogPath : Option FilePath := none
  command : Command
  deriving DecidableEq, Repr

/-! ## What each command takes -/

/-- An option whose value is a path; a path is not empty. -/
def pathOption (name : String) : OptionRule :=
  { name, accepts := (· != "") }

/-- The value of an option that is a number. -/
def readNumber (text : String) : Option Nat :=
  Decimal.readUnsigned 64 text

/-- An option whose value is a number. -/
def numberOption (name : String) : OptionRule :=
  { name, accepts := fun text => (readNumber text).isSome }

/-- The options that all commands share. -/
def sharedOptions : List OptionRule :=
  [pathOption "config", pathOption "run-log"]

/-- What stands before the name of a command. -/
def outerGrammar : Grammar where
  options := sharedOptions
  commands := ["record", "probe", "wipe", "settle", "help"]

/-- What the command `record` takes. -/
def recordGrammar : Grammar where
  options := sharedOptions ++ [{ name := "test-id" }, pathOption "record-path"]
  flags := ["unstable"]
  operands := .afterDashes

/-- The options that are conditions. -/
def conditionOptions : List OptionRule :=
  [{ name := "equals" }, { name := "greater" }, { name := "less" }, numberOption "length"]

/-- The flags that are conditions. -/
def conditionFlags : List String :=
  ["present", "absent", "truthy", "falsy"]

/-- What the command `probe` takes. -/
def probeGrammar : Grammar where
  options := sharedOptions ++ conditionOptions
    ++ [{ name := "object" }, { name := "interface" }, { name := "property" },
        numberOption "timeout-ms"]
  flags := conditionFlags

/-- What the command `wipe` takes. -/
def wipeGrammar : Grammar where
  options := sharedOptions
  operands := .one

/-- What the command `settle` takes. -/
def settleGrammar : Grammar where
  options := sharedOptions

/-! ## From words to a command -/

/-- What must be there. -/
def needed {α : Type} (found : Option α) : Except Refusal α :=
  match found with
  | some a => .ok a
  | none => .error .malformed

/-- Reads the words after `record`. -/
def readRecord (words : List String) : Except Refusal (Given × Command) := do
  let s ← recordGrammar.read words
  let testId ← needed (s.value? "test-id")
  if s.operands.isEmpty then throw .malformed
  let recordPath := (s.value? "record-path").map FilePath.mk
  let unstable := s.hasFlag "unstable"
  return (s, .record { testId, recordPath, unstable, words := s.operands })

/-- The conditions that were given. -/
def choiceOf (s : Given) : ConditionChoice where
  equals := s.value? "equals"
  greater := s.value? "greater"
  less := s.value? "less"
  present := s.hasFlag "present"
  absent := s.hasFlag "absent"
  truthy := s.hasFlag "truthy"
  falsy := s.hasFlag "falsy"
  length := (s.value? "length").bind readNumber

/-- Reads the words after `probe`, which must give exactly one condition. -/
def readProbe (words : List String) : Except Refusal (Given × Command) := do
  let s ← probeGrammar.read words
  let object ← needed (s.value? "object")
  let interface ← needed (s.value? "interface")
  let property ← needed (s.value? "property")
  let choice := choiceOf s
  if choice.all.length ≠ 1 then throw .malformed
  let timeoutMillis := (s.value? "timeout-ms").bind readNumber
  return (s, .probe { object, interface, property, choice, timeoutMillis })

/-- Reads the words after `wipe`. -/
def readWipe (words : List String) : Except Refusal (Given × Command) := do
  let s ← wipeGrammar.read words
  return (s, .wipe (← needed s.operands.head?))

/-- Reads the words after `settle`. -/
def readSettle (words : List String) : Except Refusal (Given × Command) := do
  return (← settleGrammar.read words, .settle)

/-- Reads the words after `help`: at most the name of a command. -/
def readHelp : (words : List String) → Except Refusal (Given × Command)
  | [] => .error .help
  | [name] => .error (if outerGrammar.commands.contains name then .help else .malformed)
  | _ => .error .malformed

/-- Reads the words after the name of a command. -/
def readCommand (name : String) (words : List String) : Except Refusal (Given × Command) :=
  match name with
  | "record" => readRecord words
  | "probe" => readProbe words
  | "wipe" => readWipe words
  | "settle" => readSettle words
  | "help" => readHelp words
  | _ => .error .malformed

/-- Reads a command line, given without the name of the program. -/
def Invocation.parse (words : List String) : Except Refusal Invocation := do
  let outer ← outerGrammar.read words
  let (name, rest) ← needed outer.next
  let (inner, command) ← readCommand name rest
  let outer ← outerGrammar.settle outer
  let shared (name : String) : Option FilePath :=
    (inner.value? name <|> outer.value? name).map FilePath.mk
  return { configPath := shared "config", runLogPath := shared "run-log", command }

end BusTrial.CommandLine
