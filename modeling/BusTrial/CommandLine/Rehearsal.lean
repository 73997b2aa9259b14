import BusTrial.Bench
import BusTrial.CommandLine.Run

/-!
# Rehearsals

A command line can be rehearsed on a bench: no process is started and no bus is reached, and what the
processes would have left is given beforehand, one JSON object a line (`responseOf?`).  What the run
did can be read off the bench afterwards.

`configFile?` and `toggle?` name the file and the variable that a run looks for, so that nothing else
has to be put on the bench.
-/

namespace BusTrial.CommandLine

/-- Reads what a process is to leave: a JSON object with its exit code and its two outputs, of which
each may be left out. -/
def responseOf? (line : String) : Option ProcessOutput := do
  let j ← (Json.parse line).toOption
  let text (key : String) : Option String :=
    match j.member? key with
    | none => some ""
    | some member => member.string?
  let exitCode ← match j.member? "exit" with
    | none => some 0
    | some member => member.signed?
  return { exitCode, output := ← text "stdout", errors := ← text "stderr" }

/-- The failure of a line that says nothing about a process. -/
def noResponse (line : String) : Failure :=
  .process ("not a response: " ++ line)

/-- Queues what the lines say about processes, in their order; blank lines do not count. -/
def queueResponses (lines : List String) (b : Bench) : Bench :=
  let responses := (lines.filter fun line => !Text.isBlankText line).map fun line =>
    match responseOf? line with
    | some output => Except.ok output
    | none => Except.error (noResponse line)
  { b with processes := responses.foldl (fun p r => p.queue r) b.processes }

/-- The configuration file that the words name, seen from a directory. -/
def configFile? (words : List String) (directory : FilePath) : Option FilePath :=
  match Invocation.parse words with
  | .ok i => i.configPath.map (.absolute directory)
  | .error _ => none

/-- The variable that a run looks for, given a bench with the configuration file on it. -/
def toggle? (words : List String) (directory : FilePath) (b : Bench) : Option String :=
  match Invocation.parse words with
  | .ok i =>
    match (Config.load i.overrides directory : Act Bench Config) b with
    | (.done config, _) => some config.suite.unstableVariable
    | _ => none
  | .error _ => none

/-- What is said at the end of a run that came to no exit code. -/
def lastWords? : Outcome Int → Option String
  | .done _ => none
  | .failed failure => some failure.message
  | .crashed crash => some crash.text

/-- The exit code of a run, of which the lowest byte counts.  A failure is a one, and a crash has a
code of its own. -/
def exitStatus : Outcome Int → Nat
  | .done code => (code % 256).toNat
  | .failed _ => 1
  | .crashed _ => 101

end BusTrial.CommandLine
