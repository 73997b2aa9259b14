import BusTrial.Act

/-!
# Processes

A `Request` names a program and its arguments.  A state with `Processes` starts processes, waits for
them, asks them to end and kills them; each started process has a `Handle`, and `run` starts one and
waits for it.

`ScriptedProcesses` starts nothing: it hands out handles in order, notes every call, and answers
each wait with the next of the responses that were queued.
-/

namespace BusTrial

/-- A command to run. -/
structure Request where
  program : String
  arguments : List String
  /-- What the process writes to its error stream goes into its output, in order. -/
  mergeErrors : Bool := false
  deriving DecidableEq, Repr

namespace Request

/-- The request for a row of words: the program and its arguments. -/
def ofWords : List String → Except Failure Request
  | [] => .error (.process "empty argv")
  | program :: arguments => .ok { program, arguments }

/-- The request for a command of the shell. -/
def shell (command : String) : Request :=
  { program := "sh", arguments := ["-c", command] }

/-- All words of the request. -/
def words (r : Request) : List String :=
  r.program :: r.arguments

/-- The words with blanks between them. -/
def display (r : Request) : String :=
  " ".intercalate r.words

end Request

/-- What a process left behind. -/
structure ProcessOutput where
  exitCode : Int := 0
  output : String := ""
  errors : String := ""
  deriving DecidableEq, Repr

/-- The number of a started process. -/
abbrev Handle := Nat

/-- The state runs processes. -/
class Processes (σ : Type) where
  /-- Starts a process. -/
  spawn : Request → Act σ Handle
  /-- Waits until a process ends, and takes what it left. -/
  wait : Handle → Act σ ProcessOutput
  /-- Ends a process at once. -/
  kill : Handle → Act σ Unit
  /-- Asks a process to end, without waiting for it. -/
  terminate : Handle → Act σ Unit

instance {ε σ : Type} [Processes σ] : Processes (ε × σ) where
  spawn r := Act.onRight (Processes.spawn r)
  wait h := Act.onRight (Processes.wait h)
  kill h := Act.onRight (Processes.kill h)
  terminate h := Act.onRight (Processes.terminate h)

/-- Starts a process and waits until it ends. -/
def Processes.run {σ : Type} [Processes σ] (r : Request) : Act σ ProcessOutput := do
  let handle ← spawn r
  wait handle

/-- Processes that only seem to run. -/
structure ScriptedProcesses where
  /-- The answers to the waits to come. -/
  responses : List (Except Failure ProcessOutput) := []
  /-- What the next request to end a process fails with. -/
  terminateFailure : Option Failure := none
  next : Handle := 0
  spawned : Array Request := #[]
  waits : Array Handle := #[]
  kills : Array Handle := #[]
  terminates : Array Handle := #[]

namespace ScriptedProcesses

/-- Queues the answer to a wait. -/
def queue (response : Except Failure ProcessOutput) (p : ScriptedProcesses) : ScriptedProcesses :=
  { p with responses := p.responses ++ [response] }

/-- Hands out the next handle. -/
def spawn (r : Request) : Act ScriptedProcesses Handle :=
  fun p => (.done p.next, { p with next := p.next + 1, spawned := p.spawned.push r })

/-- Answers with the next response. -/
def wait (h : Handle) : Act ScriptedProcesses ProcessOutput :=
  fun p =>
    let p := { p with waits := p.waits.push h }
    match p.responses with
    | [] => (.failed (.process "no fake response queued"), p)
    | .ok output :: rest => (.done output, { p with responses := rest })
    | .error failure :: rest => (.failed failure, { p with responses := rest })

/-- Notes the call. -/
def kill (h : Handle) : Act ScriptedProcesses Unit :=
  fun p => (.done (), { p with kills := p.kills.push h })

/-- Notes the call, and fails if it was told to. -/
def terminate (h : Handle) : Act ScriptedProcesses Unit :=
  fun p =>
    let p := { p with terminates := p.terminates.push h }
    match p.terminateFailure with
    | some failure => (.failed failure, { p with terminateFailure := none })
    | none => (.done (), p)

instance : Processes ScriptedProcesses := ⟨spawn, wait, kill, terminate⟩

end ScriptedProcesses

end BusTrial
