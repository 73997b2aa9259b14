import BusTrial.Device.Processes
import BusTrial.Device.RunLog
import BusTrial.Recorder.Basic

/-!
# Recording what a command prints

A `CommandRecorder` runs a command as long as the recording lasts and saves everything that it
printed, errors included.  Stopping asks the command to end; what it printed is taken when the
recorder saves.  A command that cannot be asked is killed, and then nothing is saved.
-/

namespace BusTrial

/-- Records what a command prints. -/
structure CommandRecorder where
  description : String
  words : List String
  /-- The process that runs, or has ended and is still to be waited for. -/
  handle : Option Handle := none
  /-- The process was asked to end. -/
  terminated : Bool := false
  deriving DecidableEq, Repr

namespace CommandRecorder

/-- The block for what the command printed. -/
def block (r : CommandRecorder) (printed : String) : String :=
  blockHeader r.description ++ printed ++ "\n\n"

variable {σ : Type} [Processes σ] [EventLog σ]

/-- Starts the command. -/
def start : Act (CommandRecorder × σ) Unit := do
  let r ← Act.read (·.1)
  let request ← Act.ofExcept (Request.ofWords r.words)
  let handle ← Processes.spawn { request with mergeErrors := true }
  report "debug" "recorder.command.started"
    [("description", .string r.description), ("argv", .ofTexts r.words), ("handle", .int handle)]
  Act.onLeft (Act.change fun r => { r with handle := some handle, terminated := false })

/-- Asks the command to end, or kills it. -/
def stop : Act (CommandRecorder × σ) Unit := do
  let r ← Act.read (·.1)
  match r.handle with
  | none => throw (.process (r.description ++ " stopped before it was started"))
  | some handle =>
    match ← (Processes.terminate handle : Act (CommandRecorder × σ) Unit).result with
    | .ok () => Act.onLeft (Act.change fun r => { r with terminated := true })
    | .error failure =>
      Act.onLeft (Act.change fun r => { r with handle := none })
      let _ ← (Processes.kill handle : Act (CommandRecorder × σ) Unit).result
      throw failure

/-- Waits until the command has ended, and saves what it printed. -/
def save : Act (RecordStore × CommandRecorder × σ) Unit := do
  let r ← Act.read (·.2.1)
  match r.handle, r.terminated with
  | some handle, true =>
    Act.onRight (Act.onLeft (Act.change fun r => { r with handle := none }))
    let out ← Processes.wait handle
    report "debug" "recorder.command.saved"
      [("description", .string r.description), ("exit_code", .int out.exitCode),
        ("bytes", .int out.output.utf8ByteSize)]
    Act.onLeft (Act.change fun store => store.append (r.block out.output))
  | _, _ => throw (.process (r.description ++ " saved before it was stopped"))

instance : Described CommandRecorder := ⟨CommandRecorder.description⟩

instance : Recorder CommandRecorder σ where
  start := start
  stop := stop
  save := save

end CommandRecorder

end BusTrial
