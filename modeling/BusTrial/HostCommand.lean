import BusTrial.Device.Clock
import BusTrial.Device.Files
import BusTrial.Device.Processes
import BusTrial.Device.RunLog
import BusTrial.Text.Blank
import BusTrial.Time.Basic

/-!
# Commands and files of the host

What tests do to the machine itself: run a command of the shell, wipe a device, wait for the device
manager, read and write files.
-/

namespace BusTrial.HostCommand

/-- What a command left behind. -/
structure Result where
  exitCode : Int
  /-- The output without blanks around it; if the command failed, also its errors, after an empty
  line. -/
  text : String
  deriving DecidableEq, Repr

/-- The command succeeded. -/
def Result.success (r : Result) : Bool :=
  r.exitCode == 0

/-- The result of a process that has ended. -/
def Result.ofOutput (out : ProcessOutput) : Result :=
  if out.exitCode = 0 then ⟨0, Text.trim out.output⟩
  else ⟨out.exitCode, Text.trim out.output ++ "\n\n" ++ Text.trim out.errors⟩

/-- How often a device is wiped before giving up, and the time between two attempts. -/
structure WipePlan where
  attempts : Nat
  backoff : Duration
  deriving DecidableEq, Repr

section

variable {σ : Type} [Processes σ] [EventLog σ]

/-- Runs a command of the shell. -/
def run (command : String) : Act σ Result := do
  let out ← Processes.run (.shell command)
  report (if out.exitCode = 0 then "debug" else "warn") "command.finished"
    [("command", .string command), ("exit_code", .int out.exitCode)]
  return .ofOutput out

/-- Waits until the device manager has handled all events.  Whether it did is not checked. -/
def settle : Act σ Unit := do
  let _ ← run "udevadm settle"

/-- The command that wipes a device. -/
def wipeCommand (device : String) : String :=
  "wipefs -a " ++ device

variable [Clock σ]

/-- Makes up to `left` attempts to wipe a device after `made` earlier ones. -/
def wipeFrom (backoff : Duration) (device : String) (made : Nat) : (left : Nat) → Act σ Bool
  | 0 => pure false
  | left + 1 => do
    if (← run (wipeCommand device)).success then return true
    report "info" "command.wipefs.retry"
      [("device", .string device), ("attempt", .int (made + 1 : Nat))]
    Clock.sleep backoff
    wipeFrom backoff device (made + 1) left

/-- Wipes a device, again and again while that fails, and says whether it succeeded in the end. -/
def wipe (plan : WipePlan) (device : String) : Act σ Bool :=
  wipeFrom plan.backoff device 0 plan.attempts

end

/-- Replaces the text of a file.  With `ignoreMissing`, it does not matter that the file or its
directory is not there. -/
def writeFile {σ : Type} [Files σ] (path : FilePath) (text : String) (ignoreMissing : Bool) :
    Act σ Unit := do
  match ← (Files.write path text : Act σ Unit).result with
  | .ok () => return
  | .error failure =>
    match failure, ignoreMissing with
    | .plain .notFound _, true => return
    | failure, _ => throw failure

end BusTrial.HostCommand
