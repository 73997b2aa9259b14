import BusTrial.Device.Clock
import BusTrial.Device.Processes
import BusTrial.Device.Terminal
import BusTrial.Journal.Source
import BusTrial.Proofs.Act

/-!
# Devices through a projection

A device of a larger state *projects* through `f` when everything it does to the larger state is
what the device of the smaller one does to the part that `f` sees: `Clock.Projects f`,
`Files.Projects f` and so on, a class for each device.  With something beside the state it still
does, which is what the instances for pairs say, so that an action on a recorder beside a state
needs no care of its own.

Actions of the library are written once for all states.  Each of them therefore projects as its
devices do; the lemmas that say so stand with the theory of those actions.
-/

namespace BusTrial

variable {σ τ ε δ : Type}

class Clock.Projects [Clock σ] [Clock τ] (f : σ → τ) : Prop where
  now : ∀ s, Clock.now (f s) = Clock.now s
  monotonic : ∀ s, Clock.monotonic (f s) = Clock.monotonic s
  sleep : ∀ d, Act.Projects f id (Clock.sleep d) (Clock.sleep d)

class Files.Projects [Files σ] [Files τ] (f : σ → τ) : Prop where
  read : ∀ p, Act.Projects f id (Files.read p) (Files.read p)
  write : ∀ p text, Act.Projects f id (Files.write p text) (Files.write p text)
  append : ∀ p text, Act.Projects f id (Files.append p text) (Files.append p text)
  makeDirectory : ∀ p, Act.Projects f id (Files.makeDirectory p) (Files.makeDirectory p)

class Processes.Projects [Processes σ] [Processes τ] (f : σ → τ) : Prop where
  spawn : ∀ r, Act.Projects f id (Processes.spawn r) (Processes.spawn r)
  wait : ∀ h, Act.Projects f id (Processes.wait h) (Processes.wait h)
  kill : ∀ h, Act.Projects f id (Processes.kill h) (Processes.kill h)
  terminate : ∀ h, Act.Projects f id (Processes.terminate h) (Processes.terminate h)

class Terminal.Projects [Terminal σ] [Terminal τ] (f : σ → τ) : Prop where
  writeLine : ∀ line, Act.Projects f id (Terminal.writeLine line) (Terminal.writeLine line)
  writeError : ∀ text, Act.Projects f id (Terminal.writeError text) (Terminal.writeError text)

class Journal.Feed.Projects [Journal.Feed σ] [Journal.Feed τ] (f : σ → τ) : Prop where
  entriesSince : ∀ t, Act.Projects f id (Journal.Feed.entriesSince t) (Journal.Feed.entriesSince t)

class EventLog.Projects [EventLog σ] [EventLog τ] (f : σ → τ) : Prop where
  note : ∀ e s, EventLog.note e (f s) = f (EventLog.note e s)

/-! ## With something beside the state -/

section

variable {e : ε → δ} {f : σ → τ}

instance [Clock σ] [Clock τ] [Clock.Projects f] : Clock.Projects (Prod.map e f) where
  now p := Clock.Projects.now p.2
  monotonic p := Clock.Projects.monotonic p.2
  sleep d := (Clock.Projects.sleep d).onRight

instance [Files σ] [Files τ] [Files.Projects f] : Files.Projects (Prod.map e f) where
  read p := (Files.Projects.read p).onRight
  write p text := (Files.Projects.write p text).onRight
  append p text := (Files.Projects.append p text).onRight
  makeDirectory p := (Files.Projects.makeDirectory p).onRight

instance [Processes σ] [Processes τ] [Processes.Projects f] :
    Processes.Projects (Prod.map e f) where
  spawn r := (Processes.Projects.spawn r).onRight
  wait h := (Processes.Projects.wait h).onRight
  kill h := (Processes.Projects.kill h).onRight
  terminate h := (Processes.Projects.terminate h).onRight

instance [Journal.Feed σ] [Journal.Feed τ] [Journal.Feed.Projects f] :
    Journal.Feed.Projects (Prod.map e f) where
  entriesSince t := (Journal.Feed.Projects.entriesSince t).onRight

instance [EventLog σ] [EventLog τ] [EventLog.Projects f] : EventLog.Projects (Prod.map e f) where
  note event p := Prod.ext rfl (EventLog.Projects.note event p.2)

end

/-! ## Actions beside a state -/

/-- A process is run beside a state as it is run on it. -/
theorem Processes.run_onRight [Processes σ] (r : Request) :
    (Processes.run r : Act (ε × σ) ProcessOutput) = Act.onRight (Processes.run r) :=
  (Act.onRight_bind _ _).symm

/-- Entries are read beside a state as they are read on it. -/
theorem Journal.Source.entriesSince_onRight [Journal.Feed σ] [Processes σ]
    (source : Journal.Source) (since : Instant) :
    (source.entriesSince since : Act (ε × σ) (List Journal.Entry))
      = Act.onRight (source.entriesSince since) := by
  cases source with
  | feed => rfl
  | journalctl =>
    rw [entriesSince, entriesSince, Processes.run_onRight, Act.onRight_bind]
    refine congrArg (_ >>= ·) (funext fun out => ?_)
    cases entriesOfOutput out <;> rfl

/-! ## Actions on devices -/

section

variable {f : σ → τ}

theorem report_projects [EventLog σ] [EventLog τ] [EventLog.Projects f] (level kind : String)
    (members : List (String × Json)) :
    Act.Projects f id (report level kind members) (report level kind members) :=
  Act.Projects.report EventLog.Projects.note level kind members

variable [Processes σ] [Processes τ] [Processes.Projects f]

theorem Processes.run_projects (r : Request) :
    Act.Projects f id (Processes.run r) (Processes.run r) :=
  (Processes.Projects.spawn r).bind fun h => Processes.Projects.wait h

/-- Entries are read alike, wherever they come from. -/
theorem Journal.Source.entriesSince_projects [Journal.Feed σ] [Journal.Feed τ]
    [Journal.Feed.Projects f] (source : Journal.Source) (since : Instant) :
    Act.Projects f id (source.entriesSince since) (source.entriesSince since) := by
  cases source with
  | feed => exact Journal.Feed.Projects.entriesSince since
  | journalctl =>
      refine (Processes.run_projects _).bind fun out => ?_
      exact Act.Projects.ofExcept _

end

end BusTrial
