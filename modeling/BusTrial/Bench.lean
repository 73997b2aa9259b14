import BusTrial.Bus.Scripted
import BusTrial.Device.Clock
import BusTrial.Device.Files
import BusTrial.Device.Processes
import BusTrial.Device.RunLog
import BusTrial.Device.Terminal
import BusTrial.Journal.Source

/-!
# Test benches

A `Bench` is a machine in memory: it has all the devices that the suite works with, each of them in the
form that is scripted and watched.  Every device is a part of its own, so that an action on one leaves
the others alone (`Bench.part`).
-/

namespace BusTrial

/-- A machine in memory. -/
structure Bench where
  clock : SteppedClock := {}
  files : FileTable := {}
  processes : ScriptedProcesses := {}
  screen : Screen := {}
  journal : Journal.JournalFeed := {}
  bus : ScriptedBus := {}
  log : RunLog := {}

namespace Bench

/-- Does something with one part of the bench. -/
def part {π α : Type} (get : Bench → π) (set : π → Bench → Bench) (act : Act π α) : Act Bench α :=
  fun b => let (ended, p) := act (get b); (ended, set p b)

/-- Does something with the clock. -/
def onClock {α : Type} (act : Act SteppedClock α) : Act Bench α :=
  part clock (fun p b => { b with clock := p }) act

/-- Does something with the files. -/
def onFiles {α : Type} (act : Act FileTable α) : Act Bench α :=
  part files (fun p b => { b with files := p }) act

/-- Does something with the processes. -/
def onProcesses {α : Type} (act : Act ScriptedProcesses α) : Act Bench α :=
  part processes (fun p b => { b with processes := p }) act

/-- Does something with the screen. -/
def onScreen {α : Type} (act : Act Screen α) : Act Bench α :=
  part screen (fun p b => { b with screen := p }) act

/-- Does something with the journal. -/
def onJournal {α : Type} (act : Act Journal.JournalFeed α) : Act Bench α :=
  part journal (fun p b => { b with journal := p }) act

/-- Does something with the bus. -/
def onBus {α : Type} (act : Act ScriptedBus α) : Act Bench α :=
  part bus (fun p b => { b with bus := p }) act

instance : Clock Bench where
  now b := Clock.now b.clock
  monotonic b := Clock.monotonic b.clock
  sleep d := onClock (Clock.sleep d)

instance : Files Bench where
  read p := onFiles (Files.read p)
  write p text := onFiles (Files.write p text)
  append p text := onFiles (Files.append p text)
  makeDirectory p := onFiles (Files.makeDirectory p)

instance : Processes Bench where
  spawn r := onProcesses (Processes.spawn r)
  wait h := onProcesses (Processes.wait h)
  kill h := onProcesses (Processes.kill h)
  terminate h := onProcesses (Processes.terminate h)

instance : Terminal Bench where
  writeLine line := onScreen (Terminal.writeLine line)
  writeError text := onScreen (Terminal.writeError text)

instance : Journal.Feed Bench where
  entriesSince since := onJournal (Journal.Feed.entriesSince since)

instance : Bus Bench where
  getProperty object interface property := onBus (Bus.getProperty object interface property)
  callMethod object interface method arguments :=
    onBus (Bus.callMethod object interface method arguments)
  introspect object := onBus (Bus.introspect object)

instance : RunLogging Bench where
  note e b := { b with log := EventLog.note e b.log }
  logTo p b := { b with log := RunLogging.logTo p b.log }

end Bench

end BusTrial
