import BusTrial.Config.Basic
import BusTrial.Flight.TestId
import BusTrial.Recorder.Command
import BusTrial.Recorder.Journal
import BusTrial.Recorder.Session

/-!
# Flight records

The flight record is a file that every test adds a section to: a header with the time and the name of
the test, written before the test starts, and the blocks of everything recorded around it, added
afterwards however the test ended.  The journal is recorded outermost, then the monitors in their
order.

The time in a header is the local one, in a machine whose time zone is UTC.

A test whose record cannot be completed fails, even if its body did not.
-/

namespace BusTrial.Flight

/-- The recorders of a flight record: the journal or a monitor. -/
abbrev FlightRecorder := JournalRecorder ⊕ CommandRecorder

/-- The header of a section, unless the date is beyond the calendar. -/
def header? (now : Instant) (monotonic : Duration) (id : TestId) : Option String :=
  (Civil.ofInstant? now).map fun c =>
    "================" ++ c.dateText ++ " " ++ c.timeText ++ monotonic.stamp ++ " " ++ id.display
      ++ "================\n"

/-- The recorders that a configuration asks for, the outermost one first. -/
def recorders (config : FlightConfig) (source : Journal.Source) : List FlightRecorder :=
  .inl { description := config.journalLabel, source } ::
    config.monitors.map fun m => .inr { description := m.label, words := m.words }

variable {σ α : Type}

/-- Creates the directory of a file, if the path names one. -/
def makeParent [Files σ] (path : FilePath) : Act σ Unit :=
  match path.parent? with
  | some parent => if parent.text = "" then pure () else Files.makeDirectory parent
  | none => pure ()

/-- How a recorded test ends, given how its session ended and whether the blocks were written. -/
def conclude (ended : Outcome α) (written : Except Failure Unit) : Outcome α :=
  match ended, written with
  | .done value, .ok () => .done value
  | .done _, .error failure => .failed failure
  | .failed failure, .ok () => .failed failure
  | .failed failure, .error late =>
    .failed (failure.withCleanup ["flight record: " ++ late.message])
  | .crashed crash, _ => .crashed crash

variable [Clock σ] [Files σ] [Processes σ] [Journal.Feed σ] [EventLog σ]

/-- Writes the header of a section. -/
def openSection (path : FilePath) (id : TestId) : Act σ Unit := do
  makeParent path
  let header ← Act.read fun s => header? (Clock.now s) (Clock.monotonic s) id
  match header with
  | none => .crash .dateOutOfRange
  | some header => Files.append path header

/-- Reports that the blocks of a section could not be written. -/
def reportUnwritten (id : TestId) : Except Failure Unit → Act σ Unit
  | .ok () => pure ()
  | .error failure =>
    report "error" "flight.record.write_failed"
      [("test_id", .string id.display), ("error", .string failure.message)]

/-- Reports how a test ended that did not crash. -/
def reportFinished (id : TestId) (store : RecordStore) : Outcome α → Act σ Unit
  | .crashed _ => pure ()
  | ended =>
    report (if ended.isDone then "info" else "warn") "flight.test.finished"
      [("test_id", .string id.display), ("passed", .bool ended.isDone),
        ("blocks", .int store.blocks.length)]

/-- Runs a test and adds its section to the flight record. -/
def recordTest (config : FlightConfig) (source : Journal.Source) (id : TestId) (body : Act σ α) :
    Act σ α := do
  openSection config.recordPath id
  report "info" "flight.test.started"
    [("test_id", .string id.display), ("record_path", .string config.recordPath.text)]
  let (ended, store) ←
    Act.within ({} : RecordStore) (Session.run (recorders config source) (Act.onRight body))
  let written ← (Files.append config.recordPath store.contents : Act σ Unit).result
  reportUnwritten id written
  reportFinished id store ended
  Act.settle (conclude ended written)

end BusTrial.Flight
