import BusTrial.Device.Clock
import BusTrial.Device.RunLog
import BusTrial.Journal.Source
import BusTrial.Recorder.Basic

/-!
# Recording the system journal

A `JournalRecorder` notes when it is started and stopped, and saves the journal entries in between,
oldest first (`window`).  The end of the window is a whole second: an entry belongs to it if it was
logged in the second of the stop or before.
-/

namespace BusTrial

/-- Records the system journal. -/
structure JournalRecorder where
  description : String
  source : Journal.Source
  /-- When the recorder was started, on both clocks. -/
  started : Option (Duration × Instant) := none
  /-- When it was stopped after that. -/
  stopped : Option Duration := none
  deriving DecidableEq, Repr

namespace JournalRecorder

/-- The entries from the start to the second of the stop, oldest first. -/
def window (started stopped : Duration) (entries : List Journal.Entry) : List Journal.Entry :=
  let sorted := entries.mergeSort fun a b => decide (a.monotonic ≤ b.monotonic)
  (sorted.dropWhile fun e => decide (e.monotonic < started)).takeWhile fun e =>
    decide (e.monotonic.wholeSeconds ≤ stopped.wholeSeconds)

/-- The block for the lines of entries. -/
def block (description : String) (lines : List String) : String :=
  blockHeader description ++ String.join lines ++ "\n\n\n"

/-- Entries are asked for from a second before the start on, since only whole seconds can be asked
for. -/
def slack : Duration := .ofSeconds 1

variable {σ : Type} [Clock σ] [Journal.Feed σ] [Processes σ] [EventLog σ]

/-- Notes the time on both clocks. -/
def start : Act (JournalRecorder × σ) Unit := do
  let stamp ← Act.read fun s => (Clock.monotonic s, Clock.now s)
  Act.onLeft (Act.change fun r => { r with started := some stamp, stopped := none })

/-- Notes the time. -/
def stop : Act (JournalRecorder × σ) Unit := do
  let r ← Act.read (·.1)
  if r.started.isNone then
    throw (.journal (r.description ++ " stopped before it was started"))
  let stamp ← Act.read fun s => Clock.monotonic s
  Act.onLeft (Act.change fun r => { r with stopped := some stamp })

/-- Saves the entries of the window. -/
def save : Act (RecordStore × JournalRecorder × σ) Unit := do
  let r ← Act.read (·.2.1)
  match r.started, r.stopped with
  | some (started, since), some stopped =>
    let entries ← r.source.entriesSince (since.before slack)
    match (window started stopped entries).mapM Journal.Entry.line? with
    | none => .crash .dateOutOfRange
    | some lines =>
      report "debug" "recorder.journal.saved"
        [("description", .string r.description), ("entries", .int lines.length),
          ("started_secs", .float started.seconds), ("stopped_secs", .float stopped.seconds)]
      Act.onLeft (Act.change fun store => store.append (block r.description lines))
  | _, _ => throw (.journal (r.description ++ " saved before it was stopped"))

instance : Described JournalRecorder := ⟨JournalRecorder.description⟩

instance : Recorder JournalRecorder σ where
  start := start
  stop := stop
  save := save

end JournalRecorder

end BusTrial
