import BusTrial.Device.Processes
import BusTrial.Journal.Export

/-!
# Where journal entries come from

A `Source` is either the journal of the state itself or the command `journalctl`, which is asked for
the entries of the current start of the machine from a point in time on, in whole seconds.
`JournalFeed` is a journal in memory: it answers with all its entries, whatever point it is asked for.
-/

namespace BusTrial.Journal

/-- The state has a journal. -/
class Feed (σ : Type) where
  /-- The entries since a point in time. -/
  entriesSince : Instant → Act σ (List Entry)

instance {ε σ : Type} [Feed σ] : Feed (ε × σ) where
  entriesSince since := Act.onRight (Feed.entriesSince since)

/-- A journal in memory. -/
structure JournalFeed where
  entries : List Entry := []
  /-- The points in time that entries were asked for, the first one first. -/
  queries : Array Instant := #[]
  /-- What the next question fails with. -/
  failNext : Option String := none

namespace JournalFeed

/-- Adds an entry. -/
def push (e : Entry) (f : JournalFeed) : JournalFeed :=
  { f with entries := f.entries ++ [e] }

/-- Adds an entry whose time of day is as far from the epoch as it is from the start of the
machine. -/
def log (monotonic : Duration) (process : Option (String × Nat)) (message : String)
    (f : JournalFeed) : JournalFeed :=
  f.push { monotonic, realtime := Instant.epoch.after monotonic, command := process.map (·.1),
           process := process.map (·.2), message }

instance : Feed JournalFeed where
  entriesSince since := fun f =>
    let f := { f with queries := f.queries.push since }
    match f.failNext with
    | some text => (.failed (.journal text), { f with failNext := none })
    | none => (.done f.entries, f)

end JournalFeed

/-- Where entries come from. -/
inductive Source where
  /-- The journal of the state. -/
  | feed
  /-- The command `journalctl`. -/
  | journalctl
  deriving DecidableEq, Repr

/-- The request that prints the entries since a point in time. -/
def journalctlRequest (since : Instant) : Request :=
  { program := "journalctl",
    arguments :=
      ["--boot", "--output=json", "--all", "--no-pager",
        "--since=@" ++ Nat.repr since.secondsSinceEpoch] }

/-- The entries that `journalctl` printed. -/
def entriesOfOutput (out : ProcessOutput) : Except Failure (List Entry) :=
  if out.exitCode ≠ 0 then
    .error (.journal ("journalctl exited with " ++ Int.repr out.exitCode ++ ": "
      ++ Text.trim out.errors))
  else (entriesOfText out.output).mapError ExportError.failure

/-- The entries since a point in time. -/
def Source.entriesSince {σ : Type} [Feed σ] [Processes σ] (source : Source) (since : Instant) :
    Act σ (List Entry) :=
  match source with
  | .feed => Feed.entriesSince since
  | .journalctl => do
    let out ← Processes.run (journalctlRequest since)
    .ofExcept (entriesOfOutput out)

end BusTrial.Journal
