import BusTrial.Time.Calendar

/-!
# Journal entries

An `Entry` is what a process or the kernel logged, with its time of day and the time since the
machine started.  `line?` writes it as one line; an entry whose date is beyond the calendar has none.
The time of day in the line is the local one, in a machine whose time zone is UTC.
-/

namespace BusTrial.Journal

/-- An entry of the system journal. -/
structure Entry where
  /-- The time since the machine started. -/
  monotonic : Duration
  /-- The time of day. -/
  realtime : Instant
  /-- The name of the process. -/
  command : Option String := none
  /-- The number of the process. -/
  process : Option Nat := none
  message : String
  deriving DecidableEq, Repr

namespace Entry

/-- Who logged the entry: a process if its name and its number are known, otherwise the kernel. -/
def source (e : Entry) : String :=
  match e.command, e.process with
  | some name, some number => name ++ "[" ++ Nat.repr number ++ "]"
  | _, _ => "kernel"

/-- The entry as a line, with its end. -/
def line? (e : Entry) : Option String :=
  (Civil.ofInstant? e.realtime).map fun c =>
    c.timeText ++ e.monotonic.stamp ++ " " ++ e.source ++ ": " ++ e.message ++ "\n"

end Entry

end BusTrial.Journal
