import BusTrial.Act
import BusTrial.Device.Files
import BusTrial.Json.Printer

/-!
# The run log

Whatever happens is reported as a `LogEvent`: a level, a type and a payload.  A state with an
`EventLog` takes events and never fails to.

`LogEvent.line` is the line that an event takes up in a log file: an object with the keys `level`,
`event_type` and `payload` in this order.  A payload whose compact text exceeds the limit is
replaced by the start of that text, cut between characters, and three dots.

`RunLog` keeps log files in memory.  Events go to its destination, and nowhere while it has none.
-/

namespace BusTrial

/-- Something that happened. -/
structure LogEvent where
  level : String
  kind : String
  payload : Json

namespace LogEvent

/-- An event whose payload is an object. -/
def of (level kind : String) (members : List (String × Json)) : LogEvent :=
  { level, kind, payload := .ofMembers members }

/-- The most bytes that the compact text of a payload may have. -/
def defaultLimit : Nat := 4096

/-- The payload itself, or the start of its text and three dots if that text has more bytes than
the limit. -/
def truncate (limit : Nat) (payload : Json) : Json :=
  let text := payload.render
  if text.utf8ByteSize ≤ limit then payload
  else .string (.ofList (Text.takeBytes (limit - 3) text.toList) ++ "...")

/-- The line of a log file for an event, without its end. -/
def line (limit : Nat) (e : LogEvent) : String :=
  "\x7b\"level\":" ++ Json.quote e.level ++ ",\"event_type\":" ++ Json.quote e.kind
    ++ ",\"payload\":" ++ (truncate limit e.payload).render ++ "\x7d"

end LogEvent

/-- The state takes events. -/
class EventLog (σ : Type) where
  /-- Takes an event. -/
  note : LogEvent → σ → σ

instance {ε σ : Type} [EventLog σ] : EventLog (ε × σ) where
  note e s := (s.1, EventLog.note e s.2)

section

variable {σ : Type} [EventLog σ]

/-- Reports an event. -/
def report (level kind : String) (members : List (String × Json)) : Act σ Unit :=
  Act.change (EventLog.note (.of level kind members))

end

/-- Log files in memory. -/
structure RunLog where
  /-- The file that events go to. -/
  destination : Option FilePath := none
  files : Table FilePath.Key String := ∅

namespace RunLog

/-- The text of a log file. -/
def textOf (l : RunLog) (p : FilePath) : String :=
  (l.files.get? p.key).getD ""

/-- Adds the line of an event to a log file. -/
def append (p : FilePath) (limit : Nat) (e : LogEvent) (l : RunLog) : RunLog :=
  { l with files := l.files.set p.key (l.textOf p ++ e.line limit ++ "\n") }

/-- Adds the line of an event to the destination. -/
def note (e : LogEvent) (l : RunLog) : RunLog :=
  match l.destination with
  | some p => l.append p LogEvent.defaultLimit e
  | none => l

instance : EventLog RunLog := ⟨note⟩

end RunLog

/-- The destination of events can be chosen. -/
class RunLogging (σ : Type) extends EventLog σ where
  /-- Sends the events to come to a file. -/
  logTo : FilePath → σ → σ

instance {ε σ : Type} [RunLogging σ] : RunLogging (ε × σ) where
  logTo p s := (s.1, RunLogging.logTo p s.2)

instance : RunLogging RunLog where
  logTo p l := { l with destination := some p }

end BusTrial
