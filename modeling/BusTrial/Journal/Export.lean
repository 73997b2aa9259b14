import BusTrial.Decimal.Reading
import BusTrial.Failure
import BusTrial.Journal.Entry
import BusTrial.Json.Reader
import BusTrial.Text.Blank
import BusTrial.Text.Split
import BusTrial.Text.Utf8

/-!
# Journal entries as JSON lines

`journalctl` prints one JSON object a line.  Stamps are microseconds in strings and must be there;
name and number of the process may be missing.  A message that is not text is a list of its bytes,
and one that was too long to print is null.
-/

namespace BusTrial.Journal

/-- Why a line is no entry. -/
inductive ExportError where
  /-- It is not JSON. -/
  | notJson (fault : Json.Fault)
  /-- It lacks a stamp. -/
  | lacks (field : String)
  deriving DecidableEq, Repr

/-- The sentence that reports the error. -/
def ExportError.message : ExportError → String
  | .notJson fault => "invalid journal json: " ++ fault.message
  | .lacks field => "journal entry lacks " ++ field

/-- The failure that reports the error. -/
def ExportError.failure (e : ExportError) : Failure :=
  .journal e.message

/-- The text of a field. -/
def fieldText? (record : Json) (name : String) : Option String :=
  (record.member? name).bind Json.string?

/-- A field that holds microseconds. -/
def microseconds (record : Json) (name : String) : Except ExportError Nat :=
  match (fieldText? record name).bind (Decimal.readUnsigned 64) with
  | some n => .ok n
  | none => .error (.lacks name)

/-- What stands in place of a message that was too long to print. -/
def elidedMessage : String := "[message elided by journalctl]"

/-- The item as a byte; what is none is left out of a message. -/
def messageByte? (item : Json) : Option UInt8 :=
  (item.unsigned?.filter (· < 256)).map .ofNat

/-- The message that a field holds. -/
def messageText : Option Json → String
  | some .null => elidedMessage
  | some (.string text) => text
  | some (.array items) => Text.decodeLossy (items.filterMap messageByte?)
  | _ => ""

/-- The entry that a record holds. -/
def Entry.ofRecord (record : Json) : Except ExportError Entry := do
  let monotonic ← microseconds record "__MONOTONIC_TIMESTAMP"
  let realtime ← microseconds record "__REALTIME_TIMESTAMP"
  return {
    monotonic := .ofMicros monotonic
    realtime := Instant.epoch.after (.ofMicros realtime)
    command := fieldText? record "_COMM"
    process := (fieldText? record "_PID").bind (Decimal.readUnsigned 32)
    message := messageText (record.member? "MESSAGE") }

/-- The entry that a line holds. -/
def Entry.ofLine (line : String) : Except ExportError Entry :=
  match Json.parse line with
  | .ok record => ofRecord record
  | .error fault => .error (.notJson fault)

/-- The entries of all lines that are not blank. -/
def entriesOfText (text : String) : Except ExportError (List Entry) :=
  ((Text.lines text).filter fun line => !Text.isBlankText line).mapM Entry.ofLine

end BusTrial.Journal
