import BusTrial.Device.RunLog
import BusTrial.Recorder.Basic

/-!
# Recording sessions

`Session.run` puts recorders around a body, the first one outermost: they are started in order, and
stopped and saved in the opposite order however the body ends, a crash included.  Each recorder saves
into a store of its own; these are joined in the order of the start once all recorders are closed.

A failed stop or save does not keep the other recorders from being closed.  Such failures are attached
to the failure of the body, or to the first of them if the body did not fail.
-/

namespace BusTrial

/-- A recorder that could not be stopped or saved. -/
structure CleanupFailure where
  description : String
  failure : Failure
  deriving DecidableEq, Repr

/-- The failure in one sentence. -/
def CleanupFailure.summary (c : CleanupFailure) : String :=
  c.description ++ ": " ++ c.failure.message

/-- What closing a row of recorders leaves. -/
structure Closing where
  /-- The blocks of each recorder, in the order of the start. -/
  slots : List (List String) := []
  /-- What failed, in the order of the closing. -/
  failures : List CleanupFailure := []
  deriving DecidableEq, Repr

namespace Closing

/-- The failures in one sentence each. -/
def summaries (c : Closing) : List String :=
  c.failures.map CleanupFailure.summary

/-- All blocks in the order of the start. -/
def blocks (c : Closing) : List String :=
  c.slots.flatten

end Closing

namespace Session

variable {ρ σ α : Type} [Recorder ρ σ] [EventLog σ]

/-- Starts the recorders in order.  Gives back those that were started and, if one could not be, why;
the recorders after that one are not started. -/
def startAll : List ρ → Act σ (List ρ × Option Failure)
  | [] => pure ([], none)
  | r :: rest => do
    let (ended, r') ← Act.within r (Recorder.start : Act (ρ × σ) Unit).result
    match ← Act.settle ended with
    | .ok () =>
      let (started, failure) ← startAll rest
      return (r' :: started, failure)
    | .error failure =>
      report "error" "recorder.start.failed"
        [("description", .string (description r')), ("error", .string failure.message)]
      return ([], some failure)

/-- Reports that closing a recorder failed; it is called what it is called after that. -/
def reportClose (phase : String) (failure : Failure) : Act (ρ × σ) CleanupFailure := do
  let name ← Act.read fun (r, _) => description r
  report "error" ("recorder." ++ phase ++ ".failed")
    [("description", .string name), ("error", .string failure.message)]
  return ⟨name, failure⟩

/-- Stops a recorder and, if that succeeds, lets it save into an empty store.  A recorder that fails
to save keeps the blocks that it saved before. -/
def closeOne : Act (ρ × σ) (List String × Option CleanupFailure) := do
  match ← (Recorder.stop : Act (ρ × σ) Unit).result with
  | .error failure => return ([], some (← reportClose "stop" failure))
  | .ok () =>
    let (ended, slot) ←
      Act.within ({} : RecordStore) (Recorder.save : Act (RecordStore × ρ × σ) Unit).result
    match ← Act.settle ended with
    | .ok () => return (slot.blocks, none)
    | .error failure => return (slot.blocks, some (← reportClose "save" failure))

/-- Closes the recorders, the last one first. -/
def closeAll : List ρ → Act σ Closing
  | [] => pure {}
  | r :: rest => do
    let inner ← closeAll rest
    let (ended, _) ← Act.within r (closeOne : Act (ρ × σ) _)
    let (blocks, failure) ← Act.settle ended
    return { slots := blocks :: inner.slots, failures := inner.failures ++ failure.toList }

/-- Closes the recorders and adds their blocks to the store. -/
def closeInto (started : List ρ) : Act (RecordStore × σ) Closing := do
  let closing ← Act.onRight (closeAll started)
  Act.onLeft (Act.change fun store => store.appendAll closing.blocks)
  return closing

/-- Reports how the session ended. -/
def reportFinished (outcome : String) (closing : Closing) : Act σ Unit :=
  report (if closing.failures.isEmpty then "info" else "warn") "session.finished"
    [("outcome", .string outcome), ("cleanup_failures", .ofTexts closing.summaries)]

/-- How the session ends after its recorders were closed. -/
def conclude (ended : Outcome α) (closing : Closing) : Outcome α :=
  match ended with
  | .done value =>
    match closing.failures with
    | [] => .done value
    | first :: rest => .failed (first.failure.withCleanup (rest.map CleanupFailure.summary))
  | .failed failure => .failed (failure.withCleanup closing.summaries)
  | .crashed crash => .crashed crash

/-- The word for the end of a body in the report. -/
def outcomeWord : Outcome α → String
  | .done _ => "ok"
  | .failed _ => "error"
  | .crashed _ => "panic"

/-- Runs a body between the start and the end of the recorders, which save into the store. -/
def run (recorders : List ρ) (body : Act (RecordStore × σ) α) : Act (RecordStore × σ) α := do
  report "info" "session.started" [("recorders", .ofTexts (recorders.map description))]
  let (started, failure) ← Act.onRight (startAll recorders)
  match failure with
  | some failure =>
    let closing ← closeInto started
    throw (failure.withCleanup closing.summaries)
  | none =>
    let ended ← body.attempt
    let closing ← closeInto started
    reportFinished (outcomeWord ended) closing
    Act.settle (conclude ended closing)

end Session

end BusTrial
