import BusTrial.CommandLine.Run
import BusTrial.Proofs.Flight.History

/-!
# The record command

The command that records a test runs the test and then has nothing left to do but to show what the
recorded process left and to report, or to forgive a failure.

* `runRecord_projects` — it does on a larger state what it does on a smaller one, if the devices do;
* `runRecord_after` — what the test led to, the command goes on from, along everything that the
  terminal and the run log move along;
* `runRecord_moves` — and so the whole command moves along what all its devices move along.
-/

namespace BusTrial

variable {σ τ α : Type}

/-- Whatever the terminal does moves along `r`. -/
structure Terminal.Move [Terminal σ] (r : σ → σ → Prop) : Prop where
  writeLine : ∀ line, Act.Moves r (Terminal.writeLine line)
  writeError : ∀ text, Act.Moves r (Terminal.writeError text)

namespace CommandLine

/-! ## Through a projection -/

section

variable {f : σ → τ}

section

variable [Terminal σ] [Terminal τ] [Terminal.Projects f]

/-- Showing what a command printed does the same on a larger state. -/
theorem showOutput_projects (out : ProcessOutput) :
    Act.Projects f id (showOutput out) (showOutput out) := by
  have herrors : Act.Projects f id
      (if out.errors ≠ "" then Terminal.writeError out.errors else pure ())
      (if out.errors ≠ "" then Terminal.writeError out.errors else pure ()) := by
    split
    · exact Terminal.Projects.writeError _
    · exact Act.Projects.pure _
  rw [showOutput, showOutput]
  split
  · exact (Terminal.Projects.writeLine _).bind fun _ => herrors
  · exact herrors

variable [EventLog σ] [EventLog τ] [EventLog.Projects f]

/-- Forgiving a failure does the same on a larger state. -/
theorem forgive_projects (message : String) :
    Act.Projects f id (forgive message) (forgive message) :=
  (report_projects _ _ _).bind fun _ => (Terminal.Projects.writeError _).bind fun _ =>
    Act.Projects.pure _

/-- Running what is unstable does the same on a larger state, if that does. -/
theorem runUnstable_projects (fatal : Bool) {body : Act σ Unit} {body' : Act τ Unit}
    (h : Act.Projects f id body body') :
    Act.Projects f id (runUnstable fatal body) (runUnstable fatal body') := by
  refine h.attempt.bind ?_
  rintro (value | failure | crash)
  · exact Act.Projects.pure _
  · show Act.Projects f id (if _ then _ else _) (if _ then _ else _)
    split
    · exact Act.Projects.settle _
    · exact forgive_projects _
  · show Act.Projects f id (if _ then _ else _) (if _ then _ else _)
    split
    · exact Act.Projects.settle _
    · exact forgive_projects _

end

variable [Clock σ] [Clock τ] [Clock.Projects f] [Files σ] [Files τ] [Files.Projects f]
variable [Processes σ] [Processes τ] [Processes.Projects f] [Terminal σ] [Terminal τ]
variable [Terminal.Projects f] [Journal.Feed σ] [Journal.Feed τ] [Journal.Feed.Projects f]
variable [EventLog σ] [EventLog τ] [EventLog.Projects f]

/-- A recording does the same on a larger state: its body is a process. -/
theorem recordOnce_projects (config : Config) (test : TestId) (request : Request) :
    Act.Projects f id (recordOnce config test request) (recordOnce config test request) :=
  (Flight.recordTest_projects config.flight .journalctl test
    (Processes.run_projects request)).bind fun out =>
      (showOutput_projects out).bind fun _ => Act.Projects.pure _

/-- An unstable recording does the same on a larger state. -/
theorem recordUnstable_projects (config : Config) (env : Environment) (test : TestId)
    (request : Request) :
    Act.Projects f id (recordUnstable config env test request)
      (recordUnstable config env test request) := by
  refine Act.Projects.bind
    (runUnstable_projects _ ((recordOnce_projects config test request).bind fun code => ?_)) ?_
  · simp only [id_eq]
    split
    · exact Act.Projects.settle _
    · exact Act.Projects.pure _
  · rintro (_ | message)
    · exact Act.Projects.pure _
    · exact (report_projects _ _ _).bind fun _ => Act.Projects.pure _

/-- The record command does on a larger state what it does on a smaller one. -/
theorem runRecord_projects (config : Config) (env : Environment) (command : RecordCommand) :
    Act.Projects f id (runRecord config env command) (runRecord config env command) := by
  refine (Act.Projects.ofExcept _).bind fun test => (Act.Projects.ofExcept _).bind fun request => ?_
  show Act.Projects f id (if _ then _ else _) (if _ then _ else _)
  split
  · exact recordUnstable_projects config env test request
  · exact recordOnce_projects config test request

end

/-! ## The three ways into the command -/

section

variable [Clock σ] [Files σ] [Processes σ] [Terminal σ] [Journal.Feed σ] [EventLog σ]
variable {config : Config} {env : Environment} {command : RecordCommand} {s : σ}

/-- A name that is none of a test is refused at once. -/
theorem runRecord_of_malformed {failure : Failure}
    (htest : TestId.parse command.testId = .error failure) :
    runRecord config env command s = (.failed failure, s) := by
  rw [runRecord, htest]
  rfl

/-- A command without words is refused at once. -/
theorem runRecord_of_refused {test : TestId} {failure : Failure}
    (htest : TestId.parse command.testId = .ok test)
    (hrequest : Request.ofWords command.words = .error failure) :
    runRecord config env command s = (.failed failure, s) := by
  rw [runRecord, htest, hrequest]
  rfl

/-- Otherwise the test is recorded, as unstable if it is said to be. -/
theorem runRecord_of_accepted {test : TestId} {request : Request}
    (htest : TestId.parse command.testId = .ok test)
    (hrequest : Request.ofWords command.words = .ok request) :
    runRecord config env command s
      = (if command.unstable then recordUnstable config env test request
          else recordOnce config test request : Act σ Int) s := by
  rw [runRecord, htest, hrequest]
  rfl

end

/-! ## After the test -/

section

variable {r : σ → σ → Prop} [IsPreorder σ r] [Terminal σ]

/-- Showing what a command printed writes to the terminal. -/
theorem showOutput_moves (terminal : Terminal.Move r) (out : ProcessOutput) :
    Act.Moves r (showOutput out : Act σ Unit) := by
  have herrors : Act.Moves r
      (if out.errors ≠ "" then Terminal.writeError out.errors else pure () : Act σ Unit) := by
    split
    · exact terminal.writeError _
    · exact Act.Moves.pure _
  rw [showOutput]
  split
  · exact (terminal.writeLine _).bind fun _ => herrors
  · exact herrors

variable [EventLog σ]

/-- Forgiving a failure writes to the error stream and reports. -/
theorem forgive_moves (writeError : ∀ text, Act.Moves r (Terminal.writeError text))
    (note : ∀ e s, r s (EventLog.note e s)) (message : String) :
    Act.Moves r (forgive message : Act σ UnstableOutcome) :=
  (Act.Moves.report note _ _ _).bind fun _ => (writeError _).bind fun _ => Act.Moves.pure _

/-- What the body of an unstable test led to, its run goes on from. -/
theorem runUnstable_after (terminal : Terminal.Move r) (note : ∀ e s, r s (EventLog.note e s))
    (fatal : Bool) (body : Act σ Unit) (s : σ) : r (body s).2 (runUnstable fatal body s).2 := by
  show r (body.attempt s).2 _
  refine Act.Moves.after_bind ?_ s
  rintro (value | failure | crash)
  · exact Act.Moves.pure _
  · show Act.Moves r (if _ then _ else _)
    split
    · exact Act.Moves.settle _
    · exact forgive_moves terminal.writeError note _
  · show Act.Moves r (if _ then _ else _)
    split
    · exact Act.Moves.settle _
    · exact forgive_moves terminal.writeError note _

variable [Clock σ] [Files σ] [Processes σ] [Journal.Feed σ]

/-- All that follows the recorded test is writing to the terminal. -/
theorem recordOnce_after (terminal : Terminal.Move r) (config : Config) (test : TestId)
    (request : Request) (s : σ) :
    r (Flight.recordTest config.flight .journalctl test (Processes.run request) s).2
      (recordOnce config test request s).2 :=
  Act.Moves.after_bind (fun out => (showOutput_moves terminal out).bind fun _ => Act.Moves.pure _) s

/-- **What the test led to**, the record command goes on from. -/
theorem runRecord_after (terminal : Terminal.Move r) (note : ∀ e s, r s (EventLog.note e s))
    (config : Config) (env : Environment) {command : RecordCommand} {test : TestId}
    {request : Request} (htest : TestId.parse command.testId = .ok test)
    (hrequest : Request.ofWords command.words = .ok request) (s : σ) :
    r (Flight.recordTest config.flight .journalctl test (Processes.run request) s).2
      (runRecord config env command s).2 := by
  have honce := recordOnce_after terminal config test request s
  rw [runRecord_of_accepted htest hrequest]
  split
  · -- the body of the unstable test is one recording, with a look at the exit code after it
    have hcode : ∀ code : Int, Act.Moves r
        (if code ≠ 0 then throw (.process ("\x60" ++ request.display ++ "\x60 exited with "
          ++ Int.repr code)) else pure () : Act σ Unit) := by
      intro code
      split
      · exact Act.Moves.settle _
      · exact Act.Moves.pure _
    have hbody := trans_of r honce (Act.Moves.after_bind hcode s)
    have hunstable := trans_of r hbody (runUnstable_after terminal note
      (unstableFailuresFatal env config.suite.unstableVariable) _ s)
    refine trans_of r hunstable (Act.Moves.after_bind ?_ s)
    rintro (_ | message)
    · exact Act.Moves.pure _
    · exact (Act.Moves.report note _ _ _).bind fun _ => Act.Moves.pure _
  · exact honce

/-- Recording moves along what all its devices move along. -/
theorem runRecord_moves (append : ∀ p text, Act.Moves r (Files.append p text))
    (makeDirectory : ∀ p, Act.Moves r (Files.makeDirectory p)) (processes : Processes.Move r)
    (feed : ∀ since, Act.Moves r (Journal.Feed.entriesSince since)) (terminal : Terminal.Move r)
    (note : ∀ e s, r s (EventLog.note e s)) (config : Config) (env : Environment)
    (command : RecordCommand) : Act.Moves r (runRecord config env command) := by
  intro s
  cases htest : TestId.parse command.testId with
  | error failure =>
      rw [runRecord_of_malformed htest]
      exact refl_of r s
  | ok test =>
      cases hrequest : Request.ofWords command.words with
      | error failure =>
          rw [runRecord_of_refused htest hrequest]
          exact refl_of r s
      | ok request =>
          have hbody : Act.Moves r (Processes.run request) :=
            (processes.spawn request).bind fun h => processes.wait h
          exact trans_of r
            (Flight.recordTest_moves (append _) makeDirectory processes feed note _ test hbody s)
            (runRecord_after terminal note config env htest hrequest s)

end

end CommandLine

end BusTrial
