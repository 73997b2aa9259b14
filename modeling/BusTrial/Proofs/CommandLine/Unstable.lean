import BusTrial.Proofs.CommandLine.Record
import BusTrial.Proofs.Success
import BusTrial.Proofs.Unstable

/-!
# Recording an unstable test

The record command does the same with and without `unstable`: it records the test once.  What differs
is what it makes of the end of that recording.  So the two runs are compared at the point where the
recording has ended: up to there they are one run, and after it the unstable one reports, writes at
most a marker, and ends as it has to.

* `words_of_parse` — every command that is read from a command line has something to run;
* `recordChecked_of_done`, `recordChecked_of_failed`, `recordChecked_of_crashed` — the body of an
  unstable test follows the recording, and fails if the command did;
* `recordUnstable_of_done`, `recordUnstable_of_failed`, `recordUnstable_of_crashed` — how the command
  goes on after each end of that body;
* `recordUnstable_softens` — so every end of the recording is either passed on or forgiven;
* **`unstable_softens_verdict_only`** — the whole command, with the flag and without it.
-/

namespace BusTrial

variable {σ : Type}

/-- `view` finds in the state what neither reports nor writes to the error stream have to do with. -/
structure Aside {γ : Type} [EventLog σ] [Terminal σ] (view : σ → γ) : Prop where
  noted : ∀ e s, view (EventLog.note e s) = view s
  written : ∀ text, Act.Keeps view (Terminal.writeError text)

/-- Forgiving a failure touches the run log and the error stream only. -/
theorem Aside.forgive {γ : Type} [EventLog σ] [Terminal σ] {view : σ → γ} (h : Aside view)
    (message : String) : Act.Keeps view (BusTrial.forgive message : Act σ UnstableOutcome) :=
  CommandLine.forgive_moves h.written h.noted message

/-- Everything on a bench but the run log and the error stream: the clock, the files with all
requests for them, the processes with all calls of them, the lines of output, the journal and the
bus. -/
def Bench.devices (b : Bench) :
    SteppedClock × FileTable × ScriptedProcesses × Array String × Journal.JournalFeed
      × ScriptedBus :=
  (b.clock, b.files, b.processes, b.screen.lines, b.journal, b.bus)

/-- The devices of a bench stand aside of its run log and its error stream. -/
theorem Bench.aside_devices : Aside Bench.devices where
  noted _ _ := rfl
  written _ _ := rfl

namespace CommandLine

/-! ## The command and its flag -/

/-- Of the commands that can be read, the one that records a test has words to run. -/
theorem words_of_readCommand {name : String} {rest : List String} {given : Given}
    {command : RecordCommand} (h : readCommand name rest = .ok (given, .record command)) :
    command.words ≠ [] := by
  rw [readCommand.eq_def] at h
  split at h
  · rw [readRecord] at h
    obtain ⟨s, -, h⟩ := Success.bind_eq_ok.1 h
    obtain ⟨testId, -, h⟩ := Success.bind_eq_ok.1 h
    cases hwords : s.operands with
    | nil => simp [hwords, bind, Except.bind] at h
    | cons word words =>
      simp only [hwords, List.isEmpty_cons, Bool.false_eq_true, if_false] at h
      cases h
      simp
  · rw [readProbe] at h
    obtain ⟨s, -, h⟩ := Success.bind_eq_ok.1 h
    obtain ⟨object, -, h⟩ := Success.bind_eq_ok.1 h
    obtain ⟨interface, -, h⟩ := Success.bind_eq_ok.1 h
    obtain ⟨property, -, h⟩ := Success.bind_eq_ok.1 h
    dsimp only at h
    split at h <;> cases h
  · rw [readWipe] at h
    obtain ⟨s, -, h⟩ := Success.bind_eq_ok.1 h
    obtain ⟨device, -, h⟩ := Success.bind_eq_ok.1 h
    cases h
  · rw [readSettle] at h
    obtain ⟨s, -, h⟩ := Success.bind_eq_ok.1 h
    cases h
  · rw [readHelp.eq_def] at h
    split at h <;> cases h
  · cases h

/-- A command line that is accepted has a command to record. -/
theorem words_of_parse {line : List String} {invocation : Invocation} {command : RecordCommand}
    (h : Invocation.parse line = .ok invocation) (hcommand : invocation.command = .record command) :
    command.words ≠ [] := by
  rw [Invocation.parse] at h
  obtain ⟨outer, -, h⟩ := Success.bind_eq_ok.1 h
  obtain ⟨⟨name, rest⟩, -, h⟩ := Success.bind_eq_ok.1 h
  obtain ⟨⟨inner, read⟩, hread, h⟩ := Success.bind_eq_ok.1 h
  obtain ⟨settled, -, h⟩ := Success.bind_eq_ok.1 h
  cases h
  cases hcommand
  exact words_of_readCommand hread

/-- The same command for a test that is known to fail now and then, or for one that is not. -/
def RecordCommand.asUnstable (command : RecordCommand) (unstable : Bool) : RecordCommand :=
  { command with unstable }

/-! ## Two verdicts -/

/-- How the end of a recorded command is softened if the test is unstable: success stays what it is.
An exit code that is not zero, a failure and a crash are raised if failures are fatal, the exit code
as a failure; a skip is raised in any case.  All else counts as success, and a marker is added to
the error stream for it. -/
structure Softens (fatal : Bool) (plain lenient : Outcome Int) (added : List String) : Prop where
  passed : plain = .done 0 → lenient = .done 0 ∧ added = []
  exited : ∀ code, plain = .done code → code ≠ 0 →
    if fatal then (∃ text, lenient = .failed (.process text)) ∧ added = []
    else lenient = .done 0 ∧ added = ["unstable-fail..."]
  failed : ∀ failure, plain = .failed failure →
    if fatal || failure.isSkip then lenient = .failed failure ∧ added = []
    else lenient = .done 0 ∧ added = ["unstable-fail..."]
  crashed : ∀ crash, plain = .crashed crash →
    if fatal then lenient = .crashed crash ∧ added = []
    else lenient = .done 0 ∧ added = ["unstable-fail..."]

section

variable [Clock σ] [Files σ] [Processes σ] [Journal.Feed σ] [EventLog σ] [Terminal σ]

/-! ## The body of an unstable test -/

/-- The failure of an unstable test whose command ended with an exit code. -/
def exitFailure (request : Request) (code : Int) : Failure :=
  .process ("\x60" ++ request.display ++ "\x60 exited with " ++ Int.repr code)

/-- Records a request and fails if its exit code is not zero. -/
def recordChecked (config : Config) (test : TestId) (request : Request) : Act σ Unit :=
  recordOnce config test request >>= fun code =>
    if code ≠ 0 then throw (exitFailure request code) else pure ()

/-- What the command does once the run of the unstable test has ended: it counts as success. -/
def concludeUnstable (test : TestId) : UnstableOutcome → Act σ Int
  | .passed => pure 0
  | .softFailed message => do
    report "warn" "harness.record.unstable_failure"
      [("test_id", .string test.display), ("error", .string message)]
    return 0

/-- An unstable recording is one that is run as such, and then concluded. -/
theorem recordUnstable_eq (config : Config) (env : Environment) (test : TestId)
    (request : Request) :
    (recordUnstable config env test request : Act σ Int)
      = (runUnstable (unstableFailuresFatal env config.suite.unstableVariable)
          (recordChecked config test request) >>= concludeUnstable test) := by
  rw [recordUnstable]
  congr 1

variable {config : Config} {env : Environment} {test : TestId} {request : Request} {s t : σ}

/-- A recording whose command exits with a code of its own counts as a failure. -/
theorem recordChecked_of_done {code : Int} (h : recordOnce config test request s = (.done code, t)) :
    recordChecked config test request s
      = (if code ≠ 0 then .failed (exitFailure request code) else .done (), t) := by
  rw [recordChecked, Act.bind_of_done h]
  split <;> rfl

/-- A recording that failed is a failure. -/
theorem recordChecked_of_failed {failure : Failure}
    (h : recordOnce config test request s = (.failed failure, t)) :
    recordChecked config test request s = (.failed failure, t) :=
  Act.bind_of_failed h

/-- A recording that crashed is a crash. -/
theorem recordChecked_of_crashed {crash : Crash}
    (h : recordOnce config test request s = (.crashed crash, t)) :
    recordChecked config test request s = (.crashed crash, t) :=
  Act.bind_of_crashed h

end

/-! ## What follows the recording -/

section

variable [EventLog σ] [Terminal σ] {t : σ}

/-- The run counts as success, one marker was added after what `t` holds, and nothing else is
different from `t` but the run log. -/
def Forgiven (errors : σ → List String) (t : σ) (lenient : Outcome Int × σ) : Prop :=
  ∃ t', lenient = (.done 0, t') ∧ errors t' = errors t ++ ["unstable-fail..."] ∧
    ∀ {γ : Type} (view : σ → γ), Aside view → view t' = view t

/-- Both runs have led to `t`, the plain one with the end `plain`, and the lenient one goes on from
there.  It touches nothing but the run log and the error stream. -/
def Follows (fatal : Bool) (errors : σ → List String) (plain : Outcome Int) (t : σ)
    (lenient : Outcome Int × σ) : Prop :=
  ∃ added, errors lenient.2 = errors t ++ added ∧ Softens fatal plain lenient.1 added ∧
    ∀ {γ : Type} (view : σ → γ), Aside view → view lenient.2 = view t

/-- Nothing more happens where the end stays as it is, or is softened without a word. -/
theorem Follows.at_once {fatal : Bool} (errors : σ → List String) {plain ended : Outcome Int}
    (h : Softens fatal plain ended []) : Follows fatal errors plain t (ended, t) :=
  ⟨[], (List.append_nil _).symm, h, fun _ _ => rfl⟩

/-- A failure that is forgiven is followed by the marker. -/
theorem Forgiven.follows {fatal : Bool} {errors : σ → List String} {plain : Outcome Int}
    {lenient : Outcome Int × σ} (h : Forgiven errors t lenient)
    (hsoftens : Softens fatal plain (.done 0) ["unstable-fail..."]) :
    Follows fatal errors plain t lenient := by
  obtain ⟨t', rfl, herrors, hviews⟩ := h
  exact ⟨["unstable-fail..."], herrors, hsoftens, hviews⟩

end

section

variable [Clock σ] [Files σ] [Processes σ] [Journal.Feed σ] [EventLog σ] [Terminal σ]
variable {config : Config} {env : Environment} {test : TestId} {request : Request} {s t : σ}

/-- A recording that went well exits with zero, unstable or not. -/
theorem recordUnstable_of_done (h : recordChecked config test request s = (.done (), t)) :
    recordUnstable config env test request s = (.done 0, t) := by
  rw [recordUnstable_eq, Act.bind_of_done (runUnstable_of_done h _)]
  rfl

/-- A run that forgives the end of its body counts as success. -/
theorem recordUnstable_of_forgive {errors : σ → List String} (stream : ErrorStream errors)
    {message : String}
    (h : runUnstable (unstableFailuresFatal env config.suite.unstableVariable)
      (recordChecked config test request) s = forgive message t) :
    Forgiven errors t (recordUnstable config env test request s) := by
  obtain ⟨t₁, hforgive, herrors⟩ := stream.forgive message t
  rw [hforgive] at h
  set last : LogEvent := .of "warn" "harness.record.unstable_failure"
    [("test_id", .string test.display), ("error", .string message)]
  refine ⟨EventLog.note last t₁, ?_, ?_, fun view aside => ?_⟩
  · rw [recordUnstable_eq, Act.bind_of_done h]
    exact Act.bind_of_done rfl
  · rw [stream.unreported, herrors]
  · have hkept : view (forgive message t).2 = view t := aside.forgive message t
    rw [hforgive] at hkept
    rw [aside.noted, hkept]

/-- A failure stays one if it is fatal or a skip; otherwise it is forgiven. -/
theorem recordUnstable_of_failed {errors : σ → List String} (stream : ErrorStream errors)
    (env : Environment) {failure : Failure}
    (h : recordChecked config test request s = (.failed failure, t)) :
    if unstableFailuresFatal env config.suite.unstableVariable || failure.isSkip then
      recordUnstable config env test request s = (.failed failure, t)
    else Forgiven errors t (recordUnstable config env test request s) := by
  have hrun := runUnstable_of_failed h (unstableFailuresFatal env config.suite.unstableVariable)
  rw [Bool.or_comm] at hrun
  split at hrun
  · rw [if_pos ‹_›, recordUnstable_eq]
    exact Act.bind_of_failed hrun
  · rw [if_neg ‹_›]
    exact recordUnstable_of_forgive stream hrun

/-- A crash stays one if failures are fatal; otherwise it is forgiven. -/
theorem recordUnstable_of_crashed {errors : σ → List String} (stream : ErrorStream errors)
    (env : Environment) {crash : Crash}
    (h : recordChecked config test request s = (.crashed crash, t)) :
    if unstableFailuresFatal env config.suite.unstableVariable then
      recordUnstable config env test request s = (.crashed crash, t)
    else Forgiven errors t (recordUnstable config env test request s) := by
  have hrun := runUnstable_of_crashed h (unstableFailuresFatal env config.suite.unstableVariable)
  split at hrun
  · rw [if_pos ‹_›, recordUnstable_eq]
    exact Act.bind_of_crashed hrun
  · rw [if_neg ‹_›]
    exact recordUnstable_of_forgive stream hrun

/-- **However the recording ends**, that end is passed on or forgiven. -/
theorem recordUnstable_softens {errors : σ → List String} (stream : ErrorStream errors)
    (config : Config) (env : Environment) (test : TestId) (request : Request) (s : σ) :
    Follows (unstableFailuresFatal env config.suite.unstableVariable) errors
      (recordOnce config test request s).1 (recordOnce config test request s).2
      (recordUnstable config env test request s) := by
  rcases honce : recordOnce config test request s with ⟨code | failure | crash, t⟩
  · have hbody := recordChecked_of_done honce
    by_cases hcode : code = 0
    · rw [recordUnstable_of_done (by simpa [hcode] using hbody)]
      exact .at_once errors ⟨by simp, by simp [hcode], by simp, by simp⟩
    · -- an exit code fails the body, and that failure is no skip
      rw [if_pos hcode] at hbody
      have hunstable := recordUnstable_of_failed stream env hbody
      have hskip : (exitFailure request code).isSkip = false := rfl
      rw [hskip, Bool.or_false] at hunstable
      split at hunstable
      · rw [hunstable]
        exact .at_once errors ⟨by simp [hcode], by simp [*, exitFailure], by simp, by simp⟩
      · exact hunstable.follows ⟨by simp [hcode], by simp [*], by simp, by simp⟩
  · have hunstable := recordUnstable_of_failed stream env (recordChecked_of_failed honce)
    split at hunstable
    · rw [hunstable]
      exact .at_once errors ⟨by simp, by simp, by simp_all, by simp⟩
    · exact hunstable.follows ⟨by simp, by simp, by simp_all, by simp⟩
  · have hunstable := recordUnstable_of_crashed stream env (recordChecked_of_crashed honce)
    split at hunstable
    · rw [hunstable]
      exact .at_once errors ⟨by simp, by simp, by simp, by simp [*]⟩
    · exact hunstable.follows ⟨by simp, by simp, by simp, by simp [*]⟩

/-! ## The whole command -/

/-- **`unstable` changes the verdict and nothing else**, on a terminal whose writes succeed.  Take
the same command with and without the flag, from the same state, whatever that state holds.

Both runs leave the same, wherever one looks but at the run log and the error stream.  If the test is
not named as it should be, then both fail in the same way and do nothing; and so they do if there are
no words to run, but every command that was read from a command line has some.  Otherwise the error
stream of the unstable run is that of the plain one, with at most a marker added, and its end is the
softened end of the plain one. -/
theorem unstable_softens_verdict_only {errors : σ → List String} (stream : ErrorStream errors)
    (config : Config) (env : Environment) (command : RecordCommand) (s : σ) :
    let plain := runRecord config env (command.asUnstable false) s
    let lenient := runRecord config env (command.asUnstable true) s
    (∀ {γ : Type} (view : σ → γ), Aside view → view lenient.2 = view plain.2) ∧
      (∀ failure, TestId.parse command.testId = .error failure →
        plain = (.failed failure, s) ∧ lenient = (.failed failure, s)) ∧
      (command.words = [] →
        ∃ failure, plain = (.failed failure, s) ∧ lenient = (.failed failure, s)) ∧
      (∀ line invocation, Invocation.parse line = .ok invocation →
        invocation.command = .record command → command.words ≠ []) ∧
      ∀ test, TestId.parse command.testId = .ok test → command.words ≠ [] →
        ∃ added, errors lenient.2 = errors plain.2 ++ added ∧
          Softens (unstableFailuresFatal env config.suite.unstableVariable) plain.1 lenient.1
            added := by
  intro plain lenient
  have hread : ∀ line invocation, Invocation.parse line = .ok invocation →
      invocation.command = .record command → command.words ≠ [] :=
    fun _ _ hparse hcommand => words_of_parse hparse hcommand
  cases htest : TestId.parse command.testId with
  | error failure =>
    have hplain : plain = (.failed failure, s) := runRecord_of_malformed htest
    have hlenient : lenient = (.failed failure, s) := runRecord_of_malformed htest
    rw [hplain, hlenient]
    refine ⟨fun _ _ => rfl, ?_, fun _ => ⟨failure, rfl, rfl⟩, hread, nofun⟩
    rintro _ ⟨⟩
    exact ⟨rfl, rfl⟩
  | ok test =>
    rcases hwords : command.words with _ | ⟨program, arguments⟩
    · rw [hwords] at hread
      have hrequest : Request.ofWords command.words = .error (.process "empty argv") := by
        rw [hwords]
        rfl
      have hplain : plain = (.failed (.process "empty argv"), s) :=
        runRecord_of_refused htest hrequest
      have hlenient : lenient = (.failed (.process "empty argv"), s) :=
        runRecord_of_refused htest hrequest
      rw [hplain, hlenient]
      exact ⟨fun _ _ => rfl, nofun, fun _ => ⟨_, rfl, rfl⟩, hread, fun _ _ hne => absurd rfl hne⟩
    · rw [hwords] at hread
      have hrequest : Request.ofWords command.words = .ok { program, arguments } := by
        rw [hwords]
        rfl
      have hplain : plain = recordOnce config test { program, arguments } s :=
        runRecord_of_accepted htest hrequest
      have hlenient : lenient = recordUnstable config env test { program, arguments } s :=
        runRecord_of_accepted htest hrequest
      obtain ⟨added, herrors, hsoftens, hviews⟩ :=
        recordUnstable_softens stream config env test { program, arguments } s
      rw [hplain, hlenient]
      refine ⟨hviews, nofun, nofun, hread, ?_⟩
      rintro _ ⟨⟩ -
      exact ⟨added, herrors, hsoftens⟩

end

/-- A flight record of the journal alone. -/
def unmonitored : Config where
  flight := { monitors := [] }

/-- A command that ends with an exit code. -/
def failingCommand : RecordCommand where
  testId := "disk.Full.during"
  words := ["false"]

/-- A bench on which the first process ends with exit code 3 and some words. -/
def exiting : Bench where
  processes := { responses := [.ok { exitCode := 3, output := "busy\n", errors := "no" }, .ok {}] }

/-- The exit code is forgiven, and all devices are left as they are left without the flag. -/
theorem unstable_softens_verdict_only_exiting :
    ErrorStream (fun b : Bench => b.screen.errors.toList) ∧
      let plain := runRecord unmonitored [] (failingCommand.asUnstable false) exiting
      let lenient := runRecord unmonitored [] (failingCommand.asUnstable true) exiting
      plain.1 = .done 3 ∧ lenient.1 = .done 0 ∧ lenient.2.devices = plain.2.devices ∧
        lenient.2.screen.errors.toList = plain.2.screen.errors.toList ++ ["unstable-fail..."] := by
  have htest : TestId.parse failingCommand.testId = .ok ⟨"disk", "Full", "during"⟩ := by
    decide +kernel
  have hplain : (runRecord unmonitored [] (failingCommand.asUnstable false) exiting).1
      = .done 3 := by
    decide +kernel
  have hfatal : unstableFailuresFatal [] unmonitored.suite.unstableVariable = false := rfl
  obtain ⟨hviews, -, -, -, h⟩ :=
    unstable_softens_verdict_only errorStream_bench unmonitored [] failingCommand exiting
  obtain ⟨added, herrors, hsoftens⟩ := h _ htest (by simp [failingCommand])
  have hexited := hsoftens.exited 3 hplain (by simp)
  simp only [hfatal, Bool.false_eq_true, if_false] at hexited
  rw [hexited.2] at herrors
  exact ⟨errorStream_bench, hplain, hexited.1, hviews Bench.devices Bench.aside_devices, herrors⟩

end CommandLine

end BusTrial
