/-!
# Failures

A `Failure` is a kind and a sentence, or such a failure with the summaries of what went wrong while
cleaning up after it.  `withCleanup` attaches summaries: nothing happens to a failure when there are
none, and a failure that already carries some gets more of them instead of a second wrapper.

`Crash` is what ends a body that neither returns nor fails.
-/

namespace BusTrial

/-- What a failure is about. -/
inductive FailureKind where
  | io
  | notFound
  /-- A configuration file is not in its language. -/
  | configSyntax
  | invalidConfig
  | commandLine
  | process
  | bus
  | journal
  | assertion
  /-- The test does not apply here. -/
  | skipped
  deriving DecidableEq, Repr

/-- The words that a message of this kind begins with. -/
def FailureKind.heading : FailureKind → String
  | .io => "io error"
  | .notFound => "not found"
  | .configSyntax => "config parse error"
  | .invalidConfig => "invalid config"
  | .commandLine => "cli error"
  | .process => "process error"
  | .bus => "bus error"
  | .journal => "journal error"
  | .assertion => "assertion failed"
  | .skipped => "skipped"

/-- Why something did not succeed. -/
inductive Failure where
  | plain (kind : FailureKind) (text : String)
  /-- Cleaning up after `first` failed too; the summaries say how. -/
  | cleanup (first : Failure) (summaries : List String)
  deriving DecidableEq, Repr

namespace Failure

/-- The bus or a reply of it is at fault. -/
abbrev bus (text : String) : Failure := .plain .bus text

/-- A process could not be run. -/
abbrev process (text : String) : Failure := .plain .process text

/-- The system journal could not be read. -/
abbrev journal (text : String) : Failure := .plain .journal text

/-- What a test expects does not hold. -/
abbrev assertion (text : String) : Failure := .plain .assertion text

/-- The failure as one sentence. -/
def message : Failure → String
  | .plain kind text => kind.heading ++ ": " ++ text
  | .cleanup first summaries =>
    first.message ++ " (cleanup also failed: " ++ "; ".intercalate summaries ++ ")"

/-- The failure that came first, without the summaries attached to it. -/
def root : Failure → Failure
  | .plain kind text => .plain kind text
  | .cleanup first _ => first.root

/-- The failure says that the test does not apply here. -/
def isSkip (failure : Failure) : Bool :=
  match failure.root with
  | .plain .skipped _ => true
  | _ => false

/-- Attaches summaries of failed cleanup. -/
def withCleanup (failure : Failure) (summaries : List String) : Failure :=
  if summaries.isEmpty then failure
  else
    match failure with
    | .cleanup first earlier => .cleanup first (earlier ++ summaries)
    | .plain kind text => .cleanup (.plain kind text) summaries

end Failure

/-- Why a body was abandoned. -/
inductive Crash where
  /-- It gave up with a message. -/
  | message (text : String)
  /-- It gave up without one. -/
  | silent
  /-- A point in time had to be written whose date is beyond the calendar. -/
  | dateOutOfRange
  deriving DecidableEq, Repr

/-- The message of a crash, where one is needed. -/
def Crash.text : Crash → String
  | .message text => text
  | .silent => "panic"
  | .dateOutOfRange => "No such local time"

end BusTrial
