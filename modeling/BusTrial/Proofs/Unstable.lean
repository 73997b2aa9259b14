import BusTrial.Bench
import BusTrial.Proofs.Flight.Verdict
import BusTrial.Unstable

/-!
# What becomes of a failure in an unstable test

Between the body of a test and the end of its run as an unstable test there are three layers that
look at failures: the session attaches what went wrong while its recorders were closed, the flight
record attaches that its blocks could not be written, and `runUnstable` decides whether the failure
is heard at all.  The last one goes by the root of the failure, which the other two leave alone.

* `runUnstable_of_failed`, `runUnstable_of_crashed` — a run follows its recording and then does
  nothing more, or forgives;
* `Heard.of_recording` — how every recording is heard, whatever it is made of;
* `Session.keepsSkip`, `Flight.keepsSkip` — what the layers add to the failure of a body, read off
  the history of the session and of the test;
* **`skips_survive_recordings`** — all layers together: a skip is always heard, with everything that
  failed after it, and any other failure or crash is either raised as it is or forgiven with one
  marker.
-/

namespace BusTrial

variable {σ α : Type}

/-! ## Error streams -/

/-- `errors` finds in the state what was written to the error stream.  Every write succeeds and adds
its text, and the run log is something else. -/
structure ErrorStream [EventLog σ] [Terminal σ] (errors : σ → List String) : Prop where
  written : ∀ text s, ∃ t,
    Terminal.writeError text s = (.done (), t) ∧ errors t = errors s ++ [text]
  unreported : ∀ e s, errors (EventLog.note e s) = errors s

/-- An error stream is one beside anything else. -/
theorem ErrorStream.beside {ε : Type} [EventLog σ] [Terminal σ] {errors : σ → List String}
    (stream : ErrorStream errors) : ErrorStream fun p : ε × σ => errors p.2 where
  written text p := by
    obtain ⟨t, hwrite, herrors⟩ := stream.written text p.2
    exact ⟨(p.1, t), Act.onRight_of hwrite, herrors⟩
  unreported e p := stream.unreported e p.2

/-- The error stream of a bench is what its screen has of it. -/
theorem errorStream_bench : ErrorStream fun b : Bench => b.screen.errors.toList where
  written text b := by
    refine ⟨{ b with screen.errors := b.screen.errors.push text }, rfl, ?_⟩
    simp
  unreported _ _ := rfl

/-! ## How a recording is heard -/

section

variable [EventLog σ] [Terminal σ] {recording : Act σ Unit} {s t : σ}

/-- The run as an unstable test is forgiven with this message: the marker is written once, after
everything that the recording wrote until it left `t`. -/
def SoftFails (errors : σ → List String) (recording : Act σ Unit) (s t : σ) (message : String) :
    Prop :=
  ∃ t', runUnstable false recording s = (.done (.softFailed message), t') ∧
    errors t' = errors t ++ ["unstable-fail..."]

/-- How a recording is heard that does not come to its end: a skip in any case, all else if failures
are fatal, and with nothing done in between.  What is not heard is forgiven. -/
structure Heard (errors : σ → List String) (recording : Act σ Unit) (s : σ) : Prop where
  skipped : ∀ failure t, recording s = (.failed failure, t) → failure.isSkip = true →
    ∀ fatal, runUnstable fatal recording s = (.failed failure, t)
  failed : ∀ failure t, recording s = (.failed failure, t) → failure.isSkip = false →
    runUnstable true recording s = (.failed failure, t) ∧
      SoftFails errors recording s t failure.message
  crashed : ∀ crash t, recording s = (.crashed crash, t) →
    runUnstable true recording s = (.crashed crash, t) ∧ SoftFails errors recording s t crash.text

/-- The skip comes through the recording and through a run of it as an unstable test, whether
failures are fatal or not, with these summaries after its own. -/
def KeepsSkip (recording : Act σ Unit) (s : σ) (skip : Failure) (summaries : List String) : Prop :=
  ∃ final t, recording s = (.failed final, t) ∧ final.root = skip.root ∧
    final.summaries = skip.summaries ++ summaries ∧
      ∀ fatal, runUnstable fatal recording s = (.failed final, t)

/-- What is done passes, unstable or not. -/
theorem runUnstable_of_done (h : recording s = (.done (), t)) (fatal : Bool) :
    runUnstable fatal recording s = (.done .passed, t) :=
  Act.bind_of_done (Act.attempt_of h)

/-- A failure stays one if it is fatal or a skip; otherwise it is forgiven. -/
theorem runUnstable_of_failed {failure : Failure} (h : recording s = (.failed failure, t))
    (fatal : Bool) :
    runUnstable fatal recording s
      = if failure.isSkip || fatal then (.failed failure, t) else forgive failure.message t := by
  refine (Act.bind_of_done (Act.attempt_of h)).trans ?_
  show (if _ then _ else _ : Act σ UnstableOutcome) t = _
  split <;> rfl

/-- A crash stays one if failures are fatal; otherwise it is forgiven, skips being none. -/
theorem runUnstable_of_crashed {crash : Crash} (h : recording s = (.crashed crash, t))
    (fatal : Bool) :
    runUnstable fatal recording s
      = if fatal then (.crashed crash, t) else forgive crash.text t := by
  refine (Act.bind_of_done (Act.attempt_of h)).trans ?_
  show (if _ then _ else _ : Act σ UnstableOutcome) t = _
  split <;> rfl

/-- Forgiving is done, and the marker stands at the end of the error stream. -/
theorem ErrorStream.forgive {errors : σ → List String} (stream : ErrorStream errors)
    (message : String) (s : σ) :
    ∃ t, BusTrial.forgive message s = (.done (.softFailed message), t) ∧
      errors t = errors s ++ ["unstable-fail..."] := by
  obtain ⟨t, hwrite, herrors⟩ := stream.written unstableMarker
    (EventLog.note (.of "warn" "suite.unstable.soft_failure" [("error", .string message)]) s)
  refine ⟨t, ?_, ?_⟩
  · rw [BusTrial.forgive]
    exact (Act.bind_of_done rfl).trans (Act.bind_of_done hwrite)
  · rw [herrors, stream.unreported]
    rfl

/-- Whatever a recording does is heard as it should be. -/
theorem Heard.of_recording {errors : σ → List String} (stream : ErrorStream errors)
    (recording : Act σ Unit) (s : σ) : Heard errors recording s where
  skipped failure t h hskip fatal := by
    simp [runUnstable_of_failed h, hskip]
  failed failure t h hskip := by
    refine ⟨by simp [runUnstable_of_failed h], ?_⟩
    rw [SoftFails, runUnstable_of_failed h]
    simp only [hskip, Bool.or_self, Bool.false_eq_true, if_false]
    exact stream.forgive failure.message t
  crashed crash t h := by
    refine ⟨by simp [runUnstable_of_crashed h], ?_⟩
    rw [SoftFails, runUnstable_of_crashed h]
    simp only [Bool.false_eq_true, if_false]
    exact stream.forgive crash.text t

/-- A recording keeps a skip if it fails with the root and after the summaries of it. -/
theorem KeepsSkip.of_recording {skip final : Failure} {summaries : List String}
    (hskip : skip.isSkip = true) (h : recording s = (.failed final, t))
    (hroot : final.root = skip.root)
    (hsummaries : final.summaries = skip.summaries ++ summaries) :
    KeepsSkip recording s skip summaries := by
  have hfinal : final.isSkip = true := by
    rw [Failure.isSkip, hroot]
    exact hskip
  refine ⟨final, t, h, hroot, hsummaries, fun fatal => ?_⟩
  simp [runUnstable_of_failed h, hfinal]

end

/-! ## What the session adds -/

namespace Session

/-- A session whose recorders were all started came to its body. -/
theorem History.exists_body {h : History α}
    (started : ∀ i failure, Call.start i (some failure) ∉ h.calls) :
    ∃ ended left, Call.body ended left ∈ h.calls := by
  cases hturn : h.turn with
  | refused failure => exact absurd (start_failed_mem.2 ⟨hturn, rfl⟩) (started _ failure)
  | ran ended left => exact ⟨ended, left, body_mem.2 hturn⟩

variable {ρ : Type} [Recorder ρ σ] [EventLog σ] [Terminal σ]

/-- A session whose body skips keeps the skip in front, with what failed in the closing behind it.
-/
theorem keepsSkip {recorders : List ρ} {body : Act (RecordStore × σ) Unit} {store left : RecordStore}
    {s : σ} (quiet : Quiet (calls recorders body store s)) {skip : Failure}
    (hskip : skip.isSkip = true) (hmem : .body (.failed skip) left ∈ calls recorders body store s) :
    KeepsSkip (run recorders body) (store, s) skip
      ((problems (calls recorders body store s)).map CleanupFailure.summary) := by
  obtain ⟨h, t, -, hcalls, hrun, -⟩ := exists_run quiet
  rw [hcalls] at hmem ⊢
  rw [History.outcome_of_failed hmem] at hrun
  exact .of_recording hskip hrun (by simp) (by simp)

end Session

/-! ## What the flight record adds -/

namespace Flight

variable [Clock σ] [Files σ] [Processes σ] [Journal.Feed σ] [EventLog σ]

/-- A test in which nothing but the body crashes does not come to its session, or is composed of
the session and of the writing of its blocks. -/
theorem exists_session {config : FlightConfig} {source : Journal.Source} {id : TestId}
    {body : Act σ α} {s : σ} (quiet : Quiet (calls config source id body s)) :
    ((openSection config.recordPath id s).1 ≠ .done () ∧
        sessionCalls (calls config source id body s) = []) ∨
      ∃ (header : String) (session : Session.History α) (store : RecordStore)
          (written : Outcome Unit),
        calls config source id body s
          = (History.recorded header session.calls session.outcome store written).calls
              config.recordPath ∧
          (recordTest config source id body s).1 = concluded session.outcome written ∧
            ∀ crash, written ≠ .crashed crash := by
  obtain ⟨h, hfits, hcalls, houtcome⟩ := exists_history config source id body s
  rw [hcalls] at quiet
  rw [hcalls, houtcome]
  rcases h with barrier | ⟨header, inner, ended, store, written⟩
  · refine .inl ⟨?_, barrier.sessionCalls_calls _⟩
    rw [hfits.1]
    rcases barrier.ended with value | failure | crash
    · exact value.elim
    · simp [Outcome.map]
    · simp [Outcome.map]
  · obtain ⟨-, -, t, t', hinner, hrun⟩ := hfits
    have hsession : Session.Quiet inner := by
      have := quiet.session
      rwa [History.sessionCalls_recorded] at this
    rw [hinner] at hsession
    obtain ⟨session, t'', -, hinner', hrun', -⟩ := Session.exists_run hsession
    have hended : ended = session.outcome := congrArg Prod.fst (hrun.symm.trans hrun')
    refine .inr ⟨header, session, store, written, ?_, ?_, ?_⟩
    · rw [hinner, hinner', hended]
    · rw [History.outcome, hended]
    · rintro crash rfl
      exact quiet.file (.append config.recordPath store.contents) crash (by simp [History.calls])

/-- The failure of a body is the root of what the test fails with. -/
theorem concluded_of_failed {session : Session.History α} {failure : Failure} {left : RecordStore}
    (hmem : .body (.failed failure) left ∈ session.calls) {header : String} {store : RecordStore}
    {written : Outcome Unit} (hwritten : ∀ crash, written ≠ .crashed crash) (path : FilePath) :
    ∃ final, concluded session.outcome written = .failed final ∧ final.root = failure.root ∧
      final.summaries = failure.summaries ++
        ((Session.problems session.calls).map CleanupFailure.summary ++
          lateSummaries
            ((History.recorded header session.calls session.outcome store written).calls path)) := by
  rw [Session.History.outcome_of_failed hmem, History.lateSummaries_recorded]
  rcases written with ⟨⟨⟩⟩ | late | crash
  · exact ⟨_, rfl, by simp, by simp⟩
  · exact ⟨_, rfl, by simp, by simp⟩
  · exact absurd rfl (hwritten crash)

/-- A recorded test whose body skips keeps the skip in front, with what failed in its session and
then in writing the blocks behind it. -/
theorem keepsSkip [Terminal σ] {config : FlightConfig} {source : Journal.Source} {id : TestId}
    {body : Act σ Unit} {s : σ} (quiet : Quiet (calls config source id body s)) {skip : Failure}
    {left : RecordStore} (hskip : skip.isSkip = true)
    (hmem : .body (.failed skip) left ∈ sessionCalls (calls config source id body s)) :
    KeepsSkip (recordTest config source id body) s skip
      ((Session.problems (sessionCalls (calls config source id body s))).map CleanupFailure.summary
        ++ lateSummaries (calls config source id body s)) := by
  rcases exists_session quiet with ⟨-, hnone⟩ | ⟨header, session, store, written, hcalls, houtcome,
    hwritten⟩
  · rw [hnone] at hmem
    cases hmem
  · rw [hcalls, History.sessionCalls_recorded] at hmem ⊢
    obtain ⟨final, hfinal, hroot, hsummaries⟩ :=
      concluded_of_failed hmem hwritten config.recordPath
    rw [hfinal] at houtcome
    exact .of_recording hskip (Prod.ext houtcome rfl) hroot hsummaries

end Flight

/-! ## All layers together -/

section

variable [Clock σ] [Files σ] [Processes σ] [Journal.Feed σ] [EventLog σ] [Terminal σ]

/-- **Skips survive every recording, and nothing else escapes softly**, on a terminal whose writes
succeed.  Take a session around any body, or a recorded test, and run it as an unstable test.

If the recorders were all started and none of them crashes, then the body runs, and if it ends with a
skip, the run fails with that skip at the root, followed by the summaries of all recorders that could
not be closed, and of the blocks if they could not be written.  Nothing is written then.

A recording that fails in another way or crashes makes the run end in just the same way if failures
are fatal, and is forgiven with exactly one marker if they are not. -/
theorem skips_survive_recordings {errors : σ → List String} (stream : ErrorStream errors) :
    (∀ {ρ : Type} [Recorder ρ σ] (recorders : List ρ) (body : Act (RecordStore × σ) Unit)
        (store : RecordStore) (s : σ),
      let made := Session.calls recorders body store s
      let recording := Session.run recorders body
      Heard (fun p => errors p.2) recording (store, s) ∧
        (Session.Quiet made → (∀ i failure, .start i (some failure) ∉ made) →
          (∃ ended left, .body ended left ∈ made) ∧
            ∀ skip left, .body (.failed skip) left ∈ made → skip.isSkip = true →
              KeepsSkip recording (store, s) skip
                ((Session.problems made).map CleanupFailure.summary))) ∧
      ∀ (config : FlightConfig) (source : Journal.Source) (id : TestId) (body : Act σ Unit) (s : σ),
        let made := Flight.calls config source id body s
        let inner := Flight.sessionCalls made
        let recording := Flight.recordTest config source id body
        Heard errors recording s ∧
          (Flight.Quiet made → (∀ i failure, .start i (some failure) ∉ inner) →
            ((Flight.openSection config.recordPath id s).1 = .done () →
                ∃ ended left, .body ended left ∈ inner) ∧
              ∀ skip left, .body (.failed skip) left ∈ inner → skip.isSkip = true →
                KeepsSkip recording s skip
                  ((Session.problems inner).map CleanupFailure.summary
                    ++ Flight.lateSummaries made)) := by
  refine ⟨fun recorders body store s => ?_, fun config source id body s => ?_⟩
  · intro made recording
    refine ⟨.of_recording stream.beside _ _, fun quiet started => ⟨?_, ?_⟩⟩
    · obtain ⟨h, -, -, hcalls, -⟩ := Session.exists_run quiet
      have hmade : made = h.calls := hcalls
      rw [hmade] at started ⊢
      exact h.exists_body started
    · intro skip left hmem hskip
      exact Session.keepsSkip quiet hskip hmem
  · intro made inner recording
    refine ⟨.of_recording stream _ _, fun quiet started => ⟨fun opened => ?_, ?_⟩⟩
    · rcases Flight.exists_session quiet with ⟨hbarred, -⟩ | ⟨header, session, store, written,
        hcalls, -⟩
      · exact absurd opened hbarred
      · have hinner : inner = session.calls := by
          show Flight.sessionCalls (Flight.calls config source id body s) = _
          rw [hcalls, Flight.History.sessionCalls_recorded]
        rw [hinner] at started ⊢
        exact session.exists_body started
    · intro skip left hmem hskip
      exact Flight.keepsSkip quiet hskip hmem

end

/-! ### A skip on a full disk -/

/-- A body that leaves the disk full and says that the test does not apply. -/
def fillDiskAndSkip : Act Bench Unit :=
  Act.change Flight.diskFull >>= fun _ => Act.fail (.plain .skipped "no lvm")

/-- What a session of the journal and a monitor that refuses to end calls around that body. -/
def skippedCalls : List (Session.Call Unit) :=
  [.start 0 none, .start 1 none, .body (.failed (.plain .skipped "no lvm")) {},
    .stop 1 (some ⟨"udev", .process "refused"⟩), .stop 0 none,
    .save 0 ["<<<<< journal >>>>>\n\n\n\n"] none]

/-- The session around a body that fills the disk and skips. -/
theorem skipped_session_calls :
    Session.calls (Flight.recorders Flight.monitored .feed) (Act.onRight fillDiskAndSkip) {}
      Flight.refusing = skippedCalls := by
  decide +kernel

/-- The recorded test around that body; writing the blocks fails as well. -/
theorem skipped_flight_calls :
    Flight.calls Flight.monitored .feed ⟨"disk", "Full", "during"⟩ fillDiskAndSkip Flight.refusing
      = [.file (.append ⟨"flight.log"⟩
            "================1970-01-01 00:00:00[100.00000000] disk.Full.during================\n")
          (.done ()),
        .session skippedCalls
          (.failed ((Failure.plain .skipped "no lvm").withCleanup ["udev: process error: refused"]))
          ⟨["<<<<< journal >>>>>\n\n\n\n"]⟩,
        .file (.append ⟨"flight.log"⟩ "<<<<< journal >>>>>\n\n\n\n")
          (.failed (.plain .io "disk full"))] := by
  decide +kernel

/-- The body skips, the monitor refuses to end after that, and then the disk is full. -/
theorem skips_survive_recordings_full_disk :
    ErrorStream (fun b : Bench => b.screen.errors.toList) ∧
      KeepsSkip (Session.run (Flight.recorders Flight.monitored .feed) (Act.onRight fillDiskAndSkip))
        ({}, Flight.refusing) (.plain .skipped "no lvm") ["udev: process error: refused"] ∧
      KeepsSkip
        (Flight.recordTest Flight.monitored .feed ⟨"disk", "Full", "during"⟩ fillDiskAndSkip)
        Flight.refusing (.plain .skipped "no lvm")
        ["udev: process error: refused", "flight record: io error: disk full"] := by
  obtain ⟨hsession, hflight⟩ := skips_survive_recordings errorStream_bench
  refine ⟨errorStream_bench, ?_, ?_⟩
  · have h := (hsession (Flight.recorders Flight.monitored .feed) (Act.onRight fillDiskAndSkip) {}
      Flight.refusing).2
    rw [skipped_session_calls] at h
    have quiet : Session.Quiet skippedCalls := by simp [skippedCalls, Session.Quiet]
    have started : ∀ i failure, .start i (some failure) ∉ skippedCalls := by simp [skippedCalls]
    exact (h quiet started).2 _ {} (by simp [skippedCalls]) rfl
  · have h := (hflight Flight.monitored .feed ⟨"disk", "Full", "during"⟩ fillDiskAndSkip
      Flight.refusing).2
    rw [skipped_flight_calls] at h
    refine (h ⟨?_, ?_⟩ ?_).2 _ {} ?_ rfl
    · simp
    · simp [skippedCalls, Session.Quiet, Flight.sessionCalls, Flight.Call.inner]
    · simp [skippedCalls, Flight.sessionCalls, Flight.Call.inner]
    · simp [skippedCalls, Flight.sessionCalls, Flight.Call.inner]

end BusTrial
