import BusTrial.Proofs.Flight.Calls

/-!
# The history of a recorded test

A recorded test either meets a `Barrier` before its section is opened and then does nothing more, or
it writes the header, runs its session and hands the blocks over to be written.  A `History` says
which, with what came of every call, and from it follow the calls that were made (`History.calls`)
and the end of the test (`History.outcome`).

* `openSection_spec` — how opening a section ends;
* **`exists_history`** — every recorded test has a history, whatever its devices, its recorders and
  its body do, crashes included;
* `recordTest_of_barrier` — a test whose section could not be opened has done nothing but try.
-/

namespace BusTrial

namespace Flight

variable {ρ σ α : Type}

/-! ## Histories -/

/-- The directory that is created for a record, if the path names one. -/
def directory? (path : FilePath) : Option FilePath :=
  match path.parent? with
  | some parent => if parent.text = "" then none else some parent
  | none => none

/-- What kept a section from being opened.  An `Outcome Empty` is an end without a value. -/
inductive Barrier where
  /-- The directory of the record could not be created. -/
  | directory (parent : FilePath) (ended : Outcome Empty)
  /-- There is no header, since the date is beyond the calendar. -/
  | date
  /-- The header could not be written. -/
  | header (text : String) (ended : Outcome Empty)

/-- What became of a recorded test. -/
inductive History (α : Type) where
  /-- Its section was not opened. -/
  | barred (barrier : Barrier)
  /-- Its header was written and its session run: with these calls, this end and this store.
  Writing the blocks of the store ended as given. -/
  | recorded (header : String) (inner : List (Session.Call α)) (ended : Outcome α)
      (store : RecordStore) (written : Outcome Unit)

/-- The calls that created the directory of a record. -/
def directoryCalls (path : FilePath) : List (Call α) :=
  (directory? path).toList.map fun parent => .file (.makeDirectory parent) (.done ())

namespace Barrier

def calls (path : FilePath) : Barrier → List (Call α)
  | .directory parent ended => [.file (.makeDirectory parent) (ended.map Empty.elim)]
  | .date => directoryCalls path
  | .header text ended => directoryCalls path ++ [.file (.append path text) (ended.map Empty.elim)]

def ended : Barrier → Outcome Empty
  | .directory _ ended => ended
  | .date => .crashed .dateOutOfRange
  | .header _ ended => ended

/-- The barrier is one of a section with this header, if it has one. -/
def Fits (path : FilePath) (header : Option String) : Barrier → Prop
  | .directory parent _ => directory? path = some parent
  | .date => header = none
  | .header text _ => header = some text

end Barrier

/-- How a test ended, given how its session ended and how writing the blocks did. -/
def concluded (ended : Outcome α) : Outcome Unit → Outcome α
  | .done () => conclude ended (.ok ())
  | .failed late => conclude ended (.error late)
  | .crashed crash => .crashed crash

namespace History

/-- The calls that were made. -/
def calls (path : FilePath) : History α → List (Call α)
  | .barred barrier => barrier.calls path
  | .recorded header inner ended store written =>
    directoryCalls path ++ [.file (.append path header) (.done ()), .session inner ended store,
      .file (.append path store.contents) written]

/-- How the test ended. -/
def outcome : History α → Outcome α
  | .barred barrier => barrier.ended.map Empty.elim
  | .recorded _ _ ended _ written => concluded ended written

end History

/-- No session is run while the directory is created. -/
theorem sessionCalls_directoryCalls (path : FilePath) :
    sessionCalls (directoryCalls path : List (Call α)) = [] := by
  rw [directoryCalls, sessionCalls]
  rcases directory? path with _ | parent <;> rfl

/-- No session is run before a barrier. -/
theorem Barrier.sessionCalls_calls (path : FilePath) (barrier : Barrier) :
    sessionCalls (barrier.calls path : List (Call α)) = [] := by
  have hdirectory := sessionCalls_directoryCalls (α := α) path
  cases barrier with
  | directory parent ended => rfl
  | date => exact hdirectory
  | header text ended =>
      rw [sessionCalls] at hdirectory ⊢
      rw [Barrier.calls, List.flatMap_append, hdirectory]
      rfl

/-- The session of a test that came to its end is the one that its history has. -/
theorem History.sessionCalls_recorded (path : FilePath) (header : String)
    (inner : List (Session.Call α)) (ended : Outcome α) (store : RecordStore)
    (written : Outcome Unit) :
    sessionCalls ((recorded header inner ended store written).calls path) = inner := by
  have hdirectory := sessionCalls_directoryCalls (α := α) path
  rw [sessionCalls] at hdirectory ⊢
  rw [calls, List.flatMap_append, hdirectory]
  exact List.append_nil _

section

variable [Clock σ] [Files σ]

/-- The header of the section that a test would open. -/
def headerAt (path : FilePath) (test : TestId) (s : σ) : Option String :=
  let s := (makeParent path s).2
  header? (Clock.now s) (Clock.monotonic s) test

variable [Processes σ] [Journal.Feed σ] [EventLog σ]

/-- The history is one of this test on this state.  The barrier is what ended the opening of the
section; or the section was opened, with the header that the test had then, and the session is one
of the recorders around the body. -/
def History.Fits (config : FlightConfig) (source : Journal.Source) (test : TestId)
    (body : Act σ α) (s : σ) : History α → Prop
  | .barred barrier =>
    (openSection config.recordPath test s).1 = barrier.ended.map Empty.elim ∧
      barrier.Fits config.recordPath (headerAt config.recordPath test s)
  | .recorded header inner ended store _ =>
    (openSection config.recordPath test s).1 = .done () ∧
      headerAt config.recordPath test s = some header ∧
      ∃ t t' : σ, inner = Session.calls (recorders config source) (Act.onRight body) {} t ∧
        Session.run (recorders config source) (Act.onRight body) ({}, t) = (ended, store, t')

end

/-! ## Opening a section -/

/-- The directory is created if the path names one. -/
theorem makeParent_eq [Files σ] (path : FilePath) :
    (makeParent path : Act σ Unit)
      = match directory? path with
        | some parent => Files.makeDirectory parent
        | none => pure () := by
  rw [makeParent, directory?]
  rcases path.parent? with _ | parent
  · rfl
  · by_cases hparent : parent.text = "" <;> simp only [hparent, if_true, if_false]

/-- A watched request does what it did, and its call says how it ended. -/
theorem Watched.request_of {r : FileRequest} {act : Act σ Unit} {o : Watched α σ}
    {ended : Outcome Unit} {s : σ} (h : act o.inner = (ended, s)) :
    Watched.request r act o = (ended, o.after (.file r ended) s) := by
  rw [Watched.request, h]
  cases ended <;> rfl

/-- A request that the file system was made. -/
theorem Watched.request_spec (r : FileRequest) (act : Act σ Unit) (o : Watched α σ) :
    (∃ (abrupt : Outcome Empty) (o' : Watched α σ),
        Watched.request r act o = (abrupt.map Empty.elim, o') ∧
        o'.calls = o.calls ++ [.file r (abrupt.map Empty.elim)]) ∨
      ∃ o' : Watched α σ, Watched.request r act o = (.done (), o') ∧
        o'.calls = o.calls ++ [.file r (.done ())] := by
  rcases hraw : act o.inner with ⟨ended, s⟩
  rw [Watched.request_of hraw]
  cases ended with
  | done value => exact Or.inr ⟨_, rfl, rfl⟩
  | failed failure => exact Or.inl ⟨.failed failure, _, rfl, rfl⟩
  | crashed crash => exact Or.inl ⟨.crashed crash, _, rfl, rfl⟩

section

variable [Files σ]

/-- Creating the directory of a record is the first thing that can go wrong. -/
theorem makeParent_spec (path : FilePath) (o : Watched α σ) :
    (∃ (parent : FilePath) (abrupt : Outcome Empty) (o' : Watched α σ),
        directory? path = some parent ∧ makeParent path o = (abrupt.map Empty.elim, o') ∧
        o'.calls = o.calls ++ (Barrier.directory parent abrupt).calls path) ∨
      ∃ o' : Watched α σ, makeParent path o = (.done (), o') ∧
        o'.calls = o.calls ++ directoryCalls path := by
  rw [makeParent_eq, directoryCalls]
  rcases directory? path with _ | parent
  · exact Or.inr ⟨o, rfl, by simp⟩
  · rcases Watched.request_spec (.makeDirectory parent) (Files.makeDirectory parent) o with
      ⟨abrupt, o', hmade, hcalls⟩ | ⟨o', hmade, hcalls⟩
    · exact Or.inl ⟨parent, abrupt, o', rfl, hmade, hcalls⟩
    · exact Or.inr ⟨o', hmade, hcalls⟩

variable [Clock σ]

/-- **Opening a section** meets a barrier, or ends with the header written. -/
theorem openSection_spec (path : FilePath) (test : TestId) (o : Watched α σ) :
    (∃ (barrier : Barrier) (o' : Watched α σ), barrier.Fits path (headerAt path test o) ∧
        openSection path test o = (barrier.ended.map Empty.elim, o') ∧
        o'.calls = o.calls ++ barrier.calls path) ∨
      ∃ (header : String) (o' : Watched α σ), headerAt path test o = some header ∧
        openSection path test o = (.done (), o') ∧
        o'.calls = o.calls ++ directoryCalls path ++ [.file (.append path header) (.done ())] := by
  rcases makeParent_spec path o with ⟨parent, abrupt, o₁, hdirectory, hmade, hcalls⟩ |
    ⟨o₁, hmade, hcalls⟩
  · exact Or.inl ⟨.directory parent abrupt, o₁, hdirectory, Act.bind_of_abrupt hmade, hcalls⟩
  · have hheader : headerAt path test o = header? (Clock.now o₁) (Clock.monotonic o₁) test := by
      simp only [headerAt, hmade]
    have hread : (Act.read fun s : Watched α σ => header? (Clock.now s) (Clock.monotonic s) test) o₁
        = (.done (headerAt path test o), o₁) := by
      rw [hheader]
      rfl
    rw [openSection, Act.bind_of_done hmade, Act.bind_of_done hread]
    rcases headerAt path test o with _ | header
    · exact Or.inl ⟨.date, o₁, rfl, rfl, hcalls⟩
    · rcases Watched.request_spec (.append path header) (Files.append path header) o₁ with
        ⟨abrupt, o₂, happend, hcalls'⟩ | ⟨o₂, happend, hcalls'⟩
      · refine Or.inl ⟨.header header abrupt, o₂, rfl, happend, ?_⟩
        rw [hcalls', hcalls, List.append_assoc]
        rfl
      · exact Or.inr ⟨header, o₂, rfl, happend, by rw [hcalls', hcalls]⟩

end

/-! ## The whole test -/

section

variable [EventLog σ]

/-- Reporting what could not be written is done and makes no call. -/
theorem reportUnwritten_spec (test : TestId) (written : Except Failure Unit) (o : Watched α σ) :
    ∃ o' : Watched α σ, reportUnwritten test written o = (.done (), o') ∧ o'.calls = o.calls := by
  rcases written with failure | ⟨⟨⟩⟩
  · exact ⟨_, rfl, rfl⟩
  · exact ⟨o, rfl, rfl⟩

/-- Reporting how the test ended is done and makes no call. -/
theorem reportFinished_spec (test : TestId) (store : RecordStore) (ended : Outcome α)
    (o : Watched α σ) :
    ∃ o' : Watched α σ, reportFinished test store ended o = (.done (), o') ∧
      o'.calls = o.calls := by
  cases ended with
  | done value => exact ⟨_, rfl, rfl⟩
  | failed failure => exact ⟨_, rfl, rfl⟩
  | crashed crash => exact ⟨o, rfl, rfl⟩

/-- A watched session does what the session does, and is one call. -/
theorem watchSession_spec [Recorder ρ σ] (recorders : List ρ) (body : Act (RecordStore × σ) α)
    (o : Watched α σ) :
    ∃ (ended : Outcome α) (store : RecordStore) (t : σ) (o' : Watched α σ),
      Session.run recorders body ({}, o.inner) = (ended, store, t) ∧
        watchSession recorders body ({}, o) = (ended, store, o') ∧
        o'.calls = o.calls ++ [.session (Session.calls recorders body {} o.inner) ended store] := by
  rcases hraw : Session.run recorders body ({}, o.inner) with ⟨ended, store, t⟩
  set call : Call α := .session (Session.calls recorders body {} o.inner) ended store with hcall
  refine ⟨ended, store, t, o.after call t, rfl, ?_, rfl⟩
  rw [watchSession, hraw]

variable [Files σ]

/-- What a recorded test does after its session. -/
def writeBlocks (path : FilePath) (test : TestId) (ended : Outcome α) (store : RecordStore) :
    Act σ α :=
  (Files.append path store.contents : Act σ Unit).result >>= fun written =>
    reportUnwritten test written >>= fun _ => reportFinished test store ended >>= fun _ =>
      Act.settle (conclude ended written)

/-- Writing the blocks is one request, and it decides how the test ends. -/
theorem writeBlocks_spec (path : FilePath) (test : TestId) (ended : Outcome α)
    (store : RecordStore) (o : Watched α σ) :
    ∃ (written : Outcome Unit) (o' : Watched α σ),
      writeBlocks path test ended store o = (concluded ended written, o') ∧
        o'.calls = o.calls ++ [.file (.append path store.contents) written] := by
  have hreports : ∀ (written : Except Failure Unit) (o : Watched α σ), ∃ o' : Watched α σ,
      (reportUnwritten test written >>= fun _ => reportFinished test store ended >>= fun _ =>
        Act.settle (conclude ended written)) o = (conclude ended written, o') ∧
        o'.calls = o.calls := by
    intro written o
    obtain ⟨o₁, hunwritten, hcalls⟩ := reportUnwritten_spec test written o
    obtain ⟨o₂, hfinished, hcalls'⟩ := reportFinished_spec test store ended o₁
    exact ⟨o₂, by rw [Act.bind_of_done hunwritten, Act.bind_of_done hfinished]; rfl,
      hcalls'.trans hcalls⟩
  -- the end of the append decides whether there is anything to report: after a crash there is not
  rcases hraw : (Files.append path store.contents : Act σ Unit) o.inner with ⟨written, s⟩
  have happend : Files.append path store.contents o = _ :=
    Watched.request_of (r := .append path store.contents) hraw
  rw [writeBlocks]
  refine ⟨written, ?_⟩
  rcases written with ⟨⟨⟩⟩ | late | crash
  · rw [Act.bind_of_done (Act.result_of_done happend)]
    exact hreports _ _
  · rw [Act.bind_of_done (Act.result_of_failed happend)]
    exact hreports _ _
  · exact ⟨_, Act.bind_of_crashed (Act.result_of_crashed happend), rfl⟩

variable [Clock σ]

/-- Once its section is opened, a test reports that it begins, runs its session, and writes. -/
theorem recordAround_of_opened {path : FilePath} {test : TestId} {s t : σ}
    (session : Act (RecordStore × σ) α) (h : openSection path test s = (.done (), t)) :
    ∃ e, recordAround path test session s
      = (Act.within {} session >>= fun x => writeBlocks path test x.1 x.2)
          (EventLog.note e t) :=
  ⟨_, Act.bind_of_done h⟩

variable [Processes σ] [Journal.Feed σ]

/-- A watched test whose section is opened runs its session, and then writes the blocks. -/
theorem watch_of_opened {config : FlightConfig} {test : TestId} {s : σ} {o : Watched α σ}
    (source : Journal.Source) (body : Act σ α)
    (h : openSection config.recordPath test ({ inner := s } : Watched α σ) = (.done (), o)) :
    ∃ (ended : Outcome α) (store : RecordStore) (t t' : σ) (o' : Watched α σ),
      Session.run (recorders config source) (Act.onRight body) ({}, t) = (ended, store, t') ∧
        watch config source test body s = writeBlocks config.recordPath test ended store o' ∧
        o'.calls = o.calls ++ [.session
          (Session.calls (recorders config source) (Act.onRight body) {} t) ended store] := by
  obtain ⟨e, hbegins⟩ :=
    recordAround_of_opened (watchSession (recorders config source) (Act.onRight body)) h
  obtain ⟨ended, store, t', o', hrun, hsession, hcalls⟩ :=
    watchSession_spec (recorders config source) (Act.onRight body) (EventLog.note e o)
  refine ⟨ended, store, (EventLog.note e o).inner, t', o', hrun, ?_, hcalls⟩
  rw [watch, hbegins, Act.bind_of_done (Act.within_of hsession)]

/-- How a recorded test goes when it is watched: it meets a barrier, or it comes to its end. -/
theorem watch_spec (config : FlightConfig) (source : Journal.Source) (test : TestId)
    (body : Act σ α) (s : σ) :
    ∃ (h : History α) (o : Watched α σ), h.Fits config source test body s ∧
      watch config source test body s = (h.outcome, o) ∧ o.calls = h.calls config.recordPath := by
  -- watched or not, the clock is read after the same request, and so the header is the same
  have hparent := makeParent_projects (f := (Watched.inner : Watched α σ → σ)) config.recordPath
    { inner := s }
  have hheader : headerAt config.recordPath test ({ inner := s } : Watched α σ)
      = headerAt config.recordPath test s := by
    simp only [headerAt, hparent]
    rfl
  have hsection := openSection_projects (f := (Watched.inner : Watched α σ → σ)) config.recordPath
    test { inner := s }
  rcases openSection_spec config.recordPath test ({ inner := s } : Watched α σ) with
    ⟨barrier, o, hfits, hopen, hcalls⟩ | ⟨header, o, hfits, hopen, hcalls⟩ <;>
    rw [hheader] at hfits <;> rw [hopen] at hsection
  · have hended := (congrArg Prod.fst hsection).trans (Outcome.map_id _)
    exact ⟨.barred barrier, o, ⟨hended, hfits⟩, Act.bind_of_abrupt hopen, hcalls⟩
  · obtain ⟨ended, store, t, t', o₁, hrun, hwatch, hcalls₁⟩ := watch_of_opened source body hopen
    obtain ⟨written, o₂, hwrite, hcalls₂⟩ :=
      writeBlocks_spec config.recordPath test ended store o₁
    set inner := Session.calls (recorders config source) (Act.onRight body) {} t
    refine ⟨.recorded header inner ended store written, o₂,
      ⟨congrArg Prod.fst hsection, hfits, t, t', rfl, hrun⟩, hwatch.trans hwrite, ?_⟩
    rw [hcalls₂, hcalls₁, hcalls]
    simp [History.calls]

/-- **Every recorded test has a history.**  Its calls and its end are those of the history. -/
theorem exists_history (config : FlightConfig) (source : Journal.Source) (test : TestId)
    (body : Act σ α) (s : σ) :
    ∃ h : History α, h.Fits config source test body s ∧
      calls config source test body s = h.calls config.recordPath ∧
      (recordTest config source test body s).1 = h.outcome := by
  obtain ⟨h, o, hfits, hwatch, hcalls⟩ := watch_spec config source test body s
  refine ⟨h, hfits, ?_, ?_⟩
  · rw [calls, hwatch, hcalls]
  · rw [recordTest_eq_watched, hwatch]

/-- A test whose section could not be opened has done nothing but try. -/
theorem recordTest_of_barrier {config : FlightConfig} {source : Journal.Source} {test : TestId}
    {body : Act σ α} {s t : σ} {abrupt : Outcome Empty}
    (h : openSection config.recordPath test s = (abrupt.map Empty.elim, t)) :
    recordTest config source test body s = (abrupt.map Empty.elim, t) :=
  Act.bind_of_abrupt h

end

/-! ## Moving along a preorder

A recorded test moves along whatever its requests to the file system, its session and the run log
move along.
-/

section

variable {r : σ → σ → Prop} [IsPreorder σ r] [Files σ] {path : FilePath}

/-- Opening a section moves as its requests to the file system do. -/
theorem openSection_moves [Clock σ] (append : ∀ text, Act.Moves r (Files.append path text))
    (makeDirectory : ∀ p, Act.Moves r (Files.makeDirectory p)) (test : TestId) :
    Act.Moves r (openSection path test) := by
  refine Act.Moves.bind ?_ fun _ => (Act.Moves.read _).bind ?_
  · rw [makeParent_eq]
    rcases directory? path with _ | parent
    · exact Act.Moves.pure _
    · exact makeDirectory parent
  · rintro (_ | header)
    · exact Act.Moves.settle _
    · exact append header

variable [EventLog σ]

/-- Writing the blocks moves as that request and the reports do. -/
theorem writeBlocks_moves (append : ∀ text, Act.Moves r (Files.append path text))
    (note : ∀ e s, r s (EventLog.note e s)) (test : TestId) (ended : Outcome α)
    (store : RecordStore) : Act.Moves r (writeBlocks path test ended store) := by
  refine (append _).result.bind fun written => Act.Moves.bind ?_ fun _ =>
    Act.Moves.bind ?_ fun _ => Act.Moves.settle _
  · cases written with
    | ok value => exact Act.Moves.pure _
    | error failure => exact Act.Moves.report note _ _ _
  · cases ended with
    | done value => exact Act.Moves.report note _ _ _
    | failed failure => exact Act.Moves.report note _ _ _
    | crashed crash => exact Act.Moves.pure _

/-- What is done around a session moves as the session and these do. -/
theorem recordAround_moves [Clock σ] (append : ∀ text, Act.Moves r (Files.append path text))
    (makeDirectory : ∀ p, Act.Moves r (Files.makeDirectory p))
    (note : ∀ e s, r s (EventLog.note e s)) (test : TestId) {session : Act (RecordStore × σ) α}
    (h : Act.Moves (Act.Beside r) session) : Act.Moves r (recordAround path test session) := by
  refine (openSection_moves append makeDirectory test).bind fun _ => ?_
  refine (Act.Moves.report note _ _ _).bind fun _ => Act.Moves.bind (h.within {}) ?_
  rintro ⟨ended, store⟩
  exact writeBlocks_moves append note test ended store

variable [Processes σ] [Journal.Feed σ] [Clock σ]

omit [Files σ] in
/-- The recorders of a flight record move along what the processes and the journal move along. -/
theorem recorders_move (processes : Processes.Move r)
    (feed : ∀ since, Act.Moves r (Journal.Feed.entriesSince since))
    (note : ∀ e s, r s (EventLog.note e s)) : RecordersMove FlightRecorder r :=
  Recorder.move_sum (JournalRecorder.move processes feed note) (CommandRecorder.move processes note)

/-- A recorded test moves along what all its devices and its body move along. -/
theorem recordTest_moves {config : FlightConfig}
    (append : ∀ text, Act.Moves r (Files.append config.recordPath text))
    (makeDirectory : ∀ p, Act.Moves r (Files.makeDirectory p)) (processes : Processes.Move r)
    (feed : ∀ since, Act.Moves r (Journal.Feed.entriesSince since))
    (note : ∀ e s, r s (EventLog.note e s)) (source : Journal.Source) (test : TestId)
    {body : Act σ α} (h : Act.Moves r body) : Act.Moves r (recordTest config source test body) :=
  recordAround_moves append makeDirectory note test
    (Session.run_moves (recorders_move processes feed note) (recorders config source) h.onRight)

end

end Flight

end BusTrial
