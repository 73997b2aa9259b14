import BusTrial.Flight.Record
import BusTrial.Proofs.Recorder
import BusTrial.Proofs.Session.Calls

/-!
# The calls of a recorded test

A recorded test does three kinds of things: it makes requests to the file system, it runs a session
around the body, and it reports.  Here it is run on a state that notes the first two in their order,
each with what came of it.  A session is noted as a whole, with the calls that it made
(`Session.calls`), its end, and the store that it left.

* `calls` — everything that a recorded test calls, in order;
* `sessionCalls` — the calls of its session, of which there are none if no session was run;
* **`recordTest_eq_watched`** — watching changes nothing.
-/

namespace BusTrial

deriving instance DecidableEq for Session.Call

namespace Flight

/-- Something that a recorded test does, with what came of it. -/
inductive Call (α : Type) where
  /-- A request to the file system. -/
  | file (request : FileRequest) (ended : Outcome Unit)
  /-- The session around the body: the calls that it made, its end, and the store that it left. -/
  | session (calls : List (Session.Call α)) (ended : Outcome α) (store : RecordStore)
  deriving DecidableEq

def Call.inner {α : Type} : Call α → List (Session.Call α)
  | .file _ _ => []
  | .session calls _ _ => calls

/-- The calls of the session among what a test did. -/
def sessionCalls {α : Type} (made : List (Call α)) : List (Session.Call α) :=
  made.flatMap Call.inner

/-- A state beside what a recorded test has done so far. -/
structure Watched (α σ : Type) where
  calls : List (Call α) := []
  inner : σ

namespace Watched

variable {α β σ : Type}

def after (o : Watched α σ) (call : Call α) (inner : σ) : Watched α σ :=
  { calls := o.calls ++ [call], inner }

/-- Makes a request to the file system and notes it. -/
def request (r : FileRequest) (act : Act σ β) : Act (Watched α σ) β :=
  fun o =>
    let (ended, s) := act o.inner
    (ended, o.after (.file r (ended.map fun _ => ())) s)

instance [Clock σ] : Clock (Watched α σ) where
  now o := Clock.now o.inner
  monotonic o := Clock.monotonic o.inner
  sleep d := fun o => let (ended, s) := Clock.sleep d o.inner; (ended, { o with inner := s })

instance [Files σ] : Files (Watched α σ) where
  read p := request (.read p) (Files.read p)
  write p text := request (.write p text) (Files.write p text)
  append p text := request (.append p text) (Files.append p text)
  makeDirectory p := request (.makeDirectory p) (Files.makeDirectory p)

instance [EventLog σ] : EventLog (Watched α σ) where
  note e o := { o with inner := EventLog.note e o.inner }

end Watched

variable {ρ σ τ α : Type}

/-- What a recorded test does around a session of any kind. -/
def recordAround [Clock σ] [Files σ] [EventLog σ] (path : FilePath) (id : TestId)
    (session : Act (RecordStore × σ) α) : Act σ α := do
  openSection path id
  report "info" "flight.test.started"
    [("test_id", .string id.display), ("record_path", .string path.text)]
  let (ended, store) ← Act.within ({} : RecordStore) session
  let written ← (Files.append path store.contents : Act σ Unit).result
  reportUnwritten id written
  reportFinished id store ended
  Act.settle (conclude ended written)

/-- A session, watched. -/
def watchSession [Recorder ρ σ] [EventLog σ] (recorders : List ρ)
    (body : Act (RecordStore × σ) α) : Act (RecordStore × Watched α σ) α :=
  fun (store, o) =>
    let (ended, left, s) := Session.run recorders body (store, o.inner)
    (ended, left, o.after (.session (Session.calls recorders body store o.inner) ended left) s)

section

variable [Clock σ] [Files σ] [Processes σ] [Journal.Feed σ] [EventLog σ]

theorem recordTest_eq_recordAround (config : FlightConfig) (source : Journal.Source) (id : TestId)
    (body : Act σ α) :
    recordTest config source id body
      = recordAround config.recordPath id
          (Session.run (recorders config source) (Act.onRight body)) := rfl

/-- A recorded test that is watched. -/
def watch (config : FlightConfig) (source : Journal.Source) (id : TestId) (body : Act σ α) (s : σ) :
    Outcome α × Watched α σ :=
  recordAround config.recordPath id (watchSession (recorders config source) (Act.onRight body))
    { inner := s }

/-- Everything that a recorded test calls, in order. -/
def calls (config : FlightConfig) (source : Journal.Source) (id : TestId) (body : Act σ α) (s : σ) :
    List (Call α) :=
  (watch config source id body s).2.calls

end

/-! ## Watching changes nothing

What a recorded test does around its session projects as the devices do, whatever the session is.
-/

section

variable {f : σ → τ}

section

variable [Files σ] [Files τ] [Files.Projects f]

theorem makeParent_projects (path : FilePath) :
    Act.Projects f id (makeParent path) (makeParent path) := by
  rw [makeParent, makeParent]
  split
  · split
    · exact Act.Projects.pure _
    · exact Files.Projects.makeDirectory _
  · exact Act.Projects.pure _

theorem openSection_projects [Clock σ] [Clock τ] [Clock.Projects f] (path : FilePath)
    (test : TestId) : Act.Projects f id (openSection path test) (openSection path test) := by
  refine (makeParent_projects path).bind fun _ => ?_
  refine Act.Projects.bind (Act.Projects.read (g := id) fun s => ?_) fun header => ?_
  · rw [Clock.Projects.now, Clock.Projects.monotonic]
    rfl
  · rcases header with _ | header
    · exact Act.Projects.settle _
    · exact Files.Projects.append path header

end

variable [EventLog σ] [EventLog τ] [EventLog.Projects f]

theorem reportUnwritten_projects (test : TestId) (written : Except Failure Unit) :
    Act.Projects f id (reportUnwritten test written) (reportUnwritten test written) := by
  rcases written with failure | ⟨⟨⟩⟩
  · exact report_projects _ _ _
  · exact Act.Projects.pure _

theorem reportFinished_projects (test : TestId) (store : RecordStore) (ended : Outcome α) :
    Act.Projects f id (reportFinished test store ended) (reportFinished test store ended) := by
  cases ended with
  | done value => exact report_projects _ _ _
  | failed failure => exact report_projects _ _ _
  | crashed crash => exact Act.Projects.pure _

/-- What a test does around related sessions is related. -/
theorem recordAround_projects [Clock σ] [Clock τ] [Clock.Projects f] [Files σ] [Files τ]
    [Files.Projects f] (path : FilePath) (test : TestId) {session : Act (RecordStore × σ) α}
    {session' : Act (RecordStore × τ) α} (h : Act.Projects (Prod.map id f) id session session') :
    Act.Projects f id (recordAround path test session) (recordAround path test session') := by
  refine (openSection_projects path test).bind fun _ => (report_projects _ _ _).bind fun _ => ?_
  refine (h.within {}).bind ?_
  rintro ⟨ended, store⟩
  refine (Files.Projects.append path _).result.bind fun written => ?_
  refine (reportUnwritten_projects test written).bind fun _ => ?_
  rw [Outcome.map_id]
  refine (reportFinished_projects test store ended).bind fun _ => ?_
  exact Act.Projects.settle_self _

/-- A test on a larger state is the test on the smaller one, if its devices and its body are. -/
theorem recordTest_projects [Clock σ] [Clock τ] [Clock.Projects f] [Files σ] [Files τ]
    [Files.Projects f] [Processes σ] [Processes τ] [Processes.Projects f] [Journal.Feed σ]
    [Journal.Feed τ] [Journal.Feed.Projects f] (config : FlightConfig) (source : Journal.Source)
    (test : TestId) {body : Act σ α} {body' : Act τ α} (h : Act.Projects f id body body') :
    Act.Projects f id (recordTest config source test body)
      (recordTest config source test body') := by
  have hrecorders : RecordersProject (Sum.map id id : FlightRecorder → FlightRecorder) f :=
    Recorder.project_sum JournalRecorder.project CommandRecorder.project
  have hsession := Session.run_projects hrecorders (recorders config source) (h.onRight (e := id))
  rw [Sum.map_id_id, List.map_id] at hsession
  exact recordAround_projects config.recordPath test hsession

end

section

instance [Clock σ] : Clock.Projects (Watched.inner : Watched α σ → σ) where
  now _ := rfl
  monotonic _ := rfl
  sleep d := fun o => by rw [Outcome.map_id]; rfl

instance [Files σ] : Files.Projects (Watched.inner : Watched α σ → σ) where
  read p := fun o => by rw [Outcome.map_id]; rfl
  write p text := fun o => by rw [Outcome.map_id]; rfl
  append p text := fun o => by rw [Outcome.map_id]; rfl
  makeDirectory p := fun o => by rw [Outcome.map_id]; rfl

variable [EventLog σ]

instance : EventLog.Projects (Watched.inner : Watched α σ → σ) where
  note _ _ := rfl

theorem watchSession_projects [Recorder ρ σ] (recorders : List ρ)
    (body : Act (RecordStore × σ) α) :
    Act.Projects (Prod.map id Watched.inner) id (watchSession recorders body)
      (Session.run recorders body) := by
  rintro ⟨store, o⟩
  rw [Outcome.map_id]
  rfl

variable [Clock σ] [Files σ] [Processes σ] [Journal.Feed σ]

/-- **Watching changes nothing.**  A recorded test ends as it does when it is watched, and leaves
the same state. -/
theorem recordTest_eq_watched (config : FlightConfig) (source : Journal.Source) (test : TestId)
    (body : Act σ α) (s : σ) :
    recordTest config source test body s
      = ((watch config source test body s).1, (watch config source test body s).2.inner) := by
  have h := recordAround_projects config.recordPath test
    (watchSession_projects (recorders config source) (Act.onRight body)) { inner := s }
  rw [Outcome.map_id] at h
  exact h

end

end Flight

end BusTrial
