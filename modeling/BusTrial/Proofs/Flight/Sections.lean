import BusTrial.Bench
import BusTrial.Proofs.Flight.History

/-!
# A flight record is made of whole sections

Nothing is ever taken away from a flight record, and what is added to it is one section for each
test: the header and the blocks of the session, the header alone if the blocks could not be written,
or nothing at all if the section could not be opened.

The file is seen through a function `text` that reads it off the state, and `RecordFile` says how
that function bears with the devices: appending to the file adds to it or fails, and nothing else
touches it.  What an action does to the file is then a matter of the calls that it makes
(`Extends`), a relation that every recorded test moves along (`text_after`); with the history of the
test this gives its section (`exists_section`), and by induction on a row of tests the whole record
(**`record_made_of_sections`**).
-/

namespace BusTrial

namespace Flight

variable {ρ σ α : Type}

/-! ## The file -/

/-- The text of a file after something was to be added to it. -/
def addedTo (text added : String) (ended : Outcome Unit) : String :=
  text ++ if ended.isDone then added else ""

/-- The function reads a file off the state that only appends to it change.  An append that does not
succeed leaves it as it was. -/
structure RecordFile [Files σ] [Processes σ] [Journal.Feed σ] [EventLog σ] (path : FilePath)
    (text : σ → String) : Prop where
  append : ∀ added s, let x := (Files.append path added : Act σ Unit) s
    text x.2 = addedTo (text s) added x.1
  makeDirectory : ∀ parent, Act.Keeps text (Files.makeDirectory parent)
  processes : Processes.Move fun s t : σ => text t = text s
  entriesSince : ∀ since, Act.Keeps text (Journal.Feed.entriesSince since)
  note : ∀ e s, text (EventLog.note e s) = text s

/-- What a call added to a file. -/
def Call.appended (path : FilePath) : Call α → String
  | .file (.append p added) ended => if p = path then addedTo "" added ended else ""
  | _ => ""

/-- What calls added to a file. -/
def appended (path : FilePath) (made : List (Call α)) : String :=
  String.join (made.map (Call.appended path))

@[simp] theorem appended_nil (path : FilePath) : appended path ([] : List (Call α)) = "" := rfl

@[simp] theorem appended_cons (path : FilePath) (call : Call α) (made : List (Call α)) :
    appended path (call :: made) = call.appended path ++ appended path made :=
  String.join_cons

theorem appended_append (path : FilePath) (made more : List (Call α)) :
    appended path (made ++ more) = appended path made ++ appended path more := by
  rw [appended, List.map_append, String.join_append]
  rfl

/-- The section that a test added to the record. -/
def History.section : History α → String
  | .barred _ => ""
  | .recorded header _ _ store written => addedTo header store.contents written

theorem directoryCalls_appended (path : FilePath) :
    appended path (directoryCalls path : List (Call α)) = "" := by
  rw [directoryCalls, appended]
  rcases directory? path with _ | parent <;> rfl

theorem Barrier.appended_calls (path : FilePath) (barrier : Barrier) :
    appended path (barrier.calls path : List (Call α)) = "" := by
  rcases barrier with ⟨parent, ended⟩ | _ | ⟨header, ended⟩
  · rfl
  · exact directoryCalls_appended path
  · rw [Barrier.calls, appended_append, directoryCalls_appended]
    rcases ended with value | failure | crash
    · exact value.elim
    · simp [Call.appended, addedTo, Outcome.isDone, Outcome.map]
    · simp [Call.appended, addedTo, Outcome.isDone, Outcome.map]

/-- The calls of a history add its section. -/
theorem History.appended_calls (path : FilePath) (h : History α) :
    appended path (h.calls path) = h.section := by
  rcases h with barrier | ⟨header, inner, ended, store, written⟩
  · exact barrier.appended_calls path
  · rw [History.calls, appended_append, directoryCalls_appended]
    simp [Call.appended, History.section, addedTo, Outcome.isDone]

/-! ## One test -/

section

/-- Calls were made and the file was added to accordingly. -/
def Extends (path : FilePath) (text : σ → String) (o o' : Watched α σ) : Prop :=
  ∃ new, o'.calls = o.calls ++ new ∧ text o'.inner = text o.inner ++ appended path new

variable {path : FilePath} {text : σ → String}

instance : IsPreorder (Watched α σ) (Extends path text) where
  refl o := ⟨[], by simp, by simp [appended]⟩
  trans o o' o'' := by
    rintro ⟨new, hcalls, htext⟩ ⟨new', hcalls', htext'⟩
    refine ⟨new ++ new', ?_, ?_⟩
    · rw [hcalls', hcalls, List.append_assoc]
    · rw [htext', htext, appended_append, String.append_assoc]

variable [Files σ] [Processes σ] [Journal.Feed σ] [EventLog σ]

omit [Files σ] [Processes σ] [Journal.Feed σ] [EventLog σ] in
/-- A request does to the file what it says that it did. -/
theorem request_extends {r : FileRequest} {act : Act σ Unit}
    (h : ∀ s, text (act s).2 = text s ++ Call.appended path (.file r (act s).1 : Call α)) :
    Act.Moves (Extends path text) (Watched.request r act : Act (Watched α σ) Unit) := by
  intro o
  have hrequest : Watched.request r act o
      = ((act o.inner).1, o.after (.file r (act o.inner).1) (act o.inner).2) :=
    Watched.request_of rfl
  refine ⟨[.file r (act o.inner).1], ?_, ?_⟩ <;> rw [hrequest]
  · rfl
  · rw [appended_cons, appended_nil, String.append_empty]
    exact h o.inner

theorem makeDirectory_extends (file : RecordFile path text) (parent : FilePath) :
    Act.Moves (Extends path text) (Files.makeDirectory parent : Act (Watched α σ) Unit) := by
  refine request_extends fun s => ?_
  rw [file.makeDirectory parent s]
  exact String.append_empty.symm

theorem append_extends (file : RecordFile path text) (added : String) :
    Act.Moves (Extends path text) (Files.append path added : Act (Watched α σ) Unit) := by
  refine request_extends fun s => ?_
  simpa [Call.appended, addedTo] using file.append added s

theorem note_extends (file : RecordFile path text) (e : LogEvent) (o : Watched α σ) :
    Extends path text o (EventLog.note e o) :=
  ⟨[], (List.append_nil _).symm, (file.note e o.inner).trans String.append_empty.symm⟩

omit [Files σ] [Processes σ] [Journal.Feed σ] in
/-- A session that leaves the file alone still does so when it is watched. -/
theorem watchSession_extends [Recorder ρ σ] {recorders : List ρ}
    {body : Act (RecordStore × σ) α}
    (h : Act.Moves (Act.Beside fun s t : σ => text t = text s) (Session.run recorders body)) :
    Act.Moves (Act.Beside (Extends path text)) (watchSession recorders body) := by
  rintro ⟨store, o⟩
  exact ⟨_, rfl, (h (store, o.inner)).trans String.append_empty.symm⟩

variable [Clock σ]

/-- **What a test did to the file** is what its calls added to it. -/
theorem text_after {config : FlightConfig} (file : RecordFile config.recordPath text)
    (source : Journal.Source) (test : TestId) {body : Act σ α} (hbody : Act.Keeps text body)
    (s : σ) :
    text (recordTest config source test body s).2
      = text s ++ appended config.recordPath (calls config source test body s) := by
  have hsession := Session.run_moves
    (recorders_move file.processes file.entriesSince file.note) (recorders config source)
    hbody.onRight
  have hall : Act.Moves (Extends config.recordPath text)
      (recordAround config.recordPath test
        (watchSession (recorders config source) (Act.onRight body))) :=
    recordAround_moves (append_extends file) (makeDirectory_extends file) (note_extends file) test
      (watchSession_extends hsession)
  obtain ⟨new, hcalls, htext⟩ := hall { inner := s }
  rw [recordTest_eq_watched, calls, watch, hcalls]
  exact htext

/-- **A test whose section is opened leaves at the end of the file what its last call added**,
whatever its session did to the file before. -/
theorem exists_text_before_last {config : FlightConfig} (file : RecordFile config.recordPath text)
    (source : Journal.Source) {test : TestId} (body : Act σ α) {s : σ}
    (hopened : (openSection config.recordPath test s).1 = .done ()) :
    ∃ before last, (calls config source test body s).getLast? = some last ∧
      text (recordTest config source test body s).2 = before ++ last.appended config.recordPath := by
  have hsection := openSection_projects (f := (Watched.inner : Watched α σ → σ)) config.recordPath
    test { inner := s }
  rcases hopen : openSection config.recordPath test ({ inner := s } : Watched α σ) with ⟨ended, o⟩
  rw [hopen, Outcome.map_id] at hsection
  obtain rfl : ended = .done () := (congrArg Prod.fst hsection).symm.trans hopened
  obtain ⟨ended, store, -, -, o₁, -, hwatch, -⟩ := watch_of_opened source body hopen
  obtain ⟨written, o₂, hwrite, hcalls⟩ := writeBlocks_spec config.recordPath test ended store o₁
  obtain ⟨new, hnew, htext⟩ := writeBlocks_moves (append_extends file) (note_extends file) test ended
    store o₁
  rw [hwrite] at hnew htext
  obtain rfl := List.append_cancel_left (hcalls.symm.trans hnew)
  refine ⟨text o₁.inner, .file (.append config.recordPath store.contents) written, ?_, ?_⟩
  · rw [calls, hwatch, hwrite, hcalls]
    exact List.getLast?_concat ..
  · rw [recordTest_eq_watched, hwatch, hwrite, htext, appended_cons, appended_nil,
      String.append_empty]

end

/-! ## A row of tests -/

/-- A test that is recorded, and what happens to the state before it. -/
structure Test (σ : Type) where
  Value : Type
  config : FlightConfig
  source : Journal.Source
  id : TestId
  body : Act σ Value
  before : σ → σ

section

variable [Clock σ] [Files σ] [Processes σ] [Journal.Feed σ] [EventLog σ]

/-- Records the test. -/
def Test.run (t : Test σ) : Act σ t.Value :=
  recordTest t.config t.source t.id t.body

/-- Tests in a row, each with the state that it begins in. -/
def visits : List (Test σ) → σ → List (Test σ × σ)
  | [], _ => []
  | t :: rest, s => (t, t.before s) :: visits rest (t.run (t.before s)).2

/-- The state after tests in a row, whatever becomes of each of them. -/
def runAll : List (Test σ) → σ → σ
  | [], s => s
  | t :: rest, s => runAll rest (t.run (t.before s)).2

/-- The test is recorded in the file, which neither its body nor what happens before it touches. -/
structure Test.Heeds (path : FilePath) (text : σ → String) (t : Test σ) : Prop where
  path : t.config.recordPath = path
  body : Act.Keeps text t.body
  before : ∀ s, text (t.before s) = text s

/-- What a test that begins in a state does, as its history has it. -/
structure Test.Goes (text : σ → String) (t : Test σ) (s : σ) (h : History t.Value) : Prop where
  fits : h.Fits t.config t.source t.id t.body s
  calls : calls t.config t.source t.id t.body s = h.calls t.config.recordPath
  outcome : (t.run s).1 = h.outcome
  /-- The file has its section at its end. -/
  text : text (t.run s).2 = text s ++ h.section
  /-- A test whose section is not opened runs no session, and so it starts no recorder and does not
  run its body.  It leaves everything alone that requests to the file system leave alone. -/
  barred : ∀ barrier, h = .barred barrier →
    sessionCalls (Flight.calls t.config t.source t.id t.body s) = [] ∧
      ∀ (γ : Type) (v : σ → γ), (∀ p added, Act.Keeps v (Files.append p added)) →
        (∀ p, Act.Keeps v (Files.makeDirectory p)) → v (t.run s).2 = v s

variable {path : FilePath} {text : σ → String}

/-- **One test adds one section.** -/
theorem exists_section (file : RecordFile path text) {t : Test σ} (heeds : t.Heeds path text)
    (s : σ) : ∃ h : History t.Value, t.Goes text s h := by
  obtain ⟨rfl, hbody, -⟩ := heeds
  obtain ⟨h, hfits, hcalls, houtcome⟩ := exists_history t.config t.source t.id t.body s
  refine ⟨h, hfits, hcalls, houtcome, ?_, ?_⟩
  · rw [← h.appended_calls t.config.recordPath, ← hcalls]
    exact text_after file t.source t.id hbody s
  · rintro barrier rfl
    refine ⟨by rw [hcalls]; exact barrier.sessionCalls_calls _, fun γ v append makeDirectory => ?_⟩
    -- such a test is nothing but the opening of its section
    have hkept : v (openSection t.config.recordPath t.id s).2 = v s :=
      openSection_moves (append t.config.recordPath) makeDirectory t.id s
    rcases hopen : openSection t.config.recordPath t.id s with ⟨ended, s'⟩
    have hended : ended = barrier.ended.map Empty.elim := by
      rw [← hfits.1, hopen]
    rw [hopen] at hkept
    rw [Test.run, recordTest_of_barrier (hended ▸ hopen)]
    exact hkept

/-- **A flight record is made of whole sections.**  However tests in a row go, the record holds what
it held before and then the sections of the tests, one after another. -/
theorem record_made_of_sections (file : RecordFile path text) :
    ∀ (tests : List (Test σ)) (s : σ), (∀ t ∈ tests, t.Heeds path text) →
      ∃ sections : List String,
        List.Forall₂
          (fun (visit : Test σ × σ) added =>
            ∃ h : History visit.1.Value, visit.1.Goes text visit.2 h ∧ h.section = added)
          (visits tests s) sections ∧
        text (runAll tests s) = text s ++ String.join sections
  | [], s, _ => ⟨[], .nil, String.append_empty.symm⟩
  | t :: rest, s, heeds => by
      have ht := heeds t List.mem_cons_self
      obtain ⟨h, hgoes⟩ := exists_section file ht (t.before s)
      obtain ⟨sections, hsections, htext⟩ := record_made_of_sections file rest
        (t.run (t.before s)).2 fun t' hmem => heeds t' (List.mem_cons_of_mem t hmem)
      refine ⟨h.section :: sections, .cons ⟨h, hgoes, rfl⟩ hsections, ?_⟩
      calc text (runAll (t :: rest) s)
          = text (t.run (t.before s)).2 ++ String.join sections := htext
        _ = text s ++ h.section ++ String.join sections := by rw [hgoes.text, ht.before]
        _ = text s ++ String.join (h.section :: sections) := by
            rw [String.join_cons, String.append_assoc]

end

end Flight

/-! ### Files in memory -/

namespace FileTable

theorem textOf_put (t : FileTable) (p : FilePath) (text : String) :
    (t.put p text).textOf p = text := by
  simp [textOf, contents?, put, Table.get?_set]

theorem textOf_append (p : FilePath) (added : String) (t : FileTable) :
    let x := (Files.append p added : Act FileTable Unit) t
    x.2.textOf p = Flight.addedTo (t.textOf p) added x.1 := by
  show (request (.append p added) (fun t => (.ok (), t.put p (t.textOf p ++ added))) t).2.textOf p
    = Flight.addedTo (t.textOf p) added
      (request (.append p added) (fun t => (.ok (), t.put p (t.textOf p ++ added))) t).1
  rcases hnext : t.failNext with _ | failure
  · simp only [request, hnext, textOf_put]
    rfl
  · simp only [request, hnext]
    exact String.append_empty.symm

theorem textOf_makeDirectory (parent p : FilePath) (t : FileTable) :
    ((Files.makeDirectory parent : Act FileTable Unit) t).2.textOf p = t.textOf p := by
  show (request (.makeDirectory parent) (fun t => (.ok (), t)) t).2.textOf p = t.textOf p
  rcases hnext : t.failNext with _ | failure <;> simp only [request, hnext] <;> rfl

end FileTable

namespace Flight

/-- The files of a bench behave as a record has to. -/
theorem recordFile_bench (path : FilePath) :
    RecordFile path fun b : Bench => b.files.textOf path where
  append added b := FileTable.textOf_append path added b.files
  makeDirectory parent b := FileTable.textOf_makeDirectory parent path b.files
  processes := ⟨fun _ _ => rfl, fun _ _ => rfl, fun _ _ => rfl, fun _ _ => rfl⟩
  entriesSince _ _ := rfl
  note _ _ := rfl

/-- A bench whose next request to the file system fails. -/
def diskFull (b : Bench) : Bench :=
  { b with files.failNext := some (.plain .io "disk full") }

/-- A test of a bench of which only the journal is recorded. -/
def benchTest (method : String) (body : Act Bench Unit) (before : Bench → Bench) : Test Bench where
  Value := Unit
  config := { recordPath := ⟨"flight.log"⟩, monitors := [] }
  source := .feed
  id := ⟨"disk", "Full", method⟩
  body := body
  before := before

/-- The disk is full when the first test begins, and again when the second one crashes. -/
def benchTests : List (Test Bench) :=
  [benchTest "before" (pure ()) diskFull,
    benchTest "during" (Act.change diskFull >>= fun _ => Act.crash .silent) id,
    benchTest "never" (Act.fail (.assertion "0 != 1")) id]

/-- The first test adds nothing to the record, the second one its header, and the third one, which
fails, its whole section. -/
theorem record_made_of_sections_bench :
    (∃ sections : List String,
      List.Forall₂
        (fun (visit : Test Bench × Bench) added =>
          ∃ h : History visit.1.Value,
            visit.1.Goes (fun b => b.files.textOf ⟨"flight.log"⟩) visit.2 h ∧ h.section = added)
        (visits benchTests {}) sections ∧
      (runAll benchTests {}).files.textOf ⟨"flight.log"⟩ = "" ++ String.join sections) ∧
    (runAll benchTests {}).files.textOf ⟨"flight.log"⟩
      = "================1970-01-01 00:00:00[100.00000000] disk.Full.during================\n"
        ++ "================1970-01-01 00:00:00[100.00000000] disk.Full.never================\n"
        ++ "<<<<< journal >>>>>\n\n\n\n" := by
  refine ⟨record_made_of_sections (recordFile_bench ⟨"flight.log"⟩) benchTests {} ?_, ?_⟩
  · rintro t hmem
    simp only [benchTests, List.mem_cons, List.not_mem_nil, or_false] at hmem
    rcases hmem with rfl | rfl | rfl <;> exact ⟨rfl, fun _ => rfl, fun _ => rfl⟩
  · decide +kernel

end Flight

end BusTrial
