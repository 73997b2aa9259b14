import BusTrial.Bench
import BusTrial.Proofs.Config.Acceptance
import BusTrial.Proofs.Flight.History
import BusTrial.Proofs.Processes.Calls
import BusTrial.Proofs.Session.History

/-!
# No monitor is left running

A recording starts processes that would run on by themselves.  This module follows the calls of the
record command on a bench, call by call: what they are does not depend on what becomes of any of
them, but for the way in which a monitor is parted from (`Farewell`).

* `Monitor.start_spec`, `Monitor.close_spec` — the calls for one monitor;
* `Monitor.startAll_spec`, `Monitor.closeAll_spec` — for a row of them, by induction on the row;
* `Flight.run_spec`, `Flight.recordTest_spec` — for the session and for the test;
* **`record_parts_from_monitors`** — for the record command.

`Leads new n o o'` says that on the way from `o` to `o'` just the calls in `new` were made and `n`
processes were started; with no calls and no processes it is the preorder `Still`, which everything
moves along that is not about processes.
-/

namespace BusTrial

/-! ## What is seen of a bench -/

namespace Traced

abbrev next (o : Traced Bench) : Handle :=
  o.inner.processes.next

/-- From one state to another, these calls were made and as many processes were started. -/
structure Leads (new : List ProcessCall) (started : Nat) (o o' : Traced Bench) : Prop where
  calls : o'.calls = o.calls ++ new
  next : o'.next = o.next + started

namespace Leads

variable {o o' o'' : Traced Bench} {new more : List ProcessCall} {started n : Nat}

/-- Nothing that is done makes no calls. -/
theorem refl (o : Traced Bench) : Leads [] 0 o o :=
  ⟨(List.append_nil _).symm, rfl⟩

/-- What is done in a row makes the calls in a row, and starts as many processes. -/
theorem trans (h : Leads new started o o') (h' : Leads more n o' o'') :
    Leads (new ++ more) (started + n) o o'' :=
  ⟨by rw [h'.calls, h.calls, List.append_assoc], by rw [h'.next, h.next, Nat.add_assoc]⟩

end Leads

/-- Neither was a call made nor a process started. -/
abbrev Still (o o' : Traced Bench) : Prop :=
  Leads [] 0 o o'

instance : IsPreorder (Traced Bench) Still where
  refl := Leads.refl
  trans _ _ _ h h' := h.trans h'

/-- What makes no call can follow what does. -/
theorem Leads.still {o o' o'' : Traced Bench} {new : List ProcessCall} {started : Nat}
    (h : Leads new started o o') (still : Still o' o'') : Leads new started o o'' := by
  simpa using h.trans still

/-- What makes no call can come before what does. -/
theorem Still.leads {o o' o'' : Traced Bench} {new : List ProcessCall} {started : Nat}
    (still : Still o o') (h : Leads new started o' o'') : Leads new started o o'' := by
  simpa using still.trans h

/-- A state with the same calls and the same next handle is as still as it was. -/
theorem Still.of_eq {o o' : Traced Bench} (hcalls : o'.calls = o.calls) (hnext : o'.next = o.next) :
    Still o o' :=
  ⟨by rw [hcalls, List.append_nil], hnext⟩

/-- A report makes no call of the processes. -/
theorem note_still (e : LogEvent) (o : Traced Bench) : Still o (EventLog.note e o) :=
  .of_eq rfl rfl

/-- Appending to a file makes no call of the processes. -/
theorem append_still (p : FilePath) (text : String) :
    Act.Moves Still (Files.append p text : Act (Traced Bench) Unit) :=
  fun _ => .of_eq rfl rfl

/-- Creating a directory makes no call of the processes. -/
theorem makeDirectory_still (p : FilePath) :
    Act.Moves Still (Files.makeDirectory p : Act (Traced Bench) Unit) :=
  fun _ => .of_eq rfl rfl

/-- Writing to the terminal makes no call of the processes. -/
theorem terminal_still : Terminal.Move Still :=
  ⟨fun _ _ => .of_eq rfl rfl, fun _ _ => .of_eq rfl rfl⟩

/-- A process that is run is started and waited for, and does not crash. -/
theorem run_spec (r : Request) (o : Traced Bench) :
    ∃ (ended : Outcome ProcessOutput) (o' : Traced Bench), Processes.run r o = (ended, o') ∧
      (∀ crash, ended ≠ .crashed crash) ∧
      Leads [.spawn r (.done o.next), .wait o.next ended] 1 o o' := by
  obtain ⟨calls, clock, files, ⟨responses, failure, next, spawned, waits, kills, ends⟩, b⟩ := o
  rcases responses with _ | ⟨_ | _, rest⟩ <;>
    exact ⟨_, _, rfl, by simp, by simp [Traced.next], rfl⟩

end Traced

/-! ## A monitor -/

/-- The request that starts a monitor: its errors go into its output. -/
def Monitor.request (m : Monitor) : Request where
  program := m.words.headD ""
  arguments := m.words.tail
  mergeErrors := true

/-- How a monitor is parted from. -/
inductive Farewell where
  /-- It was asked to end, and waited for. -/
  | collected (ended : Outcome ProcessOutput)
  /-- It could not be asked, and was killed. -/
  | killed (failure : Failure)

/-- The calls that part from the process with a handle. -/
def Farewell.calls (h : Handle) : Farewell → List ProcessCall
  | .collected ended => [.terminate h (.done ()), .wait h ended]
  | .killed failure => [.terminate h (.failed failure), .kill h (.done ())]

/-- The calls that start monitors as the processes from `first` on. -/
def startingCalls (first : Handle) : List Monitor → List ProcessCall
  | [] => []
  | m :: rest => .spawn m.request (.done first) :: startingCalls (first + 1) rest

/-- The calls that part from the processes from `first` on, the last one first. -/
def partingCalls (first : Handle) : List Farewell → List ProcessCall
  | [] => []
  | farewell :: rest => partingCalls (first + 1) rest ++ farewell.calls first

namespace Monitor

def running (m : Monitor) (h : Handle) : Flight.FlightRecorder :=
  .inr { description := m.label, words := m.words, handle := some h }

/-- The recorder of a monitor that was asked to end. -/
def leaving (m : Monitor) (h : Handle) : Flight.FlightRecorder :=
  .inr { description := m.label, words := m.words, handle := some h, terminated := true }

/-- A monitor with a command is started by one call, with the next handle. -/
theorem start_spec {m : Monitor} (hwords : m.words ≠ []) (o : Traced Bench) :
    ∃ o' : Traced Bench,
      (Recorder.start : Act (Flight.FlightRecorder × Traced Bench) Unit)
          (.inr { description := m.label, words := m.words }, o)
        = (.done (), m.running o.next, o') ∧
      Traced.Leads [.spawn m.request (.done o.next)] 1 o o' := by
  obtain ⟨label, words⟩ := m
  rcases words with _ | ⟨program, arguments⟩
  · exact absurd rfl hwords
  · exact ⟨_, rfl, rfl, rfl⟩

/-- A monitor is asked to end, and killed if it cannot be asked. -/
theorem stop_spec (m : Monitor) (h : Handle) (o : Traced Bench) :
    (∃ o' : Traced Bench,
        (Recorder.stop : Act (Flight.FlightRecorder × Traced Bench) Unit) (m.running h, o)
          = (.done (), m.leaving h, o') ∧
        Traced.Leads [.terminate h (.done ())] 0 o o') ∨
      ∃ (failure : Failure) (r : Flight.FlightRecorder) (o' : Traced Bench),
        (Recorder.stop : Act (Flight.FlightRecorder × Traced Bench) Unit) (m.running h, o)
          = (.failed failure, r, o') ∧
        Traced.Leads ((Farewell.killed failure).calls h) 0 o o' := by
  obtain ⟨calls, clock, files, ⟨responses, failure, next, spawned, waits, kills, ends⟩, b⟩ := o
  rcases failure with _ | failure
  · exact Or.inl ⟨_, rfl, rfl, rfl⟩
  · exact Or.inr ⟨failure, _, _, rfl, by simp [Farewell.calls], rfl⟩

/-- A monitor that was asked to end is waited for, and that does not crash. -/
theorem save_spec (m : Monitor) (h : Handle) (store : RecordStore) (o : Traced Bench) :
    ∃ (ended : Outcome ProcessOutput) (saved : Outcome Unit) (store' : RecordStore)
        (r : Flight.FlightRecorder) (o' : Traced Bench),
      (Recorder.save : Act (RecordStore × Flight.FlightRecorder × Traced Bench) Unit)
          (store, m.leaving h, o) = (saved, store', r, o') ∧
        (∀ crash, saved ≠ .crashed crash) ∧ Traced.Leads [.wait h ended] 0 o o' := by
  obtain ⟨calls, clock, files, ⟨responses, failure, next, spawned, waits, kills, ends⟩, b⟩ := o
  rcases responses with _ | ⟨_ | _, rest⟩ <;>
    exact ⟨_, _, _, _, _, rfl, by simp, rfl, rfl⟩

/-- **Closing a monitor.**  Nothing that can happen keeps it from being parted from, and it ends the
closing neither with a failure nor with a crash. -/
theorem close_spec (m : Monitor) (h : Handle) (o : Traced Bench) :
    ∃ (farewell : Farewell) (out : List String × Option CleanupFailure)
        (r : Flight.FlightRecorder) (o' : Traced Bench),
      Session.closeOne (m.running h, o) = (.done out, r, o') ∧
        Traced.Leads (farewell.calls h) 0 o o' := by
  rcases m.stop_spec h o with ⟨o₁, hstop, hleads⟩ | ⟨failure, r, o₁, hstop, hleads⟩
  · obtain ⟨ended, saved, store, r, o₂, hsave, hcrash, hleads'⟩ := m.save_spec h {} o₁
    have hall := hleads.trans hleads'
    rw [Session.closeOne, Act.bind_of_done (Act.result_of_done hstop)]
    rcases saved with ⟨⟨⟩⟩ | failure | crash
    · refine ⟨.collected ended, (store.blocks, none), r, o₂, ?_, hall⟩
      exact Act.bind_of_done (Act.within_of (Act.result_of_done hsave))
    · obtain ⟨e, hreport⟩ := Session.reportClose_apply "save" failure r o₂
      refine ⟨.collected ended, (store.blocks, some ⟨description r, failure⟩), r,
        EventLog.note e o₂, ?_, hall.still (Traced.note_still e o₂)⟩
      refine (Act.bind_of_done (Act.within_of (Act.result_of_failed hsave))).trans ?_
      exact (Act.bind_of_done rfl).trans (Act.bind_of_done hreport)
    · exact absurd rfl (hcrash crash)
  · obtain ⟨e, hreport⟩ := Session.reportClose_apply "stop" failure r o₁
    refine ⟨.killed failure, ([], some ⟨description r, failure⟩), r, EventLog.note e o₁, ?_,
      hleads.still (Traced.note_still e o₁)⟩
    rw [Session.closeOne, Act.bind_of_done (Act.result_of_failed hstop)]
    exact Act.bind_of_done hreport

/-! ## A row of monitors -/

/-- The recorders of monitors that run as the processes from `first` on. -/
def runningFrom (first : Handle) : List Monitor → List Flight.FlightRecorder
  | [] => []
  | m :: rest => m.running first :: runningFrom (first + 1) rest

/-- **Starting monitors.**  They are started in their order, each as the next process. -/
theorem startAll_spec :
    ∀ (monitors : List Monitor) (o : Traced Bench), (∀ m ∈ monitors, m.words ≠ []) →
      ∃ o' : Traced Bench,
        Session.startAll (monitors.map fun m : Monitor =>
            (.inr { description := m.label, words := m.words } : Flight.FlightRecorder)) o
          = (.done (runningFrom o.next monitors, none), o') ∧
        Traced.Leads (startingCalls o.next monitors) monitors.length o o'
  | [], o, _ => ⟨o, rfl, .refl o⟩
  | m :: rest, o, hwords => by
      obtain ⟨o₁, hstart, hleads⟩ := start_spec (hwords m List.mem_cons_self) o
      obtain ⟨o₂, hrest, hleads'⟩ := startAll_spec rest o₁ fun m' hmem =>
        hwords m' (List.mem_cons_of_mem m hmem)
      -- the handles of the rest are counted from the one after this
      rw [hleads.next] at hrest hleads'
      refine ⟨o₂, ?_, ?_⟩
      · rw [List.map_cons, Session.startAll,
          Act.bind_of_done (Act.within_of (Act.result_of_done hstart))]
        exact (Act.bind_of_done rfl).trans (Act.bind_of_done hrest)
      · rw [List.length_cons, Nat.add_comm]
        exact hleads.trans hleads'

/-- **Closing monitors.**  They are parted from one after another, the last one first, and how one
of them is parted from has no bearing on the others. -/
theorem closeAll_spec :
    ∀ (monitors : List Monitor) (first : Handle) (o : Traced Bench),
      ∃ (farewells : List Farewell) (closing : Closing) (o' : Traced Bench),
        Session.closeAll (runningFrom first monitors) o = (.done closing, o') ∧
          farewells.length = monitors.length ∧
          Traced.Leads (partingCalls first farewells) 0 o o'
  | [], _, o => ⟨[], {}, o, rfl, rfl, .refl o⟩
  | m :: rest, first, o => by
      -- the rest is closed before the monitor itself, which is why its calls come first
      obtain ⟨farewells, closing, o₁, hrest, hlength, hleads⟩ := closeAll_spec rest (first + 1) o
      obtain ⟨farewell, ⟨blocks, problem⟩, r, o₂, hclose, hleads'⟩ := m.close_spec first o₁
      refine ⟨farewell :: farewells, ⟨blocks :: closing.slots, closing.failures ++ problem.toList⟩,
        o₂, ?_, by simp [hlength], hleads.trans hleads'⟩
      rw [runningFrom, Session.closeAll, Act.bind_of_done hrest,
        Act.bind_of_done (Act.within_of hclose)]
      rfl

end Monitor

/-! ## The journal -/

namespace JournalRecorder

/-- The recorder of a journal that is read through a command, after its start. -/
def reading (name : String) (stamp : Duration × Instant) : Flight.FlightRecorder :=
  .inl { description := name, source := .journalctl, started := some stamp }

/-- Saving the journal runs one process, whatever comes of the entries that it prints. -/
theorem save_spec (name : String) (started : Duration × Instant) (stopped : Duration)
    (store : RecordStore) (o : Traced Bench) :
    let request := Journal.journalctlRequest (started.2.before slack)
    let r : JournalRecorder :=
      { description := name, source := .journalctl, started := some started,
        stopped := some stopped }
    ∃ ended : Outcome ProcessOutput,
      Traced.Leads [.spawn request (.done o.next), .wait o.next ended] 1 o
        (JournalRecorder.save (store, r, o)).2.2.2 := by
  intro request r
  obtain ⟨ended, o₁, hrun, -, hleads⟩ := Traced.run_spec request o
  have hrun' : (Processes.run request : Act (RecordStore × JournalRecorder × Traced Bench) _)
      (store, r, o) = (ended, store, r, o₁) := by
    rw [Processes.run_onRight, Processes.run_onRight]
    exact Act.onRight_of (Act.onRight_of hrun)
  have hentries : Act.Beside (Act.Beside Traced.Still) (store, r, o₁)
      ((r.source.entriesSince (started.2.before slack) :
        Act (RecordStore × JournalRecorder × Traced Bench) _) (store, r, o)).2 := by
    show Act.Beside (Act.Beside Traced.Still) (ended, store, r, o₁).2 _
    rw [← hrun']
    exact Act.Moves.after_bind (fun out => Act.Moves.ofExcept (Journal.entriesOfOutput out)) _
  -- the entries may be unreadable or beyond the calendar: no process hears of it
  refine ⟨ended, hleads.still ?_⟩
  show Act.Beside (Act.Beside Traced.Still) (store, r, o₁) (JournalRecorder.save (store, r, o)).2
  refine trans_of _ hentries (Act.Moves.after_bind (fun entries => ?_) (store, r, o))
  split
  · exact Act.Moves.settle _
  · exact (Act.Moves.report (fun e p => Traced.note_still e p.2.2) _ _ _).bind fun _ =>
      Act.Moves.onLeft _

/-- **Closing the journal** runs one process. -/
theorem close_spec (name : String) (started : Duration × Instant) (o : Traced Bench) :
    ∃ ended : Outcome ProcessOutput,
      Traced.Leads
        [.spawn (Journal.journalctlRequest (started.2.before slack)) (.done o.next),
          .wait o.next ended] 1 o (Session.closeOne (reading name started, o)).2.2 := by
  obtain ⟨ended, hleads⟩ := save_spec name started (Clock.monotonic o) {} o
  set r' : JournalRecorder :=
    { description := name, source := .journalctl, started := some started,
      stopped := some (Clock.monotonic o) }
  have hstop : (Recorder.stop : Act (Flight.FlightRecorder × Traced Bench) Unit)
      (reading name started, o) = (.done (), .inl r', o) := rfl
  have hsave : (Act.within {} (Recorder.save :
        Act (RecordStore × Flight.FlightRecorder × Traced Bench) Unit).result (.inl r', o)).2.2
      = (JournalRecorder.save ({}, r', o)).2.2.2 := by
    show ((Recorder.save : Act (RecordStore × Flight.FlightRecorder × Traced Bench) Unit).result
      ({}, .inl r', o)).2.2.2 = _
    rw [Act.result_snd]
    rfl
  refine ⟨ended, hleads.still ?_⟩
  rw [Session.closeOne, Act.bind_of_done (Act.result_of_done hstop), ← hsave]
  set closing : Flight.FlightRecorder × Traced Bench := (.inl r', o)
  show Act.Beside Traced.Still _ _
  refine Act.Moves.after_bind (fun x => (Act.Moves.settle _).bind ?_) closing
  rintro (failure | ⟨⟨⟩⟩)
  · exact (Session.reportClose_moves Traced.note_still _ _).bind fun _ => Act.Moves.pure _
  · exact Act.Moves.pure _

end JournalRecorder

/-! ## The recording -/

/-- **The calls of a recording** whose first process is `first`: the monitors are started, the
request is run, the monitors are parted from, and the journal is read. -/
def recordingCalls (first : Handle) (monitors : List Monitor) (request : Request)
    (answer : Outcome ProcessOutput) (farewells : List Farewell) (since : Instant)
    (journal : Outcome ProcessOutput) : List ProcessCall :=
  let test := first + monitors.length
  startingCalls first monitors ++ [.spawn request (.done test), .wait test answer] ++
    partingCalls first farewells ++
    [.spawn (Journal.journalctlRequest since) (.done (test + 1)), .wait (test + 1) journal]

namespace Flight

/-- All recorders of a flight record are started. -/
theorem startAll_spec (config : FlightConfig) (o : Traced Bench)
    (hwords : ∀ m ∈ config.monitors, m.words ≠ []) :
    ∃ (stamp : Duration × Instant) (o' : Traced Bench),
      Session.startAll (recorders config .journalctl) o
          = (.done (JournalRecorder.reading config.journalLabel stamp ::
              Monitor.runningFrom o.next config.monitors, none), o') ∧
        Traced.Leads (startingCalls o.next config.monitors) config.monitors.length o o' := by
  obtain ⟨o', hmonitors, hleads⟩ := Monitor.startAll_spec config.monitors o hwords
  set stamp := (Clock.monotonic o, Clock.now o)
  set journal : FlightRecorder :=
    .inl { description := config.journalLabel, source := .journalctl }
  have hstart : (Recorder.start : Act (FlightRecorder × Traced Bench) Unit) (journal, o)
      = (.done (), JournalRecorder.reading config.journalLabel stamp, o) := rfl
  refine ⟨stamp, o', ?_, hleads⟩
  rw [recorders, Session.startAll, Act.bind_of_done (Act.within_of (Act.result_of_done hstart))]
  exact (Act.bind_of_done rfl).trans (Act.bind_of_done hmonitors)

/-- All recorders are closed, the journal last. -/
theorem closeAll_spec (monitors : List Monitor) (first : Handle) (name : String)
    (started : Duration × Instant) (o : Traced Bench) :
    ∃ (farewells : List Farewell) (since : Instant) (ended : Outcome ProcessOutput),
      farewells.length = monitors.length ∧
        Traced.Leads
          (partingCalls first farewells ++
            [.spawn (Journal.journalctlRequest since) (.done o.next), .wait o.next ended]) 1 o
          (Session.closeAll
            (JournalRecorder.reading name started :: Monitor.runningFrom first monitors) o).2 := by
  obtain ⟨farewells, closing, o₁, hmonitors, hlength, hleads⟩ :=
    Monitor.closeAll_spec monitors first o
  obtain ⟨ended, hjournal⟩ := JournalRecorder.close_spec name started o₁
  have hnext : o₁.next = o.next := hleads.next
  rw [hnext] at hjournal
  refine ⟨farewells, started.2.before JournalRecorder.slack, ended, hlength, ?_⟩
  rw [Session.closeAll, Act.bind_of_done hmonitors]
  refine Traced.Leads.still (by simpa using hleads.trans hjournal) ?_
  show Traced.Still (Act.within (JournalRecorder.reading name started) Session.closeOne o₁).2 _
  refine Act.Moves.after_bind ?_ o₁
  rintro ⟨out, r⟩
  exact (Act.Moves.settle _).bind fun _ => Act.Moves.pure _

/-- **The session of a recording** makes the calls of the recording. -/
theorem run_spec (config : FlightConfig) (request : Request) (o : Traced Bench)
    (hwords : ∀ m ∈ config.monitors, m.words ≠ []) :
    ∃ (answer : Outcome ProcessOutput) (farewells : List Farewell) (since : Instant)
        (journal : Outcome ProcessOutput),
      farewells.length = config.monitors.length ∧
        Traced.Leads
          (recordingCalls o.next config.monitors request answer farewells since journal)
          (config.monitors.length + 2) o
          (Session.run (recorders config .journalctl) (Act.onRight (Processes.run request))
            ({}, o)).2.2 := by
  obtain ⟨e, hbegins⟩ := Session.run_begins (recorders config .journalctl)
    (Act.onRight (Processes.run request)) {} o
  set o₀ := EventLog.note e o
  have hstill : Traced.Still o o₀ := Traced.note_still e o
  obtain ⟨stamp, o₁, hstart, hstarted⟩ := startAll_spec config o₀ hwords
  have hnext : o₀.next = o.next := hstill.next
  rw [hnext] at hstart hstarted
  obtain ⟨answer, o₂, hbody, -, hran⟩ := Traced.run_spec request o₁
  obtain ⟨farewells, since, journal, hlength, hclosed⟩ :=
    closeAll_spec config.monitors o.next config.journalLabel stamp o₂
  refine ⟨answer, farewells, since, journal, hlength, ?_⟩
  have hafter := Session.carryOut_after Traced.note_still
    (JournalRecorder.reading config.journalLabel stamp ::
      Monitor.runningFrom o.next config.monitors) (Act.onRight_of (x := ({} : RecordStore)) hbody)
  rw [hbegins, Act.bind_of_done (Act.onRight_of hstart)]
  refine Traced.Leads.still ?_ hafter
  have hall := hstill.leads ((hstarted.trans hran).trans hclosed)
  rw [hran.next, hstarted.next, hnext] at hall
  simpa [recordingCalls, Nat.add_assoc] using hall

/-- A test that runs a request makes the calls of the recording, once its section is opened. -/
theorem recordTest_spec (config : FlightConfig) (test : TestId) (request : Request)
    (o : Traced Bench) (hwords : ∀ m ∈ config.monitors, m.words ≠ [])
    (opened : (openSection config.recordPath test o).1 = .done ()) :
    ∃ (answer : Outcome ProcessOutput) (farewells : List Farewell) (since : Instant)
        (journal : Outcome ProcessOutput),
      farewells.length = config.monitors.length ∧
        Traced.Leads
          (recordingCalls o.next config.monitors request answer farewells since journal)
          (config.monitors.length + 2) o
          (recordTest config .journalctl test (Processes.run request) o).2 := by
  have hstill := openSection_moves (Traced.append_still config.recordPath)
    Traced.makeDirectory_still test o
  rcases hopen : openSection config.recordPath test o with ⟨ended, o₁⟩
  rw [hopen] at opened hstill
  obtain rfl : ended = .done () := opened
  obtain ⟨e, hbegins⟩ := recordAround_of_opened
    (Session.run (recorders config .journalctl) (Act.onRight (Processes.run request))) hopen
  set o₂ := EventLog.note e o₁
  have hbefore : Traced.Still o o₂ := hstill.trans (Traced.note_still e o₁)
  obtain ⟨answer, farewells, since, journal, hlength, hleads⟩ := run_spec config request o₂ hwords
  refine ⟨answer, farewells, since, journal, hlength, ?_⟩
  rcases hrun : Session.run (recorders config .journalctl) (Act.onRight (Processes.run request))
    ({}, o₂) with ⟨ended, store, o₃⟩
  rw [hrun, hbefore.next] at hleads
  rw [recordTest_eq_recordAround, hbegins, Act.bind_of_done (Act.within_of hrun)]
  refine (Traced.Still.leads hbefore hleads).still ?_
  exact writeBlocks_moves (Traced.append_still config.recordPath) Traced.note_still test ended
    store o₃

end Flight

/-! ## The record command -/

namespace CommandLine

/-- **No monitor is left running.**  Once its section is opened, the record command makes the calls
of its recording and no others, whatever the processes do: each monitor is started, in the order of
the configuration, before the command is run, and is parted from after that, the last one first.
These are the calls that the bench has noted. -/
theorem record_parts_from_monitors (config : Config) (env : Environment) (command : RecordCommand)
    (b : Bench) {test : TestId} {request : Request} (accepted : config.problem? = none)
    (htest : TestId.parse command.testId = .ok test)
    (hrequest : Request.ofWords command.words = .ok request)
    (opened : (Flight.openSection config.flight.recordPath test b).1 = .done ()) :
    ∃ (answer : Outcome ProcessOutput) (farewells : List Farewell) (since : Instant)
        (journal : Outcome ProcessOutput),
      let made := recordingCalls b.processes.next config.flight.monitors request answer farewells
        since journal
      farewells.length = config.flight.monitors.length ∧
        processCalls config env command b = made ∧
        ScriptedProcesses.Noted made b.processes (runRecord config env command b).2.processes := by
  have hopened : (Flight.openSection config.flight.recordPath test
      ({ inner := b } : Traced Bench)).1 = .done () := by
    have h := Flight.openSection_projects (f := (Traced.inner : Traced Bench → Bench))
      config.flight.recordPath test { inner := b }
    rw [Outcome.map_id] at h
    rw [← opened, h]
  obtain ⟨answer, farewells, since, journal, hlength, hleads⟩ :=
    Flight.recordTest_spec config.flight test request { inner := b }
      (Config.words_of_accepted accepted) hopened
  have hstill := runRecord_after Traced.terminal_still Traced.note_still config env htest hrequest
    { inner := b }
  have hcalls : processCalls config env command b = _ := (hleads.still hstill).calls
  refine ⟨answer, farewells, since, journal, hlength, hcalls, ?_⟩
  have hnoted := bench_notes_calls config env command b
  rw [hcalls] at hnoted
  exact hnoted

/-! ### Two monitors -/

/-- A bench whose second monitor refuses to end, whose first one cannot be waited for, and whose
journal does not answer. -/
def unwilling : Bench where
  processes :=
    { responses := [.ok { output := "hi" }, .error (.process "lost")],
      terminateFailure := some (.process "refused") }

def greeting : RecordCommand :=
  { testId := "shell.Echo.test_hi", words := ["echo", "hi"] }

/-- All three processes of the recording are accounted for. -/
theorem record_parts_from_monitors_unwilling :
    (∃ (answer : Outcome ProcessOutput) (farewells : List Farewell) (since : Instant)
        (journal : Outcome ProcessOutput),
      let made := recordingCalls 0 ({} : Config).flight.monitors ⟨"echo", ["hi"], false⟩ answer
        farewells since journal
      farewells.length = 2 ∧ processCalls {} [] greeting unwilling = made ∧
        ScriptedProcesses.Noted made unwilling.processes
          (runRecord {} [] greeting unwilling).2.processes) ∧
      processCalls {} [] greeting unwilling
        = [.spawn ⟨"udisksctl", ["monitor"], true⟩ (.done 0),
            .spawn ⟨"udevadm", ["monitor"], true⟩ (.done 1),
            .spawn ⟨"echo", ["hi"], false⟩ (.done 2), .wait 2 (.done { output := "hi" }),
            .terminate 1 (.failed (.process "refused")), .kill 1 (.done ()),
            .terminate 0 (.done ()), .wait 0 (.failed (.process "lost")),
            .spawn ⟨"journalctl",
              ["--boot", "--output=json", "--all", "--no-pager", "--since=@0"], false⟩ (.done 3),
            .wait 3 (.failed (.process "no fake response queued"))] := by
  have htest : TestId.parse greeting.testId = .ok ⟨"shell", "Echo", "test_hi"⟩ := by
    decide +kernel
  refine ⟨record_parts_from_monitors {} [] greeting unwilling (by decide +kernel) htest rfl
    (by decide +kernel), ?_⟩
  decide +kernel

end CommandLine

end BusTrial
