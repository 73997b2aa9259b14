import BusTrial.Proofs.Flight.Cause
import BusTrial.Proofs.Flight.Verdict

/-!
# Which blocks reach the record

A recorder that *fails* to save costs nobody else's blocks.  A recorder that *crashes* costs all of
them: the blocks wait beside the store until every recorder is closed, and a crash ends the closing.
The journal does crash when an entry of its window has a date beyond the calendar, and entries are
read with any stamp that fits into 64 bits.  Nothing else makes a recorder crash, unless a device
does.

* **`blocks_unless_crash`** — what reaches the record in either case, if all requests to the file
  system succeed, and what such a crash comes from;
* `blocks_lost_beyond_calendar` — a monitor that was stopped and saved and whose block is lost,
  along with the failure of the body, to one line of the journal.
-/

namespace BusTrial

theorem exists_join_of_mem {text : String} {texts : List String} (h : text ∈ texts) :
    ∃ before after, String.join texts = before ++ text ++ after := by
  obtain ⟨before, after, rfl⟩ := List.append_of_mem h
  refine ⟨String.join before, String.join after, ?_⟩
  rw [String.join_append, String.join_cons, String.append_assoc]

/-- The blocks that a recorder saved are in the store. -/
theorem Session.History.mem_store {α : Type} {h : Session.History α} {i : Nat}
    {blocks : List String} {problem : Option CleanupFailure}
    (hmem : Session.Call.save i blocks problem ∈ h.calls) (store : RecordStore) :
    ∀ block ∈ blocks, block ∈ (h.store store).blocks := by
  intro block hblock
  have hslot : blocks ∈ (closingOf h.closed).slots :=
    List.mem_map.2 ⟨_, List.mem_of_getElem? (save_mem.1 hmem), rfl⟩
  exact List.mem_append_right _ (List.mem_flatten.2 ⟨blocks, hslot, hblock⟩)

namespace Flight

variable {σ α : Type} [Clock σ] [Files σ] [Processes σ] [Journal.Feed σ] [EventLog σ]

/-- **Which blocks reach the record**, if all requests to the file system succeed.  As long as no
recorder crashes, every block that a recorder saved does, whatever else fails, and the failure of
the body stays the first one.  If a recorder crashes, so does the test, and the record gets no more
than the header, apart from what the body itself does to it; and unless a device crashed, the journal
had an entry in its window whose date is beyond the calendar. -/
theorem blocks_unless_crash {config : FlightConfig} {text : σ → String}
    (file : RecordFile config.recordPath text) (source : Journal.Source) (id : TestId)
    (body : Act σ α) (s : σ)
    (written : ∀ request ended, Call.file request ended ∈ calls config source id body s →
      ended = .done ()) :
    let made := calls config source id body s
    let ended := (recordTest config source id body s).1
    let after := text (recordTest config source id body s).2
    (Session.Quiet (sessionCalls made) →
        (∀ i blocks problem, Session.Call.save i blocks problem ∈ sessionCalls made →
          ∀ block ∈ blocks, ∃ front back, after = front ++ block ++ back) ∧
        ∀ failure left, Session.Call.body (.failed failure) left ∈ sessionCalls made →
          ∃ final, ended = .failed final ∧ final.root = failure.root) ∧
      (¬ Session.Quiet (sessionCalls made) →
        (∃ crash, ended = .crashed crash) ∧
        (Act.Keeps text body →
          ∃ header, headerAt config.recordPath id s = some header ∧ after = text s ++ header) ∧
        (Processes.NeverCrash σ →
          (∀ since, (Journal.Feed.entriesSince since : Act σ (List Journal.Entry)).NeverCrashes) →
          ∃ (began stopped t left : σ) (entries : List Journal.Entry),
            source.entriesSince ((Clock.now began).before (.ofSeconds 1)) t
              = (.done entries, left) ∧
            ∃ e ∈ entries, e.Within (Clock.monotonic began) (Clock.monotonic stopped) ∧
              Civil.ofInstant? e.realtime = none)) := by
  obtain ⟨h, hfits, hcalls, houtcome⟩ := exists_history config source id body s
  have hlast (hopened : (openSection config.recordPath id s).1 = .done ()) :=
    exists_text_before_last file source body hopened
  have htext (kept : Act.Keeps text body) := text_after file source id kept s
  simp only [hcalls, h.appended_calls] at hlast htext
  rw [hcalls] at written ⊢
  rw [houtcome]
  intro made ended after
  rcases h with barrier | ⟨header, inner, innerEnded, store, writing⟩
  · have hnone : sessionCalls made = [] := barrier.sessionCalls_calls config.recordPath
    rw [hnone]
    exact ⟨fun _ => ⟨by simp, by simp⟩, fun hcrash => absurd (fun _ => List.not_mem_nil) hcrash⟩
  · obtain ⟨hopened, hheader, t, t', hinner, hrun⟩ := hfits
    have hsession : sessionCalls made = inner := History.sessionCalls_recorded ..
    obtain rfl : writing = .done () :=
      written (.append config.recordPath store.contents) writing (by simp [History.calls])
    rw [hsession, hinner]
    refine ⟨fun hquiet => ?_, fun hcrash => ?_⟩
    · obtain ⟨session, t'', -, hcalls', hrun', -⟩ := Session.exists_run hquiet
      obtain ⟨rfl, rfl, -⟩ : innerEnded = session.outcome ∧ store = session.store {} ∧ _ := by
        simpa only [Prod.mk.injEq] using hrun.symm.trans hrun'
      -- whatever is in the file by then, the blocks are what is written last
      obtain ⟨front, last, hget, hafter⟩ := hlast hopened
      obtain rfl :
          .file (.append config.recordPath (session.store {}).contents) (.done ()) = last := by
        simpa [History.calls] using hget
      rw [hcalls']
      refine ⟨fun i blocks problem hmem block hblock => ?_, fun failure left hmem => ?_⟩
      · obtain ⟨before, back, hjoin⟩ :=
          exists_join_of_mem (Session.History.mem_store hmem {} block hblock)
        refine ⟨front ++ before, back, hafter.trans ?_⟩
        have hadded : Call.appended (α := α) config.recordPath
            (.file (.append config.recordPath (session.store {}).contents) (.done ()))
              = (session.store {}).contents := by
          simp [Call.appended, addedTo, Outcome.isDone]
        rw [hadded, RecordStore.contents, hjoin]
        simp only [String.append_assoc]
      · have hended : ended = conclude session.outcome (.ok ()) := rfl
        rw [hended, Session.History.outcome_of_failed hmem]
        exact ⟨_, rfl, Failure.root_withCleanup _ _⟩
    · obtain ⟨crash, left, t'', hrun', hleft⟩ := Session.run_of_crash hcrash
      obtain ⟨rfl, rfl, -⟩ : innerEnded = .crashed crash ∧ store = left ∧ _ := by
        simpa only [Prod.mk.injEq] using hrun.symm.trans hrun'
      refine ⟨⟨crash, rfl⟩, fun kept => ⟨header, hheader, ?_⟩, fun processes feed =>
        exists_beyond_calendar processes feed hcrash⟩
      -- the body works beside the store and cannot have left it otherwise
      have hempty : store = {} := by
        rcases hleft with hleft | ⟨u, bodyEnded, u', hbody⟩
        · exact hleft
        · exact (congrArg (fun x => x.2.1) hbody).symm
      have hafter : after = text s ++ (header ++ store.contents) := htext kept
      rw [hafter, hempty]
      exact congrArg (text s ++ ·) String.append_empty

/-! ### A journal that fails

The two sides are shown on a bench.  A journal that cannot be read makes its recorder fail, and one
with an entry beyond the calendar makes it crash.
-/

/-- The processes of a bench fail at worst. -/
theorem bench_neverCrash : Processes.NeverCrash Bench where
  spawn _ _ _ := nofun
  wait h b crash := by
    show (ScriptedProcesses.wait h b.processes).1 ≠ .crashed crash
    rw [ScriptedProcesses.wait]
    dsimp only
    split <;> nofun
  kill _ _ _ := nofun
  terminate h b crash := by
    show (ScriptedProcesses.terminate h b.processes).1 ≠ .crashed crash
    rw [ScriptedProcesses.terminate]
    dsimp only
    split <;> nofun

theorem bench_feed_neverCrashes (since : Instant) :
    (Journal.Feed.entriesSince since : Act Bench (List Journal.Entry)).NeverCrashes := by
  rintro ⟨clock, files, processes, screen, ⟨entries, queries, failNext⟩, bus, log⟩ crash
  cases failNext <;> nofun

/-- A bench on which a monitor prints a line, and whose journal cannot be read. -/
def withoutJournal : Bench where
  processes := { responses := [.ok { output := "KERNEL add sdb\n" }] }
  journal := { failNext := some "gone" }

/-- The calls of a test on that bench whose body is done. -/
def withoutJournalCalls : List (Call Unit) :=
  let problem : CleanupFailure := ⟨"journal", .journal "gone"⟩
  let block := "<<<<< udev >>>>>\nKERNEL add sdb\n\n\n"
  [.file (.append ⟨"flight.log"⟩
      "================1970-01-01 00:00:00[100.00000000] mod.Case.test_x================\n")
      (.done ()),
    .session
      [.start 0 none, .start 1 none, .body (.done ()) {}, .stop 1 none, .save 1 [block] none,
        .stop 0 none, .save 0 [] (some problem)]
      (.failed (.journal "gone")) ⟨[block]⟩,
    .file (.append ⟨"flight.log"⟩ block) (.done ())]

theorem withoutJournal_calls :
    calls monitored .feed ⟨"mod", "Case", "test_x"⟩ (pure ()) withoutJournal
      = withoutJournalCalls := by
  decide +kernel

/-- A line of the journal with the greatest stamp that an entry can have. -/
def lastLine : String :=
  "\x7b\"__MONOTONIC_TIMESTAMP\":\"100500000\","
    ++ "\"__REALTIME_TIMESTAMP\":\"18446744073709551615\",\"MESSAGE\":\"odd\"\x7d\n"

/-- A bench on which a monitor prints a line, and the journal that line. -/
def beyondCalendar : Bench where
  processes := { responses := [.ok { output := "KERNEL add sdb\n" }, .ok { output := lastLine }] }

/-- The calls of a test on that bench whose body fails. -/
def beyondCalls : List (Call Unit) :=
  [.file (.append ⟨"flight.log"⟩
      "================1970-01-01 00:00:00[100.00000000] mod.Case.test_x================\n")
      (.done ()),
    .session
      [.start 0 none, .start 1 none, .body (.failed (.assertion "0 != 1")) {}, .stop 1 none,
        .save 1 ["<<<<< udev >>>>>\nKERNEL add sdb\n\n\n"] none, .stop 0 none, .crash (.save 0)]
      (.crashed .dateOutOfRange) {},
    .file (.append ⟨"flight.log"⟩ "") (.done ())]

theorem beyondCalendar_calls :
    calls monitored .journalctl ⟨"mod", "Case", "test_x"⟩ (Act.fail (.assertion "0 != 1"))
      beyondCalendar = beyondCalls := by
  decide +kernel

theorem beyondCalls_written {request : FileRequest} {ended : Outcome Unit}
    (hmem : Call.file request ended ∈ beyondCalls) : ended = .done () := by
  simp only [beyondCalls, List.mem_cons, Call.file.injEq, reduceCtorEq, List.not_mem_nil, false_or,
    or_false] at hmem
  rcases hmem with ⟨-, hended⟩ | ⟨-, hended⟩ <;> exact hended

/-- The block of the monitor reaches the record although the journal cannot be saved.  It does not
if the journal crashes, which comes from an entry beyond the calendar. -/
theorem blocks_unless_crash_on_bench :
    let test : TestId := ⟨"mod", "Case", "test_x"⟩
    let text : Bench → String := fun b => b.files.textOf ⟨"flight.log"⟩
    (∃ front back, text (recordTest monitored .feed test (pure ()) withoutJournal).2
      = front ++ "<<<<< udev >>>>>\nKERNEL add sdb\n\n\n" ++ back) ∧
      let run := recordTest monitored .journalctl test (Act.fail (α := Unit) (.assertion "0 != 1"))
        beyondCalendar
      (∃ crash, run.1 = .crashed crash) ∧
        ∃ (t left : Bench) (since : Instant) (entries : List Journal.Entry),
          Journal.Source.journalctl.entriesSince since t = (.done entries, left) ∧
          ∃ e ∈ entries, Civil.ofInstant? e.realtime = none := by
  have file : RecordFile monitored.recordPath fun b : Bench => b.files.textOf ⟨"flight.log"⟩ :=
    recordFile_bench ⟨"flight.log"⟩
  refine ⟨?_, ?_⟩
  · have h := blocks_unless_crash file .feed ⟨"mod", "Case", "test_x"⟩ (pure ()) withoutJournal (by
      rw [withoutJournal_calls]
      intro request ended hmem
      simp only [withoutJournalCalls, List.mem_cons, Call.file.injEq, reduceCtorEq,
        List.not_mem_nil, false_or, or_false] at hmem
      rcases hmem with ⟨-, hended⟩ | ⟨-, hended⟩ <;> exact hended)
    rw [withoutJournal_calls] at h
    refine (h.1 ?_).1 1 _ none ?_ _ (List.mem_singleton.2 rfl)
    · simp [withoutJournalCalls, sessionCalls, Call.inner, Session.Quiet]
    · simp [withoutJournalCalls, sessionCalls, Call.inner]
  · have h := blocks_unless_crash file .journalctl ⟨"mod", "Case", "test_x"⟩
      (Act.fail (.assertion "0 != 1")) beyondCalendar (by
        rw [beyondCalendar_calls]
        exact fun request ended => beyondCalls_written)
    rw [beyondCalendar_calls] at h
    have hcrash : ¬ Session.Quiet (sessionCalls beyondCalls) := by
      simp [beyondCalls, sessionCalls, Call.inner, Session.Quiet]
    obtain ⟨hcrashed, -, hcause⟩ := h.2 hcrash
    obtain ⟨began, -, t, left, entries, hread, e, hmem, -, hundated⟩ :=
      hcause bench_neverCrash bench_feed_neverCrashes
    exact ⟨hcrashed, t, left, _, entries, hread, e, hmem, hundated⟩

/-! ### An entry beyond the calendar -/

/-- All requests to the file system succeed, the monitor is stopped and saved without a failure, and
the body fails; and yet the record holds no block and the test crashes. -/
theorem blocks_lost_beyond_calendar :
    let test : TestId := ⟨"mod", "Case", "test_x"⟩
    let body : Act Bench Unit := Act.fail (.assertion "0 != 1")
    calls monitored .journalctl test body beyondCalendar = beyondCalls ∧
      (∀ request ended, Call.file request ended ∈ beyondCalls → ended = .done ()) ∧
      (recordTest monitored .journalctl test body beyondCalendar).1 = .crashed .dateOutOfRange ∧
      (recordTest monitored .journalctl test body beyondCalendar).2.files.textOf ⟨"flight.log"⟩
        = "================1970-01-01 00:00:00[100.00000000] mod.Case.test_x================\n" :=
  ⟨beyondCalendar_calls, fun _ _ => beyondCalls_written, by decide +kernel, by decide +kernel⟩

end Flight

end BusTrial
