import BusTrial.Proofs.Journal.Saving
import BusTrial.Proofs.Session.Cause
import BusTrial.Flight.Record

/-!
# What makes a recorder of a test crash

Monitors crash only if the processes do, and the journal only if it cannot be read without a crash,
or if an entry of its window has no line.  An entry has none if its date is beyond the calendar.

* `CommandRecorder.not_crashes` — monitors;
* `JournalRecorder.exists_undated` — the journal, whatever was asked of it before;
* **`exists_beyond_calendar`** — so a session around a test in which a recorder crashes has read an
  entry beyond the calendar, if the devices do not crash.
-/

namespace BusTrial

variable {σ α : Type}

/-- What is asked of processes may fail, but it does not crash. -/
structure Processes.NeverCrash (σ : Type) [Processes σ] : Prop where
  spawn : ∀ request, (Processes.spawn request : Act σ Handle).NeverCrashes
  wait : ∀ h, (Processes.wait h : Act σ ProcessOutput).NeverCrashes
  kill : ∀ h, (Processes.kill h : Act σ Unit).NeverCrashes
  terminate : ∀ h, (Processes.terminate h : Act σ Unit).NeverCrashes

/-! ## Monitors -/

namespace CommandRecorder

open Act (NeverCrashes)

variable [Processes σ] [EventLog σ]

theorem start_neverCrashes (processes : Processes.NeverCrash σ) :
    (start : Act (CommandRecorder × σ) Unit).NeverCrashes := by
  rw [start]
  refine (NeverCrashes.read _).bind fun r => (NeverCrashes.ofExcept _).bind fun request => ?_
  refine (processes.spawn _).onRight.bind fun h => (NeverCrashes.report _ _ _).bind fun _ => ?_
  exact (NeverCrashes.change _).onLeft

omit [EventLog σ] in
theorem stop_neverCrashes (processes : Processes.NeverCrash σ) :
    (stop : Act (CommandRecorder × σ) Unit).NeverCrashes := by
  rw [stop]
  refine (NeverCrashes.read _).bind fun r => ?_
  rcases r.handle with _ | h
  · exact NeverCrashes.settle nofun
  · refine (processes.terminate h).onRight.result.bind ?_
    rintro (failure | ⟨⟨⟩⟩)
    · refine (NeverCrashes.change _).onLeft.bind fun _ => ?_
      exact (processes.kill h).onRight.result.bind fun _ => NeverCrashes.settle nofun
    · exact (NeverCrashes.change _).onLeft

theorem save_neverCrashes (processes : Processes.NeverCrash σ) :
    (save : Act (RecordStore × CommandRecorder × σ) Unit).NeverCrashes := by
  rw [save]
  refine (NeverCrashes.read _).bind fun r => ?_
  split
  · refine (NeverCrashes.change _).onLeft.onRight.bind fun _ => ?_
    refine (processes.wait _).onRight.onRight.bind fun out => ?_
    exact (NeverCrashes.report _ _ _).bind fun _ => (NeverCrashes.change _).onLeft
  · exact NeverCrashes.settle nofun

/-- A monitor crashes only if a process does. -/
theorem not_crashes (processes : Processes.NeverCrash σ) (r : CommandRecorder) :
    ¬ Recorder.Crashes σ r := by
  rintro (⟨s, crash, h⟩ | ⟨s, crash, h⟩ | ⟨store, s, crash, h⟩)
  · exact start_neverCrashes processes (r, s) crash h
  · exact stop_neverCrashes processes (r, s) crash h
  · exact save_neverCrashes processes (store, r, s) crash h

end CommandRecorder

/-! ## The journal -/

theorem Journal.Source.entriesSince_neverCrashes [Journal.Feed σ] [Processes σ]
    (processes : Processes.NeverCrash σ)
    (feed : ∀ since, (Journal.Feed.entriesSince since : Act σ (List Journal.Entry)).NeverCrashes)
    (source : Journal.Source) (since : Instant) :
    (source.entriesSince since : Act σ (List Journal.Entry)).NeverCrashes := by
  cases source with
  | feed => exact feed since
  | journalctl =>
    refine Act.NeverCrashes.bind ?_ fun out => Act.NeverCrashes.ofExcept _
    exact (processes.spawn _).bind fun h => processes.wait h

namespace JournalRecorder

open Journal (Entry)

variable [Clock σ] [Journal.Feed σ] [Processes σ] [EventLog σ]

omit [Clock σ] in
/-- Saving crashes only if an entry of the window has no line. -/
theorem exists_undated_of_save {r : JournalRecorder} {store : RecordStore} {s : σ} {crash : Crash}
    (read : ∀ since, (r.source.entriesSince since : Act σ (List Entry)).NeverCrashes)
    (h : (save (store, r, s)).1 = .crashed crash) :
    ∃ began since ended entries left, r.started = some (began, since) ∧ r.stopped = some ended ∧
      r.source.entriesSince (since.before slack) s = (.done entries, left) ∧
      ∃ e ∈ entries, e.Within began ended ∧ e.line? = none := by
  by_cases hready : r.started = none ∨ r.stopped = none
  · rw [save_of_unready hready] at h
    cases h
  obtain ⟨hstarted, hstopped⟩ := not_or.1 hready
  obtain ⟨⟨began, since⟩, hstarted⟩ := Option.ne_none_iff_exists'.1 hstarted
  obtain ⟨ended, hstopped⟩ := Option.ne_none_iff_exists'.1 hstopped
  rcases hread : r.source.entriesSince (since.before slack) s with ⟨entries | failure | other, t⟩
  · refine ⟨began, since, ended, entries, t, hstarted, hstopped, hread, ?_⟩
    by_contra hdated
    -- otherwise all entries of the window have lines, and the block is saved
    have hdates : ∀ e ∈ window began ended entries, ∃ line, e.line? = some line := by
      intro e he
      have hfilter := (isWindow_window began ended entries).perm.mem_iff.1 he
      obtain ⟨hmem, hwithin⟩ := List.mem_filter.1 hfilter
      by_contra hline
      refine hdated ⟨e, hmem, of_decide_eq_true hwithin, ?_⟩
      exact Option.eq_none_iff_forall_ne_some.2 fun line hsome => hline ⟨line, hsome⟩
    obtain ⟨lines, hlines, -⟩ := exists_lines hdates
    have hsave := save_of_read hstarted hstopped hread store
    rw [hlines] at hsave
    obtain ⟨event, hsave⟩ := hsave
    rw [hsave] at h
    cases h
  · rw [save_of_unread hstarted hstopped (.failed failure) hread] at h
    cases h
  · exact absurd (congrArg Prod.fst hread) (read _ s other)

omit [Journal.Feed σ] [Processes σ] [EventLog σ] in
theorem stop_neverCrashes : (stop : Act (JournalRecorder × σ) Unit).NeverCrashes := by
  rw [stop]
  refine (Act.NeverCrashes.read _).bind fun r => ?_
  split
  · exact Act.NeverCrashes.settle nofun
  · exact (Act.NeverCrashes.read _).bind fun _ => (Act.NeverCrashes.change _).onLeft

/-- **The journal crashes only over an entry beyond the calendar**, whatever was asked of it before:
one that was logged between a start and a stop. -/
theorem exists_undated {name : String} {source : Journal.Source} {history : List (Asked σ)}
    (read : ∀ since, (source.entriesSince since : Act σ (List Entry)).NeverCrashes)
    (h : Recorder.Crashes σ (askAll { description := name, source } history)) :
    ∃ (began ended s left : σ) (entries : List Entry),
      source.entriesSince ((Clock.now began).before (.ofSeconds 1)) s = (.done entries, left) ∧
      ∃ e ∈ entries, e.Within (Clock.monotonic began) (Clock.monotonic ended) ∧
        Civil.ofInstant? e.realtime = none := by
  have hsource : (askAll { description := name, source } history).source = source :=
    (askAll_identity history _).2
  rcases h with ⟨s, crash, h⟩ | ⟨s, crash, h⟩ | ⟨store, s, crash, h⟩
  · cases h
  · exact absurd h (stop_neverCrashes _ crash)
  · obtain ⟨began, since, ended, entries, left, hstarted, hstopped, hread, e, hmem, hwithin,
      hline⟩ := exists_undated_of_save (fun since => by rw [hsource]; exact read since) h
    -- both stamps are readings of the clock, since the recorder was made without any
    obtain ⟨s₁, s₂, hencloses⟩ := exists_encloses (r := { description := name, source }) rfl
      (by rw [hstarted]; nofun) (by rw [hstopped]; nofun)
    obtain ⟨hbegan, hended⟩ := stamps_of_encloses hencloses { description := name, source }
    cases hstarted.symm.trans hbegan
    cases hstopped.symm.trans hended
    rw [hsource] at hread
    exact ⟨s₁, s₂, s, left, entries, hread, e, hmem, hwithin, Option.map_eq_none_iff.1 hline⟩

end JournalRecorder

/-! ## The recorders of a test -/

namespace Flight

variable [Clock σ] [Journal.Feed σ] [Processes σ] [EventLog σ]

/-- The recorder is a monitor, or it reads the journal that a test is recorded with. -/
def Stems (σ : Type) [Clock σ] [Journal.Feed σ] [Processes σ] [EventLog σ] (name : String)
    (source : Journal.Source) : FlightRecorder → Prop
  | .inl r => ∃ history : List (JournalRecorder.Asked σ),
      r = JournalRecorder.askAll { description := name, source } history
  | .inr _ => True

/-- What is asked of such a recorder adds to its history. -/
theorem Stems.ask {name : String} {source : Journal.Source} {r : JournalRecorder}
    (hr : Stems σ name source (.inl r)) (asked : JournalRecorder.Asked σ) :
    Stems σ name source (.inl (r.ask asked)) := by
  obtain ⟨history, rfl⟩ := hr
  exact ⟨history ++ [asked], (JournalRecorder.askAll_concat _ history asked).symm⟩

theorem stems_keeps (name : String) (source : Journal.Source) :
    Recorder.Keeps σ (Stems σ name source) where
  start := by
    rintro (r | r) s hr
    · exact hr.ask (.start s)
    · trivial
  stop := by
    rintro (r | r) s hr
    · exact hr.ask (.stop s)
    · trivial
  save := by
    rintro store (r | r) s hr
    · exact hr.ask (.save store s)
    · trivial

theorem recorders_stem (config : FlightConfig) (source : Journal.Source) :
    ∀ r ∈ recorders config source, Stems σ config.journalLabel source r := by
  refine List.forall_mem_cons.2 ⟨⟨[], rfl⟩, fun r hmem => ?_⟩
  obtain ⟨m, -, rfl⟩ := List.mem_map.1 hmem
  trivial

/-- **Only an entry beyond the calendar makes a recorder crash**, if the devices do not crash. -/
theorem exists_beyond_calendar (processes : Processes.NeverCrash σ)
    (feed : ∀ since, (Journal.Feed.entriesSince since : Act σ (List Journal.Entry)).NeverCrashes)
    {config : FlightConfig} {source : Journal.Source} {body : Act (RecordStore × σ) α}
    {store : RecordStore} {s : σ}
    (h : ¬ Session.Quiet (Session.calls (recorders config source) body store s)) :
    ∃ (began ended t left : σ) (entries : List Journal.Entry),
      source.entriesSince ((Clock.now began).before (.ofSeconds 1)) t = (.done entries, left) ∧
      ∃ e ∈ entries, e.Within (Clock.monotonic began) (Clock.monotonic ended) ∧
        Civil.ofInstant? e.realtime = none := by
  obtain ⟨r | r, hr, hcrash⟩ := Session.exists_crashes (stems_keeps config.journalLabel source)
    (recorders_stem config source) h
  · obtain ⟨history, rfl⟩ := hr
    exact JournalRecorder.exists_undated (source.entriesSince_neverCrashes processes feed)
      (Recorder.inl_project.crashes_iff.1 hcrash)
  · have hmonitor := Recorder.inr_project.crashes_iff.1 hcrash
    exact absurd hmonitor (CommandRecorder.not_crashes processes r)

end Flight

end BusTrial
