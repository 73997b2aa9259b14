import BusTrial.Proofs.Failure
import BusTrial.Proofs.Flight.Sections
import BusTrial.Proofs.Session.Bracketing

/-!
# The verdict on a recorded test

A recorded test is composed of two parts that may each fail: the session around the body, and the
writing of its section.  If no recorder crashes, the end of the test is a function of what came of
its calls.

* `Session.History.outcome_done` — a session is done if and only if its body is and no recorder
  failed;
* **`verdict_of_calls`** — a test is done if and only if everything that it did succeeded; the
  failure of its body stays the first one, with all that failed after it, in the order in which it
  failed; and a body that crashes crashes the test.
-/

namespace BusTrial

/-! ## The session -/

namespace Session

variable {α : Type}

/-- The call came to what it was made for. -/
def Call.Succeeded : Call α → Prop
  | .start _ failure => failure = none
  | .body ended _ => ended.isDone
  | .stop _ problem => problem = none
  | .save _ _ problem => problem = none
  | .crash _ => False

theorem Call.Succeeded.problem_none {call : Call α} (h : call.Succeeded) :
    call.problem? = none := by
  cases call <;> first | rfl | exact h

theorem Closed.succeeded {c : Closed} (h : c.problem? = none) (index : Nat) :
    ∀ call ∈ (c.calls index : List (Call α)), call.Succeeded := by
  cases c with
  | stuck problem => cases h
  | saved blocks problem =>
      cases h
      simp [Closed.calls, Call.Succeeded]

namespace History

/-- If no recorder failed to be closed, the calls after a body that was done all succeeded. -/
theorem succeeded {h : History α} {value : α} {left : RecordStore}
    (hturn : h.turn = .ran (.done value) left) (hnone : (closingOf h.closed).failures = []) :
    ∀ call ∈ h.calls, call.Succeeded := by
  intro call hmem
  rw [mem_calls] at hmem
  rcases hmem with ⟨i, -, rfl⟩ | rfl | ⟨i, c, hc, hmem⟩
  · rfl
  · rw [hturn]
    rfl
  · have hproblem : c.problem? = none :=
      List.filterMap_eq_nil_iff.1 hnone c (List.mem_reverse.2 (List.mem_of_getElem? hc))
    exact Closed.succeeded hproblem i call hmem

/-- **A session is done** if and only if its body is and none of its calls failed. -/
theorem outcome_done {h : History α} {value : α} :
    h.outcome = .done value ↔
      (∃ left, Call.body (.done value) left ∈ h.calls) ∧ ∀ call ∈ h.calls, call.Succeeded := by
  constructor
  · intro hdone
    cases hturn : h.turn with
    | refused failure => simp [outcome, hturn] at hdone
    | ran ended left =>
        simp only [outcome, hturn] at hdone
        rcases ended with value' | failure | crash
        · cases hfailures : (closingOf h.closed).failures with
          | nil =>
              simp only [conclude, hfailures, Outcome.done.injEq] at hdone
              subst hdone
              exact ⟨⟨left, body_mem.2 hturn⟩, succeeded hturn hfailures⟩
          | cons first rest => simp [conclude, hfailures] at hdone
        · simp [conclude] at hdone
        · simp [conclude] at hdone
  · rintro ⟨⟨left, hmem⟩, hall⟩
    have hnone : (closingOf h.closed).failures = [] := by
      rw [← h.problems_eq]
      exact List.filterMap_eq_nil_iff.2 fun call hcall => (hall call hcall).problem_none
    simp only [outcome, body_mem.1 hmem, conclude, hnone]

theorem outcome_of_failed {h : History α} {failure : Failure} {left : RecordStore}
    (hmem : Call.body (.failed failure) left ∈ h.calls) :
    h.outcome = .failed (failure.withCleanup ((problems h.calls).map CleanupFailure.summary)) := by
  simp only [outcome, body_mem.1 hmem, conclude, Closing.summaries, h.problems_eq]

theorem outcome_of_crashed {h : History α} {crash : Crash} {left : RecordStore}
    (hmem : Call.body (.crashed crash) left ∈ h.calls) : h.outcome = .crashed crash := by
  simp only [outcome, body_mem.1 hmem, conclude]

end History

end Session

/-! ## The test -/

namespace Flight

variable {σ α : Type}

/-- The call came to what it was made for; a session does if all its calls do. -/
def Call.Succeeded : Call α → Prop
  | .file _ ended => ended.isDone
  | .session inner _ _ => ∀ call ∈ inner, call.Succeeded

/-- Neither a recorder nor the file system crashed. -/
structure Quiet (made : List (Call α)) : Prop where
  file : ∀ request crash, Call.file request (.crashed crash) ∉ made
  session : Session.Quiet (sessionCalls made)

/-- What the last call is summed up as, if that was a request to the file system that failed. -/
def lateSummaries (made : List (Call α)) : List String :=
  match made.getLast? with
  | some (.file _ (.failed late)) => ["flight record: " ++ late.message]
  | _ => []

theorem concluded_eq_done {ended : Outcome α} {written : Outcome Unit} {value : α} :
    concluded ended written = .done value ↔ ended = .done value ∧ written = .done () := by
  rcases ended with value' | failure | crash <;> rcases written with ⟨⟨⟩⟩ | late | crash' <;>
    simp [concluded, conclude]

namespace History

variable {path : FilePath}

/-- A test that met a barrier did not do all that it tried, or had no header to try with. -/
theorem outcome_barred_ne (barrier : Barrier) (value : α) :
    (barred barrier : History α).outcome ≠ .done value := by
  rw [outcome]
  rcases barrier.ended with value' | failure | crash
  · exact value'.elim
  · simp [Outcome.map]
  · simp [Outcome.map]

theorem recorded_succeeded {header : String} {inner : List (Session.Call α)} {ended : Outcome α}
    {store : RecordStore} {written : Outcome Unit} :
    (∀ call ∈ (recorded header inner ended store written).calls path, call.Succeeded) ↔
      (∀ call ∈ inner, call.Succeeded) ∧ written = .done () := by
  have hdirectory : ∀ call ∈ (directoryCalls path : List (Call α)), call.Succeeded := by
    intro call hmem
    obtain ⟨parent, -, rfl⟩ := List.mem_map.1 hmem
    rfl
  have hwritten : written.isDone = true ↔ written = .done () := by
    cases written <;> simp [Outcome.isDone]
  simp only [calls, List.forall_mem_append, List.forall_mem_cons, Call.Succeeded, hwritten]
  exact ⟨fun h => ⟨h.2.2.1, h.2.2.2.1⟩, fun h => ⟨hdirectory, rfl, h.1, h.2, by simp⟩⟩

theorem lateSummaries_recorded {header : String} {inner : List (Session.Call α)}
    {ended : Outcome α} {store : RecordStore} {written : Outcome Unit} :
    lateSummaries ((recorded header inner ended store written).calls path)
      = match written with
        | .failed late => ["flight record: " ++ late.message]
        | _ => [] := by
  rw [lateSummaries, calls, List.getLast?_append]
  cases written <;> rfl

end History

section

variable [Clock σ] [Files σ] [Processes σ] [Journal.Feed σ] [EventLog σ]

/-- **The verdict on a recorded test** in which nothing but the body crashes.  The test is done,
with the value of the body, if and only if the body was done and every call that was made succeeded:
the requests to the file system, and the starts, stops and saves of the recorders.  The failure of
the body stays the root of what the test fails with, which carries the summaries of that failure, of
the recorders that failed to be closed, innermost first, and of the writing of the blocks if that
failed.  A body that crashes crashes the test. -/
theorem verdict_of_calls (config : FlightConfig) (source : Journal.Source) (id : TestId)
    (body : Act σ α) (s : σ) (quiet : Quiet (calls config source id body s)) :
    let made := calls config source id body s
    let ended := (recordTest config source id body s).1
    (∀ value, ended = .done value ↔
        (∃ left, Session.Call.body (.done value) left ∈ sessionCalls made) ∧
          ∀ call ∈ made, call.Succeeded) ∧
      (∀ failure left, Session.Call.body (.failed failure) left ∈ sessionCalls made →
        ∃ final, ended = .failed final ∧ final.root = failure.root ∧
          final.summaries
            = failure.summaries ++ (Session.problems (sessionCalls made)).map CleanupFailure.summary
                ++ lateSummaries made) ∧
      ∀ crash left, Session.Call.body (.crashed crash) left ∈ sessionCalls made →
        ended = .crashed crash := by
  obtain ⟨h, hfits, hcalls, houtcome⟩ := exists_history config source id body s
  rw [hcalls] at quiet ⊢
  rw [houtcome]
  intro made ended
  rcases h with barrier | ⟨header, inner, innerEnded, store, written⟩
  · -- no body was run, and what stands in the way is no value
    have hnone : sessionCalls made = [] := barrier.sessionCalls_calls config.recordPath
    rw [hnone]
    refine ⟨fun value => ?_, by simp, by simp⟩
    simp [ended, History.outcome_barred_ne]
  · obtain ⟨-, -, t, t', hinner, hrun⟩ := hfits
    have hsession : sessionCalls made = inner := History.sessionCalls_recorded ..
    have hquiet : Session.Quiet inner := hsession ▸ quiet.session
    rw [hinner] at hquiet
    obtain ⟨session, t'', -, hcalls', hrun', -⟩ := Session.exists_run hquiet
    rw [← hinner] at hcalls'
    have hended : innerEnded = session.outcome :=
      congrArg Prod.fst (hrun.symm.trans hrun')
    have hwritten : ∀ crash, written ≠ .crashed crash := by
      rintro crash rfl
      exact quiet.file (.append config.recordPath store.contents) crash (by simp [History.calls])
    rw [hsession, hcalls']
    refine ⟨fun value => ?_, fun failure left hmem => ?_, fun crash left hmem => ?_⟩
    · show concluded innerEnded written = .done value ↔ _
      rw [concluded_eq_done, hended, Session.History.outcome_done, History.recorded_succeeded,
        hcalls', and_assoc]
    · show ∃ final, concluded innerEnded written = .failed final ∧ _
      rw [hended, Session.History.outcome_of_failed hmem, History.lateSummaries_recorded]
      rcases written with ⟨⟨⟩⟩ | late | crash
      · exact ⟨_, rfl, by simp, by simp⟩
      · exact ⟨_, rfl, by simp, by simp⟩
      · exact absurd rfl (hwritten crash)
    · show concluded innerEnded written = .crashed crash
      rw [hended, Session.History.outcome_of_crashed hmem]
      rcases written with ⟨⟨⟩⟩ | late | crash'
      · rfl
      · rfl
      · exact absurd rfl (hwritten crash')

end

/-! ### A monitor that refuses to end -/

/-- A bench that refuses to end a process once. -/
def refusing : Bench where
  processes := { terminateFailure := some (.process "refused") }

/-- A flight record of the journal and of a monitor. -/
def monitored : FlightConfig where
  recordPath := ⟨"flight.log"⟩
  monitors := [⟨"udev", ["udevadm", "monitor"]⟩]

/-- A body that leaves the disk full and fails. -/
def fillDisk : Act Bench Unit :=
  Act.change diskFull >>= fun _ => Act.fail (.assertion "0 != 1")

/-- What the test of that body does: it stops the monitor in vain, saves the journal, and cannot
write the blocks. -/
def refusingCalls : List (Call Unit) :=
  let block := "<<<<< journal >>>>>\n\n\n\n"
  let failure := (Failure.assertion "0 != 1").withCleanup ["udev: process error: refused"]
  [.file (.append ⟨"flight.log"⟩
      "================1970-01-01 00:00:00[100.00000000] disk.Full.during================\n")
      (.done ()),
    .session
      [.start 0 none, .start 1 none, .body (.failed (.assertion "0 != 1")) {},
        .stop 1 (some ⟨"udev", .process "refused"⟩), .stop 0 none, .save 0 [block] none]
      (.failed failure) ⟨[block]⟩,
    .file (.append ⟨"flight.log"⟩ block) (.failed (.plain .io "disk full"))]

theorem refusing_calls :
    calls monitored .feed ⟨"disk", "Full", "during"⟩ fillDisk refusing = refusingCalls := by
  decide +kernel

/-- The body fails first, the monitor refuses to end after that, and then the disk is full. -/
theorem verdict_of_calls_refusing :
    Quiet (calls monitored .feed ⟨"disk", "Full", "during"⟩ fillDisk refusing) ∧
      ∃ final, (recordTest monitored .feed ⟨"disk", "Full", "during"⟩ fillDisk refusing).1
          = .failed final ∧
        final.root = .assertion "0 != 1" ∧
        final.summaries
          = ["udev: process error: refused", "flight record: io error: disk full"] := by
  have quiet : Quiet (calls monitored .feed ⟨"disk", "Full", "during"⟩ fillDisk refusing) := by
    rw [refusing_calls]
    exact ⟨by simp [refusingCalls],
      by simp [refusingCalls, Session.Quiet, sessionCalls, Call.inner]⟩
  have h := verdict_of_calls monitored .feed ⟨"disk", "Full", "during"⟩ fillDisk refusing quiet
  rw [refusing_calls] at h
  exact ⟨quiet, h.2.1 (.assertion "0 != 1") {} (by simp [refusingCalls, sessionCalls, Call.inner])⟩

end Flight

end BusTrial
