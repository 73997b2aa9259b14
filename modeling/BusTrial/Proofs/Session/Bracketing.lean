import BusTrial.Bench
import BusTrial.Proofs.Session.History
import BusTrial.Recorder.Command

/-!
# How a session brackets its body

Three laws of every session in which no recorder crashes, whatever the recorders and the body do and
however many recorders there are.

**Order.**  `calls_follow_schedule`: which calls a session makes, and in which order, depends only
on which starts and which stops succeed (`schedule`).  The body has no bearing on it, and neither have
the saves.

**Failures.**  `failures_in_closing_order`: the failures of the closing all reach the caller, in the
order of the closing and behind the failure of the body if there is one.

**Blocks.**  `store_in_start_order`: the store ends with the blocks of the recorders in the order of
the start, although they were saved in the opposite order.

All three are read off the history of the session (`exists_run`), about which they are statements on
lists.
-/

namespace BusTrial

namespace Session

/-! ## The order of the calls -/

/-- The calls that close a recorder: it is saved, right after the stop, if that succeeds. -/
def closing (stops : Nat → Bool) (i : Nat) : List Event :=
  if stops i then [.stop i, .save i] else [.stop i]

/-- **The calls of a session with `n` recorders**, given which starts and which stops succeed.  The
first start that fails is the last one; the recorders before it are closed, and the body is not
run. -/
def schedule (n : Nat) (starts stops : Nat → Bool) : List Event :=
  match (List.range n).find? fun i => !starts i with
  | some k => (List.range (k + 1)).map .start ++ (List.range k).reverse.flatMap (closing stops)
  | none =>
    (List.range n).map .start ++ [.body] ++ (List.range n).reverse.flatMap (closing stops)

variable {α : Type}

/-- Every start and every stop that was called ended as it is said to. -/
structure Agree (starts stops : Nat → Bool) (calls : List (Call α)) : Prop where
  start : ∀ i failure, Call.start i failure ∈ calls → starts i = failure.isNone
  stop : ∀ i problem, Call.stop i problem ∈ calls → stops i = problem.isNone

/-- A call of the closing closes one of the recorders, under its number. -/
theorem mem_closingCalls {call : Call α} :
    ∀ {closed : List Closed} {first : Nat},
      call ∈ closingCalls first closed ↔
        ∃ (j : Nat) (c : Closed), closed[j]? = some c ∧ call ∈ c.calls (first + j)
  | [], first => by simp [closingCalls]
  | c :: rest, first => by
      rw [closingCalls, List.mem_append, mem_closingCalls]
      constructor
      · rintro (⟨j, c', hj, hmem⟩ | hmem)
        · refine ⟨j + 1, c', by simpa using hj, ?_⟩
          have hindex : first + (j + 1) = first + 1 + j := by omega
          rwa [hindex]
        · exact ⟨0, c, rfl, hmem⟩
      · rintro ⟨_ | j, c', hj, hmem⟩
        · cases hj
          exact Or.inr hmem
        · refine Or.inl ⟨j, c', by simpa using hj, ?_⟩
          have hindex : first + 1 + j = first + (j + 1) := by omega
          rwa [hindex]

/-- The starts that went well are numbered in a row. -/
theorem mem_startCalls {first count : Nat} {call : Call α} :
    call ∈ startCalls first count ↔ ∃ i, first ≤ i ∧ i < first + count ∧ call = .start i none := by
  simp only [startCalls, List.mem_map, List.mem_range'_1]
  constructor
  · rintro ⟨i, ⟨hle, hlt⟩, rfl⟩
    exact ⟨i, hle, hlt, rfl⟩
  · rintro ⟨i, hle, hlt, rfl⟩
    exact ⟨i, ⟨hle, hlt⟩, rfl⟩

/-- Started are the recorders from the first one on, in order. -/
theorem startCalls_events (count : Nat) :
    (startCalls 0 count : List (Call α)).map Call.event = (List.range count).map .start := by
  rw [startCalls, List.map_map, ← List.range_eq_range']
  rfl

/-- The last recorder is closed first, and each is saved only after a stop that went well. -/
theorem closingCalls_events {stops : Nat → Bool} :
    ∀ (closed : List Closed) (first : Nat),
      (∀ i problem, (Call.stop i problem : Call α) ∈ closingCalls first closed →
        stops i = problem.isNone) →
      (closingCalls first closed : List (Call α)).map Call.event
        = (List.range' first closed.length).reverse.flatMap (closing stops)
  | [], _, _ => rfl
  | c :: rest, first, agree => by
      have hrest := closingCalls_events rest (first + 1) fun i problem hmem =>
        agree i problem (by rw [closingCalls]; exact List.mem_append_left _ hmem)
      have hfirst : (c.calls first : List (Call α)).map Call.event = closing stops first := by
        cases c with
        | stuck problem =>
            have hstop := agree first (some problem) (by simp [closingCalls, Closed.calls])
            simp [closing, hstop, Closed.calls, Call.event]
        | saved blocks problem =>
            have hstop := agree first none (by simp [closingCalls, Closed.calls])
            simp [closing, hstop, Closed.calls, Call.event]
      rw [closingCalls, List.map_append, hrest, hfirst, List.length_cons, List.range'_succ,
        List.reverse_cons, List.flatMap_append, List.flatMap_singleton]

namespace History

/-- A call of a session is a start that succeeded, the call that the session turned on, or one of
those that closed a recorder. -/
theorem mem_calls {h : History α} {call : Call α} :
    call ∈ h.calls ↔
      (∃ i < h.closed.length, call = .start i none) ∨ call = h.turn.call h.closed.length ∨
        ∃ (i : Nat) (c : Closed), h.closed[i]? = some c ∧ call ∈ c.calls i := by
  simp only [History.calls, List.mem_append, List.mem_singleton, mem_startCalls, mem_closingCalls,
    Nat.zero_le, true_and, Nat.zero_add, or_assoc]

/-- A start that failed is that of the recorder after those that were closed. -/
theorem start_failed_mem {h : History α} {i : Nat} {failure : Failure} :
    Call.start i (some failure) ∈ h.calls ↔ h.turn = .refused failure ∧ i = h.closed.length := by
  rw [mem_calls]
  constructor
  · rintro (⟨j, -, hcall⟩ | hcall | ⟨j, c, -, hmem⟩)
    · cases hcall
    · cases hturn : h.turn <;> rw [hturn] at hcall <;> cases hcall
      exact ⟨rfl, rfl⟩
    · cases c <;> simp [Closed.calls] at hmem
  · rintro ⟨hturn, rfl⟩
    exact Or.inr (Or.inl (by rw [hturn]; rfl))

/-- Started without a failure are just the recorders that were closed. -/
theorem start_done_mem {h : History α} {i : Nat} :
    Call.start i none ∈ h.calls ↔ i < h.closed.length := by
  rw [mem_calls]
  constructor
  · rintro (⟨j, hj, hcall⟩ | hcall | ⟨j, c, -, hmem⟩)
    · cases hcall
      exact hj
    · cases hturn : h.turn <;> rw [hturn] at hcall <;> cases hcall
    · cases c <;> simp [Closed.calls] at hmem
  · exact fun hi => Or.inl ⟨i, hi, rfl⟩

/-- The body ran if and only if the history says so. -/
theorem body_mem {h : History α} {ended : Outcome α} {left : RecordStore} :
    Call.body ended left ∈ h.calls ↔ h.turn = .ran ended left := by
  rw [mem_calls]
  constructor
  · rintro (⟨j, -, hcall⟩ | hcall | ⟨j, c, -, hmem⟩)
    · cases hcall
    · cases hturn : h.turn <;> rw [hturn] at hcall <;> cases hcall
      rfl
    · cases c <;> simp [Closed.calls] at hmem
  · intro hturn
    exact Or.inr (Or.inl (by rw [hturn]; rfl))

/-- A stop is part of closing the recorder with its number. -/
theorem stop_mem {h : History α} {i : Nat} {problem : Option CleanupFailure}
    (hmem : Call.stop i problem ∈ h.calls) :
    ∃ c : Closed, h.closed[i]? = some c ∧ Call.stop i problem ∈ (c.calls i : List (Call α)) := by
  rw [mem_calls] at hmem
  rcases hmem with ⟨j, -, hcall⟩ | hcall | ⟨j, c, hj, hmem⟩
  · cases hcall
  · cases hturn : h.turn <;> rw [hturn] at hcall <;> cases hcall
  · have hij : i = j := by cases c <;> simp [Closed.calls] at hmem <;> exact hmem.1
    subst hij
    exact ⟨c, hj, hmem⟩

/-- The starts of a history decide where its schedule turns. -/
theorem find_start {h : History α} {n : Nat} {starts stops : Nat → Bool} (fits : h.Fits n)
    (agree : Agree starts stops h.calls) :
    ((List.range n).find? fun i => !starts i)
      = match h.turn with
        | .refused _ => some h.closed.length
        | .ran _ _ => none := by
  have hstarted : ∀ i < h.closed.length, starts i = true := fun i hi =>
    agree.start i none (mem_calls.2 (Or.inl ⟨i, hi, rfl⟩))
  cases hturn : h.turn with
  | refused failure =>
      have hfits : h.closed.length < n := by simpa only [Fits, hturn] using fits
      have hfailed : starts h.closed.length = false :=
        agree.start _ (some failure) (start_failed_mem.2 ⟨hturn, rfl⟩)
      rw [List.find?_range_eq_some]
      refine ⟨by simp [hfailed], List.mem_range.2 hfits, fun i hi => ?_⟩
      simp [hstarted i hi]
  | ran ended left =>
      have hfits : h.closed.length = n := by simpa only [Fits, hturn] using fits
      rw [List.find?_eq_none]
      intro i hi
      simp [hstarted i (by rw [hfits]; exact List.mem_range.1 hi)]

/-- The calls of a history are those of the schedule for its starts and stops. -/
theorem events_eq {h : History α} {n : Nat} {starts stops : Nat → Bool} (fits : h.Fits n)
    (agree : Agree starts stops h.calls) :
    h.calls.map Call.event = schedule n starts stops := by
  have hclosing := closingCalls_events h.closed 0 fun i problem hmem =>
    agree.stop i problem (by rw [History.calls]; exact List.mem_append_right _ hmem)
  rw [← List.range_eq_range'] at hclosing
  rw [schedule, find_start fits agree]
  simp only [History.calls, List.map_append, List.map_singleton, startCalls_events, hclosing]
  cases hturn : h.turn with
  | refused failure =>
      simp only [Turn.call, Call.event, List.range_succ, List.map_append, List.map_singleton]
  | ran ended left =>
      have hfits : h.closed.length = n := by simpa only [Fits, hturn] using fits
      simp only [Turn.call, Call.event, hfits]

/-- Which starts succeeded; those that were never called count as such when none failed. -/
def starts (h : History α) (i : Nat) : Bool :=
  match h.turn with
  | .refused _ => i < h.closed.length
  | .ran _ _ => true

/-- Which stops succeeded; those that were never called count as such. -/
def stops (h : History α) (i : Nat) : Bool :=
  match h.closed[i]? with
  | some (.stuck _) => false
  | _ => true

/-- A history agrees with what its own calls say of the starts and the stops. -/
theorem agree (h : History α) : Agree h.starts h.stops h.calls := by
  constructor
  · rintro i (_ | failure) hmem
    · have hi := start_done_mem.1 hmem
      cases hturn : h.turn <;> simp [starts, hturn, hi]
    · obtain ⟨hturn, rfl⟩ := start_failed_mem.1 hmem
      simp [starts, hturn]
  · intro i problem hmem
    obtain ⟨c, hc, hmem⟩ := stop_mem hmem
    cases c <;> simp [Closed.calls] at hmem <;> simp [stops, hc, hmem]

end History

section

variable {ρ σ : Type} [Recorder ρ σ] [EventLog σ]

/-- The calls of a session follow the schedule of the outcomes that they had. -/
theorem events_of_agree {recorders : List ρ} {body : Act (RecordStore × σ) α}
    {store : RecordStore} {s : σ} {starts stops : Nat → Bool}
    (quiet : Quiet (calls recorders body store s))
    (agree : Agree starts stops (calls recorders body store s)) :
    (calls recorders body store s).map Call.event = schedule recorders.length starts stops := by
  obtain ⟨h, -, fits, hcalls, -⟩ := exists_run quiet
  rw [hcalls] at agree ⊢
  exact History.events_eq fits agree

/-- **The order of the calls.**  Some starts and stops agree with every session in which no recorder
crashes, and whichever do, the session makes the calls of their schedule.  A session with another
body makes the same calls if its recorders start and stop in the same way, however that body
ends. -/
theorem calls_follow_schedule (recorders : List ρ) (body : Act (RecordStore × σ) α)
    (store : RecordStore) (s : σ) (quiet : Quiet (calls recorders body store s)) :
    (∃ starts stops, Agree starts stops (calls recorders body store s)) ∧
      ∀ starts stops, Agree starts stops (calls recorders body store s) →
        (calls recorders body store s).map Call.event = schedule recorders.length starts stops ∧
          ∀ {β : Type} (other : Act (RecordStore × σ) β) (store' : RecordStore) (s' : σ),
            Quiet (calls recorders other store' s') →
              Agree starts stops (calls recorders other store' s') →
                (calls recorders other store' s').map Call.event
                  = (calls recorders body store s).map Call.event := by
  constructor
  · obtain ⟨h, -, -, hcalls, -⟩ := exists_run quiet
    rw [hcalls]
    exact ⟨h.starts, h.stops, h.agree⟩
  · intro starts stops agree
    have hevents := events_of_agree quiet agree
    refine ⟨hevents, fun other store' s' quiet' agree' => ?_⟩
    rw [hevents]
    exact events_of_agree quiet' agree'

end

/-! ### Two commands

The session that the laws are shown on: two commands are recorded, and the inner one, which is asked
to end first, refuses to.
-/

/-- A command that is recorded. -/
def follower (description : String) : CommandRecorder :=
  { description, words := ["tail", "-f"] }

/-- A bench that refuses to end a process once. -/
def stubborn : Bench where
  processes :=
    { responses := [.ok { output := "log" }], terminateFailure := some (.process "refused") }

/-- The calls of the two commands around a body that ends as given. -/
def stubbornCalls (ended : Outcome Nat) : List (Call Nat) :=
  [.start 0 none, .start 1 none, .body ended {}, .stop 1 (some ⟨"inner", .process "refused"⟩),
    .stop 0 none, .save 0 [(follower "outer").block "log"] none]

/-- What the two recorders are called for, and what comes of it. -/
theorem stubborn_calls (ended : Outcome Nat) :
    calls [follower "outer", follower "inner"] (Act.settle ended) {} stubborn
      = stubbornCalls ended := rfl

/-- None of these calls crashes. -/
theorem stubborn_quiet (ended : Outcome Nat) :
    Quiet (calls [follower "outer", follower "inner"] (Act.settle ended) {} stubborn) := by
  rw [stubborn_calls]
  simp [Quiet, stubbornCalls]

/-- Both recorders are started, and only the inner one cannot be stopped. -/
theorem stubborn_agree (ended : Outcome Nat) :
    Agree (fun _ => true) (fun i => i != 1)
      (calls [follower "outer", follower "inner"] (Act.settle ended) {} stubborn) := by
  rw [stubborn_calls]
  constructor
  · intro i failure hmem
    simp [stubbornCalls] at hmem
    rcases hmem with ⟨-, rfl⟩ | ⟨-, rfl⟩ <;> rfl
  · intro i problem hmem
    simp [stubbornCalls] at hmem
    rcases hmem with ⟨rfl, rfl⟩ | ⟨rfl, rfl⟩ <;> rfl

/-- The two commands follow their schedule around a body that is done, and make the same calls
around one that crashes. -/
theorem calls_follow_schedule_stubborn :
    (calls [follower "outer", follower "inner"] (Act.settle (.done 3)) {} stubborn).map Call.event
        = schedule 2 (fun _ => true) (fun i => i != 1) ∧
      (calls [follower "outer", follower "inner"] (Act.settle (.crashed .silent) : Act _ Nat) {}
          stubborn).map Call.event
        = (calls [follower "outer", follower "inner"] (Act.settle (.done 3)) {} stubborn).map
            Call.event := by
  have h := (calls_follow_schedule [follower "outer", follower "inner"] (Act.settle (.done 3)) {}
    stubborn (stubborn_quiet _)).2 _ _ (stubborn_agree _)
  exact ⟨h.1, h.2 _ _ _ (stubborn_quiet _) (stubborn_agree _)⟩

/-! ## The failures of the closing -/

/-- The failures to stop or to save a recorder, in the order of the calls. -/
def problems (made : List (Call α)) : List CleanupFailure :=
  made.filterMap Call.problem?

/-- What fails in the closing is collected in the order of the calls. -/
theorem closingCalls_problems :
    ∀ (closed : List Closed) (first : Nat),
      problems (closingCalls first closed : List (Call α)) = (closingOf closed).failures
  | [], _ => rfl
  | c :: rest, first => by
      have hrest := closingCalls_problems rest (first + 1)
      have hfirst : problems (c.calls first : List (Call α)) = c.problem?.toList := by
        rcases c with problem | ⟨blocks, problem | problem⟩ <;> rfl
      rw [problems] at hrest hfirst ⊢
      rw [closingCalls, List.filterMap_append, hrest, hfirst, closingOf_cons]

/-- Nothing that was started without a failure counts as one of the closing. -/
theorem startCalls_problems (first count : Nat) :
    problems (startCalls first count : List (Call α)) = [] := by
  rw [problems, startCalls, List.filterMap_map]
  exact List.filterMap_eq_nil_iff.2 fun _ _ => rfl

/-- The failures among the calls of a history are those that its closing collected. -/
theorem History.problems_eq (h : History α) :
    problems h.calls = (closingOf h.closed).failures := by
  have hstart := startCalls_problems (α := α) 0 h.closed.length
  have hclosing := closingCalls_problems (α := α) h.closed 0
  have hturn : problems [h.turn.call h.closed.length] = [] := by
    cases h.turn <;> rfl
  rw [problems] at hstart hclosing hturn ⊢
  rw [History.calls, List.filterMap_append, List.filterMap_append, hstart, hturn, hclosing]
  rfl

section

variable {ρ σ : Type} [Recorder ρ σ] [EventLog σ]

/-- **No failure is lost.**  All failures of the closing reach the caller of a session in which no
recorder crashes, in the order of the closing, each as the name of the recorder, a colon and what it
failed with: behind the failure of a start or of the body, or, if the body was done, behind the first
of them.  When the body crashes they are in the last report instead. -/
theorem failures_in_closing_order (recorders : List ρ) (body : Act (RecordStore × σ) α)
    (store : RecordStore) (s : σ) (quiet : Quiet (calls recorders body store s)) :
    let made := calls recorders body store s
    let failures := problems made
    let summarised := fun failed : List CleanupFailure =>
      failed.map fun c => c.description ++ ": " ++ c.failure.message
    let ended := (run recorders body (store, s)).1
    (∀ k e, Call.start k (some e) ∈ made →
        ended = .failed (e.withCleanup (summarised failures))) ∧
      (∀ value left, Call.body (.done value) left ∈ made →
        (ended = .done value ↔ failures = []) ∧
          ∀ first rest, failures = first :: rest →
            ended = .failed (first.failure.withCleanup (summarised rest))) ∧
      (∀ e left, Call.body (.failed e) left ∈ made →
        ended = .failed (e.withCleanup (summarised failures)) ∧
          (failures = [] → ended = .failed e)) ∧
      (∀ crash left, Call.body (.crashed crash) left ∈ made →
        ended = .crashed crash ∧
          ∃ earlier before,
            let last := LogEvent.of (if failures.isEmpty then "info" else "warn") "session.finished"
              [("outcome", .string "panic"),
                ("cleanup_failures", .array ((summarised failures).map .string))]
            reports recorders body store s = earlier ++ [last] ∧
              (run recorders body (store, s)).2.2 = EventLog.note last before) ∧
      ((∃ k e, Call.start k (some e) ∈ made) ∨
        ∃ bodyEnded left, Call.body bodyEnded left ∈ made) := by
  obtain ⟨h, t, -, hcalls, hrun, hfinish⟩ := exists_run quiet
  rw [hcalls, hrun]
  intro made failures summarised ended
  have hfailures : (closingOf h.closed).failures = failures := h.problems_eq.symm
  have hsummarised (failed : List CleanupFailure) :
      failed.map CleanupFailure.summary = summarised failed := rfl
  have hsummaries : (closingOf h.closed).summaries = summarised failures := by
    rw [Closing.summaries, hfailures, hsummarised]
  simp only [made, ended, History.start_failed_mem, History.body_mem]
  refine ⟨?_, ?_, ?_, ?_, ?_⟩
  · rintro k e ⟨hturn, -⟩
    simp only [History.outcome, hturn, hsummaries]
  · intro value left hturn
    simp only [History.outcome, hturn, conclude, hfailures]
    cases failures with
    | nil => simp
    | cons first rest => simp [hsummarised]
  · intro e left hturn
    simp only [History.outcome, hturn, conclude, hsummaries]
    refine ⟨trivial, fun hnone => ?_⟩
    rw [hnone]
    rfl
  · intro crash left hturn
    refine ⟨by simp only [History.outcome, hturn, conclude], ?_⟩
    obtain ⟨earlier, before, hreports, ht⟩ := hfinish _ (by rw [History.finish?, hturn])
    rw [finished, hfailures, hsummaries] at hreports ht
    exact ⟨earlier, before, hreports, ht⟩
  · cases hturn : h.turn with
    | refused failure => exact Or.inl ⟨_, failure, rfl, rfl⟩
    | ran bodyEnded left => exact Or.inr ⟨bodyEnded, left, rfl⟩

end

/-- A bench that refuses to end a process once, and loses what the next one has printed. -/
def lossy : Bench where
  processes :=
    { responses := [.error (.process "lost")], terminateFailure := some (.process "refused") }

/-- The calls of the two commands on that bench, around a body that ends as given. -/
def lossyCalls (ended : Outcome Nat) : List (Call Nat) :=
  [.start 0 none, .start 1 none, .body ended {}, .stop 1 (some ⟨"inner", .process "refused"⟩),
    .stop 0 none, .save 0 [] (some ⟨"outer", .process "lost"⟩)]

/-- What the two recorders are called for, and what comes of it. -/
theorem lossy_calls (ended : Outcome Nat) :
    calls [follower "outer", follower "inner"] (Act.settle ended) {} lossy = lossyCalls ended := rfl

/-- The inner command cannot be stopped and the outer one cannot be saved, whether the body is done,
fails or crashes. -/
theorem failures_in_closing_order_lossy :
    let commands := [follower "outer", follower "inner"]
    (∀ ended, Quiet (calls commands (Act.settle ended : Act _ Nat) {} lossy)) ∧
      (run commands (Act.settle (.done 3)) ({}, lossy)).1
        = .failed (.cleanup (.process "refused") ["outer: process error: lost"]) ∧
      (run commands (Act.settle (.failed (.assertion "0 != 1")) : Act _ Nat) ({}, lossy)).1
        = .failed (.cleanup (.assertion "0 != 1")
            ["inner: process error: refused", "outer: process error: lost"]) ∧
      ∃ before, (run commands (Act.settle (.crashed .silent) : Act _ Nat) ({}, lossy)).2.2
        = EventLog.note (.of "warn" "session.finished" [("outcome", .string "panic"),
            ("cleanup_failures", .array [.string "inner: process error: refused",
              .string "outer: process error: lost"])]) before := by
  intro commands
  have quiet (ended : Outcome Nat) : Quiet (calls commands (Act.settle ended) {} lossy) := by
    rw [lossy_calls]
    simp [Quiet, lossyCalls]
  have hdone := failures_in_closing_order commands (Act.settle (.done 3)) {} lossy (quiet _)
  have hfailed := failures_in_closing_order commands
    (Act.settle (.failed (.assertion "0 != 1"))) {} lossy (quiet _)
  have hcrashed := failures_in_closing_order commands (Act.settle (.crashed .silent)) {} lossy
    (quiet _)
  rw [lossy_calls] at hdone hfailed hcrashed
  obtain ⟨-, _, before, -, hlast⟩ := hcrashed.2.2.2.1 .silent {} (by simp [lossyCalls])
  refine ⟨quiet, ?_, ?_, before, hlast⟩
  · exact (hdone.2.1 3 {} (by simp [lossyCalls])).2 _ [_] rfl
  · exact (hfailed.2.2.1 (.assertion "0 != 1") {} (by simp [lossyCalls])).1

/-! ## The blocks in the store -/

/-- The blocks that a recorder saved. -/
def savedBy (made : List (Call α)) (index : Nat) : List String :=
  made.flatMap (Call.blocksOf index)

/-- The store when the closing began: as the body left it, or as it was before if no body ran. -/
def storeAtClosing (store : RecordStore) (made : List (Call α)) : RecordStore :=
  (made.findSome? Call.left?).getD store

/-- The blocks of a recorder in a row of closed ones; one that was not closed has none. -/
def closedBlocks (closed : List Closed) (index : Nat) : List String :=
  ((closed[index]?).map Closed.blocks).getD []

/-- Closing a recorder saves its blocks under its own number only. -/
theorem Closed.savedBy_calls (c : Closed) (first index : Nat) :
    savedBy (c.calls first : List (Call α)) index = if first = index then c.blocks else [] := by
  cases c <;> simp [savedBy, Closed.calls, Closed.blocks, Call.blocksOf]

/-- What is saved under a number in the closing is what the recorder with that number saved. -/
theorem closingCalls_savedBy :
    ∀ (closed : List Closed) (first index : Nat),
      savedBy (closingCalls first closed : List (Call α)) (first + index)
        = closedBlocks closed index
  | [], _, _ => rfl
  | c :: rest, first, index => by
      have hfirst : savedBy (c.calls first : List (Call α)) (first + index) = _ :=
        c.savedBy_calls first (first + index)
      rw [savedBy] at hfirst ⊢
      rw [closingCalls, List.flatMap_append, hfirst]
      cases index with
      | zero =>
          have hnone : ∀ call ∈ (closingCalls (first + 1) rest : List (Call α)),
              Call.blocksOf first call = [] := by
            intro call hmem
            obtain ⟨j, c', -, hcall⟩ := mem_closingCalls.1 hmem
            have hother : first + 1 + j ≠ first := by omega
            cases c' <;> simp [Closed.calls] at hcall <;> rcases hcall with rfl | rfl <;>
              simp [Call.blocksOf, hother]
          rw [Nat.add_zero, List.flatMap_eq_nil_iff.2 hnone]
          simp [closedBlocks]
      | succ index =>
          have hrest := closingCalls_savedBy rest (first + 1) index
          have hindex : first + 1 + index = first + (index + 1) := by omega
          rw [savedBy, hindex] at hrest
          rw [hrest]
          simp [closedBlocks]

/-- What a row of recorders saved is what each of them saved, in order. -/
theorem closingOf_blocks :
    ∀ (closed : List Closed) (n : Nat), closed.length ≤ n →
      (closingOf closed).blocks = (List.range n).flatMap (closedBlocks closed)
  | [], n, _ => by
      symm
      exact List.flatMap_eq_nil_iff.2 fun _ _ => rfl
  | c :: rest, n + 1, hlength => by
      have hrest := closingOf_blocks rest n (by simpa using hlength)
      rw [List.range_succ_eq_map, List.flatMap_cons, List.flatMap_map]
      rw [Closing.blocks] at hrest ⊢
      rw [closingOf_cons, List.flatten_cons, hrest]
      rfl

namespace History

/-- What is saved under a number in a session is what the closed recorder with that number saved. -/
theorem savedBy_eq (h : History α) (i : Nat) : savedBy h.calls i = closedBlocks h.closed i := by
  have hclosing := closingCalls_savedBy (α := α) h.closed 0 i
  rw [Nat.zero_add, savedBy] at hclosing
  have hstart : (startCalls 0 h.closed.length : List (Call α)).flatMap (Call.blocksOf i) = [] := by
    refine List.flatMap_eq_nil_iff.2 fun call hmem => ?_
    obtain ⟨j, -, -, rfl⟩ := mem_startCalls.1 hmem
    rfl
  have hturn : [h.turn.call h.closed.length].flatMap (Call.blocksOf i) = [] := by
    cases h.turn <;> rfl
  rw [savedBy, History.calls, List.flatMap_append, List.flatMap_append, hstart, hturn, hclosing]
  rfl

/-- The store at closing is as the body left it, or as it was if there was no body. -/
theorem storeAtClosing_eq (h : History α) (store : RecordStore) :
    storeAtClosing store h.calls = h.turn.store store := by
  have hstart : (startCalls 0 h.closed.length : List (Call α)).findSome? Call.left? = none := by
    refine List.findSome?_eq_none_iff.2 fun call hmem => ?_
    obtain ⟨j, -, -, rfl⟩ := mem_startCalls.1 hmem
    rfl
  have hclosing : (closingCalls 0 h.closed : List (Call α)).findSome? Call.left? = none := by
    refine List.findSome?_eq_none_iff.2 fun call hmem => ?_
    obtain ⟨j, c, -, hcall⟩ := mem_closingCalls.1 hmem
    cases c <;> simp [Closed.calls] at hcall <;> rcases hcall with rfl | rfl <;> rfl
  rw [storeAtClosing, History.calls, List.findSome?_append, List.findSome?_append, hstart, hclosing]
  cases h.turn <;> rfl

/-- A save is among the calls if and only if the recorder with its number was closed by it. -/
theorem save_mem {h : History α} {i : Nat} {blocks : List String}
    {problem : Option CleanupFailure} :
    Call.save i blocks problem ∈ h.calls ↔ h.closed[i]? = some (.saved blocks problem) := by
  rw [mem_calls]
  constructor
  · rintro (⟨j, -, hcall⟩ | hcall | ⟨j, c, hj, hmem⟩)
    · cases hcall
    · cases hturn : h.turn <;> rw [hturn] at hcall <;> cases hcall
    · cases c <;> simp [Closed.calls] at hmem
      obtain ⟨rfl, rfl, rfl⟩ := hmem
      exact hj
  · exact fun hi => Or.inr (Or.inr ⟨i, _, hi, by simp [Closed.calls]⟩)

end History

section

variable {ρ σ : Type} [Recorder ρ σ] [EventLog σ]

/-- **Blocks are stored in the order of the start.**  After a session in which no recorder crashes
the store holds what it held when the closing began and then what recorder 0 saved, what recorder 1
saved, and so on.  Each of them contributes just the blocks of its one save, which it keeps even if
that save then failed, and nothing if it was not saved, as it is not after a stop that failed. -/
theorem store_in_start_order (recorders : List ρ) (body : Act (RecordStore × σ) α)
    (store : RecordStore) (s : σ) (quiet : Quiet (calls recorders body store s)) :
    let made := calls recorders body store s
    (run recorders body (store, s)).2.1
        = (storeAtClosing store made).appendAll
            ((List.range recorders.length).flatMap (savedBy made)) ∧
      (∀ i blocks problem, Call.save i blocks problem ∈ made → savedBy made i = blocks) ∧
      (∀ i, (∀ blocks problem, Call.save i blocks problem ∉ made) → savedBy made i = []) ∧
      (∀ i problem, Call.stop i (some problem) ∈ made → savedBy made i = []) := by
  obtain ⟨h, t, fits, hcalls, hrun, -⟩ := exists_run quiet
  rw [hcalls, hrun]
  intro made
  have hsaved : savedBy made = closedBlocks h.closed := funext h.savedBy_eq
  refine ⟨?_, ?_, ?_, ?_⟩
  · rw [hsaved, h.storeAtClosing_eq, ← closingOf_blocks h.closed _ fits.length_le]
    rfl
  · intro i blocks problem hmem
    rw [hsaved, closedBlocks, History.save_mem.1 hmem]
    rfl
  · intro i hnever
    rw [hsaved, closedBlocks]
    rcases hclosed : h.closed[i]? with _ | (problem | ⟨blocks, problem⟩)
    · rfl
    · rfl
    · exact absurd (History.save_mem.2 hclosed) (hnever blocks problem)
  · intro i problem hmem
    obtain ⟨c, hclosed, hmem⟩ := History.stop_mem hmem
    rw [hsaved, closedBlocks, hclosed]
    cases c with
    | stuck problem' => rfl
    | saved blocks problem' => simp [Closed.calls] at hmem

end

/-- The command that could be stopped saved what it printed, and the other one nothing. -/
theorem store_in_start_order_stubborn :
    (run [follower "outer", follower "inner"] (Act.settle (.done 3)) ({}, stubborn)).2.1.blocks
      = [(follower "outer").block "log"] := by
  have h := store_in_start_order [follower "outer", follower "inner"] (Act.settle (.done 3)) {}
    stubborn (stubborn_quiet _)
  rw [h.1, stubborn_calls]
  rfl

end Session

end BusTrial
