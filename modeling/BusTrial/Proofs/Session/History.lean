import BusTrial.Proofs.Session.Calls

/-!
# The history of a session

A session in which no recorder crashes takes one of two turns.  Either a recorder could not be
started, and those before it were closed; or all were started, the body ran, and all were closed.  A
`History` says which, with what came of every call, and from it follow the calls that were made
(`History.calls`), the end of the session (`History.outcome`) and the store (`History.store`).

* `startAll_quiet`, `closeOne_quiet`, `closeAll_quiet` — what the loops of a session add to its
  calls, and what they come to if none of those calls crashed;
* **`exists_history`** — every session without a crash of a recorder has a history;
* `exists_run` — what that history says about the session when nothing is watched.

Each of the loops is followed by induction on the row of recorders.  That none of *its* calls
crashed is what an induction step may assume; it comes down from the calls of the whole session,
since calls are only ever added (`Act.Grows`).
-/

namespace BusTrial

namespace Session

/-- How a recorder was closed. -/
inductive Closed where
  /-- It could not be stopped, and so it was not saved. -/
  | stuck (problem : CleanupFailure)
  /-- It was stopped and saved these blocks, even if it then failed. -/
  | saved (blocks : List String) (problem : Option CleanupFailure)

namespace Closed

variable {α : Type}

/-- The calls that closed the recorder with a number. -/
def calls (index : Nat) : Closed → List (Call α)
  | .stuck problem => [.stop index (some problem)]
  | .saved blocks problem => [.stop index none, .save index blocks problem]

/-- The blocks that the recorder saved. -/
def blocks : Closed → List String
  | .stuck _ => []
  | .saved blocks _ => blocks

/-- What failed. -/
def problem? : Closed → Option CleanupFailure
  | .stuck problem => some problem
  | .saved _ problem => problem

end Closed

/-- The calls that closed a row of recorders, numbered from `first` on: the last one was closed
first. -/
def closingCalls {α : Type} (first : Nat) : List Closed → List (Call α)
  | [] => []
  | c :: rest => closingCalls (first + 1) rest ++ c.calls first

/-- What closing a row of recorders left. -/
def closingOf (closed : List Closed) : Closing where
  slots := closed.map Closed.blocks
  failures := closed.reverse.filterMap Closed.problem?

/-- The first recorder of a row puts its blocks in front and its failure behind. -/
theorem closingOf_cons (c : Closed) (closed : List Closed) :
    closingOf (c :: closed)
      = { slots := c.blocks :: (closingOf closed).slots,
          failures := (closingOf closed).failures ++ c.problem?.toList } := by
  cases h : c.problem? <;> simp [closingOf, h]

/-- The event that tells how a session ended. -/
def finished (outcome : String) (closing : Closing) : LogEvent :=
  .of (if closing.failures.isEmpty then "info" else "warn") "session.finished"
    [("outcome", .string outcome), ("cleanup_failures", .ofTexts closing.summaries)]

/-- The calls that started a row of recorders, numbered from `first` on. -/
def startCalls {α : Type} (first count : Nat) : List (Call α) :=
  (List.range' first count).map fun i => .start i none

/-- What the starts of a session led to. -/
inductive Turn (α : Type) where
  /-- A recorder could not be started. -/
  | refused (failure : Failure)
  /-- All recorders were started; the body ran and left this store. -/
  | ran (ended : Outcome α) (left : RecordStore)

namespace Turn

variable {α : Type}

/-- The call that shows it, when as many recorders were started as given. -/
def call (started : Nat) : Turn α → Call α
  | .refused failure => .start started (some failure)
  | .ran ended left => .body ended left

/-- The store when closing began. -/
def store (before : RecordStore) : Turn α → RecordStore
  | .refused _ => before
  | .ran _ left => left

end Turn

/-- What became of a session. -/
structure History (α : Type) where
  turn : Turn α
  /-- How those recorders were closed that had been started. -/
  closed : List Closed

namespace History

variable {α : Type}

/-- The history is one of a session with `n` recorders. -/
def Fits (n : Nat) (h : History α) : Prop :=
  match h.turn with
  | .refused _ => h.closed.length < n
  | .ran _ _ => h.closed.length = n

/-- No more recorders are closed than there are. -/
theorem Fits.length_le {n : Nat} {h : History α} (fits : h.Fits n) : h.closed.length ≤ n := by
  cases hturn : h.turn <;> simp only [Fits, hturn] at fits <;> omega

/-- The calls that were made. -/
def calls (h : History α) : List (Call α) :=
  startCalls 0 h.closed.length ++ [h.turn.call h.closed.length] ++ closingCalls 0 h.closed

/-- How the session ended. -/
def outcome (h : History α) : Outcome α :=
  match h.turn with
  | .refused failure => .failed (failure.withCleanup (closingOf h.closed).summaries)
  | .ran ended _ => conclude ended (closingOf h.closed)

/-- The store after the session. -/
def store (before : RecordStore) (h : History α) : RecordStore :=
  (h.turn.store before).appendAll (closingOf h.closed).blocks

/-- The last report of a session that came to its body. -/
def finish? (h : History α) : Option LogEvent :=
  match h.turn with
  | .refused _ => none
  | .ran ended _ => some (finished (outcomeWord ended) (closingOf h.closed))

end History

/-! ## No call crashed -/

section

variable {ρ σ α : Type}

/-- No recorder crashed in any of the calls. -/
def Quiet (calls : List (Call α)) : Prop :=
  ∀ event, Call.crash event ∉ calls

/-- What did not crash did not crash before that either. -/
theorem Quiet.of_prefix {calls more : List (Call α)} (quiet : Quiet more) (h : calls <+: more) :
    Quiet calls :=
  fun event hmem => quiet event (h.subset hmem)

/-- A crash is not quiet. -/
theorem not_quiet_crash {calls : List (Call α)} {event : Event} :
    ¬ Quiet (calls ++ [.crash event]) :=
  fun quiet => quiet event (by simp)

/-- The calls of a state that other things stand beside. -/
abbrev Watched.callsBeside {ε : Type} (p : ε × Watched α σ) : List (Call α) :=
  p.2.calls

variable [Recorder ρ σ]

/-! ## What a watched recorder does -/

/-- A watched start is the start of the recorder, and a call that says how it ended. -/
theorem start_apply (r : Numbered ρ) (o : Watched α σ) :
    (Recorder.start : Act (Numbered ρ × Watched α σ) Unit) (r, o)
      = let x := (Recorder.start : Act (ρ × σ) Unit) (r.recorder, o.inner)
        (x.1, { r with recorder := x.2.1 }, o.after (.ofStart r.index x.1) x.2.2) := rfl

/-- A watched stop is the stop of the recorder, and a call that says how it ended; the recorder is
named as it is then. -/
theorem stop_apply (r : Numbered ρ) (o : Watched α σ) :
    (Recorder.stop : Act (Numbered ρ × Watched α σ) Unit) (r, o)
      = let x := (Recorder.stop : Act (ρ × σ) Unit) (r.recorder, o.inner)
        (x.1, { r with recorder := x.2.1 },
          o.after (.ofStop r.index (description x.2.1) x.1) x.2.2) := rfl

/-- A save into an empty store adds the blocks that the store holds afterwards. -/
theorem save_apply (r : Numbered ρ) (o : Watched α σ) :
    (Recorder.save : Act (RecordStore × Numbered ρ × Watched α σ) Unit) ({}, r, o)
      = let x := (Recorder.save : Act (RecordStore × ρ × σ) Unit) ({}, r.recorder, o.inner)
        (x.1, x.2.1, { r with recorder := x.2.2.1 },
          o.after (.ofSave r.index (description x.2.2.1) x.2.1.blocks x.1) x.2.2.2) := rfl

variable [EventLog σ]

/-- Calls are only added. -/
theorem numbered_move :
    RecordersMove (Numbered ρ) (fun o o' : Watched α σ => o.calls <+: o'.calls) where
  start _ := List.prefix_append _ _
  stop _ := List.prefix_append _ _
  save _ := List.prefix_append _ _
  note _ _ := List.prefix_rfl

/-! ## What the loops do -/

/-- Reporting a failure to close gives the name and the failure, and does nothing but report. -/
theorem reportClose_apply (phase : String) (failure : Failure) (r : ρ) (s : σ) :
    ∃ e, reportClose phase failure (r, s)
      = (.done ⟨description r, failure⟩, r, EventLog.note e s) :=
  ⟨_, rfl⟩

/-- **Closing one recorder.**  It is stopped once, and saved once right after that if and only if
the stop succeeded. -/
theorem closeOne_quiet (r : Numbered ρ) (o : Watched α σ)
    (quiet : Quiet (closeOne (r, o)).2.2.calls) :
    ∃ (c : Closed) (r' : _) (o' : _), closeOne (r, o) = (.done (c.blocks, c.problem?), r', o') ∧
      o'.calls = o.calls ++ c.calls r.index := by
  have hstop := stop_apply r o
  rcases hraw : (Recorder.stop : Act (ρ × σ) Unit) (r.recorder, o.inner)
    with ⟨⟨⟨⟩⟩ | failure | crash, recorder, s⟩ <;> simp only [hraw, Call.ofStop] at hstop
  · -- it was stopped, and the save decides
    set o₁ := o.after (.stop r.index none) s with ho₁
    have hsave := save_apply { r with recorder } o₁
    rcases hraw' : (Recorder.save : Act (RecordStore × ρ × σ) Unit) ({}, recorder, o₁.inner)
      with ⟨⟨⟨⟩⟩ | failure | crash, slot, recorder', s'⟩ <;>
      simp only [hraw', Call.ofSave] at hsave
    · refine ⟨.saved slot.blocks none, { r with recorder := recorder' },
        o₁.after (.save r.index slot.blocks none) s', ?_, by simp [ho₁, Closed.calls]⟩
      rw [closeOne, Act.bind_of_done (Act.result_of_done hstop)]
      exact Act.bind_of_done (Act.within_of (Act.result_of_done hsave))
    · set problem : CleanupFailure := ⟨description recorder', failure⟩
      set o₂ := o₁.after (.save r.index slot.blocks (some problem)) s' with ho₂
      set r' : Numbered ρ := { r with recorder := recorder' }
      obtain ⟨e, hreport⟩ := reportClose_apply "save" failure r' o₂
      refine ⟨.saved slot.blocks (some problem), r', EventLog.note e o₂, ?_,
        by simp [ho₁, ho₂, Closed.calls]⟩
      rw [closeOne, Act.bind_of_done (Act.result_of_done hstop)]
      refine (Act.bind_of_done (Act.within_of (Act.result_of_failed hsave))).trans ?_
      exact (Act.bind_of_done rfl).trans (Act.bind_of_done hreport)
    · have hall : closeOne (r, o) = (.crashed crash, { r with recorder := recorder' },
          o₁.after (.crash (.save r.index)) s') := by
        rw [closeOne, Act.bind_of_done (Act.result_of_done hstop)]
        exact Act.bind_of_done (Act.within_of (Act.result_of_crashed hsave))
      rw [hall] at quiet
      exact absurd quiet not_quiet_crash
  · set problem : CleanupFailure := ⟨description recorder, failure⟩
    set o₁ := o.after (.stop r.index (some problem)) s with ho₁
    set r' : Numbered ρ := { r with recorder }
    obtain ⟨e, hreport⟩ := reportClose_apply "stop" failure r' o₁
    refine ⟨.stuck problem, r', EventLog.note e o₁, ?_, by simp [ho₁, Closed.calls]⟩
    rw [closeOne, Act.bind_of_done (Act.result_of_failed hstop)]
    exact Act.bind_of_done hreport
  · rw [closeOne, Act.bind_of_crashed (Act.result_of_crashed hstop)] at quiet
    exact absurd quiet not_quiet_crash

/-- **Closing a row of recorders.**  The last one is closed first, and how one was closed has no
bearing on the others. -/
theorem closeAll_quiet :
    ∀ (rs : List (Numbered ρ)) (first : Nat) (o : Watched α σ),
      rs.map Numbered.index = List.range' first rs.length →
      Quiet (closeAll rs o).2.calls →
      ∃ closed o', closeAll rs o = (.done (closingOf closed), o') ∧ closed.length = rs.length ∧
        o'.calls = o.calls ++ closingCalls first closed
  | [], _, o, _, _ => ⟨[], o, rfl, rfl, (List.append_nil _).symm⟩
  | r :: rest, first, o, hindex, quiet => by
      simp only [List.map_cons, List.length_cons, List.range'_succ, List.cons.injEq] at hindex
      rw [closeAll] at quiet
      have hinner : Quiet (closeAll rest o).2.calls := by
        refine quiet.of_prefix (Act.Grows.prefix_bind (v := Watched.calls) (fun _ => ?_) o)
        exact ((closeOne_moves numbered_move).within r).bind fun _ =>
          (Act.Moves.settle _).bind fun _ => Act.Moves.pure _
      obtain ⟨closed, o₁, hrest, hlength, hcalls⟩ :=
        closeAll_quiet rest (first + 1) o hindex.2 hinner
      rw [Act.bind_of_done hrest] at quiet
      have hfirst : Quiet (Act.within r closeOne o₁).2.calls := by
        refine quiet.of_prefix (Act.Grows.prefix_bind (v := Watched.calls) (fun _ => ?_) o₁)
        exact (Act.Moves.settle _).bind fun _ => Act.Moves.pure _
      obtain ⟨c, r', o₂, hone, hcalls'⟩ := closeOne_quiet r o₁ hfirst
      refine ⟨c :: closed, o₂, ?_, by simp [hlength], ?_⟩
      · rw [closeAll, Act.bind_of_done hrest, Act.bind_of_done (Act.within_of hone), closingOf_cons]
        rfl
      · rw [hcalls', hcalls, closingCalls, hindex.1, List.append_assoc]

/-- Closing a row of recorders that do not crash hands their blocks to the store. -/
theorem closeInto_quiet (rs : List (Numbered ρ)) (store : RecordStore) (o : Watched α σ)
    (hindex : rs.map Numbered.index = List.range' 0 rs.length)
    (quiet : Quiet (closeInto rs (store, o)).2.2.calls) :
    ∃ closed o', closeInto rs (store, o)
        = (.done (closingOf closed), store.appendAll (closingOf closed).blocks, o') ∧
      closed.length = rs.length ∧ o'.calls = o.calls ++ closingCalls 0 closed := by
  rw [closeInto] at quiet
  have hall : Quiet (Watched.callsBeside (Act.onRight (closeAll rs) (store, o)).2) := by
    refine quiet.of_prefix (Act.Grows.prefix_bind (v := Watched.callsBeside) ?_ (store, o))
    exact fun _ _ => List.prefix_rfl
  obtain ⟨closed, o', hclosed, hlength, hcalls⟩ := closeAll_quiet rs 0 o hindex hall
  refine ⟨closed, o', ?_, hlength, hcalls⟩
  rw [closeInto, Act.bind_of_done (Act.onRight_of hclosed)]
  rfl

/-- What starting `n` recorders, numbered from `first` on, came to: these were started, these calls
were made, and the failure is that of the one after them. -/
def Started (first n : Nat) (started : List (Numbered ρ)) (calls : List (Call α)) :
    Option Failure → Prop
  | none => started.length = n ∧ calls = startCalls first n
  | some failure =>
    started.length < n ∧
      calls = startCalls first started.length ++ [.start (first + started.length) (some failure)]

omit [Recorder ρ σ] [EventLog σ] in
/-- A recorder that was started stands in front of those that were started after it. -/
theorem Started.cons {first n : Nat} {started : List (Numbered ρ)} {calls : List (Call α)}
    {failure : Option Failure} (r : Numbered ρ) (h : Started (first + 1) n started calls failure) :
    Started first (n + 1) (r :: started) (.start first none :: calls) failure := by
  cases failure with
  | none =>
      obtain ⟨hlength, rfl⟩ := h
      exact ⟨by simp [hlength], by simp [startCalls, List.range'_succ]⟩
  | some failure =>
      obtain ⟨hlength, rfl⟩ := h
      have hindex : first + (started.length + 1) = first + 1 + started.length := by omega
      refine ⟨by simp [hlength], ?_⟩
      simp [startCalls, List.range'_succ, hindex]

/-- **Starting a row of recorders.**  They are started in order, up to the first that fails. -/
theorem startAll_quiet :
    ∀ (rs : List (Numbered ρ)) (first : Nat) (o : Watched α σ),
      rs.map Numbered.index = List.range' first rs.length →
      Quiet (startAll rs o).2.calls →
      ∃ started failure o' new, startAll rs o = (.done (started, failure), o') ∧
        o'.calls = o.calls ++ new ∧
        started.map Numbered.index = List.range' first started.length ∧
        Started first rs.length started new failure
  | [], _, o, _, _ => ⟨[], none, o, [], rfl, (List.append_nil _).symm, rfl, rfl, rfl⟩
  | r :: rest, first, o, hindex, quiet => by
      simp only [List.map_cons, List.length_cons, List.range'_succ, List.cons.injEq] at hindex
      have hstart := start_apply r o
      rcases hraw : (Recorder.start : Act (ρ × σ) Unit) (r.recorder, o.inner)
        with ⟨⟨⟨⟩⟩ | failure | crash, recorder, s⟩ <;> simp only [hraw, Call.ofStart] at hstart
      · set o₁ := o.after (.start r.index none) s with ho₁
        have hnext : startAll (r :: rest) o
            = (startAll rest >>= fun x => pure ({ r with recorder } :: x.1, x.2)) o₁ := by
          rw [startAll, Act.bind_of_done (Act.within_of (Act.result_of_done hstart))]
          exact Act.bind_of_done rfl
        rw [hnext] at quiet
        have hinner : Quiet (startAll rest o₁).2.calls :=
          quiet.of_prefix (Act.Grows.prefix_bind (fun _ => Act.Moves.pure _) o₁)
        obtain ⟨started, failure, o₂, new, hrest, hcalls, hindex', h⟩ :=
          startAll_quiet rest (first + 1) o₁ hindex.2 hinner
        refine ⟨_, failure, o₂, _, hnext.trans (Act.bind_of_done hrest), ?_, ?_, h.cons _⟩
        · rw [hcalls, ho₁, Watched.after_calls, hindex.1, List.append_assoc]
          rfl
        · simp [List.range'_succ, hindex.1, hindex']
      · set o₁ := o.after (.start r.index (some failure)) s with ho₁
        have hall : ∃ e, startAll (r :: rest) o
            = (.done ([], some failure), (EventLog.note e o₁ : Watched α σ)) := by
          rw [startAll, Act.bind_of_done (Act.within_of (Act.result_of_failed hstart))]
          exact ⟨_, Act.bind_of_done rfl⟩
        obtain ⟨e, hall⟩ := hall
        refine ⟨[], some failure, _, [.start first (some failure)], hall, ?_, rfl, ?_⟩
        · simp [ho₁, hindex.1]
        · exact ⟨Nat.succ_pos _, rfl⟩
      · rw [startAll, Act.bind_of_done (Act.within_of (Act.result_of_crashed hstart))] at quiet
        exact absurd quiet not_quiet_crash

/-! ## The whole session

After the starts a session takes one of two turns, and each of them closes what was started.
-/

/-- What a session does when a recorder could not be started. -/
def giveUp (started : List ρ) (failure : Failure) : Act (RecordStore × σ) α :=
  closeInto started >>= fun closing => throw (failure.withCleanup closing.summaries)

/-- What a session does when all recorders were started. -/
def carryOut (started : List ρ) (body : Act (RecordStore × σ) α) : Act (RecordStore × σ) α :=
  body.attempt >>= fun ended => closeInto started >>= fun closing =>
    reportFinished (outcomeWord ended) closing >>= fun _ => Act.settle (conclude ended closing)

/-- A session reports that it begins, starts its recorders, and goes on accordingly. -/
theorem run_begins (recorders : List ρ) (body : Act (RecordStore × σ) α) (store : RecordStore)
    (s : σ) :
    ∃ e, run recorders body (store, s)
      = (Act.onRight (startAll recorders) >>= fun x =>
          match x.2 with
          | some failure => giveUp x.1 failure
          | none => carryOut x.1 body) (store, EventLog.note e s) :=
  ⟨_, rfl⟩

/-- What closing the recorders led to, a session that came to its body goes on from. -/
theorem carryOut_after {r : σ → σ → Prop} [IsPreorder σ r] (note : ∀ e s, r s (EventLog.note e s))
    (started : List ρ) {body : Act (RecordStore × σ) α} {store left : RecordStore} {s t : σ}
    {ended : Outcome α} (h : body (store, s) = (ended, left, t)) :
    r (closeAll started t).2 (carryOut started body (store, s)).2.2 := by
  have hattempt : body.attempt (store, s) = (.done ended, left, t) := by
    simp only [Act.attempt, h]
  have hinto : Act.Beside r (left, (closeAll started t).2) (closeInto started (left, t)).2 := by
    show Act.Beside r (Act.onRight (closeAll started) (left, t)).2 _
    exact Act.Moves.after_bind
      (fun _ => (Act.Moves.onLeft _).bind fun _ => Act.Moves.pure _) (left, t)
  rw [carryOut, Act.bind_of_done hattempt]
  show Act.Beside r (left, (closeAll started t).2) _
  refine trans_of _ hinto (Act.Moves.after_bind (fun closing => ?_) (left, t))
  exact (Act.Moves.report (fun e p => note e p.2) _ _ _).bind fun _ => Act.Moves.settle _

omit [Recorder ρ σ] [EventLog σ] in
/-- A watched body adds a call. -/
theorem watchBody_grows (body : Act (RecordStore × σ) α) :
    Act.Grows Watched.callsBeside (watchBody body) :=
  fun _ => List.prefix_append _ _

/-- What follows a failed start adds calls. -/
theorem giveUp_grows (started : List (Numbered ρ)) (failure : Failure) :
    Act.Grows Watched.callsBeside
      (giveUp started failure : Act (RecordStore × Watched α σ) α) :=
  (closeInto_moves numbered_move started).bind fun _ => Act.Moves.settle _

/-- What follows the starts adds calls. -/
theorem carryOut_grows (started : List (Numbered ρ)) (body : Act (RecordStore × σ) α) :
    Act.Grows Watched.callsBeside (carryOut started (watchBody body)) := by
  refine (watchBody_grows body).attempt.bind fun _ => ?_
  refine Act.Moves.bind (closeInto_moves numbered_move started) fun _ => ?_
  exact (Act.Moves.report (fun _ _ => List.prefix_rfl) _ _ _).bind fun _ => Act.Moves.settle _

/-- A session with a failed start has a history, if nothing crashes in the closing. -/
theorem giveUp_quiet (started : List (Numbered ρ)) (failure : Failure) (store : RecordStore)
    (o : Watched α σ) (hindex : started.map Numbered.index = List.range' 0 started.length)
    (quiet : Quiet (Watched.callsBeside
      ((giveUp started failure : Act (RecordStore × Watched α σ) α) (store, o)).2)) :
    ∃ (h : History α) (o' : Watched α σ), h.turn = .refused failure ∧
      giveUp started failure (store, o) = (h.outcome, h.store store, o') ∧
      h.closed.length = started.length ∧ o'.calls = o.calls ++ closingCalls 0 h.closed := by
  rw [giveUp] at quiet
  have hclose : Quiet (Watched.callsBeside (closeInto started (store, o)).2) := by
    refine quiet.of_prefix (Act.Grows.prefix_bind (fun _ => ?_) (store, o))
    exact Act.Moves.settle _
  obtain ⟨closed, o', hclosed, hlength, hcalls⟩ := closeInto_quiet started store o hindex hclose
  refine ⟨⟨.refused failure, closed⟩, o', rfl, ?_, hlength, hcalls⟩
  rw [giveUp, Act.bind_of_done hclosed]
  rfl

/-- A session that came to its body has a history, if nothing crashes in the closing. -/
theorem carryOut_quiet (started : List (Numbered ρ)) (body : Act (RecordStore × σ) α)
    (store : RecordStore) (o : Watched α σ)
    (hindex : started.map Numbered.index = List.range' 0 started.length)
    (quiet : Quiet (Watched.callsBeside (carryOut started (watchBody body) (store, o)).2)) :
    ∃ (h : History α) (ended : Outcome α) (left : RecordStore) (o' : Watched α σ),
      h.turn = .ran ended left ∧
      carryOut started (watchBody body) (store, o) = (h.outcome, h.store store, o') ∧
      h.closed.length = started.length ∧
      o'.calls = o.calls ++ [.body ended left] ++ closingCalls 0 h.closed ∧
      ∀ e, h.finish? = some e → ∃ t : Watched α σ, o' = EventLog.note e t := by
  rcases hraw : body (store, o.inner) with ⟨ended, left, s⟩
  set o₁ := o.after (.body ended left) s with ho₁
  have hbody : (watchBody body).attempt (store, o) = (.done ended, left, o₁) := by
    simp only [Act.attempt, watchBody, hraw, ho₁]
  rw [carryOut, Act.bind_of_done hbody] at quiet
  have hclose : Quiet (Watched.callsBeside (closeInto started (left, o₁)).2) := by
    refine quiet.of_prefix (Act.Grows.prefix_bind (fun _ => ?_) (left, o₁))
    exact (Act.Moves.report (fun _ _ => List.prefix_rfl) _ _ _).bind fun _ => Act.Moves.settle _
  obtain ⟨closed, o₂, hclosed, hlength, hcalls⟩ := closeInto_quiet started left o₁ hindex hclose
  set last := finished (outcomeWord ended) (closingOf closed)
  refine ⟨⟨.ran ended left, closed⟩, ended, left, EventLog.note last o₂, rfl, ?_, hlength, hcalls,
    ?_⟩
  · rw [carryOut, Act.bind_of_done hbody, Act.bind_of_done hclosed]
    exact Act.bind_of_done rfl
  · rintro e he
    cases he
    exact ⟨o₂, rfl⟩

/-- **Every session in which no recorder crashes has a history.**  Its calls, its end, the store and
the last report are those of the history. -/
theorem exists_history (recorders : List ρ) (body : Act (RecordStore × σ) α) (store : RecordStore)
    (s : σ) (quiet : Quiet (calls recorders body store s)) :
    ∃ (h : History α) (o : Watched α σ),
      watch recorders body store s = (h.outcome, h.store store, o) ∧
      h.Fits recorders.length ∧ o.calls = h.calls ∧
      ∀ e, h.finish? = some e → ∃ t : Watched α σ, o = EventLog.note e t := by
  obtain ⟨e₀, hbegins⟩ := run_begins (number recorders) (watchBody body) store { inner := s }
  set o₀ : Watched α σ := EventLog.note e₀ { inner := s }
  rw [calls, watch, hbegins] at quiet
  have hstart : Quiet
      (Watched.callsBeside (Act.onRight (startAll (number recorders)) (store, o₀)).2) := by
    refine quiet.of_prefix (Act.Grows.prefix_bind (v := Watched.callsBeside) ?_ (store, o₀))
    rintro ⟨started, failure | _⟩
    · exact carryOut_grows started body
    · exact giveUp_grows started _
  obtain ⟨started, failure, o₁, new, hstarted, hcalls₁, hindex, hnew⟩ :=
    startAll_quiet (number recorders) 0 o₀ (number_indices recorders) hstart
  rw [Act.bind_of_done (Act.onRight_of hstarted)] at quiet
  rw [number_length] at hnew
  rw [watch, hbegins, Act.bind_of_done (Act.onRight_of hstarted)]
  cases failure with
  | some failure =>
      obtain ⟨hfewer, hnew⟩ := hnew
      obtain ⟨h, o₂, hturn, hrun, hlength, hcalls₂⟩ :=
        giveUp_quiet started failure store o₁ hindex quiet
      refine ⟨h, o₂, hrun, ?_, ?_, ?_⟩
      · simp only [History.Fits, hturn, hlength, hfewer]
      · rw [hcalls₂, hcalls₁, hnew, History.calls, hlength, hturn, Nat.zero_add]
        rfl
      · intro e he
        simp only [History.finish?, hturn] at he
        cases he
  | none =>
      obtain ⟨hall, hnew⟩ := hnew
      obtain ⟨h, ended, left, o₂, hturn, hrun, hlength, hcalls₂, hfinish⟩ :=
        carryOut_quiet started body store o₁ hindex quiet
      refine ⟨h, o₂, hrun, ?_, ?_, hfinish⟩
      · simp only [History.Fits, hturn, hlength, hall]
      · rw [hcalls₂, hcalls₁, hnew, History.calls, hlength, hall, hturn]
        rfl

/-- What the history of a session says about the session itself, unwatched. -/
theorem exists_run {recorders : List ρ} {body : Act (RecordStore × σ) α} {store : RecordStore}
    {s : σ} (quiet : Quiet (calls recorders body store s)) :
    ∃ (h : History α) (t : σ), h.Fits recorders.length ∧ calls recorders body store s = h.calls ∧
      run recorders body (store, s) = (h.outcome, h.store store, t) ∧
      ∀ e, h.finish? = some e → ∃ earlier before,
        reports recorders body store s = earlier ++ [e] ∧ t = EventLog.note e before := by
  obtain ⟨h, o, hwatch, fits, hcalls, hfinish⟩ := exists_history recorders body store s quiet
  refine ⟨h, o.inner, fits, ?_, ?_, fun e he => ?_⟩
  · rw [calls, hwatch]
    exact hcalls
  · rw [run_eq_watched, hwatch]
  · obtain ⟨t, rfl⟩ := hfinish e he
    rw [reports, hwatch]
    exact ⟨t.reports, t.inner, rfl, rfl⟩

end

end Session

end BusTrial
