import BusTrial.Proofs.Session.Transport

/-!
# The calls of a session

What a session does with its recorders cannot be read off the state that it leaves: the recorders
may keep nothing of it.  Here every recorder is put into a `Numbered` one that notes each call made
of it in a `Watched` state and otherwise does what it did before; the body is watched in the same
way, and so are the reports that the session hands to the run log.

* `calls` — everything that a session calls, in order, each call with what came of it;
* `reports` — the events that the session itself hands to the run log;
* **`run_eq_watched`** — watching changes nothing: the session ends as it would, with the same store
  and the same state.

The last one is why statements about the end of a session may speak of its `calls`.
-/

namespace BusTrial

namespace Session

/-- A call that a session makes. -/
inductive Event where
  | start (index : Nat)
  | body
  | stop (index : Nat)
  | save (index : Nat)
  deriving DecidableEq, Repr

/-- A call that a session makes, with what came of it.  A recorder that could not be stopped or
saved is named as it calls itself after that. -/
inductive Call (α : Type) where
  | start (index : Nat) (failure : Option Failure)
  /-- The body, its end, and the store as it left it. -/
  | body (ended : Outcome α) (left : RecordStore)
  | stop (index : Nat) (problem : Option CleanupFailure)
  /-- A save, with the blocks that were added to the store it was given. -/
  | save (index : Nat) (blocks : List String) (problem : Option CleanupFailure)
  /-- A recorder crashed. -/
  | crash (event : Event)

namespace Call

variable {α : Type}

/-- The call alone. -/
def event : Call α → Event
  | .start i _ => .start i
  | .body _ _ => .body
  | .stop i _ => .stop i
  | .save i _ _ => .save i
  | .crash event => event

/-- The failure to stop or to save a recorder. -/
def problem? : Call α → Option CleanupFailure
  | .stop _ problem => problem
  | .save _ _ problem => problem
  | _ => none

/-- The store as the body left it. -/
def left? : Call α → Option RecordStore
  | .body _ left => some left
  | _ => none

/-- The blocks that a recorder saved in a call. -/
def blocksOf (index : Nat) : Call α → List String
  | .save i blocks _ => if i = index then blocks else []
  | _ => []

/-- A start that ended. -/
def ofStart (index : Nat) : Outcome Unit → Call α
  | .done () => .start index none
  | .failed failure => .start index (some failure)
  | .crashed _ => .crash (.start index)

/-- A stop that ended. -/
def ofStop (index : Nat) (name : String) : Outcome Unit → Call α
  | .done () => .stop index none
  | .failed failure => .stop index (some ⟨name, failure⟩)
  | .crashed _ => .crash (.stop index)

/-- A save that ended. -/
def ofSave (index : Nat) (name : String) (blocks : List String) : Outcome Unit → Call α
  | .done () => .save index blocks none
  | .failed failure => .save index blocks (some ⟨name, failure⟩)
  | .crashed _ => .crash (.save index)

end Call

/-! ## Watching

The number of a recorder is its place in the row, the outermost one being recorder 0.
-/

/-- A recorder with a number. -/
structure Numbered (ρ : Type) where
  index : Nat
  recorder : ρ

/-- A state beside what a session has done so far. -/
structure Watched (α σ : Type) where
  calls : List (Call α) := []
  reports : List LogEvent := []
  inner : σ

/-- The state after a call. -/
def Watched.after {α σ : Type} (o : Watched α σ) (call : Call α) (inner : σ) : Watched α σ :=
  { o with calls := o.calls ++ [call], inner }

@[simp] theorem Watched.after_calls {α σ : Type} (o : Watched α σ) (call : Call α) (s : σ) :
    (o.after call s).calls = o.calls ++ [call] := rfl

section

variable {ρ σ α : Type}

instance [EventLog σ] : EventLog (Watched α σ) where
  note e o := { o with reports := o.reports ++ [e], inner := EventLog.note e o.inner }

@[simp] theorem note_calls [EventLog σ] (e : LogEvent) (o : Watched α σ) :
    (EventLog.note e o).calls = o.calls := rfl

instance [Described ρ] : Described (Numbered ρ) where
  description r := description r.recorder

variable [Recorder ρ σ]

instance : Recorder (Numbered ρ) (Watched α σ) where
  start := fun (r, o) =>
    let (ended, recorder, s) := (Recorder.start : Act (ρ × σ) Unit) (r.recorder, o.inner)
    (ended, { r with recorder }, o.after (.ofStart r.index ended) s)
  stop := fun (r, o) =>
    let (ended, recorder, s) := (Recorder.stop : Act (ρ × σ) Unit) (r.recorder, o.inner)
    (ended, { r with recorder }, o.after (.ofStop r.index (description recorder) ended) s)
  save := fun (given, r, o) =>
    let (ended, store, recorder, s) :=
      (Recorder.save : Act (RecordStore × ρ × σ) Unit) (given, r.recorder, o.inner)
    let blocks := store.blocks.drop given.blocks.length
    (ended, store, { r with recorder },
      o.after (.ofSave r.index (description recorder) blocks ended) s)

/-- The recorders with their places in the row. -/
def number (recorders : List ρ) : List (Numbered ρ) :=
  recorders.zipIdx.map fun (recorder, index) => { index, recorder }

/-- The body, watched. -/
def watchBody (body : Act (RecordStore × σ) α) : Act (RecordStore × Watched α σ) α :=
  fun (store, o) =>
    let (ended, left, s) := body (store, o.inner)
    (ended, left, o.after (.body ended left) s)

variable [EventLog σ]

/-- A session that is watched. -/
def watch (recorders : List ρ) (body : Act (RecordStore × σ) α) (store : RecordStore) (s : σ) :
    Outcome α × RecordStore × Watched α σ :=
  run (number recorders) (watchBody body) (store, { inner := s })

/-- Everything that a session calls, in order. -/
def calls (recorders : List ρ) (body : Act (RecordStore × σ) α) (store : RecordStore) (s : σ) :
    List (Call α) :=
  (watch recorders body store s).2.2.calls

/-- The events that a session hands to the run log, in order; those that its recorders and its body
hand to it are not among them. -/
def reports (recorders : List ρ) (body : Act (RecordStore × σ) α) (store : RecordStore) (s : σ) :
    List LogEvent :=
  (watch recorders body store s).2.2.reports

end

/-! ## Watching changes nothing

A watched recorder projects onto the same recorder unwatched, and so does a session of them
(`run_projects`).
-/

section

variable {ρ σ α : Type}

theorem number_recorders (recorders : List ρ) :
    (number recorders).map Numbered.recorder = recorders := by
  rw [number, List.map_map]
  exact List.zipIdx_map_fst 0 recorders

@[simp] theorem number_length (recorders : List ρ) :
    (number recorders).length = recorders.length := by
  simp [number]

theorem number_indices (recorders : List ρ) :
    (number recorders).map Numbered.index = List.range' 0 (number recorders).length := by
  rw [number_length, number, List.map_map]
  exact List.zipIdx_map_snd 0 recorders

theorem watchBody_projects (body : Act (RecordStore × σ) α) :
    Act.Projects (Prod.map id Watched.inner) id (watchBody body) body := by
  rintro ⟨store, o⟩
  rw [Outcome.map_id]
  rfl

variable [Recorder ρ σ] [EventLog σ]

/-- A numbered recorder does what the recorder in it does. -/
theorem numbered_project :
    RecordersProject Numbered.recorder (Watched.inner : Watched α σ → σ) (ρ := Numbered ρ) where
  start := by
    rintro ⟨r, o⟩
    rw [Outcome.map_id]
    rfl
  stop := by
    rintro ⟨r, o⟩
    rw [Outcome.map_id]
    rfl
  save := by
    rintro ⟨store, r, o⟩
    rw [Outcome.map_id]
    rfl
  description _ := rfl
  note _ _ := rfl

/-- **Watching changes nothing.**  A session ends as it does when it is watched, with the same store
and the same state. -/
theorem run_eq_watched (recorders : List ρ) (body : Act (RecordStore × σ) α) (store : RecordStore)
    (s : σ) :
    run recorders body (store, s)
      = ((watch recorders body store s).1, (watch recorders body store s).2.1,
          (watch recorders body store s).2.2.inner) := by
  have h := run_projects numbered_project (number recorders) (watchBody_projects body)
    (store, { inner := s })
  rw [number_recorders, Outcome.map_id] at h
  exact h

end

end Session

end BusTrial
