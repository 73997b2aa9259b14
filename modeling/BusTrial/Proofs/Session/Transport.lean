import BusTrial.Proofs.Act
import BusTrial.Recorder.Session

/-!
# What a session inherits from its recorders

A session does nothing to a state but start, stop and save its recorders, run its body and report.
Two things that hold of all these therefore hold of the session.

* **`run_moves`** — if the recorders, the body and the run log move along a preorder
  (`RecordersMove`), the session does.
* **`run_projects`** — if the recorders and the body do on a larger state what others do on a
  smaller one (`RecordersProject`), the whole session does.

Both go part by part through the definitions: where those put two actions together, the lemmas do.
-/

namespace BusTrial

variable {ρ ρ' σ τ α : Type}

/-- Whatever recorders of a type do, and whatever is reported, moves along `r`. -/
structure RecordersMove (ρ : Type) [Recorder ρ σ] [EventLog σ] (r : σ → σ → Prop) : Prop where
  start : Act.Moves (Act.Beside r) (Recorder.start : Act (ρ × σ) Unit)
  stop : Act.Moves (Act.Beside r) (Recorder.stop : Act (ρ × σ) Unit)
  save : Act.Moves (Act.Beside (Act.Beside r)) (Recorder.save : Act (RecordStore × ρ × σ) Unit)
  note : ∀ e s, r s (EventLog.note e s)

/-- Recorders do on a larger state what the recorders in them do on a smaller one, under the same
names, and reports are handed on. -/
structure RecordersProject [Recorder ρ σ] [EventLog σ] [Recorder ρ' τ] [EventLog τ] (e : ρ → ρ')
    (f : σ → τ) : Prop where
  start : Act.Projects (Prod.map e f) id (Recorder.start : Act (ρ × σ) Unit)
    (Recorder.start : Act (ρ' × τ) Unit)
  stop : Act.Projects (Prod.map e f) id (Recorder.stop : Act (ρ × σ) Unit)
    (Recorder.stop : Act (ρ' × τ) Unit)
  save : Act.Projects (Prod.map id (Prod.map e f)) id
    (Recorder.save : Act (RecordStore × ρ × σ) Unit)
    (Recorder.save : Act (RecordStore × ρ' × τ) Unit)
  description : ∀ r, description (e r) = description r
  note : ∀ event s, EventLog.note event (f s) = f (EventLog.note event s)

namespace Session

/-! ## Moving along a preorder -/

section

variable [Recorder ρ σ] [EventLog σ] {r : σ → σ → Prop} [IsPreorder σ r]

/-- Reporting a failed stop or save is one report. -/
theorem reportClose_moves (note : ∀ e s, r s (EventLog.note e s)) (phase : String)
    (failure : Failure) :
    Act.Moves (Act.Beside r) (reportClose phase failure : Act (ρ × σ) CleanupFailure) :=
  (Act.Moves.read _).bind fun _ =>
    (Act.Moves.report (fun e p => note e p.2) _ _ _).bind fun _ => Act.Moves.pure _

/-- Starting a row of recorders moves as each start does, by induction on the row. -/
theorem startAll_moves (h : RecordersMove ρ r) : ∀ rs : List ρ, Act.Moves r (startAll rs : Act σ _)
  | [] => Act.Moves.pure _
  | first :: rest => by
      refine (h.start.result.within first).bind fun x => (Act.Moves.settle _).bind ?_
      rintro (failure | ⟨⟨⟩⟩)
      · exact (Act.Moves.report h.note _ _ _).bind fun _ => Act.Moves.pure _
      · exact (startAll_moves h rest).bind fun _ => Act.Moves.pure _

/-- Closing a recorder stops it and perhaps saves it, and reports. -/
theorem closeOne_moves (h : RecordersMove ρ r) :
    Act.Moves (Act.Beside r) (closeOne : Act (ρ × σ) _) := by
  refine h.stop.result.bind ?_
  rintro (failure | ⟨⟨⟩⟩)
  · exact (reportClose_moves h.note _ _).bind fun _ => Act.Moves.pure _
  · refine (h.save.result.within {}).bind fun x => (Act.Moves.settle _).bind ?_
    rintro (failure | ⟨⟨⟩⟩)
    · exact (reportClose_moves h.note _ _).bind fun _ => Act.Moves.pure _
    · exact Act.Moves.pure _

/-- Closing a row of recorders moves as each closing does. -/
theorem closeAll_moves (h : RecordersMove ρ r) : ∀ rs : List ρ, Act.Moves r (closeAll rs : Act σ _)
  | [] => Act.Moves.pure _
  | first :: rest =>
      (closeAll_moves h rest).bind fun _ => ((closeOne_moves h).within first).bind fun _ =>
        (Act.Moves.settle _).bind fun _ => Act.Moves.pure _

/-- Handing the blocks to the store does not touch the state. -/
theorem closeInto_moves (h : RecordersMove ρ r) (rs : List ρ) :
    Act.Moves (Act.Beside r) (closeInto rs : Act (RecordStore × σ) _) :=
  (closeAll_moves h rs).onRight.bind fun _ => (Act.Moves.onLeft _).bind fun _ => Act.Moves.pure _

/-- **A session moves along whatever its parts move along.** -/
theorem run_moves (h : RecordersMove ρ r) (recorders : List ρ) {body : Act (RecordStore × σ) α}
    (hbody : Act.Moves (Act.Beside r) body) : Act.Moves (Act.Beside r) (run recorders body) := by
  refine (Act.Moves.report (fun e p => h.note e p.2) _ _ _).bind fun _ => ?_
  refine (startAll_moves h recorders).onRight.bind ?_
  rintro ⟨started, failure | _⟩
  · refine hbody.attempt.bind fun _ => (closeInto_moves h started).bind fun _ => ?_
    exact (Act.Moves.report (fun e p => h.note e p.2) _ _ _).bind fun _ => Act.Moves.settle _
  · exact (closeInto_moves h started).bind fun _ => Act.Moves.settle _

end

/-! ## Through a projection -/

section

variable [Recorder ρ σ] [EventLog σ] [Recorder ρ' τ] [EventLog τ] {e : ρ → ρ'} {f : σ → τ}

/-- Starting a row of recorders projects if each of them does: the same ones are started. -/
theorem startAll_projects (h : RecordersProject e f) :
    ∀ rs : List ρ, Act.Projects f (Prod.map (List.map e) id) (startAll rs) (startAll (rs.map e))
  | [] => Act.Projects.pure _
  | r :: rest => by
      refine (h.start.result.within r).bind ?_
      rintro ⟨ended, r'⟩
      refine (Act.Projects.settle ended).bind ?_
      rintro (failure | ⟨⟨⟩⟩)
      · simp only [h.description]
        exact (Act.Projects.report h.note _ _ _).bind fun _ => Act.Projects.pure _
      · exact (startAll_projects h rest).bind fun _ => Act.Projects.pure _

/-- A failure is reported under the same name. -/
theorem reportClose_projects (h : RecordersProject e f) (phase : String) (failure : Failure) :
    Act.Projects (Prod.map e f) id (reportClose phase failure : Act (ρ × σ) CleanupFailure)
      (reportClose phase failure : Act (ρ' × τ) CleanupFailure) := by
  refine Act.Projects.bind (Act.Projects.read (g := id) ?_) fun name => ?_
  · exact fun p => h.description p.1
  · refine (Act.Projects.report (fun event p => ?_) _ _ _).bind fun _ => Act.Projects.pure _
    exact Prod.ext rfl (h.note event p.2)

/-- Closing a recorder leaves the same blocks and the same failure. -/
theorem closeOne_projects (h : RecordersProject e f) :
    Act.Projects (Prod.map e f) id (closeOne : Act (ρ × σ) _) (closeOne : Act (ρ' × τ) _) := by
  refine h.stop.result.bind ?_
  rintro (failure | ⟨⟨⟩⟩)
  · exact Act.Projects.bind (reportClose_projects h _ _) fun _ => Act.Projects.pure _
  · refine (h.save.result.within {}).bind ?_
    rintro ⟨ended, slot⟩
    refine (Act.Projects.settle ended).bind ?_
    rintro (failure | ⟨⟨⟩⟩)
    · exact Act.Projects.bind (reportClose_projects h _ _) fun _ => Act.Projects.pure _
    · exact Act.Projects.pure _

/-- Closing a row of recorders leaves the same blocks and failures. -/
theorem closeAll_projects (h : RecordersProject e f) :
    ∀ rs : List ρ, Act.Projects f id (closeAll rs) (closeAll (rs.map e))
  | [] => Act.Projects.pure _
  | r :: rest => by
      refine (closeAll_projects h rest).bind fun inner => ?_
      refine ((closeOne_projects h).within r).bind ?_
      rintro ⟨ended, r'⟩
      exact (Act.Projects.settle ended).bind fun _ => Act.Projects.pure _

/-- The same blocks are handed to the store. -/
theorem closeInto_projects (h : RecordersProject e f) (rs : List ρ) :
    Act.Projects (Prod.map id f) id (closeInto rs) (closeInto (rs.map e)) := by
  refine (closeAll_projects h rs).onRight.bind fun closing => ?_
  refine Act.Projects.bind (Act.Projects.onLeft (Act.Projects.change ?_)) fun _ => ?_
  · exact fun _ => rfl
  · exact Act.Projects.pure _

/-- **A session on a larger state is the session on the smaller one**, if its recorders and its body
are. -/
theorem run_projects (h : RecordersProject e f) (recorders : List ρ)
    {body : Act (RecordStore × σ) α} {body' : Act (RecordStore × τ) α}
    (hbody : Act.Projects (Prod.map id f) id body body') :
    Act.Projects (Prod.map id f) id (run recorders body) (run (recorders.map e) body') := by
  have hnames : (recorders.map e).map description = recorders.map description := by
    rw [List.map_map]
    exact List.map_congr_left fun r _ => h.description r
  have hnote : ∀ event (p : RecordStore × σ),
      EventLog.note event (Prod.map id f p) = Prod.map id f (EventLog.note event p) :=
    fun event p => Prod.ext rfl (h.note event p.2)
  rw [run, run, hnames]
  refine (Act.Projects.report hnote _ _ _).bind fun _ => ?_
  refine (startAll_projects h recorders).onRight.bind ?_
  rintro ⟨started, failure | _⟩
  · refine hbody.attempt.bind fun ended => ?_
    refine (closeInto_projects h started).bind fun closing => ?_
    rw [Outcome.map_id]
    exact (Act.Projects.report hnote _ _ _).bind fun _ => Act.Projects.settle_self _
  · exact (closeInto_projects h started).bind fun closing => Act.Projects.settle _

end

end Session

end BusTrial
