import BusTrial.Proofs.Device
import BusTrial.Proofs.Session.Transport
import BusTrial.Recorder.Command
import BusTrial.Recorder.Journal

/-!
# What recorders inherit from devices

The recorders of the library touch the state only through its devices, so they move along whatever
the processes, the journal and the run log move along (`CommandRecorder.move`,
`JournalRecorder.move`), and do on a larger state what they do on a smaller one whenever the devices
project (`CommandRecorder.project`, `JournalRecorder.project`).  Recorders of two types in one row
inherit from both (`Recorder.move_sum`, `Recorder.project_sum`).

The theorems have the form that sessions ask for, `RecordersMove` and `RecordersProject`.
-/

namespace BusTrial

variable {ρ ρ' ω ω' σ τ α : Type}

/-- Whatever processes do moves along `r`. -/
structure Processes.Move [Processes σ] (r : σ → σ → Prop) : Prop where
  spawn : ∀ request, Act.Moves r (Processes.spawn request)
  wait : ∀ h, Act.Moves r (Processes.wait h)
  kill : ∀ h, Act.Moves r (Processes.kill h)
  terminate : ∀ h, Act.Moves r (Processes.terminate h)

/-- Processes do not touch what stands beside the state. -/
theorem Processes.Move.beside {ε : Type} [Processes σ] {r : σ → σ → Prop}
    (h : Processes.Move r) : Processes.Move (Act.Beside r : ε × σ → ε × σ → Prop) where
  spawn request := (h.spawn request).onRight
  wait handle := (h.wait handle).onRight
  kill handle := (h.kill handle).onRight
  terminate handle := (h.terminate handle).onRight

/-! ## Moving along a preorder -/

section

variable {r : σ → σ → Prop} [IsPreorder σ r]

/-- Ending as a result says moves along every preorder. -/
theorem Act.Moves.ofExcept (result : Except Failure α) : Act.Moves r (Act.ofExcept result) := by
  cases result with
  | ok value => exact Act.Moves.pure value
  | error failure => exact Act.Moves.settle _

variable [Processes σ]

/-- Reading the journal moves along what processes do, or along what the feed does, whichever it is
read from. -/
theorem Journal.Source.entriesSince_moves [Journal.Feed σ] (processes : Processes.Move r)
    (feed : ∀ t, Act.Moves r (Journal.Feed.entriesSince t)) (source : Journal.Source)
    (since : Instant) : Act.Moves r (source.entriesSince since) := by
  cases source with
  | feed => exact feed since
  | journalctl =>
      refine Act.Moves.bind ?_ fun out => Act.Moves.ofExcept _
      exact (processes.spawn _).bind fun h => processes.wait h

variable [EventLog σ]

/-- A command recorder touches nothing but processes and the run log. -/
theorem CommandRecorder.move (processes : Processes.Move r)
    (note : ∀ e s, r s (EventLog.note e s)) : RecordersMove CommandRecorder r where
  start := by
    show Act.Moves _ CommandRecorder.start
    rw [CommandRecorder.start]
    refine (Act.Moves.read _).bind fun recorder => (Act.Moves.ofExcept _).bind fun request => ?_
    refine (processes.spawn _).onRight.bind fun h => ?_
    exact (Act.Moves.report (fun e p => note e p.2) _ _ _).bind fun _ => Act.Moves.onLeft _
  stop := by
    show Act.Moves _ CommandRecorder.stop
    rw [CommandRecorder.stop]
    refine (Act.Moves.read _).bind fun recorder => ?_
    rcases recorder.handle with _ | h
    · exact Act.Moves.settle _
    · refine (processes.terminate h).onRight.result.bind ?_
      rintro (failure | ⟨⟨⟩⟩)
      · refine (Act.Moves.onLeft _).bind fun _ => ?_
        exact (processes.kill h).onRight.result.bind fun _ => Act.Moves.settle _
      · exact Act.Moves.onLeft _
  save := by
    show Act.Moves _ CommandRecorder.save
    rw [CommandRecorder.save]
    refine (Act.Moves.read _).bind fun recorder => ?_
    split
    · refine (Act.Moves.onLeft _).onRight.bind fun _ => ?_
      refine (processes.wait _).onRight.onRight.bind fun out => ?_
      exact (Act.Moves.report (fun e p => note e p.2.2) _ _ _).bind fun _ => Act.Moves.onLeft _
    · exact Act.Moves.settle _
  note := note

/-- A journal recorder touches nothing but processes, the feed of the journal and the run log. -/
theorem JournalRecorder.move [Clock σ] [Journal.Feed σ] (processes : Processes.Move r)
    (feed : ∀ t, Act.Moves r (Journal.Feed.entriesSince t))
    (note : ∀ e s, r s (EventLog.note e s)) : RecordersMove JournalRecorder r where
  start := by
    show Act.Moves _ JournalRecorder.start
    rw [JournalRecorder.start]
    exact (Act.Moves.read _).bind fun _ => Act.Moves.onLeft _
  stop := by
    show Act.Moves _ JournalRecorder.stop
    rw [JournalRecorder.stop]
    refine (Act.Moves.read _).bind fun recorder => ?_
    split
    · exact Act.Moves.settle _
    · exact (Act.Moves.read _).bind fun _ => Act.Moves.onLeft _
  save := by
    show Act.Moves _ JournalRecorder.save
    rw [JournalRecorder.save]
    refine (Act.Moves.read _).bind fun recorder => ?_
    split
    · refine Act.Moves.bind ?_ fun entries => ?_
      · exact Journal.Source.entriesSince_moves processes.beside.beside
          (fun t => (feed t).onRight.onRight) _ _
      split
      · exact Act.Moves.settle _
      · exact (Act.Moves.report (fun e p => note e p.2.2) _ _ _).bind fun _ => Act.Moves.onLeft _
    · exact Act.Moves.settle _
  note := note

/-! ### Recorders of two types -/

variable [Recorder ρ σ] [Recorder ω σ]

omit [Processes σ] [IsPreorder σ r] in
/-- A row with recorders of two types moves as both of them do. -/
theorem Recorder.move_sum (left : RecordersMove ρ r) (right : RecordersMove ω r) :
    RecordersMove (ρ ⊕ ω) r where
  start := by
    rintro ⟨recorder | recorder, s⟩
    · exact left.start (recorder, s)
    · exact right.start (recorder, s)
  stop := by
    rintro ⟨recorder | recorder, s⟩
    · exact left.stop (recorder, s)
    · exact right.stop (recorder, s)
  save := by
    rintro ⟨store, recorder | recorder, s⟩
    · exact left.save (store, recorder, s)
    · exact right.save (store, recorder, s)
  note := left.note

end

/-! ## Through a projection -/

section

variable {f : σ → τ} [EventLog σ] [EventLog τ]

section

variable [EventLog.Projects f] [Processes σ] [Processes τ] [Processes.Projects f]

/-- A command recorder does the same on a larger state, if processes and the run log project. -/
theorem CommandRecorder.project : RecordersProject (id : CommandRecorder → CommandRecorder) f where
  start := by
    show Act.Projects _ id CommandRecorder.start CommandRecorder.start
    rw [CommandRecorder.start, CommandRecorder.start]
    refine Act.Projects.bind (Act.Projects.read (g := id) fun _ => rfl) fun recorder => ?_
    refine (Act.Projects.ofExcept _).bind fun request => ?_
    refine (Processes.Projects.spawn _).bind fun h => (report_projects _ _ _).bind fun _ => ?_
    exact Act.Projects.onLeft_self _
  stop := by
    show Act.Projects _ id CommandRecorder.stop CommandRecorder.stop
    rw [CommandRecorder.stop, CommandRecorder.stop]
    refine Act.Projects.bind (Act.Projects.read (g := id) fun _ => rfl) fun recorder => ?_
    obtain ⟨name, words, handle, terminated⟩ := recorder
    rcases handle with _ | h
    · exact Act.Projects.settle _
    · refine (Processes.Projects.terminate h).result.bind ?_
      rintro (failure | ⟨⟨⟩⟩)
      · refine (Act.Projects.onLeft_self _).bind fun _ => ?_
        exact (Processes.Projects.kill h).result.bind fun _ => Act.Projects.settle _
      · exact Act.Projects.onLeft_self _
  save := by
    show Act.Projects _ id CommandRecorder.save CommandRecorder.save
    rw [CommandRecorder.save, CommandRecorder.save]
    refine Act.Projects.bind (Act.Projects.read (g := id) fun _ => rfl) fun recorder => ?_
    obtain ⟨name, words, handle, terminated⟩ := recorder
    rcases handle with _ | h <;> rcases terminated with _ | _ <;> try exact Act.Projects.settle _
    refine (Act.Projects.onLeft_self _).onRight.bind fun _ => ?_
    refine (Processes.Projects.wait h).bind fun out => (report_projects _ _ _).bind fun _ => ?_
    exact Act.Projects.onLeft_self _
  description _ := rfl
  note := EventLog.Projects.note

variable [Clock σ] [Clock τ] [Clock.Projects f]
variable [Journal.Feed σ] [Journal.Feed τ] [Journal.Feed.Projects f]

/-- A journal recorder does the same on a larger state, if all its devices project. -/
theorem JournalRecorder.project : RecordersProject (id : JournalRecorder → JournalRecorder) f where
  start := by
    show Act.Projects _ id JournalRecorder.start JournalRecorder.start
    rw [JournalRecorder.start, JournalRecorder.start]
    refine Act.Projects.bind (Act.Projects.read (g := id) ?_) fun stamp =>
      Act.Projects.onLeft_self _
    rintro ⟨recorder, s⟩
    exact Prod.ext (Clock.Projects.monotonic s) (Clock.Projects.now s)
  stop := by
    show Act.Projects _ id JournalRecorder.stop JournalRecorder.stop
    rw [JournalRecorder.stop, JournalRecorder.stop]
    refine Act.Projects.bind (Act.Projects.read (g := id) fun _ => rfl) fun recorder => ?_
    obtain ⟨name, source, started, stopped⟩ := recorder
    rcases started with _ | started
    · exact Act.Projects.settle _
    · refine Act.Projects.bind (Act.Projects.read (g := id) ?_) fun stamp =>
        Act.Projects.onLeft_self _
      exact fun p => Clock.Projects.monotonic p.2
  save := by
    show Act.Projects _ id JournalRecorder.save JournalRecorder.save
    rw [JournalRecorder.save, JournalRecorder.save]
    refine Act.Projects.bind (Act.Projects.read (g := id) fun _ => rfl) fun recorder => ?_
    obtain ⟨name, source, started, stopped⟩ := recorder
    rcases started with _ | ⟨started, since⟩ <;> rcases stopped with _ | stopped <;>
      try exact Act.Projects.settle _
    refine (source.entriesSince_projects _).bind fun entries => ?_
    simp only [id_eq]
    split
    · exact Act.Projects.settle _
    · exact (report_projects _ _ _).bind fun _ => Act.Projects.onLeft_self _
  description _ := rfl
  note := EventLog.Projects.note

end

/-! ### Recorders of two types -/

section

variable {e : ρ → ρ'} {d : ω → ω'}

omit [EventLog σ] [EventLog τ] in
/-- Doing one or the other projects if both do. -/
theorem Act.Projects.onEither {a : Act (ρ × σ) α} {b : Act (ω × σ) α} {a' : Act (ρ' × τ) α}
    {b' : Act (ω' × τ) α} (left : Act.Projects (Prod.map e f) id a a')
    (right : Act.Projects (Prod.map d f) id b b') :
    Act.Projects (Prod.map (Sum.map e d) f) id (Act.onEither a b) (Act.onEither a' b') := by
  rintro ⟨recorder | recorder, s⟩
  · have h := left (recorder, s)
    simp only [Prod.map] at h
    simp only [Prod.map, Sum.map_inl, Act.onEither, h]
  · have h := right (recorder, s)
    simp only [Prod.map] at h
    simp only [Prod.map, Sum.map_inr, Act.onEither, h]

variable [Recorder ρ σ] [Recorder ω σ] [Recorder ρ' τ] [Recorder ω' τ]

/-- A row with recorders of two types does the same on a larger state if both of them do. -/
theorem Recorder.project_sum (left : RecordersProject e f) (right : RecordersProject d f) :
    RecordersProject (Sum.map e d) f where
  start := left.start.onEither right.start
  stop := left.stop.onEither right.stop
  save := by
    rintro ⟨store, recorder | recorder, s⟩
    · have h := left.save (store, recorder, s)
      simp only [Prod.map] at h
      simp only [Prod.map, Sum.map_inl, Recorder.save, h]
    · have h := right.save (store, recorder, s)
      simp only [Prod.map] at h
      simp only [Prod.map, Sum.map_inr, Recorder.save, h]
  description := by
    rintro (recorder | recorder)
    · exact left.description recorder
    · exact right.description recorder
  note := left.note

end

end

end BusTrial
