import BusTrial.Proofs.Session.Crash

/-!
# Where the crash of a session comes from

A session crashes on the way only because one of its recorders does (`Recorder.Crashes`).  By then
that recorder is no longer as it was in the row: it may have been started and stopped.  What is still
known of it is whatever recorders keep while they are started, stopped and saved (`Recorder.Keeps`).

* `calls_projects` — a session makes the same calls on a larger state as on a smaller one;
* `quiet_or_crashes` — if a recorder crashes in a session, there is one that can;
* **`exists_crashes`** — and that one has every property that all recorders of the row have and
  keep.  Such recorders are a type of recorders of their own (`Recorder.keeping`), and a session of
  them makes the calls of the session in question.
-/

namespace BusTrial

variable {ρ ρ' σ τ α : Type}

/-- The recorder crashes on some state when it is started, stopped or saved. -/
inductive Recorder.Crashes (σ : Type) [Recorder ρ σ] (r : ρ) : Prop
  | start (s : σ) (crash : Crash) :
    ((Recorder.start : Act (ρ × σ) Unit) (r, s)).1 = .crashed crash → Crashes σ r
  | stop (s : σ) (crash : Crash) :
    ((Recorder.stop : Act (ρ × σ) Unit) (r, s)).1 = .crashed crash → Crashes σ r
  | save (store : RecordStore) (s : σ) (crash : Crash) :
    ((Recorder.save : Act (RecordStore × ρ × σ) Unit) (store, r, s)).1 = .crashed crash →
      Crashes σ r

/-- Whether a recorder crashes depends on how its requests end, and on nothing else. -/
theorem Recorder.Crashes.of_ends [Recorder ρ σ] [Recorder ρ' σ] {r : ρ} {r' : ρ'}
    (hstart : ∀ s : σ, ((Recorder.start : Act (ρ' × σ) Unit) (r', s)).1
      = ((Recorder.start : Act (ρ × σ) Unit) (r, s)).1)
    (hstop : ∀ s : σ, ((Recorder.stop : Act (ρ' × σ) Unit) (r', s)).1
      = ((Recorder.stop : Act (ρ × σ) Unit) (r, s)).1)
    (hsave : ∀ (store : RecordStore) (s : σ),
      ((Recorder.save : Act (RecordStore × ρ' × σ) Unit) (store, r', s)).1
        = ((Recorder.save : Act (RecordStore × ρ × σ) Unit) (store, r, s)).1)
    (h : Recorder.Crashes σ r) : Recorder.Crashes σ r' := by
  cases h with
  | start s crash h => exact .start s crash ((hstart s).trans h)
  | stop s crash h => exact .stop s crash ((hstop s).trans h)
  | save store s crash h => exact .save store s crash ((hsave store s).trans h)

/-- Recorders with the property still have it after they are started, stopped or saved. -/
structure Recorder.Keeps (σ : Type) [Recorder ρ σ] (holds : ρ → Prop) : Prop where
  start : ∀ r (s : σ), holds r → holds ((Recorder.start : Act (ρ × σ) Unit) (r, s)).2.1
  stop : ∀ r (s : σ), holds r → holds ((Recorder.stop : Act (ρ × σ) Unit) (r, s)).2.1
  save : ∀ store r (s : σ), holds r →
    holds ((Recorder.save : Act (RecordStore × ρ × σ) Unit) (store, r, s)).2.2.1

/-- The recorders that have a property are recorders themselves, if they keep it. -/
abbrev Recorder.keeping [Recorder ρ σ] {holds : ρ → Prop} (keeps : Recorder.Keeps σ holds) :
    Recorder {r : ρ // holds r} σ where
  description r := description r.1
  start := fun (r, s) =>
    let x := (Recorder.start : Act (ρ × σ) Unit) (r.1, s)
    (x.1, ⟨x.2.1, keeps.start r.1 s r.2⟩, x.2.2)
  stop := fun (r, s) =>
    let x := (Recorder.stop : Act (ρ × σ) Unit) (r.1, s)
    (x.1, ⟨x.2.1, keeps.stop r.1 s r.2⟩, x.2.2)
  save := fun (store, r, s) =>
    let x := (Recorder.save : Act (RecordStore × ρ × σ) Unit) (store, r.1, s)
    (x.1, x.2.1, ⟨x.2.2.1, keeps.save store r.1 s r.2⟩, x.2.2.2)

/-! ## Recorders in others -/

section

variable {ω : Type} [Recorder ρ σ] [EventLog σ]

/-- A recorder that does what the one in it does crashes exactly if that one does. -/
theorem RecordersProject.crashes_iff [Recorder ρ' σ] {e : ρ → ρ'}
    (h : RecordersProject e (id : σ → σ)) {r : ρ} :
    Recorder.Crashes σ (e r) ↔ Recorder.Crashes σ r := by
  have hstart (s : σ) := (congrArg Prod.fst (h.start (r, s))).trans (Outcome.map_id _)
  have hstop (s : σ) := (congrArg Prod.fst (h.stop (r, s))).trans (Outcome.map_id _)
  have hsave (store : RecordStore) (s : σ) :=
    (congrArg Prod.fst (h.save (store, r, s))).trans (Outcome.map_id _)
  exact ⟨.of_ends (fun s => (hstart s).symm) (fun s => (hstop s).symm)
    fun store s => (hsave store s).symm, .of_ends hstart hstop hsave⟩

theorem Recorder.inl_project [Recorder ω σ] :
    RecordersProject (Sum.inl : ρ → ρ ⊕ ω) (id : σ → σ) where
  start _ := by rw [Outcome.map_id]; rfl
  stop _ := by rw [Outcome.map_id]; rfl
  save _ := by rw [Outcome.map_id]; rfl
  description _ := rfl
  note _ _ := rfl

theorem Recorder.inr_project [Recorder ω σ] :
    RecordersProject (Sum.inr : ω → ρ ⊕ ω) (id : σ → σ) where
  start _ := by rw [Outcome.map_id]; rfl
  stop _ := by rw [Outcome.map_id]; rfl
  save _ := by rw [Outcome.map_id]; rfl
  description _ := rfl
  note _ _ := rfl

end

namespace Session

/-! ## The same calls on a larger state -/

section

variable {e : ρ → ρ'} {f : σ → τ}

/-- The numbered recorder with another one in it. -/
def Numbered.map (e : ρ → ρ') (r : Numbered ρ) : Numbered ρ' where
  index := r.index
  recorder := e r.recorder

/-- The watched state seen through a function. -/
def Watched.map (f : σ → τ) (o : Watched α σ) : Watched α τ :=
  { o with inner := f o.inner }

theorem number_map (e : ρ → ρ') (recorders : List ρ) :
    number (recorders.map e) = (number recorders).map (Numbered.map e) := by
  rw [number, number, List.zipIdx_map, List.map_map, List.map_map]
  rfl

theorem watchBody_map {body : Act (RecordStore × σ) α} {body' : Act (RecordStore × τ) α}
    (h : Act.Projects (Prod.map id f) id body body') :
    Act.Projects (Prod.map id (Watched.map f)) id (watchBody body) (watchBody body') := by
  rintro ⟨store, o⟩
  have hbody := h (store, o.inner)
  rw [Outcome.map_id] at hbody ⊢
  simp only [Prod.map, id_eq] at hbody
  simp only [watchBody, Watched.map, Prod.map, id_eq, hbody]
  rfl

variable [Recorder ρ σ] [EventLog σ] [Recorder ρ' τ] [EventLog τ]

/-- Recorders that project still do when they are numbered and watched. -/
theorem numbered_map (h : RecordersProject e f) :
    RecordersProject (Numbered.map e) (Watched.map f : Watched α σ → Watched α τ) where
  start := by
    rintro ⟨r, o⟩
    have hstart := h.start (r.recorder, o.inner)
    rw [Outcome.map_id] at hstart ⊢
    simp only [Prod.map] at hstart
    simp only [Recorder.start, Numbered.map, Watched.map, Prod.map, hstart]
    rfl
  stop := by
    rintro ⟨r, o⟩
    have hstop := h.stop (r.recorder, o.inner)
    rw [Outcome.map_id] at hstop ⊢
    simp only [Prod.map] at hstop
    simp only [Recorder.stop, Numbered.map, Watched.map, Prod.map, hstop, h.description]
    rfl
  save := by
    rintro ⟨store, r, o⟩
    have hsave := h.save (store, r.recorder, o.inner)
    rw [Outcome.map_id] at hsave ⊢
    simp only [Prod.map, id_eq] at hsave
    simp only [Recorder.save, Numbered.map, Watched.map, Prod.map, id_eq, hsave, h.description]
    rfl
  description r := h.description r.recorder
  note event o := by
    show Watched.mk _ _ (EventLog.note event (f o.inner)) = _
    rw [h.note]
    rfl

/-- **A session on a larger state makes the calls of the session on the smaller one**, if its
recorders and its body project. -/
theorem calls_projects (h : RecordersProject e f) (recorders : List ρ)
    {body : Act (RecordStore × σ) α} {body' : Act (RecordStore × τ) α}
    (hbody : Act.Projects (Prod.map id f) id body body') (store : RecordStore) (s : σ) :
    calls (recorders.map e) body' store (f s) = calls recorders body store s := by
  have hrun := run_projects (numbered_map h) (number recorders) (watchBody_map hbody)
    (store, { inner := s })
  rw [← number_map] at hrun
  exact congrArg (fun x => x.2.2.calls) hrun

end

/-! ## The recorder that crashes -/

section

variable [Recorder ρ σ]

/-- Without a crash the calls stay without one, unless there is a recorder that crashes. -/
def Blames (ρ : Type) [Recorder ρ σ] (o o' : Watched α σ) : Prop :=
  Quiet o.calls → Quiet o'.calls ∨ ∃ r : ρ, Recorder.Crashes σ r

instance : IsPreorder (Watched α σ) (Blames ρ) where
  refl _ quiet := .inl quiet
  trans _ _ _ h h' quiet := (h quiet).elim h' .inr

variable [EventLog σ]

/-- A watched recorder adds a crash to the calls only if the recorder in it crashes. -/
theorem numbered_blame : RecordersMove (Numbered ρ) (Blames ρ : Watched α σ → Watched α σ → Prop)
    where
  start := by
    rintro ⟨r, o⟩ quiet
    obtain hquiet | ⟨crash, hcrash⟩ := start_calm (r, o) quiet
    · exact .inl hquiet
    · exact .inr ⟨r.recorder, .start o.inner crash hcrash⟩
  stop := by
    rintro ⟨r, o⟩ quiet
    obtain hquiet | ⟨crash, hcrash⟩ := stop_calm (r, o) quiet
    · exact .inl hquiet
    · exact .inr ⟨r.recorder, .stop o.inner crash hcrash⟩
  save := by
    rintro ⟨store, r, o⟩ quiet
    obtain hquiet | ⟨crash, hcrash⟩ := save_calm (store, r, o) quiet
    · exact .inl hquiet
    · exact .inr ⟨r.recorder, .save store o.inner crash hcrash⟩
  note _ _ quiet := .inl quiet

/-- If a recorder crashes in a session, there is one that can. -/
theorem quiet_or_crashes (recorders : List ρ) (body : Act (RecordStore × σ) α)
    (store : RecordStore) (s : σ) :
    Quiet (calls recorders body store s) ∨ ∃ r : ρ, Recorder.Crashes σ r := by
  have hbody : Act.Moves (Act.Beside (Blames ρ)) (watchBody body) :=
    fun _ quiet => .inl (quiet.after (by rintro event ⟨⟩))
  exact run_moves numbered_blame (number recorders) hbody (store, { inner := s })
    fun _ => List.not_mem_nil

/-- **The recorder that crashes is like those of the row**: it has every property that all of them
have and that recorders keep. -/
theorem exists_crashes {holds : ρ → Prop} (keeps : Recorder.Keeps σ holds) {recorders : List ρ}
    (hall : ∀ r ∈ recorders, holds r) {body : Act (RecordStore × σ) α} {store : RecordStore} {s : σ}
    (h : ¬ Quiet (calls recorders body store s)) : ∃ r, holds r ∧ Recorder.Crashes σ r := by
  let _ : Recorder {r : ρ // holds r} σ := Recorder.keeping keeps
  have hproject : RecordersProject (Subtype.val : {r : ρ // holds r} → ρ) (id : σ → σ) :=
    { start := fun x => by rw [Outcome.map_id]; rfl
      stop := fun x => by rw [Outcome.map_id]; rfl
      save := fun x => by rw [Outcome.map_id]; rfl
      description := fun _ => rfl
      note := fun _ _ => rfl }
  have hbody : Act.Projects (Prod.map id id) id body body := fun x => by rw [Outcome.map_id]; rfl
  have hcalls := calls_projects hproject (recorders.attachWith holds hall) hbody store s
  rw [List.attachWith_map_subtype_val] at hcalls
  obtain ⟨⟨r, hr⟩, hcrash⟩ :=
    (quiet_or_crashes (recorders.attachWith holds hall) body store s).resolve_left (hcalls ▸ h)
  exact ⟨r, hr, hproject.crashes_iff.2 hcrash⟩

end

end Session

end BusTrial
