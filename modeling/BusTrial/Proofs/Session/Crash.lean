import BusTrial.Proofs.Session.History

/-!
# A recorder that crashes

A session whose recorders do not crash has a history (`exists_history`).  This module is about the
others: a recorder that crashes ends the loop that it is called in, and with it the session, so that
none of the blocks that other recorders saved reach the store.

* `Calm` — an action that crashes if there is a crash among the calls that it adds; the relation
  goes through sequences, and so the loops of a session are calm (`startAll_calm`, `closeAll_calm`);
* **`run_of_crash`** — a session in which a recorder crashes crashes, and leaves the store as its
  body did.
-/

namespace BusTrial

namespace Session

variable {ρ σ τ ε α β γ : Type}

/-- `act` crashes if there is a crash among the calls that it adds to those that `v` finds. -/
def Calm (v : τ → List (Call α)) (act : Act τ β) : Prop :=
  ∀ s, Quiet (v s) → Quiet (v (act s).2) ∨ ∃ crash, (act s).1 = .crashed crash

namespace Calm

variable {v : τ → List (Call α)}

/-- What makes no calls is calm. -/
theorem of_keeps {act : Act τ β} (h : Act.Keeps v act) : Calm v act :=
  fun s quiet => Or.inl (by rwa [h s])

/-- A sequence is calm if its actions are: if the first one crashes, so does the sequence. -/
theorem bind {act : Act τ β} {next : β → Act τ γ} (first : Calm v act)
    (rest : ∀ x, Calm v (next x)) : Calm v (act >>= next) := by
  intro s quiet
  have hfirst := first s quiet
  rcases hact : act s with ⟨value | failure | crash, t⟩ <;> rw [hact] at hfirst
  · rw [Act.bind_of_done hact]
    exact rest value t (hfirst.resolve_right (by simp))
  · rw [Act.bind_of_failed hact]
    exact Or.inl (hfirst.resolve_right (by simp))
  · rw [Act.bind_of_crashed hact]
    exact Or.inr ⟨crash, rfl⟩

/-- A crash is not taken for a result. -/
theorem result {act : Act τ β} (h : Calm v act) : Calm v act.result := by
  intro s quiet
  rw [Act.result_snd]
  rcases h s quiet with hquiet | ⟨crash, hcrash⟩
  · exact Or.inl hquiet
  · refine Or.inr ⟨crash, ?_⟩
    rw [Act.result_of_crashed (Prod.ext hcrash rfl)]

/-- An action with a part of its own, if a crash of it is taken up in what follows. -/
theorem within {act : Act (ε × τ) β} {next : Outcome β × ε → Act τ γ} (x : ε)
    (h : Calm (fun p => v p.2) act) (rest : ∀ p, Calm v (next p))
    (taken : ∀ crash y s, (next (.crashed crash, y) s).1 = .crashed crash) :
    Calm v (Act.within x act >>= next) := by
  intro s quiet
  have hact := h (x, s) quiet
  rcases hraw : act (x, s) with ⟨value | failure | crash, y, t⟩ <;> rw [hraw] at hact <;>
    rw [Act.bind_of_done (Act.within_of hraw)]
  · exact rest _ t (hact.resolve_right (by simp))
  · exact rest _ t (hact.resolve_right (by simp))
  · exact Or.inr ⟨crash, taken crash y t⟩

end Calm

/-- A call that is no crash stays quiet. -/
theorem Quiet.after {calls : List (Call α)} (quiet : Quiet calls) {call : Call α}
    (h : ∀ event, call ≠ .crash event) : Quiet (calls ++ [call]) := by
  intro event hmem
  rcases List.mem_append.1 hmem with hmem | hmem
  · exact quiet event hmem
  · exact h event (List.mem_singleton.1 hmem).symm

section

variable [Recorder ρ σ]

/-- A watched start crashes if its call says so. -/
theorem start_calm : Calm Watched.callsBeside
    (Recorder.start : Act (Numbered ρ × Watched α σ) Unit) := by
  rintro ⟨r, o⟩ quiet
  rw [start_apply]
  rcases (Recorder.start : Act (ρ × σ) Unit) (r.recorder, o.inner) with
    ⟨⟨⟨⟩⟩ | failure | crash, recorder, s⟩
  · exact Or.inl (quiet.after (by rintro event ⟨⟩))
  · exact Or.inl (quiet.after (by rintro event ⟨⟩))
  · exact Or.inr ⟨crash, rfl⟩

/-- A watched stop crashes if its call says so. -/
theorem stop_calm : Calm Watched.callsBeside
    (Recorder.stop : Act (Numbered ρ × Watched α σ) Unit) := by
  rintro ⟨r, o⟩ quiet
  rw [stop_apply]
  rcases (Recorder.stop : Act (ρ × σ) Unit) (r.recorder, o.inner) with
    ⟨⟨⟨⟩⟩ | failure | crash, recorder, s⟩
  · exact Or.inl (quiet.after (by rintro event ⟨⟩))
  · exact Or.inl (quiet.after (by rintro event ⟨⟩))
  · exact Or.inr ⟨crash, rfl⟩

/-- A watched save crashes if its call says so. -/
theorem save_calm : Calm (fun p => Watched.callsBeside p.2)
    (Recorder.save : Act (RecordStore × Numbered ρ × Watched α σ) Unit) := by
  rintro ⟨given, r, o⟩ quiet
  rcases hraw : (Recorder.save : Act (RecordStore × ρ × σ) Unit) (given, r.recorder, o.inner) with
    ⟨⟨⟨⟩⟩ | failure | crash, store, recorder, s⟩ <;> simp only [Recorder.save, hraw]
  · exact Or.inl (quiet.after (by rintro event ⟨⟩))
  · exact Or.inl (quiet.after (by rintro event ⟨⟩))
  · exact Or.inr ⟨crash, rfl⟩

variable [EventLog σ]

/-- Reporting makes no call. -/
theorem reportClose_calm (phase : String) (failure : Failure) :
    Calm Watched.callsBeside
      (reportClose phase failure : Act (Numbered ρ × Watched α σ) CleanupFailure) :=
  .of_keeps fun _ => rfl

/-- A crash ends the starts, by induction on the row. -/
theorem startAll_calm :
    ∀ rs : List (Numbered ρ), Calm Watched.calls (startAll rs : Act (Watched α σ) _)
  | [] => .of_keeps (Act.Moves.pure _)
  | r :: rest => by
      refine Calm.within r start_calm.result (fun p => ?_) fun _ _ _ => rfl
      refine Calm.bind (.of_keeps (Act.Moves.settle _)) ?_
      rintro (failure | ⟨⟨⟩⟩)
      · exact .of_keeps fun _ => rfl
      · exact (startAll_calm rest).bind fun _ => .of_keeps (Act.Moves.pure _)

/-- A crash ends the closing of a recorder. -/
theorem closeOne_calm : Calm Watched.callsBeside (closeOne : Act (Numbered ρ × Watched α σ) _) := by
  have hsave : Calm (fun p => Watched.callsBeside p.2)
      (Recorder.save : Act (RecordStore × Numbered ρ × Watched α σ) Unit).result :=
    save_calm.result
  refine stop_calm.result.bind ?_
  rintro (failure | ⟨⟨⟩⟩)
  · exact (reportClose_calm _ _).bind fun _ => .of_keeps (Act.Moves.pure _)
  · refine Calm.within {} hsave (fun p => ?_) ?_
    · refine Calm.bind (.of_keeps (Act.Moves.settle _)) ?_
      rintro (failure | ⟨⟨⟩⟩)
      · exact (reportClose_calm _ _).bind fun _ => .of_keeps (Act.Moves.pure _)
      · exact .of_keeps (Act.Moves.pure _)
    · exact fun _ _ _ => rfl

/-- A crash ends the closing of a row. -/
theorem closeAll_calm :
    ∀ rs : List (Numbered ρ), Calm Watched.calls (closeAll rs : Act (Watched α σ) _)
  | [] => .of_keeps (Act.Moves.pure _)
  | r :: rest => by
      refine (closeAll_calm rest).bind fun inner => ?_
      refine Calm.within r closeOne_calm (fun p => ?_) fun _ _ _ => rfl
      exact Calm.bind (.of_keeps (Act.Moves.settle _)) fun _ => .of_keeps (Act.Moves.pure _)

/-- The store is left alone by a closing in which a recorder crashes. -/
theorem closeInto_calm (rs : List (Numbered ρ)) (store : RecordStore) (o : Watched α σ)
    (quiet : Quiet o.calls) :
    Quiet (closeInto rs (store, o)).2.2.calls ∨
      ∃ crash t, closeInto rs (store, o) = (.crashed crash, store, t) := by
  have hall := closeAll_calm rs o quiet
  rcases hraw : closeAll rs o with ⟨closing | failure | crash, t⟩ <;> rw [hraw] at hall <;>
    have hright := Act.onRight_of (x := store) hraw <;> rw [closeInto]
  · rw [Act.bind_of_done hright]
    exact Or.inl (hall.resolve_right (by simp))
  · rw [Act.bind_of_failed hright]
    exact Or.inl (hall.resolve_right (by simp))
  · exact Or.inr ⟨crash, t, Act.bind_of_crashed hright⟩

/-- What follows the closing of the recorders makes no calls. -/
theorem after_closeInto {rs : List (Numbered ρ)} {store : RecordStore} {o : Watched α σ}
    {next : Closing → Act (RecordStore × Watched α σ) β}
    (h : ∀ closing, Act.Keeps Watched.callsBeside (next closing)) (quiet : Quiet o.calls) :
    Quiet (Watched.callsBeside ((closeInto rs >>= next) (store, o)).2) ∨
      ∃ crash t, (closeInto rs >>= next) (store, o) = (.crashed crash, store, t) := by
  rcases closeInto_calm rs store o quiet with hquiet | ⟨crash, t, hcrash⟩
  · have hkept : Watched.callsBeside ((closeInto rs >>= next) (store, o)).2
        = Watched.callsBeside (closeInto rs (store, o)).2 := Act.Moves.after_bind h (store, o)
    exact Or.inl (by rwa [hkept])
  · exact Or.inr ⟨crash, t, Act.bind_of_crashed hcrash⟩

/-- How a watched session goes in which no recorder crashes, or else. -/
theorem watch_calm (recorders : List ρ) (body : Act (RecordStore × σ) α) (store : RecordStore)
    (s : σ) :
    Quiet (calls recorders body store s) ∨
      ∃ crash left o, watch recorders body store s = (.crashed crash, left, o) ∧
        (left = store ∨ ∃ u ended t, body (store, u) = (ended, left, t)) := by
  obtain ⟨e, hbegins⟩ := run_begins (number recorders) (watchBody body) store { inner := s }
  set o₀ : Watched α σ := EventLog.note e { inner := s }
  have hstart := startAll_calm (number recorders) o₀ fun _ => List.not_mem_nil
  -- a crash among the starts ends the session there; else the closing is what may still crash
  rw [calls, watch, hbegins]
  rcases hraw : startAll (number recorders) o₀ with ⟨⟨started, failure⟩ | failure | crash, o₁⟩ <;>
    rw [hraw] at hstart
  · have hquiet := hstart.resolve_right (by simp)
    rw [Act.bind_of_done (Act.onRight_of hraw)]
    cases failure with
    | some failure =>
        refine (after_closeInto (fun _ => Act.Moves.settle _) hquiet).imp_right ?_
        rintro ⟨crash, t, hcrash⟩
        exact ⟨crash, store, t, hcrash, Or.inl rfl⟩
    | none =>
        rcases hbody : body (store, o₁.inner) with ⟨ended, left, s'⟩
        have hattempt : (watchBody body).attempt (store, o₁)
            = (.done ended, left, o₁.after (.body ended left) s') := by
          simp only [Act.attempt, watchBody, hbody]
        have hquiet' : Quiet (o₁.after (.body ended left) s').calls := hquiet.after (by rintro event ⟨⟩)
        show Quiet (Watched.callsBeside (carryOut started (watchBody body) (store, o₁)).2) ∨
          ∃ crash left o,
            carryOut started (watchBody body) (store, o₁) = (.crashed crash, left, o) ∧ _
        rw [carryOut, Act.bind_of_done hattempt]
        refine (after_closeInto (fun closing => ?_) hquiet').imp_right ?_
        · exact (Act.Moves.report (fun _ _ => rfl) _ _ _).bind fun _ => Act.Moves.settle _
        · rintro ⟨crash, t, hcrash⟩
          exact ⟨crash, left, t, hcrash, Or.inr ⟨_, _, _, hbody⟩⟩
  · rw [Act.bind_of_failed (Act.onRight_of hraw)]
    exact Or.inl (hstart.resolve_right (by simp))
  · exact Or.inr ⟨crash, store, o₁, Act.bind_of_crashed (Act.onRight_of hraw), Or.inl rfl⟩

/-- **A session in which a recorder crashes crashes.**  Its store is as the body left it, or as it
was if no body was run: what the other recorders saved is lost. -/
theorem run_of_crash {recorders : List ρ} {body : Act (RecordStore × σ) α} {store : RecordStore}
    {s : σ} (h : ¬ Quiet (calls recorders body store s)) :
    ∃ crash left t, run recorders body (store, s) = (.crashed crash, left, t) ∧
      (left = store ∨ ∃ u ended t', body (store, u) = (ended, left, t')) := by
  obtain ⟨crash, left, o, hwatch, hleft⟩ := (watch_calm recorders body store s).resolve_left h
  exact ⟨crash, left, o.inner, by rw [run_eq_watched, hwatch], hleft⟩

end

end Session

end BusTrial
