import BusTrial.Device.RunLog
import Mathlib.Data.List.Infix
import Mathlib.Order.Defs.Unbundled
import Mathlib.Tactic.Common

/-!
# Running actions

Three ways to reason about what an action does.

**Step by step.**  `bind_of_done`, `bind_of_failed` and `bind_of_crashed` say what becomes of a
sequence once the end of its first action is known, so that a long action is followed one step at a
time and never unfolded as a whole.

**By where it can lead.**  `Moves r act` says that the state after the action is related to the one
before it, however the action ends.  For a preorder this goes through every way of putting actions
together.  Two cases of it have names.  `Grows v act`: a list found in the state has the same items
afterwards, and perhaps more at its end, so that what is *not* in the list at the end of a long
action was never put there on the way.  `Keeps v act`: what `v` finds in the state is what it found
before.

**Through a projection.**  `Projects f g a b` says that `a`, which works on a larger state, does
exactly what `b` does when its state is seen through `f` and its value through `g`.  The relation
goes through every way of putting actions together, so that two actions built in the same way from
related parts are related.  It is what shows that *watching* an action does not change it.
-/

namespace BusTrial

deriving instance DecidableEq for Outcome

@[simp] theorem Outcome.map_id {α : Type} (ended : Outcome α) : ended.map id = ended := by
  cases ended <;> rfl

/-- An outcome without a value is an `Outcome Empty`. -/
theorem Outcome.done_or_abrupt {α : Type} (ended : Outcome α) :
    (∃ value, ended = .done value) ∨ ∃ abrupt : Outcome Empty, ended = abrupt.map Empty.elim := by
  cases ended with
  | done value => exact .inl ⟨value, rfl⟩
  | failed failure => exact .inr ⟨.failed failure, rfl⟩
  | crashed crash => exact .inr ⟨.crashed crash, rfl⟩

@[simp] theorem Outcome.done_ne_abrupt {α : Type} (value : α) (abrupt : Outcome Empty) :
    Outcome.done value ≠ abrupt.map Empty.elim := by
  cases abrupt with
  | done value => exact value.elim
  | failed failure => nofun
  | crashed crash => nofun

@[simp] theorem Outcome.abrupt_inj {α : Type} {abrupt abrupt' : Outcome Empty} :
    (abrupt.map Empty.elim : Outcome α) = abrupt'.map Empty.elim ↔ abrupt = abrupt' := by
  rcases abrupt with value | failure | crash
  · exact value.elim
  · rcases abrupt' with value | failure' | crash'
    · exact value.elim
    · simp [map]
    · simp [map]
  · rcases abrupt' with value | failure' | crash'
    · exact value.elim
    · simp [map]
    · simp [map]

namespace Act

variable {σ τ ε δ α β γ θ : Type}

/-! ## Step by step -/

/-- A sequence goes on in the state that the first action left, with its value. -/
theorem bind_of_done {act : Act σ α} {next : α → Act σ β} {s t : σ} {value : α}
    (h : act s = (.done value, t)) : (act >>= next) s = next value t := by
  show andThen act next s = _
  simp only [andThen, h]

/-- A sequence fails as its first action does. -/
theorem bind_of_failed {act : Act σ α} {next : α → Act σ β} {s t : σ} {failure : Failure}
    (h : act s = (.failed failure, t)) : (act >>= next) s = (.failed failure, t) := by
  show andThen act next s = _
  simp only [andThen, h]

/-- A sequence crashes as its first action does. -/
theorem bind_of_crashed {act : Act σ α} {next : α → Act σ β} {s t : σ} {crash : Crash}
    (h : act s = (.crashed crash, t)) : (act >>= next) s = (.crashed crash, t) := by
  show andThen act next s = _
  simp only [andThen, h]

/-- A sequence is done if all its actions are. -/
theorem bind_eq_done {act : Act σ α} {next : α → Act σ β} {s u : σ} {value : β} :
    (act >>= next) s = (.done value, u) ↔
      ∃ first t, act s = (.done first, t) ∧ next first t = (.done value, u) := by
  constructor
  · intro h
    rcases hact : act s with ⟨first | failure | crash, t⟩
    · rw [bind_of_done hact] at h
      exact ⟨first, t, rfl, h⟩
    · rw [bind_of_failed hact] at h
      cases h
    · rw [bind_of_crashed hact] at h
      cases h
  · rintro ⟨first, t, hact, hnext⟩
    rw [bind_of_done hact, hnext]

/-- An `Outcome Empty` is an end without a value: a sequence whose first action ends so does too. -/
theorem bind_of_abrupt {act : Act σ α} {next : α → Act σ β} {s t : σ} {abrupt : Outcome Empty}
    (h : act s = (abrupt.map Empty.elim, t)) :
    (act >>= next) s = (abrupt.map Empty.elim, t) := by
  cases abrupt with
  | done value => exact value.elim
  | failed failure => exact bind_of_failed h
  | crashed crash => exact bind_of_crashed h

/-- A value is a result that is no failure. -/
theorem result_of_done {act : Act σ α} {s t : σ} {value : α} (h : act s = (.done value, t)) :
    act.result s = (.done (.ok value), t) := by
  simp only [result, h]

/-- A failure is a result too. -/
theorem result_of_failed {act : Act σ α} {s t : σ} {failure : Failure}
    (h : act s = (.failed failure, t)) : act.result s = (.done (.error failure), t) := by
  simp only [result, h]

/-- A crash stays one. -/
theorem result_of_crashed {act : Act σ α} {s t : σ} {crash : Crash}
    (h : act s = (.crashed crash, t)) : act.result s = (.crashed crash, t) := by
  simp only [result, h]

/-- Looking at the result leaves the same state. -/
theorem result_snd (act : Act σ α) (s : σ) : (act.result s).2 = (act s).2 := by
  unfold result
  rcases act s with ⟨value | failure | crash, t⟩ <;> rfl

/-- An attempt is done, however the action ended. -/
theorem attempt_of {act : Act σ α} {s t : σ} {ended : Outcome α} (h : act s = (ended, t)) :
    act.attempt s = (.done ended, t) := by
  simp only [attempt, h]

/-- The part that the action had of its own is handed back with its end. -/
theorem within_of {act : Act (ε × σ) α} {x y : ε} {s t : σ} {ended : Outcome α}
    (h : act (x, s) = (ended, y, t)) : within x act s = (.done (ended, y), t) := by
  simp only [within, h]

/-- A result without a failure came from an action that was done. -/
theorem of_result_ok {act : Act σ α} {s t : σ} {value : α}
    (h : act.result s = (.done (.ok value), t)) : act s = (.done value, t) := by
  rcases hact : act s with ⟨value' | failure | crash, t'⟩ <;> simp only [result, hact] at h <;>
    cases h
  rfl

/-- A result with a failure came from an action that failed. -/
theorem of_result_error {act : Act σ α} {s t : σ} {failure : Failure}
    (h : act.result s = (.done (.error failure), t)) : act s = (.failed failure, t) := by
  rcases hact : act s with ⟨value | failure' | crash, t'⟩ <;> simp only [result, hact] at h <;>
    cases h
  rfl

/-- Working on the left part leaves the right one alone. -/
theorem onLeft_of {act : Act ε α} {x y : ε} {s : σ} {ended : Outcome α}
    (h : act x = (ended, y)) : onLeft act (x, s) = (ended, y, s) := by
  simp only [onLeft, h]

/-- Working on the right part leaves the left one alone. -/
theorem onRight_of {act : Act σ α} {x : ε} {s t : σ} {ended : Outcome α}
    (h : act s = (ended, t)) : onRight act (x, s) = (ended, x, t) := by
  simp only [onRight, h]

/-- A sequence works beside a state as its actions do. -/
theorem onRight_bind (act : Act σ α) (next : α → Act σ β) :
    (onRight (act >>= next) : Act (ε × σ) β)
      = onRight act >>= fun value => onRight (next value) := by
  funext ⟨x, s⟩
  show onRight (andThen act next) (x, s) = andThen (onRight act) (fun v => onRight (next v)) (x, s)
  simp only [onRight, andThen]
  rcases act s with ⟨value | failure | crash, t⟩ <;> rfl

/-- The action never crashes, whatever state it works on. -/
def NeverCrashes (act : Act σ α) : Prop :=
  ∀ s crash, (act s).1 ≠ .crashed crash

/-- An action that never crashes has a result. -/
theorem NeverCrashes.exists_result {act : Act σ α} (h : NeverCrashes act) (s : σ) :
    ∃ ended t, act.result s = (.done ended, t) := by
  rcases hact : act s with ⟨value | failure | crash, t⟩
  · exact ⟨_, t, result_of_done hact⟩
  · exact ⟨_, t, result_of_failed hact⟩
  · exact absurd (by rw [hact]) (h s crash)

namespace NeverCrashes

/-- An end that is not a crash is none in any state. -/
theorem settle {ended : Outcome α} (h : ∀ crash, ended ≠ .crashed crash) :
    (Act.settle ended : Act σ α).NeverCrashes :=
  fun _ => h

/-- Giving a value does not crash. -/
theorem pure (value : α) : (Pure.pure value : Act σ α).NeverCrashes :=
  fun _ _ => nofun

/-- Reading the state does not crash. -/
theorem read (f : σ → α) : (Act.read f).NeverCrashes :=
  fun _ _ => nofun

/-- Changing the state does not crash. -/
theorem change (f : σ → σ) : (Act.change f).NeverCrashes :=
  fun _ _ => nofun

/-- A result is a value or a failure. -/
theorem ofExcept (result : Except Failure α) : (Act.ofExcept result : Act σ α).NeverCrashes := by
  intro s crash
  cases result <;> nofun

/-- Reports are taken in any state. -/
theorem report [EventLog σ] (level kind : String) (members : List (String × Json)) :
    (BusTrial.report level kind members : Act σ Unit).NeverCrashes :=
  change _

/-- A sequence crashes only if one of its actions does. -/
theorem bind {act : Act σ α} {next : α → Act σ β} (first : act.NeverCrashes)
    (rest : ∀ x, (next x).NeverCrashes) : (act >>= next).NeverCrashes := by
  intro s crash
  rcases hact : act s with ⟨value | failure | other, t⟩
  · rw [bind_of_done hact]
    exact rest value t crash
  · rw [bind_of_failed hact]
    nofun
  · exact absurd (congrArg Prod.fst hact) (first s other)

/-- Taking a failure as a value brings no crash about. -/
theorem result {act : Act σ α} (h : act.NeverCrashes) : act.result.NeverCrashes := by
  intro s crash
  obtain ⟨ended, t, hact⟩ := h.exists_result s
  rw [hact]
  nofun

/-- An action that never crashes does not on the left part of a pair either. -/
theorem onLeft {act : Act ε α} (h : act.NeverCrashes) :
    (Act.onLeft act : Act (ε × σ) α).NeverCrashes :=
  fun p => h p.1

/-- Nor does it on the right part. -/
theorem onRight {act : Act σ α} (h : act.NeverCrashes) :
    (Act.onRight act : Act (ε × σ) α).NeverCrashes :=
  fun p => h p.2

end NeverCrashes

/-! ## Where an action can lead -/

/-- **`act` moves along `r`**: however it ends, the state it leaves is related to the one it began
in. -/
def Moves (r : σ → σ → Prop) (act : Act σ α) : Prop :=
  ∀ s, r s (act s).2

/-- The relation of states that have something beside them. -/
def Beside (r : σ → σ → Prop) : ε × σ → ε × σ → Prop :=
  fun p q => r p.2 q.2

instance {r : σ → σ → Prop} [IsPreorder σ r] : IsPreorder (ε × σ) (Beside r) where
  refl p := refl_of r p.2
  trans _ _ _ hpq hqr := trans_of r hpq hqr

instance (v : σ → List γ) : IsPreorder σ (fun s t => v s <+: v t) where
  refl _ := List.prefix_rfl
  trans _ _ _ h h' := h.trans h'

instance (v : σ → γ) : IsPreorder σ (fun s t => v t = v s) where
  refl _ := rfl
  trans _ _ _ h h' := h'.trans h

/-- **`act` only adds** to a list that `v` finds in the state, however it ends. -/
abbrev Grows (v : σ → List γ) (act : Act σ α) : Prop :=
  Moves (fun s t => v s <+: v t) act

/-- **`act` leaves alone** what `v` finds in the state, however it ends. -/
abbrev Keeps (v : σ → γ) (act : Act σ α) : Prop :=
  Moves (fun s t => v t = v s) act

namespace Moves

variable {r : σ → σ → Prop}

/-- What moves along a relation does beside something else. -/
theorem onRight {act : Act σ α} (h : Moves r act) :
    Moves (Beside r : ε × σ → ε × σ → Prop) (Act.onRight act) :=
  fun p => h p.2

/-- An action moves along a relation with a part of its own if it does beside that part. -/
theorem within {act : Act (ε × σ) α} (x : ε) (h : Moves (Beside r) act) :
    Moves r (Act.within x act) :=
  fun s => h (x, s)

/-- An attempt leads where the action does. -/
theorem attempt {act : Act σ α} (h : Moves r act) : Moves r act.attempt :=
  fun s => h s

/-- The result of an action leads where the action does. -/
theorem result {act : Act σ α} (h : Moves r act) : Moves r act.result := by
  intro s
  rw [result_snd]
  exact h s

/-- A change moves along a relation that it respects. -/
theorem change {f : σ → σ} (h : ∀ s, r s (f s)) : Moves r (Act.change f) :=
  h

/-- A report moves along what the run log moves along. -/
theorem report [EventLog σ] (h : ∀ e s, r s (EventLog.note e s)) (level kind : String)
    (members : List (String × Json)) : Moves r (BusTrial.report level kind members) :=
  fun s => h _ s

variable [IsPreorder σ r]

/-- Ending as given moves along every preorder. -/
theorem settle (ended : Outcome α) : Moves r (Act.settle ended) :=
  fun s => refl_of r s

/-- Giving a value moves along every preorder. -/
theorem pure (value : α) : Moves r (Pure.pure value) :=
  fun s => refl_of r s

/-- Reading the state moves along every preorder. -/
theorem read (f : σ → α) : Moves r (Act.read f) :=
  fun s => refl_of r s

/-- What is done beside the state does not move it. -/
theorem onLeft (act : Act ε α) : Moves (Beside r) (Act.onLeft act : Act (ε × σ) α) :=
  fun p => refl_of r p.2

/-- What the first action has led to, the rest of a sequence goes on from. -/
theorem after_bind {act : Act σ α} {next : α → Act σ β} (h : ∀ x, Moves r (next x)) (s : σ) :
    r (act s).2 ((act >>= next) s).2 := by
  rcases hact : act s with ⟨value | failure | crash, t⟩
  · rw [bind_of_done hact]
    exact h value t
  · rw [bind_of_failed hact]
    exact refl_of r t
  · rw [bind_of_crashed hact]
    exact refl_of r t

/-- A sequence moves along a preorder if its actions do. -/
theorem bind {act : Act σ α} {next : α → Act σ β} (first : Moves r act)
    (rest : ∀ x, Moves r (next x)) : Moves r (act >>= next) :=
  fun s => trans_of r (first s) (after_bind rest s)

end Moves

/-- What the first action has added is still there at the end of a sequence. -/
theorem Grows.prefix_bind {v : σ → List γ} {act : Act σ α} {next : α → Act σ β}
    (h : ∀ x, Grows v (next x)) (s : σ) : v (act s).2 <+: v ((act >>= next) s).2 :=
  Moves.after_bind h s

/-! ## Through a projection -/

/-- **`a` is `b` on a larger state.**  Seen through `f` and `g`, it ends as `b` does and leaves what
`b` leaves. -/
def Projects (f : σ → τ) (g : α → β) (a : Act σ α) (b : Act τ β) : Prop :=
  ∀ s, b (f s) = ((a s).1.map g, f (a s).2)

namespace Projects

variable {f : σ → τ} {g : α → β}

/-- Ending as given is the same on any state, up to the value. -/
theorem settle (ended : Outcome α) : Projects f g (Act.settle ended) (Act.settle (ended.map g)) :=
  fun _ => rfl

/-- Ending as given is the same on any state. -/
theorem settle_self (ended : Outcome α) :
    Projects f id (Act.settle ended) (Act.settle ended) := by
  intro s
  rw [Act.settle, Outcome.map_id]
  rfl

/-- Giving a value is the same on any state, up to the value. -/
theorem pure (value : α) : Projects f g (Pure.pure value) (Pure.pure (g value)) :=
  fun _ => rfl

/-- Reading a state is the same if the smaller one has what is read off the larger one. -/
theorem read {r : σ → α} {r' : τ → β} (h : ∀ s, r' (f s) = g (r s)) :
    Projects f g (Act.read r) (Act.read r') := by
  intro s
  show (Outcome.done (r' (f s)), f s) = _
  rw [h s]
  rfl

/-- Changing a state is the same if the change is that of the smaller one. -/
theorem change {c : σ → σ} {c' : τ → τ} (h : ∀ s, c' (f s) = f (c s)) :
    Projects f id (Act.change c) (Act.change c') := by
  intro s
  show (Outcome.done (), c' (f s)) = _
  rw [h s]
  rfl

/-- Ending as a result says is the same on any state. -/
theorem ofExcept (result : Except Failure α) :
    Projects f id (Act.ofExcept result) (Act.ofExcept result) := by
  cases result with
  | ok value => exact pure value
  | error failure => exact settle (.failed failure)

/-- Sequences are related when their first actions are and what follows is, for related values. -/
theorem bind {h : γ → θ} {a : Act σ α} {b : Act τ β} {k : α → Act σ γ} {l : β → Act τ θ}
    (first : Projects f g a b) (rest : ∀ x, Projects f h (k x) (l (g x))) :
    Projects f h (a >>= k) (b >>= l) := by
  intro s
  have hb := first s
  rcases ha : a s with ⟨value | failure | crash, t⟩ <;> rw [ha] at hb
  · rw [bind_of_done ha, bind_of_done hb]
    exact rest value t
  · rw [bind_of_failed ha, bind_of_failed hb]
    rfl
  · rw [bind_of_crashed ha, bind_of_crashed hb]
    rfl

/-- Attempts of related actions are related, and so are the ends that they give. -/
theorem attempt {a : Act σ α} {b : Act τ β} (h : Projects f g a b) :
    Projects f (Outcome.map g) a.attempt b.attempt := by
  intro s
  simp only [Act.attempt, h s, Outcome.map]

/-- The results of related actions are related. -/
theorem result {a : Act σ α} {b : Act τ α} (h : Projects f id a b) :
    Projects f id a.result b.result := by
  intro s
  have hb := h s
  simp only [Act.result, hb]
  rcases a s with ⟨value | failure | crash, t⟩ <;> rfl

variable {e : ε → δ}

/-- Actions on a left part are related beside any projection. -/
theorem onLeft {a : Act ε α} {b : Act δ β} (h : Projects e g a b) :
    Projects (Prod.map e f) g (Act.onLeft a) (Act.onLeft b) := by
  rintro ⟨x, s⟩
  simp only [Act.onLeft, Prod.map, h x]

/-- What is done beside the state has no part in the projection. -/
theorem onLeft_self (act : Act ε α) :
    Projects (Prod.map id f) id (Act.onLeft act) (Act.onLeft act) := by
  rintro ⟨x, s⟩
  rw [Outcome.map_id]
  rfl

/-- Related actions are so beside any change of the left part. -/
theorem onRight {a : Act σ α} {b : Act τ β} (h : Projects f g a b) :
    Projects (Prod.map e f) g (Act.onRight a) (Act.onRight b) := by
  rintro ⟨x, s⟩
  simp only [Act.onRight, Prod.map, h s]

/-- Actions with parts of their own are related if the parts are, too. -/
theorem within {a : Act (ε × σ) α} {b : Act (δ × τ) β} (x : ε)
    (h : Projects (Prod.map e f) g a b) :
    Projects f (Prod.map (Outcome.map g) e) (Act.within x a) (Act.within (e x) b) := by
  intro s
  have hb := h (x, s)
  simp only [Prod.map] at hb
  simp only [Act.within, hb, Outcome.map, Prod.map]

/-- Reports are related when the larger state hands them on. -/
theorem report [EventLog σ] [EventLog τ] (h : ∀ e s, EventLog.note e (f s) = f (EventLog.note e s))
    (level kind : String) (members : List (String × Json)) :
    Projects f id (BusTrial.report level kind members) (BusTrial.report level kind members) :=
  change (h _)

end Projects

end Act

end BusTrial
