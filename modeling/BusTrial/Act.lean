import BusTrial.Failure

/-!
# Actions

An `Act σ α` works on a state `σ` and ends in an `Outcome`: it is done with a value, it fails, or it
crashes.  The state is kept in all three cases.  Failures and crashes both end a sequence of actions;
`attempt` turns every end into a value, `result` only failures.

A state can be set beside another one: `onLeft` and `onRight` let an action work on one part of a
pair, and `within` gives an action a part of its own and hands that part back.
-/

namespace BusTrial

/-- How an action ends. -/
inductive Outcome (α : Type) where
  | done (value : α)
  | failed (failure : Failure)
  | crashed (crash : Crash)
  deriving Repr

namespace Outcome

variable {α β : Type}

/-- Changes the value. -/
def map (f : α → β) : Outcome α → Outcome β
  | .done value => .done (f value)
  | .failed failure => .failed failure
  | .crashed crash => .crashed crash

/-- The action came to its value. -/
def isDone : Outcome α → Bool
  | .done _ => true
  | _ => false

end Outcome

/-- An action on a state. -/
def Act (σ α : Type) : Type :=
  σ → Outcome α × σ

namespace Act

variable {σ ε α β : Type}

/-- Does nothing and ends as given. -/
def settle (outcome : Outcome α) : Act σ α :=
  fun s => (outcome, s)

/-- Goes on with the value of the first action. -/
def andThen (first : Act σ α) (next : α → Act σ β) : Act σ β :=
  fun s =>
    match first s with
    | (.done value, s) => next value s
    | (.failed failure, s) => (.failed failure, s)
    | (.crashed crash, s) => (.crashed crash, s)

instance : Monad (Act σ) where
  pure value := settle (.done value)
  bind := andThen

/-- Fails. -/
def fail (failure : Failure) : Act σ α :=
  settle (.failed failure)

/-- Crashes. -/
def crash (crash : Crash) : Act σ α :=
  settle (.crashed crash)

instance : MonadExceptOf Failure (Act σ) where
  throw := fail
  tryCatch act handle := fun s =>
    match act s with
    | (.failed failure, s) => handle failure s
    | other => other

/-- Reads the state. -/
def read (f : σ → α) : Act σ α :=
  fun s => (.done (f s), s)

/-- Changes the state. -/
def change (f : σ → σ) : Act σ Unit :=
  fun s => (.done (), f s)

/-- Changes the state and reads a value off the change. -/
def update (f : σ → α × σ) : Act σ α :=
  fun s => let (value, s) := f s; (.done value, s)

/-- Ends as the result says. -/
def ofExcept : Except Failure α → Act σ α
  | .ok value => pure value
  | .error failure => fail failure

/-- Turns every end into a value. -/
def attempt (act : Act σ α) : Act σ (Outcome α) :=
  fun s => let (outcome, s) := act s; (.done outcome, s)

/-- Turns a failure into a value; a crash stays one. -/
def result (act : Act σ α) : Act σ (Except Failure α) :=
  fun s =>
    match act s with
    | (.done value, s) => (.done (.ok value), s)
    | (.failed failure, s) => (.done (.error failure), s)
    | (.crashed crash, s) => (.crashed crash, s)

/-- Works on the left part of a pair. -/
def onLeft (act : Act ε α) : Act (ε × σ) α :=
  fun (x, s) => let (outcome, x) := act x; (outcome, x, s)

/-- Works on the right part of a pair. -/
def onRight (act : Act σ α) : Act (ε × σ) α :=
  fun (x, s) => let (outcome, s) := act s; (outcome, x, s)

/-- Runs an action that has a part `x` of its own beside the state, and gives that part back along
with the end of the action. -/
def within (x : ε) (act : Act (ε × σ) α) : Act σ (Outcome α × ε) :=
  fun s => let (outcome, x, s) := act (x, s); (.done (outcome, x), s)

theorem id_map_act (act : Act σ α) : id <$> act = act := by
  funext s
  change andThen act (fun a => settle (.done a)) s = act s
  unfold andThen settle
  rcases act s with ⟨_ | _ | _, s⟩ <;> rfl

theorem andThen_assoc {γ : Type} (act : Act σ α) (f : α → Act σ β) (g : β → Act σ γ) :
    andThen (andThen act f) g = andThen act fun a => andThen (f a) g := by
  funext s
  unfold andThen
  rcases act s with ⟨_ | _ | _, s⟩ <;> rfl

instance : LawfulMonad (Act σ) :=
  LawfulMonad.mk' (Act σ) id_map_act (fun _ _ => rfl) andThen_assoc

end Act

end BusTrial
