import Mathlib.Data.List.Forall2

/-!
# Deeds in a row

What an action does to the world can be told as a list of deeds.  Each kind of action has deeds of its
own, and says of each of them from which states to which it leads.  `InTurn does deeds s t` says that
the deeds lead from `s` to `t`, one after the other.

* `InTurn.grows` counts them: a list in the state to which every deed adds what it stands for has got
  longer by just that, in order;
* `InTurn.flatten` — an action of several steps is told as the deeds of its steps.
-/

namespace BusTrial

variable {σ δ γ : Type}

/-- Deeds happen one after another. -/
inductive InTurn (does : δ → σ → σ → Prop) : List δ → σ → σ → Prop where
  | nil (s : σ) : InTurn does [] s s
  | cons {d : δ} {rest : List δ} {s t u : σ} :
      does d s t → InTurn does rest t u → InTurn does (d :: rest) s u

namespace InTurn

variable {does : δ → σ → σ → Prop} {d : δ} {deeds more : List δ} {s t u : σ}

theorem single (h : does d s t) : InTurn does [d] s t :=
  .cons h (.nil t)

theorem append (first : InTurn does deeds s t) (rest : InTurn does more t u) :
    InTurn does (deeds ++ more) s u := by
  induction first with
  | nil => exact rest
  | cons h _ ih => exact .cons h (ih rest)

theorem grows {v : σ → List γ} {adds : δ → List γ}
    (step : ∀ d s t, does d s t → v t = v s ++ adds d) (h : InTurn does deeds s t) :
    v t = v s ++ deeds.flatMap adds := by
  induction h with
  | nil s => simp
  | cons first _ ih => rw [ih, step _ _ _ first, List.append_assoc, List.flatMap_cons]

/-- What happens in steps, each of them made of deeds, happens as the deeds of all steps. -/
theorem flatten {ε : Type} {takes : ε → List δ → Prop} {steps : List ε}
    (h : InTurn (fun step s t => ∃ deeds, takes step deeds ∧ InTurn does deeds s t) steps s t) :
    ∃ rows, List.Forall₂ takes steps rows ∧ InTurn does rows.flatten s t := by
  induction h with
  | nil s => exact ⟨[], .nil, .nil s⟩
  | cons first _ ih =>
    obtain ⟨deeds, htakes, hdeeds⟩ := first
    obtain ⟨rows, hrows, hrest⟩ := ih
    exact ⟨deeds :: rows, .cons htakes hrows, hdeeds.append hrest⟩

end InTurn

end BusTrial
