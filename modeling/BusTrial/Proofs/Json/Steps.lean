import BusTrial.Json.Reader
import Mathlib.Tactic.Common

/-!
# Steps of a reader of JSON

What the steps of `Reading` do with the text in front of them, each said as an equation for the text
that is left, so that a reader is followed one step at a time and never unfolded as a whole.
-/

namespace BusTrial.Json.Reading

variable {α β : Type} {c d : Char} {cs rest : List Char}

/-- A reader goes on with what its first step took and left. -/
theorem bind_of_ok {reading : Reading α} {next : α → Reading β} {value : α}
    (h : reading cs = .ok (value, rest)) : (reading >>= next) cs = next value rest := by
  show (reading cs >>= fun p => next p.1 p.2) = _
  rw [h]
  rfl

@[simp] theorem next?_apply (cs : List Char) : next? cs = .ok (cs.head?, cs) := rfl

@[simp] theorem drop_apply (cs : List Char) : drop cs = .ok ((), cs.tail) := rfl

@[simp] theorem get_apply (cs : List Char) : (get : Reading (List Char)) cs = .ok (cs, cs) := rfl

@[simp] theorem pure_apply (value : α) (cs : List Char) :
    (pure value : Reading α) cs = .ok (value, cs) := rfl

/-- The character that is looked for is dropped. -/
theorem dropIf_self (c : Char) (cs : List Char) : dropIf c (c :: cs) = .ok (true, cs) := by
  rw [dropIf, bind_of_ok (next?_apply _), List.head?_cons, if_pos (beq_self_eq_true _)]
  rfl

/-- Nothing is dropped in front of another character or of the end. -/
theorem dropIf_of_ne (h : cs.head? ≠ some c) : dropIf c cs = .ok (false, cs) := by
  rw [dropIf, bind_of_ok (next?_apply _), if_neg (by simpa using h)]
  rfl

/-- The text does not begin with white space. -/
def Solid (cs : List Char) : Prop :=
  ∀ c, cs.head? = some c → isBlank c = false

/-- A text that begins with something else than a blank is solid. -/
theorem Solid.cons (h : isBlank c = false) (cs : List Char) : Solid (c :: cs) := by
  rintro _ ⟨⟩
  exact h

/-- There are no blanks to skip in front of a solid text. -/
theorem skipBlanks_of_solid (h : Solid cs) : skipBlanks cs = .ok ((), cs) := by
  have hkeep : cs.dropWhile isBlank = cs := by
    cases cs with
    | nil => rfl
    | cons c cs => rw [List.dropWhile_cons_of_neg (by simp [h c rfl])]
  show Except.ok ((), cs.dropWhile isBlank) = _
  rw [hkeep]

/-- The token of a solid text is its first character, and it stays in front. -/
theorem token?_of_solid (h : Solid cs) : token? cs = .ok (cs.head?, cs) := by
  rw [token?, bind_of_ok (skipBlanks_of_solid h)]
  rfl

/-- A word that the text begins with is read, whatever follows it. -/
theorem word_append (atEnd other : Cause) (word rest : List Char) :
    Reading.word atEnd other word (word ++ rest) = .ok ((), rest) := by
  induction word with
  | nil => rfl
  | cons c word ih =>
    rw [Reading.word, List.cons_append, bind_of_ok (dropIf_self c _)]
    exact ih

end BusTrial.Json.Reading
