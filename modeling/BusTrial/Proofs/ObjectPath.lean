import BusTrial.ObjectPath
import Mathlib.Data.String.Basic
import Mathlib.Tactic.Common

/-!
# The grammar of object paths

`isValid` cuts a text at its slashes and looks at the pieces.  The grammar cuts nothing: a path is the
root, or a row of names that each stand behind a slash.

* `isElement_iff` — an element is a name of one or more letters, digits and underscores;
* `Row.pieces`, `row_of_names` — a row is cut into its names, and names are put together to a row;
* `row_append_iff` — behind another text, a row makes a row exactly if that text is one as well;
* **`isValid_iff_grammar`** — what is accepted are the root and the rows, so that paths other than the
  root can be put behind each other.
-/

namespace BusTrial

namespace ObjectPath

/-- One or more letters, digits and underscores. -/
def IsName (cs : List Char) : Prop :=
  cs ≠ [] ∧ ∀ c ∈ cs, c.isAlphanum = true ∨ c = '_'

/-- One or more names, each of them behind a slash. -/
inductive Row : List Char → Prop
  | last {name : List Char} : IsName name → Row ('/' :: name)
  | cons {name rest : List Char} : IsName name → Row rest → Row ('/' :: (name ++ rest))

variable {cs name rest : List Char}

/-! ## Names -/

theorem isElementChar_iff {c : Char} :
    isElementChar c = true ↔ c.isAlphanum = true ∨ c = '_' := by
  have hupper : c.isUpper = true ↔ 'A' ≤ c ∧ c ≤ 'Z' := decide_eq_true_iff
  have hlower : c.isLower = ('a' ≤ c && c ≤ 'z') := rfl
  have hdigit : c.isDigit = ('0' ≤ c && c ≤ '9') := rfl
  have hall : c.isAlphanum = (c.isUpper || c.isLower || c.isDigit) := rfl
  simp only [isElementChar, hall, hlower, hdigit, Bool.or_eq_true, Bool.and_eq_true,
    decide_eq_true_eq, beq_iff_eq, hupper]
  rw [or_comm (a := 'a' ≤ c ∧ c ≤ 'z')]

theorem isElement_iff : isElement cs = true ↔ IsName cs := by
  simp [isElement, IsName, isElementChar_iff]

theorem IsName.no_slash (h : IsName name) : '/' ∉ name := fun hmem =>
  absurd (h.2 '/' hmem) (by decide)

/-! ## Rows -/

theorem Row.append (h : Row cs) (hrest : Row rest) : Row (cs ++ rest) := by
  induction h with
  | last hname => exact .cons hname hrest
  | cons hname _ ih =>
    rw [List.cons_append, List.append_assoc]
    exact .cons hname ih

/-- A row is cut at its slashes into names. -/
theorem Row.pieces (h : Row cs) :
    ∃ rest, cs = '/' :: rest ∧ ∀ piece ∈ rest.splitOn '/', IsName piece := by
  induction h with
  | last hname =>
    refine ⟨_, rfl, ?_⟩
    rw [List.splitOn_eq_singleton hname.no_slash]
    exact List.forall_mem_singleton.2 hname
  | cons hname _ ih =>
    obtain ⟨rest, rfl, hrest⟩ := ih
    refine ⟨_, rfl, ?_⟩
    rw [List.splitOn_append_cons_self_of_not_mem hname.no_slash]
    exact List.forall_mem_cons.2 ⟨hname, hrest⟩

/-- Names with slashes between them are a row, behind one more slash. -/
theorem row_of_names : ∀ {names : List (List Char)}, names ≠ [] → (∀ name ∈ names, IsName name) →
    Row ('/' :: ['/'].intercalate names)
  | [], hne, _ => absurd rfl hne
  | [name], _, h => by simpa using Row.last (h name List.mem_cons_self)
  | name :: next :: more, _, h => by
    obtain ⟨hname, hmore⟩ := List.forall_mem_cons.1 h
    simpa using Row.cons hname (row_of_names (List.cons_ne_nil next more) hmore)

theorem row_iff : Row ('/' :: rest) ↔ ∀ piece ∈ rest.splitOn '/', IsName piece := by
  constructor
  · intro h
    obtain ⟨_, heq, hpieces⟩ := h.pieces
    obtain rfl := (List.cons.inj heq).2
    exact hpieces
  · intro h
    have hrow := row_of_names (List.splitOn_ne_nil '/' rest) h
    rwa [List.intercalate_splitOn] at hrow

/-- **Behind another text, a row makes a row exactly if that text is one as well.** -/
theorem row_append_iff (hrest : Row rest) : Row ('/' :: cs ++ rest) ↔ Row ('/' :: cs) := by
  obtain ⟨tail, rfl, htail⟩ := hrest.pieces
  rw [List.cons_append, row_iff, row_iff, List.splitOn_append_cons_self, List.forall_mem_append]
  exact and_iff_left htail

/-! ## Paths -/

theorem isValidChars_iff : isValidChars cs = true ↔ cs = ['/'] ∨ Row cs := by
  unfold isValidChars
  split
  · simp
  · rename_i rest hroot
    rw [row_iff, List.all_eq_true]
    simp only [isElement_iff]
    exact ⟨.inr, fun h => h.resolve_left fun heq => hroot (List.cons.inj heq).2⟩
  · rename_i hroot hslash
    refine ⟨nofun, ?_⟩
    rintro (rfl | hrow)
    · exact absurd rfl hroot
    · obtain ⟨tail, rfl, -⟩ := hrow.pieces
      exact absurd rfl (hslash tail)

theorem isValid_iff {path : String} : isValid path = true ↔ path = "/" ∨ Row path.toList := by
  have hroot : path.toList = "/".toList ↔ path = "/" := String.toList_inj
  rw [isValid, isValidChars_iff, ← hroot]
  rfl

theorem row_of_isValid {path : String} (h : isValid path = true) (hroot : path ≠ "/") :
    Row path.toList :=
  (isValid_iff.1 h).resolve_left hroot

/-- **An object path is the root, or a row of names that each stand behind a slash.**  Nothing else is
accepted, whatever its characters are; and one path behind another is a path again, if neither of them
is the root. -/
theorem isValid_iff_grammar :
    (∀ path, isValid path = true ↔ path = "/" ∨ Row path.toList) ∧
      ∀ path other, isValid path = true → isValid other = true → path ≠ "/" → other ≠ "/" →
        isValid (path ++ other) = true := by
  refine ⟨fun _ => isValid_iff, fun path other hpath hother hroot hroot' => ?_⟩
  rw [isValid_iff, String.toList_append]
  exact .inr ((row_of_isValid hpath hroot).append (row_of_isValid hother hroot'))

/-- A block device below the path of its service. -/
theorem isValid_iff_grammar_device :
    isValid "/org/freedesktop/UDisks2" = true ∧ isValid "/block_devices/sda1" = true ∧
      isValid ("/org/freedesktop/UDisks2" ++ "/block_devices/sda1") = true ∧
      ¬ Row "/org//x".toList := by
  have hservice : isValid "/org/freedesktop/UDisks2" = true := by decide
  have hdevice : isValid "/block_devices/sda1" = true := by decide
  obtain ⟨hgrammar, hjoin⟩ := isValid_iff_grammar
  have hdoubled : isValid "/org//x" = false := by decide
  refine ⟨hservice, hdevice, hjoin _ _ hservice hdevice (by decide) (by decide), fun hrow => ?_⟩
  rw [(hgrammar "/org//x").2 (.inr hrow)] at hdoubled
  cases hdoubled

end ObjectPath

end BusTrial
