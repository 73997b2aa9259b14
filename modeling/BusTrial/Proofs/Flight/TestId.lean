import BusTrial.Flight.TestId
import Mathlib.Data.List.TakeWhile
import Mathlib.Data.Option.Basic
import Mathlib.Data.String.Basic

/-!
# Names of tests, read back

A name is cut apart at its last two dots, so it can only be put together in one way.

* `cutLast_eq_some_iff` — a row of characters is cut where no dot follows;
* `parts?_eq_some_iff` — twice, so that two parts have no dots;
* **`parse_iff_display`** — a name is read exactly if it is one, and printing it gives it back.
-/

namespace BusTrial.TestId

variable {cs before last module testClass method : List Char} {text : String} {id : TestId}

/-! ## The last dot -/

theorem ne_dot_of_mem_reverse (h : '.' ∉ cs) : ∀ c ∈ cs.reverse, (c != '.') = true :=
  fun _ hc => bne_iff_ne.2 (ne_of_mem_of_not_mem (List.mem_reverse.1 hc) h)

/-- Behind the last dot there is none. -/
theorem cutLast_append (h : '.' ∉ last) :
    cutLast (before ++ '.' :: last) = some (before, last) := by
  have hreverse : (before ++ '.' :: last).reverse = last.reverse ++ '.' :: before.reverse := by simp
  have hall := ne_dot_of_mem_reverse h
  rw [cutLast, hreverse, List.dropWhile_append_of_pos hall, List.takeWhile_append_of_pos hall]
  simp

theorem cutLast_eq_none (h : '.' ∉ cs) : cutLast cs = none := by
  rw [cutLast, List.dropWhile_eq_nil_iff.2 (ne_dot_of_mem_reverse h)]

theorem exists_last_dot (h : '.' ∈ cs) : ∃ before last, cs = before ++ '.' :: last ∧ '.' ∉ last := by
  obtain ⟨front, rest, hsplit, hplain⟩ := List.eq_append_cons_of_mem (List.mem_reverse.2 h)
  refine ⟨rest.reverse, front.reverse, ?_, fun hmem => hplain (List.mem_reverse.1 hmem)⟩
  rw [← List.reverse_inj, hsplit]
  simp

/-- **Characters are cut at the last dot.** -/
theorem cutLast_eq_some_iff :
    cutLast cs = some (before, last) ↔ cs = before ++ '.' :: last ∧ '.' ∉ last := by
  constructor
  · intro h
    by_cases hdot : '.' ∈ cs
    · obtain ⟨before', last', rfl, hplain⟩ := exists_last_dot hdot
      rw [cutLast_append hplain, Option.some.injEq, Prod.mk.injEq] at h
      obtain ⟨rfl, rfl⟩ := h
      exact ⟨rfl, hplain⟩
    · rw [cutLast_eq_none hdot] at h
      cases h
  · rintro ⟨rfl, h⟩
    exact cutLast_append h

/-! ## The three parts -/

theorem parts?_eq_some_iff : parts? cs = some (module, testClass, method) ↔
    cs = (module ++ '.' :: testClass) ++ '.' :: method ∧
      (module ≠ [] ∧ testClass ≠ [] ∧ method ≠ []) ∧ '.' ∉ testClass ∧ '.' ∉ method := by
  constructor
  · intro h
    obtain ⟨⟨rest, method'⟩, hcut, h⟩ := Option.bind_eq_some_iff.1 h
    obtain ⟨⟨module', testClass'⟩, hcut', h⟩ := Option.bind_eq_some_iff.1 h
    obtain ⟨⟨⟩, hguard, h⟩ := Option.bind_eq_some_iff.1 h
    cases h
    obtain ⟨rfl, hmethod⟩ := cutLast_eq_some_iff.1 hcut
    obtain ⟨rfl, hclass⟩ := cutLast_eq_some_iff.1 hcut'
    have hne : (module ≠ [] ∧ testClass ≠ []) ∧ method ≠ [] := by
      simpa using (Option.guard_eq_some' ()).1 hguard
    exact ⟨rfl, ⟨hne.1.1, hne.1.2, hne.2⟩, hclass, hmethod⟩
  · rintro ⟨rfl, ⟨hmodule, hclass, hmethod⟩, hclass', hmethod'⟩
    have hguard : (!module.isEmpty && !testClass.isEmpty && !method.isEmpty) = true := by
      simp [hmodule, hclass, hmethod]
    refine Option.bind_eq_some_iff.2 ⟨_, cutLast_append hmethod', ?_⟩
    refine Option.bind_eq_some_iff.2 ⟨_, cutLast_append hclass', ?_⟩
    exact Option.bind_eq_some_iff.2 ⟨(), if_pos hguard, rfl⟩

/-! ## Reading names -/

/-- No part is empty, and the class and the method have no dots. -/
structure WellFormed (id : TestId) : Prop where
  named : id.module ≠ "" ∧ id.testClass ≠ "" ∧ id.method ≠ ""
  undotted : '.' ∉ id.testClass.toList ∧ '.' ∉ id.method.toList

theorem toList_display (id : TestId) : id.display.toList
    = (id.module.toList ++ '.' :: id.testClass.toList) ++ '.' :: id.method.toList := by
  simp [display]

/-- The characters of a name are those of its parts. -/
theorem parts?_display_iff : parts? text.toList
      = some (id.module.toList, id.testClass.toList, id.method.toList) ↔
    id.WellFormed ∧ text = id.display := by
  rw [parts?_eq_some_iff, ← toList_display, String.toList_inj]
  simp only [ne_eq, String.toList_eq_nil_iff]
  exact ⟨fun ⟨htext, hne, hplain⟩ => ⟨⟨hne, hplain⟩, htext⟩,
    fun ⟨⟨hne, hplain⟩, htext⟩ => ⟨htext, hne, hplain⟩⟩

theorem parse_eq_ok_iff : parse text = .ok id ↔ id.WellFormed ∧ text = id.display := by
  rw [← parts?_display_iff, parse]
  constructor
  · intro h
    split at h
    · rename_i hparts
      cases h
      simpa using hparts
    · cases h
  · intro h
    rw [h]
    simp

theorem parse_eq_ok_or_malformed (text : String) :
    (∃ id, parse text = .ok id) ∨ parse text = .error (malformed text) := by
  rw [parse]
  split
  · exact .inl ⟨_, rfl⟩
  · exact .inr rfl

/-- **Names of tests are read and printed inversely.**  A text is read exactly if it is put together
from three parts that are not empty, the last two of them without dots; these are the parts, and
printing them gives the text back.  Every other text is reported as malformed. -/
theorem parse_iff_display (text : String) :
    (∀ id, parse text = .ok id ↔
        id.WellFormed ∧ text = id.module ++ "." ++ id.testClass ++ "." ++ id.method) ∧
      (∀ id, parse text = .ok id → id.display = text) ∧
      (parse text = .error (.plain .commandLine
          ("test id \x60" ++ text ++ "\x60 is not of the form module.class.method")) ↔
        ∀ id : TestId, id.WellFormed →
          text ≠ id.module ++ "." ++ id.testClass ++ "." ++ id.method) ∧
      ∀ id : TestId, id.WellFormed → parse id.display = .ok id := by
  refine ⟨fun id => parse_eq_ok_iff, fun id h => (parse_eq_ok_iff.1 h).2.symm, ⟨?_, ?_⟩,
    fun id h => parse_eq_ok_iff.2 ⟨h, rfl⟩⟩
  · intro h id hid htext
    have hparse : parse text = .ok id := parse_eq_ok_iff.2 ⟨hid, htext⟩
    rw [hparse] at h
    cases h
  · intro h
    refine (parse_eq_ok_or_malformed text).resolve_left fun ⟨id, hid⟩ => ?_
    obtain ⟨hformed, htext⟩ := parse_eq_ok_iff.1 hid
    exact h id hformed htext

/-- A module can have dots in a row; a class cannot be left out. -/
theorem parse_iff_display_dots :
    parse "storage..mount.Case.test_x" = .ok ⟨"storage..mount", "Case", "test_x"⟩ ∧
      ∀ id : TestId, id.WellFormed →
        "mount..test_x" ≠ id.module ++ "." ++ id.testClass ++ "." ++ id.method := by
  have hname := (parse_iff_display "storage..mount.Case.test_x").1
    ⟨"storage..mount", "Case", "test_x"⟩
  have hother := (parse_iff_display "mount..test_x").2.2.1
  exact ⟨hname.2 ⟨⟨by decide, by decide⟩, by decide⟩, hother.1 rfl⟩

end BusTrial.TestId
