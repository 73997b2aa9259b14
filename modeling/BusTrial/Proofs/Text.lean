import BusTrial.Text.Split
import Mathlib.Data.List.Infix
import Mathlib.Data.String.Basic

/-!
# Cutting texts

`takeBytes` goes through a text character by character.  What it takes is a start of the text that
fits into the budget, and every other such start is a start of it: it is the longest one.

`lines` takes apart what was put together from lines (`lines_join`).
-/

namespace BusTrial.Text

theorem startsWith_iff {text start : String} :
    startsWith text start = true ↔ ∃ rest, text = start ++ rest := by
  rw [startsWith, List.isPrefixOf_iff_prefix]
  constructor
  · rintro ⟨rest, hrest⟩
    exact ⟨.ofList rest, String.toList_inj.1 (by simp [hrest])⟩
  · rintro ⟨rest, rfl⟩
    exact ⟨rest.toList, String.toList_append.symm⟩

/-- What stands between separators does not hold one. -/
theorem not_mem_of_mem_splitOn {sep : Char} {cs piece : List Char} (h : piece ∈ cs.splitOn sep) :
    sep ∉ piece := by
  induction cs generalizing piece with
  | nil =>
    obtain rfl : piece = [] := by simpa using h
    exact List.not_mem_nil
  | cons c cs ih =>
    rw [List.splitOn_cons_eq_if_modifyHead] at h
    split at h
    · rcases List.mem_cons.1 h with rfl | hrest
      · exact List.not_mem_nil
      · exact ih hrest
    · rename_i hother
      cases hpieces : cs.splitOn sep with
      | nil => exact absurd hpieces (List.splitOn_ne_nil sep cs)
      | cons first rest =>
        rw [hpieces, List.modifyHead_cons] at h
        rcases List.mem_cons.1 h with rfl | hrest
        · have hfirst := ih (hpieces ▸ List.mem_cons_self)
          exact List.not_mem_cons_of_ne_of_not_mem (Ne.symm (by simpa using hother)) hfirst
        · exact ih (hpieces ▸ List.mem_cons_of_mem first hrest)

theorem takeBytes_prefix (budget : Nat) (cs : List Char) : takeBytes budget cs <+: cs := by
  induction cs generalizing budget with
  | nil => exact List.nil_prefix
  | cons c cs ih =>
    rw [takeBytes]
    split
    · exact List.cons_prefix_cons.2 ⟨rfl, ih _⟩
    · exact List.nil_prefix

theorem utf8Len_takeBytes_le (budget : Nat) (cs : List Char) :
    String.utf8Len (takeBytes budget cs) ≤ budget := by
  induction cs generalizing budget with
  | nil => exact Nat.zero_le _
  | cons c cs ih =>
    rw [takeBytes]
    split
    · rename_i hfits
      have hrest := ih (budget - c.utf8Size)
      rw [String.utf8Len_cons]
      omega
    · exact Nat.zero_le _

/-- **No start of the text that fits is longer.** -/
theorem prefix_takeBytes {budget : Nat} {start cs : List Char} (hstart : start <+: cs)
    (hfits : String.utf8Len start ≤ budget) : start <+: takeBytes budget cs := by
  induction cs generalizing budget start with
  | nil => exact hstart
  | cons c cs ih =>
    cases start with
    | nil => exact List.nil_prefix
    | cons d start =>
      obtain ⟨rfl, hrest⟩ := List.cons_prefix_cons.1 hstart
      rw [String.utf8Len_cons] at hfits
      rw [takeBytes, if_pos (by omega)]
      exact List.cons_prefix_cons.2 ⟨rfl, ih hrest (by omega)⟩

/-! ## Lines -/

/-- The text has no line feed in it and no carriage return at its end. -/
def IsLine (cs : List Char) : Prop :=
  '\n' ∉ cs ∧ cs.getLast? ≠ some '\r'

theorem splitOn_ended (all : List (List Char)) (h : ∀ cs ∈ all, IsLine cs) :
    (all.flatMap (· ++ ['\n'])).splitOn '\n' = all ++ [[]] := by
  induction all with
  | nil => rfl
  | cons cs all ih =>
    obtain ⟨hcs, hall⟩ := List.forall_mem_cons.1 h
    rw [List.flatMap_cons, List.append_assoc, List.singleton_append,
      List.splitOn_append_cons_self_of_not_mem hcs.1, ih hall, List.cons_append]

theorem lineChars_ended {all : List (List Char)} (h : ∀ cs ∈ all, IsLine cs) :
    lineChars (all.flatMap (· ++ ['\n'])) = all := by
  have hkeep : ∀ cs ∈ all, dropCarriageReturn cs = cs := fun cs hcs => by
    rw [dropCarriageReturn, if_neg (by simpa using (h cs hcs).2)]
  simp only [lineChars, splitOn_ended all h, List.dropLast_concat, List.getLast?_concat]
  rw [List.map_congr_left hkeep, List.map_id']

/-- **Lines that are put together are taken apart into the same lines.** -/
theorem lines_join {all : List String} (h : ∀ line ∈ all, IsLine line.toList) :
    lines (String.join (all.map (· ++ "\n"))) = all := by
  have htext : (String.join (all.map (· ++ "\n"))).toList
      = (all.map String.toList).flatMap (· ++ ['\n']) := by
    simp [String.toList_join, List.flatMap_map]
  have hlines : ∀ cs ∈ all.map String.toList, IsLine cs := by simpa using h
  rw [lines, htext, lineChars_ended hlines, List.map_map]
  simp

end BusTrial.Text
