import BusTrial.Proofs.Device
import BusTrial.Recorder.Journal
import Mathlib.Data.List.Infix

/-!
# The window of a recording

`JournalRecorder.window` sorts the entries, drops those that are too early and takes the next ones
while they are not too late.

* `takeWhile_eq_filter`, `dropWhile_eq_filter` — in a row that is in order this picks by a condition
  on each entry;
* `filter_mergeSort` — entries with the same stamp stay in the order in which they were read;
* **`isWindow_window`** — so the window is what the stamps say (`IsWindow`), and by `IsWindow.unique`
  nothing else is.
-/

namespace BusTrial

/-! ## Cutting rows that are in order -/

section

variable {α : Type} {l : List α} {p : α → Bool}

/-- A condition that stays false once it is false picks a start of the row. -/
theorem takeWhile_eq_filter (h : l.Pairwise fun x y => p y = true → p x = true) :
    l.takeWhile p = l.filter p := by
  induction l with
  | nil => rfl
  | cons x l ih =>
    obtain ⟨hx, hl⟩ := List.pairwise_cons.1 h
    cases hp : p x with
    | true => rw [List.takeWhile_cons_of_pos hp, List.filter_cons_of_pos hp, ih hl]
    | false =>
      have hnone : l.filter p = [] := List.filter_eq_nil_iff.2 fun y hy hpy => by
        rw [hx y hy hpy] at hp
        cases hp
      rw [List.takeWhile_cons_of_neg (by simp [hp]), List.filter_cons_of_neg (by simp [hp]), hnone]

/-- What is left behind such a start is what the condition does not pick. -/
theorem dropWhile_eq_filter (h : l.Pairwise fun x y => p y = true → p x = true) :
    l.dropWhile p = l.filter fun x => !p x := by
  induction l with
  | nil => rfl
  | cons x l ih =>
    obtain ⟨hx, hl⟩ := List.pairwise_cons.1 h
    cases hp : p x with
    | true => rw [List.dropWhile_cons_of_pos hp, List.filter_cons_of_neg (by simp [hp]), ih hl]
    | false =>
      have hall : ∀ y ∈ x :: l, (!p y) = true := by
        refine List.forall_mem_cons.2 ⟨by simp [hp], fun y hy => ?_⟩
        rw [Bool.not_eq_true', Bool.eq_false_iff]
        intro hpy
        rw [hx y hy hpy] at hp
        cases hp
      rw [List.dropWhile_cons_of_neg (by simp [hp]), List.filter_eq_self.2 hall]

variable (key : α → Nat)

/-- The items are in the order of their keys. -/
def keyLe (a b : α) : Bool :=
  decide (key a ≤ key b)

theorem keyLe_trans (a b c : α) (hab : keyLe key a b = true) (hbc : keyLe key b c = true) :
    keyLe key a c = true :=
  decide_eq_true (le_trans (of_decide_eq_true hab) (of_decide_eq_true hbc))

theorem keyLe_total (a b : α) : (keyLe key a b || keyLe key b a) = true := by
  rw [Bool.or_eq_true]
  exact (le_total (key a) (key b)).imp decide_eq_true decide_eq_true

theorem pairwise_mergeSort_key (l : List α) :
    (l.mergeSort (keyLe key)).Pairwise fun a b => key a ≤ key b :=
  (List.pairwise_mergeSort (keyLe_trans key) (keyLe_total key) l).imp of_decide_eq_true

/-- **Sorting is stable**: items with the same key stay in their order.  They are in order as they
are, so they are a part of the sorted row too, and there is nothing else with that key in it. -/
theorem filter_mergeSort (l : List α) (k : Nat) :
    (l.mergeSort (keyLe key)).filter (fun a => key a = k) = l.filter fun a => key a = k := by
  have hsame : (l.filter fun a => key a = k).Pairwise fun a b => keyLe key a b = true := by
    refine List.pairwise_of_forall_mem_list fun a ha b hb => decide_eq_true ?_
    rw [of_decide_eq_true (List.mem_filter.1 ha).2, of_decide_eq_true (List.mem_filter.1 hb).2]
  have hsub := List.sublist_mergeSort (keyLe_trans key) (keyLe_total key) hsame List.filter_sublist
  have hsub' := hsub.filter fun a => decide (key a = k)
  simp only [List.filter_filter, Bool.and_self] at hsub'
  have hperm := (List.mergeSort_perm l (keyLe key)).filter fun a => decide (key a = k)
  exact (hsub'.eq_of_length hperm.length_eq.symm).symm

variable {key} in
theorem mem_iff_of_filter_key {m : List α}
    (h : ∀ k, l.filter (fun a => key a = k) = m.filter fun a => key a = k) (a : α) :
    a ∈ l ↔ a ∈ m := by
  have hmem := congrArg (a ∈ ·) (h (key a))
  simpa using hmem

/-- A row that is in order is determined by what it holds of each key. -/
theorem eq_of_filter_key {m : List α} (hl : l.Pairwise fun a b => key a ≤ key b)
    (hm : m.Pairwise fun a b => key a ≤ key b)
    (h : ∀ k, l.filter (fun a => key a = k) = m.filter fun a => key a = k) : l = m := by
  have hmem := mem_iff_of_filter_key h
  induction l generalizing m with
  | nil => exact (List.eq_nil_iff_forall_not_mem.2 fun a ha => List.not_mem_nil ((hmem a).2 ha)).symm
  | cons a l ih =>
    obtain _ | ⟨b, m⟩ := m
    · exact absurd ((hmem a).1 List.mem_cons_self) List.not_mem_nil
    obtain ⟨ha, hl'⟩ := List.pairwise_cons.1 hl
    obtain ⟨hb, hm'⟩ := List.pairwise_cons.1 hm
    -- each first item is in the other row, so neither has the lesser key
    have hkey : key a = key b := by
      refine le_antisymm ?_ ?_
      · exact (List.mem_cons.1 ((hmem b).2 List.mem_cons_self)).elim (fun h => h ▸ le_rfl) (ha b)
      · exact (List.mem_cons.1 ((hmem a).1 List.mem_cons_self)).elim (fun h => h ▸ le_rfl) (hb a)
    have hfirst := h (key a)
    rw [List.filter_cons_of_pos (by simp), List.filter_cons_of_pos (by simp [hkey])] at hfirst
    obtain rfl : a = b := (List.cons.inj hfirst).1
    have hrest (k : Nat) : l.filter (fun a => key a = k) = m.filter fun a => key a = k := by
      have hk := h k
      by_cases hak : key a = k
      · rw [List.filter_cons_of_pos (by simp [hak]), List.filter_cons_of_pos (by simp [hak])] at hk
        exact (List.cons.inj hk).2
      · rwa [List.filter_cons_of_neg (by simp [hak]), List.filter_cons_of_neg (by simp [hak])] at hk
    exact congrArg (a :: ·) (ih hl' hm' hrest (mem_iff_of_filter_key hrest))

end

/-! ## The window -/

namespace Journal

/-- The entry was logged at `began` or later, and in the second of `ended` or before. -/
def Entry.Within (began ended : Duration) (e : Entry) : Prop :=
  began ≤ e.monotonic ∧ e.monotonic.wholeSeconds ≤ ended.wholeSeconds

instance (began ended : Duration) (e : Entry) : Decidable (e.Within began ended) :=
  inferInstanceAs (Decidable (_ ∧ _))

/-- What is kept of the entries is what was logged in the window. -/
structure IsWindow (began ended : Duration) (entries kept : List Entry) : Prop where
  /-- Every entry of the window is kept as often as it was read, and nothing else is. -/
  perm : kept.Perm (entries.filter fun e => e.Within began ended)
  ordered : kept.Pairwise fun a b => a.monotonic ≤ b.monotonic
  /-- Entries with the same stamp are kept in the order in which they were read. -/
  stable : ∀ stamp, kept.filter (fun e => e.monotonic = stamp)
    = (entries.filter fun e => e.Within began ended).filter fun e => e.monotonic = stamp

theorem decide_stamp_eq (e : Entry) (stamp : Duration) :
    decide (e.monotonic = stamp) = decide (e.monotonic.nanos = stamp.nanos) :=
  decide_eq_decide.2 ⟨congrArg Duration.nanos, fun h => Duration.mk.injEq _ _ ▸ h⟩

/-- Nothing else is the window. -/
theorem IsWindow.unique {began ended : Duration} {entries kept other : List Entry}
    (h : IsWindow began ended entries kept) (h' : IsWindow began ended entries other) :
    other = kept := by
  refine eq_of_filter_key (fun e : Entry => e.monotonic.nanos) h'.ordered h.ordered fun nanos => ?_
  have hstamp (e : Entry) : decide (e.monotonic.nanos = nanos) = decide (e.monotonic = ⟨nanos⟩) :=
    (decide_stamp_eq e ⟨nanos⟩).symm
  simp only [hstamp, h.stable, h'.stable]

end Journal

namespace JournalRecorder

open Journal (Entry IsWindow)

variable {began ended : Duration}

/-- The entries in the order of their stamps. -/
def sorted (entries : List Entry) : List Entry :=
  entries.mergeSort (keyLe fun e => e.monotonic.nanos)

theorem pairwise_sorted (entries : List Entry) :
    (sorted entries).Pairwise fun a b => a.monotonic ≤ b.monotonic :=
  pairwise_mergeSort_key (fun e : Entry => e.monotonic.nanos) entries

theorem filter_sorted (entries : List Entry) (stamp : Duration) :
    (sorted entries).filter (fun e => e.monotonic = stamp)
      = entries.filter fun e => e.monotonic = stamp := by
  simp only [Journal.decide_stamp_eq]
  exact filter_mergeSort (fun e : Entry => e.monotonic.nanos) entries stamp.nanos

/-- **The window is cut out of the sorted entries**: what is dropped at the front is too early, and
what is not taken at the end too late. -/
theorem window_eq_filter (began ended : Duration) (entries : List Entry) :
    window began ended entries = (sorted entries).filter fun e => e.Within began ended := by
  have hsorted := pairwise_sorted entries
  have hearly : (sorted entries).dropWhile (fun e => decide (e.monotonic < began))
      = (sorted entries).filter fun e => !decide (e.monotonic < began) := by
    refine dropWhile_eq_filter (hsorted.imp fun {a b} hab hb => decide_eq_true ?_)
    exact Nat.lt_of_le_of_lt hab (of_decide_eq_true hb)
  have hlate (l : List Entry) (hl : l.Pairwise fun a b => a.monotonic ≤ b.monotonic) :
      l.takeWhile (fun e => decide (e.monotonic.wholeSeconds ≤ ended.wholeSeconds))
        = l.filter fun e => decide (e.monotonic.wholeSeconds ≤ ended.wholeSeconds) := by
    refine takeWhile_eq_filter (hl.imp fun {a b} hab hb => decide_eq_true ?_)
    exact (Nat.div_le_div_right hab).trans (of_decide_eq_true hb)
  show ((sorted entries).dropWhile _).takeWhile _ = _
  rw [hearly, hlate _ (hsorted.filter _), List.filter_filter]
  refine List.filter_congr fun e _ => ?_
  have hearly : decide (e.monotonic < began) = !decide (began ≤ e.monotonic) := by
    rw [← decide_not]
    exact decide_eq_decide.2 Nat.not_le.symm
  rw [hearly, Bool.not_not, Bool.and_comm, ← Bool.decide_and]
  rfl

theorem isWindow_window (began ended : Duration) (entries : List Entry) :
    IsWindow began ended entries (window began ended entries) := by
  rw [window_eq_filter]
  refine ⟨(List.mergeSort_perm _ _).filter _, (pairwise_sorted entries).filter _, fun stamp => ?_⟩
  rw [List.filter_comm, filter_sorted, List.filter_comm]

end JournalRecorder

end BusTrial
