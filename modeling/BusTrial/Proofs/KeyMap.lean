import BusTrial.KeyMap
import Mathlib.Data.List.Perm.Subperm
import Mathlib.Data.String.Basic

/-!
# Entries in key order

A list of entries that is in key order is the map that it builds: each entry goes behind the ones
that are there.
-/

namespace BusTrial

namespace KeyMap

variable {α : Type}

theorem mem_of_get? {m : KeyMap α} {key : String} {value : α} (h : m.get? key = some value) :
    (key, value) ∈ m := by
  induction m with
  | nil => cases h
  | cons entry rest ih =>
      obtain ⟨k, v⟩ := entry
      rw [get?] at h
      by_cases hk : k = key
      · rw [if_pos hk] at h
        cases h
        rw [hk]
        exact List.mem_cons_self ..
      · rw [if_neg hk] at h
        exact List.mem_cons_of_mem _ (ih h)

theorem insert_of_lt {m : KeyMap α} {key : String} (value : α) (h : ∀ entry ∈ m, entry.1 < key) :
    m.insert key value = m ++ [(key, value)] := by
  induction m with
  | nil => rfl
  | cons entry rest ih =>
      obtain ⟨k, v⟩ := entry
      have hk : k < key := h (k, v) (List.mem_cons_self ..)
      rw [insert, if_neg hk.asymm, if_neg hk.ne, ih fun e he => h e (List.mem_cons_of_mem _ he)]
      rfl

/-- Entries in key order are the map that they build. -/
theorem ofList_of_sorted {entries : KeyMap α} (h : entries.Sorted) : ofList entries = entries := by
  have hbuild : ∀ (rest built : KeyMap α), Sorted (built ++ rest) →
      rest.foldl (fun m entry => m.insert entry.1 entry.2) built = built ++ rest := by
    intro rest
    induction rest with
    | nil => simp
    | cons entry rest ih =>
        obtain ⟨key, value⟩ := entry
        intro built hsorted
        have hlt : ∀ e ∈ built, e.1 < key := fun e he =>
          (List.pairwise_append.1 hsorted).2.2 e he (key, value) (List.mem_cons_self ..)
        have hrest : Sorted (built ++ [(key, value)] ++ rest) := by simpa using hsorted
        rw [List.foldl_cons, insert_of_lt value hlt, ih _ hrest, List.append_assoc,
          List.singleton_append]
  exact hbuild entries [] h

theorem mem_of_mem_insert {m : KeyMap α} {key : String} {value : α} {e : String × α}
    (h : e ∈ m.insert key value) : e = (key, value) ∨ e ∈ m := by
  induction m with
  | nil => exact .inl (List.mem_singleton.1 h)
  | cons entry rest ih =>
      obtain ⟨k, v⟩ := entry
      rw [insert] at h
      split at h
      · exact List.mem_cons.1 h
      · split at h
        · exact (List.mem_cons.1 h).imp_right (List.mem_cons_of_mem _)
        · rcases List.mem_cons.1 h with rfl | hrest
          · exact .inr (List.mem_cons_self ..)
          · exact (ih hrest).imp_right (List.mem_cons_of_mem _)

theorem Sorted.insert {m : KeyMap α} (h : m.Sorted) (key : String) (value : α) :
    Sorted (m.insert key value) := by
  induction m with
  | nil => exact List.pairwise_singleton _ _
  | cons entry rest ih =>
      obtain ⟨k, v⟩ := entry
      obtain ⟨hfirst, hrest⟩ := List.pairwise_cons.1 h
      rw [KeyMap.insert]
      split
      · rename_i hlt
        refine List.pairwise_cons.2 ⟨fun e he => ?_, h⟩
        rcases List.mem_cons.1 he with rfl | he
        · exact hlt
        · exact lt_trans hlt (hfirst e he)
      · rename_i hnot
        split
        · rename_i heq
          subst heq
          exact List.pairwise_cons.2 ⟨hfirst, hrest⟩
        · rename_i hne
          have hlt : k < key := lt_of_le_of_ne (not_lt.1 hnot) hne
          refine List.pairwise_cons.2 ⟨fun e he => ?_, ih hrest⟩
          rcases mem_of_mem_insert he with rfl | he
          · exact hlt
          · exact hfirst e he

/-- A map that is built by inserting is in key order, and has no entries but those inserted. -/
theorem ofList_spec (entries : List (String × α)) :
    Sorted (ofList entries) ∧ ∀ e ∈ ofList entries, e ∈ entries := by
  have hbuild : ∀ (rest built : List (String × α)), Sorted built →
      Sorted (rest.foldl (fun m entry => KeyMap.insert entry.1 entry.2 m) built) ∧
        ∀ e ∈ rest.foldl (fun m entry => KeyMap.insert entry.1 entry.2 m) built,
          e ∈ rest ∨ e ∈ built := by
    intro rest
    induction rest with
    | nil => exact fun built hsorted => ⟨hsorted, fun e he => .inr he⟩
    | cons entry rest ih =>
        intro built hsorted
        obtain ⟨hnext, hmem⟩ := ih _ (hsorted.insert entry.1 entry.2)
        refine ⟨hnext, fun e he => ?_⟩
        rcases hmem e he with hrest | hbuilt
        · exact .inl (List.mem_cons_of_mem _ hrest)
        · rcases mem_of_mem_insert hbuilt with rfl | hbuilt
          · exact .inl (List.mem_cons_self ..)
          · exact .inr hbuilt
  obtain ⟨hsorted, hmem⟩ := hbuild entries [] List.Pairwise.nil
  exact ⟨hsorted, fun e he => (hmem e he).resolve_right List.not_mem_nil⟩

theorem hasKey_insert (key other : String) (value : α) (m : KeyMap α) :
    (m.insert key value).hasKey other = true ↔ key = other ∨ m.hasKey other = true := by
  rw [hasKey, get?_insert, hasKey]
  split <;> simp [*]

/-- A map that is built by inserting has the keys of the entries that were inserted. -/
theorem hasKey_ofList {entries : List (String × α)} {key : String} :
    (ofList entries).hasKey key = true ↔ ∃ value, (key, value) ∈ entries := by
  have hbuild : ∀ (rest : List (String × α)) (built : KeyMap α),
      (rest.foldl (fun m entry => KeyMap.insert entry.1 entry.2 m) built).hasKey key = true ↔
        built.hasKey key = true ∨ ∃ value, (key, value) ∈ rest := by
    intro rest
    induction rest with
    | nil => simp
    | cons entry rest ih =>
        intro built
        rw [List.foldl_cons, ih, hasKey_insert]
        constructor
        · rintro ((rfl | hbuilt) | ⟨value, hmem⟩)
          · exact .inr ⟨entry.2, List.mem_cons_self ..⟩
          · exact .inl hbuilt
          · exact .inr ⟨value, List.mem_cons_of_mem _ hmem⟩
        · rintro (hbuilt | ⟨value, hmem⟩)
          · exact .inl (.inr hbuilt)
          · rcases List.mem_cons.1 hmem with rfl | hmem
            · exact .inl (.inl rfl)
            · exact .inr ⟨value, hmem⟩
  exact (hbuild entries []).trans (or_iff_right nofun)

/-- Whether entries are in key order is up to their keys. -/
theorem sorted_iff_keys {m : KeyMap α} : m.Sorted ↔ (m.map Prod.fst).Pairwise (· < ·) := by
  rw [Sorted, List.pairwise_map]

theorem get?_map {β : Type} (f : α → β) (key : String) (m : KeyMap α) :
    get? key (m.map (Prod.map id f)) = (get? key m).map f := by
  induction m with
  | nil => rfl
  | cons entry rest ih =>
      obtain ⟨k, v⟩ := entry
      show (if k = key then some (f v) else get? key (rest.map (Prod.map id f))) = _
      rw [get?, ih]
      split <;> rfl

theorem Sorted.map {β : Type} {m : KeyMap α} (h : m.Sorted) (f : α → β) :
    Sorted (m.map (Prod.map id f)) := by
  rw [Sorted, List.pairwise_map]
  exact h

theorem get?_eq_some_iff {m : KeyMap α} (h : m.Sorted) {key : String} {value : α} :
    m.get? key = some value ↔ (key, value) ∈ m := by
  refine ⟨mem_of_get?, fun hmem => ?_⟩
  induction m with
  | nil => cases hmem
  | cons entry rest ih =>
      obtain ⟨k, v⟩ := entry
      obtain ⟨hfirst, hrest⟩ := List.pairwise_cons.1 h
      rcases List.mem_cons.1 hmem with heq | hmem
      · cases heq
        rw [get?, if_pos rfl]
      · rw [get?, if_neg (hfirst _ hmem).ne, ih hrest hmem]

/-- Maps of one size are equal when one is in the other. -/
theorem eq_of_subset {m m' : KeyMap α} (h : m.Sorted) (h' : m'.Sorted)
    (hlength : m.length = m'.length) (hsub : m ⊆ m') : m = m' := by
  have hnodup : m.Nodup := h.imp fun hlt heq => (heq ▸ hlt).false
  have hperm : m.Perm m' := (hnodup.subperm hsub).perm_of_length_le hlength.ge
  exact hperm.eq_of_pairwise (fun _ _ _ _ hlt hgt => absurd hgt hlt.asymm) h h'

end KeyMap

end BusTrial
