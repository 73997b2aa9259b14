/-!
# Maps with text keys, in key order

A `KeyMap` is a list of entries whose keys increase strictly (`Sorted`); texts are ordered by code
point, which is the order of their UTF-8 bytes.  `insert` keeps the order and replaces the entry of
an equal key, so a map built by inserting holds the last value given for each key.

The type is a plain list so that a type of values can hold a map of itself.
-/

namespace BusTrial

/-- Entries in strictly increasing key order. -/
abbrev KeyMap (α : Type) : Type :=
  List (String × α)

namespace KeyMap

variable {α β : Type}

/-- The keys increase strictly. -/
def Sorted (m : KeyMap α) : Prop :=
  m.Pairwise fun a b => a.1 < b.1

/-- The value of a key. -/
def get? (key : String) : KeyMap α → Option α
  | [] => none
  | (k, v) :: rest => if k = key then some v else get? key rest

/-- Adds an entry, or replaces the one with the same key. -/
def insert (key : String) (value : α) : KeyMap α → KeyMap α
  | [] => [(key, value)]
  | (k, v) :: rest =>
    if key < k then (key, value) :: (k, v) :: rest
    else if k = key then (key, value) :: rest
    else (k, v) :: insert key value rest

/-- The map that holds the last value given for each key. -/
def ofList (entries : List (String × α)) : KeyMap α :=
  entries.foldl (fun m (k, v) => m.insert k v) []

/-- The key has an entry. -/
def hasKey (key : String) (m : KeyMap α) : Bool :=
  (m.get? key).isSome

theorem get?_insert (key other : String) (value : α) (m : KeyMap α) :
    (m.insert key value).get? other = if key = other then some value else m.get? other := by
  induction m with
  | nil => simp [insert, get?]
  | cons entry rest ih =>
    obtain ⟨k, v⟩ := entry
    by_cases hlt : key < k
    · simp [insert, get?, hlt]
    · by_cases heq : k = key
      · by_cases hother : key = other <;> simp [insert, get?, heq, hother]
      · by_cases hother : key = other
        · subst hother
          simp [insert, get?, hlt, heq, ih]
        · simp [insert, get?, hlt, heq, ih, hother]

end KeyMap

end BusTrial
