/-!
# Tables

A `Table` maps keys to values, for keys that can be compared: a list of entries with one entry per
key that was ever set.  `get?_set` says what setting a key does to every look-up.
-/

namespace BusTrial

/-- A map with few keys. -/
structure Table (κ α : Type) where
  entries : List (κ × α)
  deriving Repr

namespace Table

variable {κ α : Type} [DecidableEq κ]

instance : EmptyCollection (Table κ α) := ⟨⟨[]⟩⟩
instance : Inhabited (Table κ α) := ⟨∅⟩

/-- Puts an entry in place of the one with the same key, or at the end. -/
def setIn (key : κ) (value : α) : List (κ × α) → List (κ × α)
  | [] => [(key, value)]
  | (k, v) :: rest => if k = key then (key, value) :: rest else (k, v) :: setIn key value rest

/-- The value of the first entry with a key. -/
def getIn? (key : κ) : List (κ × α) → Option α
  | [] => none
  | (k, v) :: rest => if k = key then some v else getIn? key rest

/-- Sets the value of a key. -/
def set (t : Table κ α) (key : κ) (value : α) : Table κ α :=
  ⟨setIn key value t.entries⟩

/-- The value of a key. -/
def get? (t : Table κ α) (key : κ) : Option α :=
  getIn? key t.entries

theorem getIn?_setIn (key other : κ) (value : α) (entries : List (κ × α)) :
    getIn? other (setIn key value entries)
      = if key = other then some value else getIn? other entries := by
  induction entries with
  | nil => rfl
  | cons entry rest ih =>
    obtain ⟨k, v⟩ := entry
    by_cases heq : k = key
    · by_cases hother : key = other <;> simp [setIn, getIn?, heq, hother]
    · by_cases hother : key = other
      · subst hother
        simp [setIn, getIn?, heq, ih]
      · simp [setIn, getIn?, heq, ih, hother]

@[simp] theorem get?_empty (key : κ) : (∅ : Table κ α).get? key = none := rfl

/-- A look-up after setting a key finds the new value at that key and the old ones elsewhere. -/
theorem get?_set (t : Table κ α) (key other : κ) (value : α) :
    (t.set key value).get? other = if key = other then some value else t.get? other :=
  getIn?_setIn key other value t.entries

end Table

end BusTrial
