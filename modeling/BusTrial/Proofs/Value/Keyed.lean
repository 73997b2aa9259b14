import BusTrial.Proofs.Value.Parts
import BusTrial.Proofs.Value.Reading

/-!
# Dictionaries are maps

A dictionary holds a list of entries, which is a map as long as its keys increase.  `Value.Keyed`
says so of every dictionary in a value, and **`keyed_of_decodeAs`** that the values which are read
have it: the members of an object are inserted one by one, whatever order they come in.
-/

namespace BusTrial

namespace Value

/-- The dictionaries in the value are in key order, as maps are. -/
def Keyed (v : Value) : Prop :=
  v.Throughout fun part => ∀ entries, part = .dict entries → KeyMap.Sorted entries

theorem keyed_of_read {single : BasicType} {data : Json} {value : Value}
    (h : single.read data = some value) : value.Keyed := by
  cases single <;>
    · obtain ⟨_, -, rfl⟩ := Option.map_eq_some_iff.1 h
      refine .intro ?_ ?_ <;> rintro _ ⟨⟩

/-- **What is read holds maps only**, also where the keys of an object come in another order. -/
theorem keyed_of_decodeAs {data : Json} : ∀ {type : List Char} {value : Value},
    decodeAs type data = .ok value → value.Keyed := by
  induction data using Json.induction_on_parts with
  | step data ih =>
  intro type value h
  have hrow : ∀ {types items values}, decodeFields types items = .ok values →
      (∀ item ∈ items, item ∈ data.parts) → ∀ v ∈ values, v.Keyed := by
    intro types items values hvalues hitems v hmem
    obtain ⟨type', item, hitem, hv⟩ := mem_of_decodeFields hvalues v hmem
    exact ih item (hitems item hitem) hv
  cases hshape : TypeShape.ofText type with
  | basic single => exact keyed_of_read ((decodeAs_basic hshape).1 h)
  | variant =>
    obtain ⟨members, inner, content, found, rfl, -, hdata, hfound, rfl⟩ :=
      (decodeAs_variant hshape).1 h
    have hmem : content ∈ members.map Prod.snd := List.mem_map_of_mem (KeyMap.mem_of_get? hdata)
    exact .intro (by rintro _ ⟨⟩) (List.forall_mem_singleton.2 (ih content hmem hfound))
  | bytes =>
    obtain ⟨items, bytes, rfl, -, rfl⟩ := (decodeAs_bytes hshape).1 h
    exact .intro (by rintro _ ⟨⟩) (by rintro _ ⟨⟩)
  | array element =>
    obtain ⟨items, values, rfl, hvalues, rfl⟩ := (decodeAs_array hshape).1 h
    rw [decodeItems_eq_fields] at hvalues
    exact .intro (by rintro _ ⟨⟩) (hrow hvalues fun item hmem => hmem)
  | dict entry =>
    cases entry with
    | none => exact absurd h (decodeAs_ne_ok (.inl hshape))
    | some entry =>
      obtain ⟨_, _, members, values, -, rfl, -, hvalues, rfl⟩ := dict_of_decodeAs hshape h
      obtain ⟨hsorted, hfrom⟩ := KeyMap.ofList_spec ((members.map Prod.fst).zip values)
      refine .intro (fun entries heq => ?_) fun part hpart => ?_
      · cases heq
        exact hsorted
      · obtain ⟨⟨key, _⟩, hentry, rfl⟩ := List.mem_map.1 hpart
        have hmem := (List.of_mem_zip (hfrom _ hentry)).2
        exact hrow hvalues (fun item hitem => hitem) _ hmem
  | struct fields =>
    cases fields with
    | none => exact absurd h (decodeAs_ne_ok (.inr (.inl hshape)))
    | some fields =>
      obtain ⟨types, items, values, -, rfl, -, hvalues, rfl⟩ := struct_of_decodeAs hshape h
      exact .intro (by rintro _ ⟨⟩) (hrow hvalues fun item hmem => hmem)
  | unknown => exact absurd h (decodeAs_ne_ok (.inr (.inr hshape)))

end Value

end BusTrial
