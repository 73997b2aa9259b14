import BusTrial.Value.Basic

/-!
# The parts of a value

A `Value` holds others directly (`parts`): the items of an array, what the entries of a dictionary
hold, the fields of a struct, what is in a variant.  `induction_on_parts` is the induction on them,
and `Throughout` says of a property that every value has it, at any depth.
-/

namespace BusTrial

namespace Value

/-- The values that a value holds directly. -/
def parts : Value → List Value
  | .array items => items
  | .dict entries => entries.map Prod.snd
  | .struct fields => fields
  | .variant inner => [inner]
  | _ => []

mutual

/-- What holds of a value whenever it holds of its parts holds of every value. -/
theorem induction_on_parts {P : Value → Prop}
    (step : ∀ value, (∀ part ∈ value.parts, P part) → P value) : ∀ value, P value
  | .bool _ | .byte _ | .int16 _ | .uint16 _ | .int32 _ | .uint32 _ | .int64 _ | .uint64 _
  | .double _ | .string _ | .objectPath _ | .signature _ | .bytes _ => step _ nofun
  | .array items => step _ (forall_items_of_step step items)
  | .dict entries => step _ (forall_entries_of_step step entries)
  | .struct fields => step _ (forall_items_of_step step fields)
  | .variant inner => step _ (List.forall_mem_singleton.2 (induction_on_parts step inner))

theorem forall_items_of_step {P : Value → Prop}
    (step : ∀ value, (∀ part ∈ value.parts, P part) → P value) :
    ∀ items : List Value, ∀ item ∈ items, P item
  | [] => nofun
  | item :: rest => List.forall_mem_cons.2
      ⟨induction_on_parts step item, forall_items_of_step step rest⟩

theorem forall_entries_of_step {P : Value → Prop}
    (step : ∀ value, (∀ part ∈ value.parts, P part) → P value) :
    ∀ entries : List (String × Value), ∀ part ∈ entries.map Prod.snd, P part
  | [] => nofun
  | (_, value) :: rest => List.forall_mem_cons.2
      ⟨induction_on_parts step value, forall_entries_of_step step rest⟩

end

/-- The same, when the step also looks at the parts without the variants around them. -/
theorem induction_on_unwrapped_parts {P : Value → Prop}
    (step : ∀ value, (∀ part ∈ value.parts, P part ∧ P part.unwrapped) → P value) (value : Value) :
    P value := by
  have hboth : ∀ value : Value, P value ∧ P value.unwrapped := by
    intro value
    induction value using induction_on_parts with
    | step value ih =>
    have hvalue := step value ih
    cases value with
    | variant inner => exact ⟨hvalue, (ih inner (List.mem_singleton_self _)).2⟩
    | _ => exact ⟨hvalue, hvalue⟩
  exact (hboth value).1

/-- The value has the property, and so do its parts at any depth. -/
inductive Throughout (P : Value → Prop) : Value → Prop
  | intro {value : Value} :
    P value → (∀ part ∈ value.parts, Throughout P part) → Throughout P value

namespace Throughout

variable {P : Value → Prop} {value : Value}

theorem here (h : Throughout P value) : P value := by
  cases h with
  | intro hvalue _ => exact hvalue

theorem part (h : Throughout P value) : ∀ part ∈ value.parts, Throughout P part := by
  cases h with
  | intro _ hparts => exact hparts

theorem unwrapped : ∀ {value : Value}, Throughout P value → Throughout P value.unwrapped
  | .variant inner, h => (h.part inner (List.mem_singleton_self _)).unwrapped
  | .bool _, h | .byte _, h | .int16 _, h | .uint16 _, h | .int32 _, h | .uint32 _, h
  | .int64 _, h | .uint64 _, h | .double _, h | .string _, h | .objectPath _, h
  | .signature _, h | .bytes _, h | .array _, h | .dict _, h | .struct _, h => h

end Throughout

end Value

end BusTrial
