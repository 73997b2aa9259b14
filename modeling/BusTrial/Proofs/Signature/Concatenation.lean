import BusTrial.Proofs.Signature.Cutting
import BusTrial.Value.Arguments

/-!
# Signatures and their concatenation

The cuts of `Proofs.Signature.Cutting`, for texts as they are passed around.

* `typeText_typed` — the type of a value is one complete type, also between brackets;
* `split_eq_ok_iff`, `split_typesText` — what a signature is cut into;
* **`split_inverts_join`** — splitting and concatenating are inverse to each other, for any complete
  texts and so for the types of values; and nothing goes wrong on the way that is not reported.

The induction of `typeText_typed` goes through a value and its rows of fields together, as the
definition of its type does.
-/

namespace BusTrial

namespace Signature

/-! ## The type of a value -/

theorem typed_text : Typed "s".toList :=
  .single rfl (by decide) rfl

/-- The type of a dictionary. -/
theorem typed_dict : Typed "a\x7bsv\x7d".toList :=
  have hkey : Neutral ['s', 'v'] := .cons rfl (.plain rfl)
  .array (.bracketed rfl hkey rfl)

mutual

/-- **The type of a value is one complete type.** -/
theorem typeText_typed : ∀ value : Value, Typed value.typeText.toList
  | .bool _ | .byte _ | .int16 _ | .uint16 _ | .int32 _ | .uint32 _ | .int64 _ | .uint64 _
  | .double _ | .string _ | .objectPath _ | .signature _ | .variant _ => by
      rw [Value.typeText]
      exact .single rfl (by decide) rfl
  | .bytes _ => by
      rw [Value.typeText]
      exact .array (.single rfl (by decide) rfl)
  | .array [] => by
      rw [Value.typeText]
      exact .array typed_text
  | .array (first :: _) => by
      rw [Value.typeText, String.toList_append]
      exact .array (typeText_typed first)
  | .dict _ => by
      rw [Value.typeText]
      exact typed_dict
  | .struct fields => by
      obtain ⟨hneutral, hascii⟩ := fieldTypes_neutral fields
      rw [Value.typeText, String.toList_append, String.toList_append]
      exact .bracketed rfl hneutral hascii

/-- The types of fields in a row can stand between brackets. -/
theorem fieldTypes_neutral : ∀ fields : List Value,
    Neutral (Value.fieldTypes fields).toList ∧ isAscii (Value.fieldTypes fields).toList = true
  | [] => ⟨.nil, rfl⟩
  | field :: rest => by
      have hfield := typeText_typed field
      obtain ⟨hneutral, hascii⟩ := fieldTypes_neutral rest
      rw [Value.fieldTypes, String.toList_append, isAscii_append, hfield.ascii, hascii]
      exact ⟨hfield.neutral.append hneutral, rfl⟩

end

theorem typesText_eq_join (values : List Value) :
    Value.typesText values = String.join (values.map Value.typeText) := by
  rw [Value.typesText]
  induction values with
  | nil => rfl
  | cons value rest ih => rw [Value.fieldTypes, ih, List.map_cons, String.join_cons]

/-! ## Signatures as texts -/

theorem splitFirst_eq_ok {signature head tail : String} :
    splitFirst signature = .ok (head, tail)
      ↔ splitFirstChars signature.toList = .ok (head.toList, tail.toList) := by
  rw [splitFirst, Success.map_eq_ok]
  constructor
  · rintro ⟨⟨first, rest⟩, hcut, heq⟩
    cases heq
    rw [hcut, String.toList_ofList, String.toList_ofList]
  · intro hcut
    refine ⟨_, hcut, ?_⟩
    simp only [String.ofList_toList]

/-- The text is not empty and its own first complete type. -/
theorem resplits_iff {part : String} :
    part ≠ "" ∧ splitFirst part = .ok (part, "") ↔ Complete part.toList := by
  rw [complete_iff, splitFirst_eq_ok, ne_eq, ne_eq, String.toList_eq_nil_iff]
  rfl

/-- A signature is cut into the complete texts that make it up. -/
theorem split_eq_ok_iff {signature : String} {parts : List String} :
    split signature = .ok parts
      ↔ String.join parts = signature ∧ ∀ part ∈ parts, Complete part.toList := by
  have hjoin : String.join parts = signature
      ↔ (parts.map String.toList).flatten = signature.toList := by
    rw [← String.toList_inj, String.toList_join, List.flatMap_def]
  rw [split, Success.map_eq_ok, hjoin]
  constructor
  · rintro ⟨cut, hcut, rfl⟩
    obtain ⟨hflatten, hall⟩ := splitChars_eq_ok_iff.1 hcut
    constructor
    · simpa using hflatten
    · intro part hpart
      obtain ⟨chars, hchars, rfl⟩ := List.mem_map.1 hpart
      simpa using hall chars hchars
  · rintro ⟨hflatten, hall⟩
    refine ⟨parts.map String.toList, splitChars_eq_ok_iff.2 ⟨hflatten, ?_⟩, by simp⟩
    intro chars hchars
    obtain ⟨part, hpart, rfl⟩ := List.mem_map.1 hchars
    exact hall part hpart

/-- The types of values are found again in their row. -/
theorem split_typesText (values : List Value) :
    split (Value.typesText values) = .ok (values.map Value.typeText) := by
  rw [split_eq_ok_iff, typesText_eq_join]
  refine ⟨rfl, fun part hpart => ?_⟩
  obtain ⟨value, -, rfl⟩ := List.mem_map.1 hpart
  exact (typeText_typed value).toComplete

/-- The error is a failure of the bus that names a part of the signature. -/
def Blames (signature : String) (error : SignatureError) : Prop :=
  ∃ before rest : String, before ++ rest = signature ∧ rest ≠ "" ∧
    ∃ words ∈ ["invalid signature ", "truncated array signature ", "unbalanced signature "],
      error.failure = .bus (words ++ rest)

theorem blames_of_fault {signature : String} {e : SignatureError} {rest : List Char}
    (hne : rest ≠ []) (hsuffix : rest <:+ signature.toList)
    (he : e = .notAscii (.ofList rest) ∨ e = .truncatedArray (.ofList rest) ∨
      e = .unbalanced (.ofList rest)) : Blames signature e := by
  obtain ⟨before, hbefore⟩ := hsuffix
  refine ⟨.ofList before, .ofList rest, ?_, ?_, ?_⟩
  · rw [← String.ofList_append, hbefore, String.ofList_toList]
  · rw [ne_eq, ← String.toList_eq_nil_iff, String.toList_ofList]
    exact hne
  · rcases he with rfl | rfl | rfl
    · exact ⟨_, by simp, rfl⟩
    · exact ⟨_, by simp, rfl⟩
    · exact ⟨_, by simp, rfl⟩

/-- **Splitting and concatenating are inverse to each other.**  A signature is split into parts
exactly when they are texts that split to themselves and make it up; so the types of values, which
are such texts, are found again.  The first cut lies inside the signature, a scan for a closing
bracket that begins with an opening one neither lowers a depth of zero nor leaves the text, and
whatever cannot be cut is reported as a failure of the bus. -/
theorem split_inverts_join (signature : String) (values : List Value) :
    (∀ parts, split signature = .ok parts
        ↔ String.join parts = signature ∧
            ∀ part ∈ parts, part ≠ "" ∧ splitFirst part = .ok (part, "")) ∧
      split (Value.typesText values) = .ok (values.map Value.typeText) ∧
      (∀ head tail, splitFirst signature = .ok (head, tail) → head ++ tail = signature) ∧
      (∀ opening closing cs, ∃ found,
        scan opening closing 0 0 (opening :: cs) = some found ∧
          (∀ index ∈ found, index ≤ (opening :: cs).length) ∧
          takeBracketed opening closing 0 (opening :: cs)
            = found.map fun index => (opening :: cs).splitAt index) ∧
      (∀ e, split signature = .error e → Blames signature e) ∧
      (∀ e, splitFirst signature = .error e → Blames signature e) := by
  refine ⟨fun parts => ?_, ?_, fun head tail h => ?_, scan_eq, fun e h => ?_, fun e h => ?_⟩
  · simp only [resplits_iff]
    exact split_eq_ok_iff
  · exact split_typesText values
  · have happend := takeType_append (splitFirstChars_eq_ok.1 (splitFirst_eq_ok.1 h)).2
    rw [← String.toList_inj, String.toList_append, happend]
  · have hcut : splitChars signature.toList = .error e := by
      rw [split] at h
      cases hcut : splitChars signature.toList <;> simp_all [Except.map]
    obtain ⟨rest, hne, hsuffix, he⟩ := splitFrom_fault hcut
    exact blames_of_fault hne hsuffix he
  · have hcut : splitFirstChars signature.toList = .error e := by
      rw [splitFirst] at h
      cases hcut : splitFirstChars signature.toList <;> simp_all [Except.map]
    obtain ⟨rest, hne, hsuffix, he⟩ := splitFirstChars_fault hcut
    exact blames_of_fault hne hsuffix he

example : split "sa\x7bsv\x7d(ou)ay" = .ok ["s", "a\x7bsv\x7d", "(ou)", "ay"] := by decide

end Signature

end BusTrial
