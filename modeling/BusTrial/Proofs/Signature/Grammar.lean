import BusTrial.Proofs.Signature.Cutting

/-!
# Single complete types

The grammar of signatures, as a property of texts (`Spelled`) and as terms that can be written
(`CompleteType`, `CompleteType.chars`).  The key of a dictionary is basic in both.  A term for a
struct has one field at least, while a text may have any row of types between its parentheses.

* **`Spelled.typed`** — a spelled text is one complete text, also between brackets, so a signature is
  cut where its grammar says; `chars_typed` is the same for written types;
* `splitChars_rowChars`, `splitFirstChars_entry` — the types of the fields of a struct, and those of
  the key and the values of a dictionary, are found again;
* `chars_ne_brace`, `chars_eq_byte` — how a written type begins, as far as that tells an array from
  a dictionary and from bytes.
-/

namespace BusTrial

/-- The types without parts. -/
inductive BasicCode where
  | bool | byte | int16 | uint16 | int32 | uint32 | handle | int64 | uint64
  | double | string | objectPath | signature
  deriving DecidableEq, Repr

/-- The character that a basic type is written as. -/
def BasicCode.char : BasicCode → Char
  | .bool => 'b'
  | .byte => 'y'
  | .int16 => 'n'
  | .uint16 => 'q'
  | .int32 => 'i'
  | .uint32 => 'u'
  | .handle => 'h'
  | .int64 => 'x'
  | .uint64 => 't'
  | .double => 'd'
  | .string => 's'
  | .objectPath => 'o'
  | .signature => 'g'

namespace Signature

theorem Typed.basic (code : BasicCode) : Typed [code.char] := by
  cases code <;> exact .single rfl (by decide) rfl

theorem Typed.neutral_flatten {parts : List (List Char)} (h : ∀ p ∈ parts, Typed p) :
    Neutral parts.flatten := by
  induction parts with
  | nil => exact .nil
  | cons p parts ih =>
      obtain ⟨hp, hparts⟩ := List.forall_mem_cons.1 h
      exact hp.neutral.append (ih hparts)

/-- The text spells one complete type. -/
inductive Spelled : List Char → Prop
  | basic (code : BasicCode) : Spelled [code.char]
  | variant : Spelled ['v']
  | array {element : List Char} : Spelled element → Spelled ('a' :: element)
  | dict (key : BasicCode) {value : List Char} : Spelled value →
    Spelled ('a' :: '\x7b' :: (key.char :: value ++ ['\x7d']))
  | struct {fields : List (List Char)} : (∀ field ∈ fields, Spelled field) →
    Spelled ('(' :: (fields.flatten ++ [')']))

/-- **A spelled text is complete**, in brackets as well as by itself. -/
theorem Spelled.typed {p : List Char} (h : Spelled p) : Typed p := by
  induction h with
  | basic code => exact .basic code
  | variant => exact .single rfl (by decide) rfl
  | array _ ih => exact ih.array
  | dict key _ ih =>
      have hkey := Typed.basic key
      refine .array (.bracketed rfl (hkey.neutral.append ih.neutral) ?_)
      rw [← List.singleton_append, isAscii_append, hkey.ascii, ih.ascii]
      rfl
  | struct _ ih =>
      exact .bracketed rfl (Typed.neutral_flatten ih)
        (Complete.isAscii_flatten fun field hmem => (ih field hmem).toComplete)

end Signature

/-- A single complete type. -/
inductive CompleteType where
  | basic (code : BasicCode)
  | variant
  | array (element : CompleteType)
  | dict (key : BasicCode) (value : CompleteType)
  | struct (first : CompleteType) (rest : List CompleteType)

namespace CompleteType

open Signature (Typed Spelled)

mutual

/-- Writes a type. -/
def chars : CompleteType → List Char
  | .basic code => [code.char]
  | .variant => ['v']
  | .array element => 'a' :: element.chars
  | .dict key value => 'a' :: '\x7b' :: (key.char :: value.chars ++ ['\x7d'])
  | .struct first rest => '(' :: (first.chars ++ rowChars rest ++ [')'])

/-- Writes types in a row. -/
def rowChars : List CompleteType → List Char
  | [] => []
  | type :: rest => type.chars ++ rowChars rest

end

/-- The signature of a type. -/
def text (type : CompleteType) : String :=
  .ofList type.chars

theorem rowChars_eq_flatten (row : List CompleteType) : rowChars row = (row.map chars).flatten := by
  induction row with
  | nil => rfl
  | cons type rest ih => rw [rowChars, ih, List.map_cons, List.flatten_cons]

/-! ## Written types are spelled -/

mutual

theorem chars_spelled : ∀ type : CompleteType, Spelled type.chars
  | .basic code => by
      rw [chars]
      exact .basic code
  | .variant => by
      rw [chars]
      exact .variant
  | .array element => by
      rw [chars]
      exact .array (chars_spelled element)
  | .dict key value => by
      rw [chars]
      exact .dict key (chars_spelled value)
  | .struct first rest => by
      have hfields : ∀ field ∈ (first :: rest).map chars, Spelled field :=
        List.forall_mem_cons.2 ⟨chars_spelled first, rowChars_spelled rest⟩
      have hspelled := Spelled.struct hfields
      rw [chars, rowChars_eq_flatten]
      exact hspelled

theorem rowChars_spelled : ∀ row : List CompleteType, ∀ field ∈ row.map chars, Spelled field
  | [] => nofun
  | type :: rest => List.forall_mem_cons.2 ⟨chars_spelled type, rowChars_spelled rest⟩

end

theorem chars_typed (type : CompleteType) : Typed type.chars :=
  type.chars_spelled.typed

/-- The types in a row are found again. -/
theorem splitChars_rowChars (row : List CompleteType) :
    Signature.splitChars (rowChars row) = .ok (row.map chars) := by
  refine Signature.splitChars_eq_ok_iff.2 ⟨(rowChars_eq_flatten row).symm, fun p hp => ?_⟩
  obtain ⟨type, -, rfl⟩ := List.mem_map.1 hp
  exact (chars_typed type).toComplete

/-- The key and the value of a dictionary are found again. -/
theorem splitFirstChars_entry (key : BasicCode) (value : CompleteType) :
    Signature.splitFirstChars (key.char :: value.chars) = .ok ([key.char], value.chars) :=
  (Typed.basic key).splitFirstChars_append (chars_typed value).ascii

/-! ## How a written type begins -/

/-- No type begins with a brace. -/
theorem chars_ne_brace (type : CompleteType) (cs : List Char) : type.chars ≠ '\x7b' :: cs := by
  intro h
  cases type with
  | basic code => cases code <;> simp [chars, BasicCode.char] at h
  | variant => simp [chars] at h
  | array element => simp [chars] at h
  | dict key value => simp [chars] at h
  | struct first rest => simp [chars] at h

theorem chars_eq_byte {type : CompleteType} : type.chars = ['y'] ↔ type = .basic .byte := by
  constructor
  · intro h
    cases type with
    | basic code => cases code <;> simp_all [chars, BasicCode.char]
    | variant => simp [chars] at h
    | array element => simp [chars] at h
    | dict key value => simp [chars] at h
    | struct first rest => simp [chars] at h
  · rintro rfl
    rfl

end CompleteType

end BusTrial
