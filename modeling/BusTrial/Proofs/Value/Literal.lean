import BusTrial.Proofs.Decimal
import BusTrial.Proofs.Value.Order
import BusTrial.Value.Literal

/-!
# Literals of values

`Value.ofLiteral` has nothing but a text to go by and tries five readings of it in turn.  A value that
is displayed and read again keeps what it says if its text has no earlier reading (`HasLiteral`); its
width, its kind of text and the variants around it are lost.

* `readSigned_of_slash`, `readUnsigned_of_slash`, `readFloat_of_slash` — no number begins with a slash;
* `plain_ofLiteral_repr` — an integer of any width is taken for one of 64 bits, with a sign if it fits;
* **`plain_ofLiteral_display`** — the literal of a value says what the value says;
* **`looseEq_ofLiteral_display`** — so the two are loosely equal.
-/

namespace BusTrial

namespace Decimal

variable {text : String} {cs : List Char} (h : text.toList = '/' :: cs)

include h

theorem readSigned_of_slash (width : Nat) : readSigned width text = none := by
  rw [readSigned, h, readInt_of_head (by simp), readNat_of_head (by simp)]
  rfl

theorem readUnsigned_of_slash (width : Nat) : readUnsigned width text = none := by
  rw [readUnsigned, h, readNat_of_head (by simp)]
  rfl

theorem readFloat_of_slash : readFloat text = none := by
  set word := String.ofList (('/' :: cs).map Char.toLower) with hword
  have hne (w : String) (hw : w.toList.head? ≠ some '/') : (word == w) = false := by
    rw [beq_eq_false_iff_ne]
    rintro rfl
    exact hw (by rw [hword, String.toList_ofList]; rfl)
  have hread : readFloat text = if word == "inf" || word == "infinity" then some (infinity false)
      else if word == "nan" then some (0.0 / 0.0) else readMagnitude false ('/' :: cs) := by
    rw [readFloat, h]
    rfl
  rw [hread, hne "inf" (by decide), hne "infinity" (by decide), hne "nan" (by decide)]
  rfl

end Decimal

namespace Value

open Decimal

/-! ## Values with a literal -/

/-- The text is read as neither a truth value nor a number. -/
def IsWord (text : String) : Prop :=
  text ≠ "true" ∧ text ≠ "false" ∧
    readSigned 64 text = none ∧ readUnsigned 64 text = none ∧ readFloat text = none

/-- The text that displays the value is no literal of something else: it is a truth value, an integer,
an object path with a slash in front, or a string that is read as neither, in any number of
variants. -/
def HasLiteral : Value → Prop
  | .bool _ | .byte _ | .int16 _ | .uint16 _ | .int32 _ | .uint32 _ | .int64 _ | .uint64 _ => True
  | .objectPath text => text.toList.head? = some '/'
  | .string text => IsWord text
  | .variant inner => inner.HasLiteral
  | .double _ | .signature _ | .bytes _ | .array _ | .dict _ | .struct _ => False

theorem HasLiteral.isScalar : ∀ {v : Value}, v.HasLiteral → v.plain.isScalar = true
  | .variant inner, h => HasLiteral.isScalar (v := inner) h
  | .bool _, _ | .byte _, _ | .int16 _, _ | .uint16 _, _ | .int32 _, _ | .uint32 _, _
  | .int64 _, _ | .uint64 _, _ | .string _, _ | .objectPath _, _ => rfl

/-! ## Integers -/

theorem HasLiteral.of_integer? {n : Int} : ∀ {v : Value}, v.integer? = some n → v.HasLiteral
  | .variant inner, h => HasLiteral.of_integer? (v := inner) h
  | .byte _, _ | .uint16 _, _ | .uint32 _, _ | .uint64 _, _ | .int16 _, _ | .int32 _, _
  | .int64 _, _ => trivial

/-- An integer of any width is one of 64 bits, with a sign or without. -/
theorem fits_of_integer? {n : Int} : ∀ {v : Value}, v.integer? = some n →
    fitsSigned 64 n = true ∨ fitsUnsigned 64 n = true
  | .variant inner, h => fits_of_integer? (v := inner) h
  | .byte value, h | .uint16 value, h | .uint32 value, h | .uint64 value, h => by
    cases h
    have hlt := value.toNat_lt
    exact .inr (fitsUnsigned_iff.2 (by omega))
  | .int16 value, h | .int32 value, h | .int64 value, h => by
    cases h
    have hle := value.le_toInt
    have hlt := value.toInt_lt
    exact .inl (fitsSigned_iff.2 (by omega))

/-- Integers of all widths are displayed alike. -/
theorem display_of_integer? {n : Int} : ∀ {v : Value}, v.integer? = some n → v.display = n.repr
  | .variant inner, h => by rw [display, display_of_integer? (v := inner) h]
  | .byte _, h | .uint16 _, h | .uint32 _, h | .uint64 _, h | .int16 _, h | .int32 _, h
  | .int64 _, h => by
    cases h
    rfl

/-- **An integer is read back**, with a sign if it fits so. -/
theorem plain_ofLiteral_repr {n : Int}
    (fits : fitsSigned 64 n = true ∨ fitsUnsigned 64 n = true) :
    (ofLiteral n.repr).plain = .number n := by
  have hword (text : String) (h : readInt text.toList = none) : n.repr ≠ text := by
    rintro rfl
    rw [readInt_repr] at h
    cases h
  rw [ofLiteral, if_neg (hword _ (by decide)), if_neg (hword _ (by decide)), readSigned_repr]
  cases hsigned : fitsSigned 64 n with
  | true =>
    obtain ⟨hle, hlt⟩ := fitsSigned_iff.1 hsigned
    exact congrArg Plain.number (Int64.toInt_ofInt_of_le hle hlt)
  | false =>
    have hunsigned : fitsUnsigned 64 n = true := fits.resolve_left (by simp [hsigned])
    obtain ⟨hsign, hlt⟩ := fitsUnsigned_iff.1 hunsigned
    obtain ⟨m, rfl⟩ := Int.eq_ofNat_of_zero_le hsign
    have hread : readUnsigned 64 (Int.repr m) = some m := by
      show readUnsigned 64 (Nat.repr m) = some m
      rw [readUnsigned_repr, if_pos hunsigned]
    have hword : (UInt64.ofNat m).toNat = m := UInt64.toNat_ofNat_of_lt (by exact_mod_cast hlt)
    simp only [hread, Bool.false_eq_true, if_false, plain, hword]

theorem plain_ofLiteral_integer {v : Value} {n : Int} (h : v.integer? = some n) :
    (ofLiteral v.display).plain = .number n := by
  rw [display_of_integer? h]
  exact plain_ofLiteral_repr (fits_of_integer? h)

/-! ## What a literal says -/

/-- **The literal of a value says what the value says.** -/
theorem plain_ofLiteral_display : ∀ {v : Value}, v.HasLiteral →
    (ofLiteral v.display).plain = v.plain
  | .variant inner, h => by
    rw [display, plain]
    exact plain_ofLiteral_display (v := inner) h
  | .bool value, _ => by cases value <;> rfl
  | .byte _, _ | .int16 _, _ | .uint16 _, _ | .int32 _, _ | .uint32 _, _ | .int64 _, _
  | .uint64 _, _ => plain_ofLiteral_integer rfl
  | .string text, h => by
    obtain ⟨htrue, hfalse, hsigned, hunsigned, hfloat⟩ := h
    rw [display, ofLiteral, if_neg htrue, if_neg hfalse, hsigned, hunsigned, hfloat]
    dsimp only
    split <;> rfl
  | .objectPath text, h => by
    obtain ⟨cs, hcs⟩ : ∃ cs, text.toList = '/' :: cs := List.head?_eq_some_iff.1 h
    have hword (w : String) (hw : w.toList.head? ≠ some '/') : text ≠ w := by
      rintro rfl
      exact hw h
    rw [display, ofLiteral, if_neg (hword _ (by decide)), if_neg (hword _ (by decide)),
      readSigned_of_slash hcs, readUnsigned_of_slash hcs, readFloat_of_slash hcs]
    show (if text.toList.head? = some '/' then objectPath text else string text).plain = _
    rw [if_pos (show text.toList.head? = some '/' from h)]

theorem plain_of_double? {x : Float} : ∀ {v : Value}, v.double? = some x → v.plain = .real x
  | .variant inner, h => plain_of_double? (v := inner) h
  | .double _, rfl => rfl

/-- What says a number, a text or a truth value is no double. -/
theorem double?_eq_none_of_isScalar {v : Value} (h : v.plain.isScalar = true) :
    v.double? = none := by
  cases hdouble : v.double? with
  | none => rfl
  | some x =>
    rw [plain_of_double? hdouble] at h
    cases h

/-- **The literal of a value and the value are loosely equal**, whichever of the two is on the
left. -/
theorem looseEq_ofLiteral_display {v : Value} (h : v.HasLiteral) :
    looseEq (ofLiteral v.display) v = true ∧ looseEq v (ofLiteral v.display) = true := by
  have hplain := plain_ofLiteral_display h
  have hliteral : (ofLiteral v.display).plain.isScalar = true := by
    rw [hplain]
    exact h.isScalar
  have hdouble := double?_eq_none_of_isScalar h.isScalar
  have hdouble' := double?_eq_none_of_isScalar hliteral
  exact ⟨(looseEq_iff_of_scalar hdouble hdouble' hliteral).2 hplain,
    (looseEq_iff_of_scalar hdouble' hdouble h.isScalar).2 hplain.symm⟩

/-- The strings that are left out are those that are read as something else. -/
theorem looseEq_ofLiteral_string_iff {text : String} :
    looseEq (ofLiteral text) (.string text) = true ↔ IsWord text := by
  constructor
  · intro h
    rw [ofLiteral] at h
    split at h
    · cases h
    split at h
    · cases h
    split at h
    · cases h
    · cases h
    · cases h
    · rename_i htrue hfalse _ _ _ hsigned hunsigned hfloat
      exact ⟨htrue, hfalse, hsigned, hunsigned, hfloat⟩
  · intro h
    exact (looseEq_ofLiteral_display (v := .string text) h).1

end Value

end BusTrial
