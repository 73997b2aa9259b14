import BusTrial.Decimal.Reading
import Mathlib.Algebra.Group.Int.Defs
import Mathlib.Data.String.Basic

/-!
# Integers read back

The digits of a number are written by `Nat.toDigits` and read by `digits?`.  What is read in front of
them, a sign, is told apart from a digit by the first character.

* `digitsValue_toDigits`, `digits?_toDigits` — digits have the value of the number that they write;
* `readNat_toDigits`, `readInt_repr` — a number without a sign and an integer with one are read back;
* **`readSigned_repr`**, **`readUnsigned_repr`** — of a width of bits exactly those that fit.
-/

namespace BusTrial.Decimal

variable {c : Char} {cs : List Char}

/-! ## Digits -/

/-- A digit counts how far it is from zero. -/
theorem digit?_of_isDigit (h : c.isDigit = true) : digit? c = some (c.toNat - '0'.toNat) := by
  obtain ⟨hlow, hhigh⟩ := Char.isDigit_iff_toNat.1 h
  rw [digit?, if_pos]
  rw [Bool.and_eq_true, decide_eq_true_eq, decide_eq_true_eq]
  exact ⟨hlow, hhigh⟩

/-- A number is written with digits. -/
theorem isDigit_of_mem_toDigits {n : Nat} (h : c ∈ Nat.toDigits 10 n) : c.isDigit = true :=
  Nat.isDigit_of_mem_toDigits (by decide) (by decide) h

/-- The digits of a number have its value. -/
theorem digitsValue_toDigits (n : Nat) : digitsValue (Nat.toDigits 10 n) = n := by
  have hfold : ∀ (cs : List Char) (sofar : Nat), (∀ c ∈ cs, c.isDigit = true) →
      cs.foldl (fun n c => 10 * n + (digit? c).getD 0) sofar = Nat.ofDigitChars 10 cs sofar := by
    intro cs
    induction cs with
    | nil => intro sofar _; rfl
    | cons c cs ih =>
      intro sofar h
      obtain ⟨hc, hcs⟩ := List.forall_mem_cons.1 h
      rw [List.foldl_cons, ih _ hcs, digit?_of_isDigit hc, Nat.ofDigitChars_cons]
      rfl
  rw [digitsValue, hfold _ 0 fun c hc => isDigit_of_mem_toDigits hc,
    Nat.ofDigitChars_ten_toDigits]

/-- Digits are read as their value, if there are any. -/
theorem digits?_eq_digitsValue (hne : cs ≠ []) (h : ∀ c ∈ cs, c.isDigit = true) :
    digits? cs = some (digitsValue cs) := by
  have hfold : ∀ (cs : List Char) (sofar : Nat), (∀ c ∈ cs, c.isDigit = true) →
      cs.foldlM (fun n c => (digit? c).map (10 * n + ·)) sofar
        = some (cs.foldl (fun n c => 10 * n + (digit? c).getD 0) sofar) := by
    intro cs
    induction cs with
    | nil => intro sofar _; rfl
    | cons c cs ih =>
      intro sofar h
      obtain ⟨hc, hcs⟩ := List.forall_mem_cons.1 h
      rw [List.foldlM_cons, digit?_of_isDigit hc, List.foldl_cons, digit?_of_isDigit hc]
      exact ih _ hcs
  cases cs with
  | nil => exact absurd rfl hne
  | cons c cs => exact hfold (c :: cs) 0 h

/-- A number that is written with digits is read back. -/
theorem digits?_toDigits (n : Nat) : digits? (Nat.toDigits 10 n) = some n := by
  have h := digits?_eq_digitsValue (Nat.toDigits_ne_nil (n := n) (b := 10))
    fun _ => isDigit_of_mem_toDigits
  rw [h, digitsValue_toDigits]

/-- No number begins with a character that is no digit. -/
theorem head?_toDigits_ne {n : Nat} (hc : c.isDigit = false) :
    (Nat.toDigits 10 n).head? ≠ some c := by
  intro hhead
  rw [isDigit_of_mem_toDigits (List.mem_of_mem_head? hhead)] at hc
  cases hc

/-! ## Signs -/

/-- Without a plus in front there are only digits. -/
theorem readNat_of_head (h : cs.head? ≠ some '+') : readNat cs = digits? cs := by
  rw [readNat]
  rintro rest rfl
  exact h rfl

/-- Without a minus in front there is a natural number. -/
theorem readInt_of_head (h : cs.head? ≠ some '-') : readInt cs = (readNat cs).map Int.ofNat := by
  rw [readInt]
  rintro rest rfl
  exact h rfl

/-- A number is read back from its digits. -/
theorem readNat_toDigits (n : Nat) : readNat (Nat.toDigits 10 n) = some n := by
  rw [readNat_of_head (head?_toDigits_ne (by decide)), digits?_toDigits]

/-- **An integer is read as that integer.** -/
theorem readInt_repr (n : Int) : readInt n.repr.toList = some n := by
  rw [Int.repr_eq_if]
  split
  · rename_i hsign
    obtain ⟨m, rfl⟩ := Int.eq_ofNat_of_zero_le hsign
    rw [Int.toNat_natCast, Nat.toList_repr, readInt_of_head (head?_toDigits_ne (by decide)),
      readNat_toDigits]
    rfl
  · rename_i hsign
    obtain ⟨m, hm⟩ := Int.eq_ofNat_of_zero_le (show 0 ≤ -n by omega)
    obtain rfl : n = -m := by omega
    have htext : ("-" ++ Nat.repr m).toList = '-' :: Nat.toDigits 10 m := by simp
    rw [Int.neg_neg, Int.toNat_natCast, htext, readInt, digits?_toDigits]
    rfl

/-! ## Widths -/

variable {width : Nat}

/-- A power of two is the same as an integer. -/
theorem cast_twoTo (n : Nat) : (twoTo n : Int) = 2 ^ n :=
  Int.natCast_pow 2 n

/-- An integer fits into so many bits with a sign if it is in their range. -/
theorem fitsSigned_iff {n : Int} :
    fitsSigned width n = true ↔ -2 ^ (width - 1) ≤ n ∧ n < 2 ^ (width - 1) := by
  rw [fitsSigned, Bool.and_eq_true, decide_eq_true_eq, decide_eq_true_eq, cast_twoTo]

/-- An integer fits into so many bits without a sign if it is in their range. -/
theorem fitsUnsigned_iff {n : Int} : fitsUnsigned width n = true ↔ 0 ≤ n ∧ n < 2 ^ width := by
  rw [fitsUnsigned, Bool.and_eq_true, decide_eq_true_eq, decide_eq_true_eq, cast_twoTo]

/-- An integer is read back from how it is written, if it fits. -/
theorem readSigned_repr (n : Int) :
    readSigned width n.repr = if fitsSigned width n then some n else none := by
  rw [readSigned, readInt_repr]
  rfl

/-- A natural number is read back from how it is written, if it fits. -/
theorem readUnsigned_repr (n : Nat) :
    readUnsigned width n.repr = if fitsUnsigned width n then some n else none := by
  rw [readUnsigned, Nat.toList_repr, readNat_toDigits]
  rfl

end BusTrial.Decimal
