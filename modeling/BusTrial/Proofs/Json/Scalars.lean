import BusTrial.Json.Printer
import BusTrial.Proofs.Decimal
import BusTrial.Proofs.Json.Steps
import Mathlib.Data.List.TakeDrop
import Mathlib.Data.String.Basic

/-!
# Texts and integers read back

What is written for a text or an integer is read as that text or integer.

* `takeEscape_escape` — the escape of a character is read as that character;
* `takeString_quoted` — so is a whole text between quotes, by induction on its characters;
* `takeNumber_toString` — and an integer of 64 bits, if no digit, point or exponent follows it.
-/

namespace BusTrial.Json

open Reading
open Decimal (digit?_of_isDigit digitsValue_toDigits head?_toDigits_ne isDigit_of_mem_toDigits)

variable {depth : Nat} {c : Char} {rest : List Char}

/-! ## Escapes -/

/-- A hexadecimal digit is read back. -/
theorem hexValue?_hexDigit (n : Nat) : Text.hexValue? (hexDigit n) = some (n % 16) := by
  have hall : ∀ m < 16, Text.hexValue? (Nat.digitChar m) = some m := by decide
  exact hall _ (Nat.mod_lt n (by decide))

/-- A hexadecimal digit is ASCII. -/
theorem utf8Size_hexDigit (n : Nat) : (hexDigit n).utf8Size = 1 := by
  have hall : ∀ m < 16, (Nat.digitChar m).utf8Size = 1 := by decide
  exact hall _ (Nat.mod_lt n (by decide))

/-- The four digits of a number below 256 are read as that number. -/
theorem hex4_digits {n : Nat} (hn : n < 256) (rest : List Char) :
    hex4 ('0' :: '0' :: hexDigit (n / 16) :: hexDigit n :: rest) = .ok (n, rest) := by
  have hbytes : byteCount ['0', '0', hexDigit (n / 16), hexDigit n] = 4 := by
    simp only [byteCount, utf8Size_hexDigit]
    rfl
  have hnumber : Text.hexNumber? ['0', '0', hexDigit (n / 16), hexDigit n] = some n := by
    have hzero : Text.hexValue? '0' = some 0 := by decide
    simp only [Text.hexNumber?, List.foldlM_cons, List.foldlM_nil, hexValue?_hexDigit, hzero,
      Option.map_some, Option.bind_eq_bind, Option.bind_some, Option.pure_def, Option.some.injEq]
    omega
  simp only [hex4, List.take_succ_cons, List.take_zero, hbytes, hnumber, lt_irrefl, if_false,
    List.drop_succ_cons, List.drop_zero]

/-- A character that does not stand for itself is a quote, a backslash or a control character. -/
theorem escaped_cases (h : isPlain c = false) : c = '"' ∨ c = '\\' ∨ c.toNat < 0x20 := by
  simp only [isPlain, Bool.and_eq_false_iff, bne_eq_false_iff_eq, decide_eq_false_iff_not,
    not_le] at h
  tauto

/-- A control character without an escape of its own is written by its number. -/
theorem takeEscape_numeric (hlow : c.toNat < 0x20) (hfeed : c ≠ '\n') (hreturn : c ≠ '\r')
    (htab : c ≠ '\t') (hbackspace : c ≠ '\x08') (hformFeed : c ≠ '\x0c') (rest : List Char) :
    ∃ tail, escape c = '\\' :: tail ∧ takeEscape (.kept depth) (tail ++ rest) = .ok (c, rest) := by
  have hquote : c ≠ '"' := by rintro rfl; exact absurd hlow (by decide)
  have hbackslash : c ≠ '\\' := by rintro rfl; exact absurd hlow (by decide)
  have height : c.toNat ≠ 0x08 := fun h => hbackspace (Char.toNat_inj.1 h)
  have htwelve : c.toNat ≠ 0x0c := fun h => hformFeed (Char.toNat_inj.1 h)
  refine ⟨['u', '0', '0', hexDigit (c.toNat / 16), hexDigit c.toNat], ?_, ?_⟩
  · simp only [escape, beq_iff_eq, hquote, hbackslash, hfeed, hreturn, htab, height, htwelve,
      if_false]
  · have hlead : isLowSurrogate c.toNat = false := by
      simp only [isLowSurrogate, Bool.and_eq_false_iff, decide_eq_false_iff_not]
      omega
    have htrail : isHighSurrogate c.toNat = false := by
      simp only [isHighSurrogate, Bool.and_eq_false_iff, decide_eq_false_iff_not]
      omega
    rw [takeEscape]
    refine (bind_of_ok (dropIf_self 'u' _)).trans ?_
    refine (bind_of_ok (hex4_digits (by omega) rest)).trans ?_
    have hkept : (Use.kept depth == Use.skipped) = false := rfl
    simp only [hkept, hlead, htrail, Bool.false_eq_true, if_false, Bool.not_false, if_true,
      Char.ofNat_toNat, pure_apply]

/-- **The escape of a character is read as that character.** -/
theorem takeEscape_escape (h : isPlain c = false) (rest : List Char) :
    ∃ tail, escape c = '\\' :: tail ∧ takeEscape (.kept depth) (tail ++ rest) = .ok (c, rest) := by
  rcases escaped_cases h with rfl | rfl | hlow
  · exact ⟨['"'], rfl, rfl⟩
  · exact ⟨['\\'], rfl, rfl⟩
  by_cases hfeed : c = '\n'
  · subst hfeed
    exact ⟨['n'], rfl, rfl⟩
  by_cases hreturn : c = '\r'
  · subst hreturn
    exact ⟨['r'], rfl, rfl⟩
  by_cases htab : c = '\t'
  · subst htab
    exact ⟨['t'], rfl, rfl⟩
  by_cases hbackspace : c = '\x08'
  · subst hbackspace
    exact ⟨['b'], rfl, rfl⟩
  by_cases hformFeed : c = '\x0c'
  · subst hformFeed
    exact ⟨['f'], rfl, rfl⟩
  exact takeEscape_numeric hlow hfeed hreturn htab hbackspace hformFeed rest

/-! ## Texts -/

variable {taken : List Char} {fuel : Nat}

/-- The quote ends the text with what was taken so far. -/
theorem takeQuoted_close (fuel : Nat) (taken rest : List Char) :
    takeQuoted (.kept depth) (fuel + 1) taken ('"' :: rest) = .ok (.ofList taken.reverse, rest) := by
  rw [takeQuoted]
  rfl

/-- A plain character is taken as it is. -/
theorem takeQuoted_plain (h : isPlain c = true) (fuel : Nat) (taken rest : List Char) :
    takeQuoted (.kept depth) (fuel + 1) taken (c :: rest)
      = takeQuoted (.kept depth) fuel (c :: taken) rest := by
  simp only [isPlain, Bool.and_eq_true, bne_iff_ne, ne_eq, decide_eq_true_eq] at h
  obtain ⟨⟨hquote, hbackslash⟩, hlow⟩ := h
  rw [takeQuoted, bind_of_ok (next?_apply _)]
  simp only [List.head?_cons, Nat.not_lt.2 hlow, if_false]
  rw [bind_of_ok (drop_apply _)]
  simp only [hquote, hbackslash, beq_iff_eq, if_false, List.tail_cons]

/-- An escape is taken as the character that it stands for. -/
theorem takeQuoted_escape {tail : List Char}
    (h : takeEscape (.kept depth) tail = .ok (c, rest)) (fuel : Nat) (taken : List Char) :
    takeQuoted (.kept depth) (fuel + 1) taken ('\\' :: tail)
      = takeQuoted (.kept depth) fuel (c :: taken) rest := by
  rw [takeQuoted]
  refine (bind_of_ok (next?_apply _)).trans ?_
  refine (bind_of_ok (drop_apply _)).trans ?_
  exact bind_of_ok h

/-- The characters of a text are read one by one. -/
theorem takeQuoted_quotedChars (cs : List Char) :
    ∀ (taken : List Char) (fuel : Nat), cs.length < fuel →
      takeQuoted (.kept depth) fuel taken (quotedChars cs ++ '"' :: rest)
        = .ok (.ofList (taken.reverse ++ cs), rest) := by
  induction cs with
  | nil =>
    intro taken fuel hfuel
    obtain ⟨fuel, rfl⟩ := Nat.exists_eq_add_of_lt hfuel
    rw [List.append_nil]
    exact takeQuoted_close _ taken rest
  | cons c cs ih =>
    intro taken fuel hfuel
    obtain ⟨fuel, rfl⟩ : ∃ left, fuel = left + 1 := ⟨fuel - 1, by omega⟩
    have hnext := ih (c :: taken) fuel (by simpa using hfuel)
    rw [List.reverse_cons, List.append_assoc, List.singleton_append] at hnext
    rw [quotedChars, List.flatMap_cons, List.append_assoc]
    cases hplain : isPlain c with
    | true =>
      rw [if_pos rfl, List.singleton_append, takeQuoted_plain hplain]
      exact hnext
    | false =>
      obtain ⟨tail, htail, htake⟩ := takeEscape_escape hplain (quotedChars cs ++ '"' :: rest)
      rw [if_neg Bool.false_ne_true, htail, List.cons_append]
      exact (takeQuoted_escape htake fuel taken).trans hnext

/-- No character is printed as nothing. -/
theorem length_le_quotedChars (cs : List Char) : cs.length ≤ (quotedChars cs).length := by
  induction cs with
  | nil => exact Nat.zero_le _
  | cons c cs ih =>
    have hone : 1 ≤ (if isPlain c then [c] else escape c).length := by
      split
      · exact le_rfl
      · rw [escape]
        split_ifs <;> simp
    rw [quotedChars, List.flatMap_cons, List.length_append, List.length_cons]
    rw [quotedChars] at ih
    omega

/-- **A text between quotes is read as that text.** -/
theorem takeString_quoted (text : String) (rest : List Char) :
    takeString (.kept depth) (quotedChars text.toList ++ '"' :: rest) = .ok (text, rest) := by
  have hlength := length_le_quotedChars text.toList
  rw [takeString, bind_of_ok (get_apply _), takeQuoted_quotedChars]
  · rw [List.reverse_nil, List.nil_append, String.ofList_toList]
  · rw [List.length_append]
    omega

/-! ## Integers -/

/-- What can stand behind a value: the end, a comma or a closing bracket. -/
def Ends (rest : List Char) : Prop :=
  ∀ c, rest.head? = some c → c = ',' ∨ c = ']' ∨ c = '\x7d'

/-- No digits are taken for more than there are. -/
theorem spanDigits_append {ds : List Char} (hds : ∀ c ∈ ds, c.isDigit = true)
    (hrest : ∀ c, rest.head? = some c → Decimal.digit? c = none) :
    Decimal.spanDigits (ds ++ rest) = (ds, rest) := by
  have hall : ∀ c ∈ ds, (Decimal.digit? c).isSome = true := fun c hc => by
    rw [digit?_of_isDigit (hds c hc)]
    rfl
  have hstop : rest.takeWhile (fun c => (Decimal.digit? c).isSome) = [] ∧
      rest.dropWhile (fun c => (Decimal.digit? c).isSome) = rest := by
    cases rest with
    | nil => exact ⟨rfl, rfl⟩
    | cons c rest => simp [hrest c rfl]
  rw [Decimal.spanDigits, List.span_eq_takeWhile_dropWhile, List.takeWhile_append_of_pos hall,
    List.dropWhile_append_of_pos hall, hstop.1, hstop.2, List.append_nil]

/-- Only zero begins with a zero. -/
theorem head?_toDigits {n : Nat} (hn : n ≠ 0) : (Nat.toDigits 10 n).head? ≠ some '0' := by
  induction n using Nat.strongRecOn with
  | ind n ih =>
    rw [Nat.toDigits_eq_if (by decide)]
    split
    · rw [List.head?_cons, Ne, Option.some.injEq, Nat.digitChar_eq_zero]
      exact hn
    · rw [List.head?_append_of_ne_nil _ Nat.toDigits_ne_nil]
      exact ih (n / 10) (by omega) (by omega)

/-- What ends a number does not begin with a digit. -/
theorem Ends.digit? (h : Ends rest) : ∀ c, rest.head? = some c → Decimal.digit? c = none := by
  intro c hc
  rcases h c hc with rfl | rfl | rfl <;> decide

/-- What ends a value is neither of two characters. -/
theorem Ends.head?_ne (h : Ends rest) {d : Char} (hd : d ≠ ',' ∧ d ≠ ']' ∧ d ≠ '\x7d') :
    rest.head? ≠ some d := by
  intro hhead
  rcases h d hhead with rfl | rfl | rfl
  · exact hd.1 rfl
  · exact hd.2.1 rfl
  · exact hd.2.2 rfl

/-- All digits are taken, up to what ends the number. -/
theorem takeDigits_append {cut : Cause} {ds : List Char} (hne : ds ≠ [])
    (hds : ∀ c ∈ ds, c.isDigit = true) (hrest : Ends rest) :
    takeDigits cut (ds ++ rest) = .ok (ds, rest) := by
  have hspan := spanDigits_append hds hrest.digit?
  rw [takeDigits, bind_of_ok (get_apply _), hspan]
  refine (bind_of_ok rfl).trans ?_
  rw [if_neg (by simpa using hne)]
  rfl

/-- The digits of a number are taken as a whole, since only zero begins with a zero. -/
theorem takeWhole_toDigits {cut : Cause} (n : Nat) (hrest : Ends rest) :
    takeWhole cut (Nat.toDigits 10 n ++ rest) = .ok (Nat.toDigits 10 n, rest) := by
  by_cases hn : n = 0
  · subst hn
    rw [Nat.toDigits_zero, takeWhole, List.singleton_append, bind_of_ok (dropIf_self '0' _)]
    refine (bind_of_ok (next?_apply _)).trans ?_
    have hnone : (rest.head?.any fun c => (Decimal.digit? c).isSome) = false := by
      cases hhead : rest.head? with
      | none => rfl
      | some c => simp [hrest.digit? c hhead]
    simp only [hnone, Bool.false_eq_true, if_false]
    rfl
  · have hhead : (Nat.toDigits 10 n ++ rest).head? ≠ some '0' := by
      rw [List.head?_append_of_ne_nil _ Nat.toDigits_ne_nil]
      exact head?_toDigits hn
    rw [takeWhole, bind_of_ok (dropIf_of_ne hhead)]
    exact takeDigits_append Nat.toDigits_ne_nil (fun c hc => isDigit_of_mem_toDigits hc) hrest

/-- There is no fraction behind the end of a number. -/
theorem takeFraction_of_ends {cut : Cause} (hrest : Ends rest) :
    takeFraction cut rest = .ok (none, rest) := by
  rw [takeFraction, bind_of_ok (dropIf_of_ne (hrest.head?_ne (by decide)))]
  rfl

/-- There is no exponent behind the end of a number. -/
theorem takeExponent_of_ends {cut : Cause} (hrest : Ends rest) :
    takeExponent cut rest = .ok (none, rest) := by
  rw [takeExponent, bind_of_ok (next?_apply _), if_neg]
  · rfl
  · cases hhead : rest.head? with
    | none => exact Bool.false_ne_true
    | some c => rcases hrest c hhead with rfl | rfl | rfl <;> decide

/-- The parts of a written integer. -/
def integerText (negative : Bool) (n : Nat) : NumberText where
  negative := negative
  whole := Nat.toDigits 10 n
  fraction := []
  exponent := none
  isInteger := true

/-- A number without a sign is taken apart as an integer. -/
theorem take_natural {cut : Cause} (n : Nat) (hrest : Ends rest) :
    NumberText.take cut (Nat.toDigits 10 n ++ rest) = .ok (integerText false n, rest) := by
  have hminus : (Nat.toDigits 10 n ++ rest).head? ≠ some '-' := by
    rw [List.head?_append_of_ne_nil _ Nat.toDigits_ne_nil]
    exact head?_toDigits_ne (by decide)
  rw [NumberText.take, bind_of_ok (dropIf_of_ne hminus), bind_of_ok (takeWhole_toDigits n hrest),
    bind_of_ok (takeFraction_of_ends hrest), bind_of_ok (takeExponent_of_ends hrest)]
  rfl

/-- A number with a sign is taken apart as a negative integer. -/
theorem take_negative {cut : Cause} (n : Nat) (hrest : Ends rest) :
    NumberText.take cut ('-' :: (Nat.toDigits 10 n ++ rest)) = .ok (integerText true n, rest) := by
  rw [NumberText.take, bind_of_ok (dropIf_self '-' _), bind_of_ok (takeWhole_toDigits n hrest),
    bind_of_ok (takeFraction_of_ends hrest), bind_of_ok (takeExponent_of_ends hrest)]
  rfl

/-- The integer fits in 64 bits, with a sign or without one. -/
def Fits (n : Int) : Prop :=
  Decimal.fitsSigned 64 n = true ∨ Decimal.fitsUnsigned 64 n = true

/-- An integer that fits has its number as its value. -/
theorem integerText_value_natural {n : Nat} (fits : Fits n) :
    (integerText false n).value = some (.int n) := by
  have hunsigned : Decimal.fitsUnsigned 64 n = true := by
    rcases fits with h | h
    · have hwidth : (Decimal.twoTo (64 - 1) : Int) ≤ Decimal.twoTo 64 := by decide
      simp only [Decimal.fitsSigned, Decimal.fitsUnsigned, Bool.and_eq_true,
        decide_eq_true_eq] at h ⊢
      exact ⟨Int.natCast_nonneg n, lt_of_lt_of_le h.2 hwidth⟩
    · exact h
  simp [NumberText.value, integerText, digitsValue_toDigits, hunsigned]

/-- A negative integer that fits has its number as its value; zero has no sign. -/
theorem integerText_value_negative {n : Nat} (hn : n ≠ 0) (fits : Fits (-n)) :
    (integerText true n).value = some (.int (-n)) := by
  have hsigned : Decimal.fitsSigned 64 (-n) = true := by
    rcases fits with h | h
    · exact h
    · simp only [Decimal.fitsUnsigned, Bool.and_eq_true, decide_eq_true_eq] at h
      omega
  simp [NumberText.value, integerText, digitsValue_toDigits, hsigned, hn]

/-- A number is read as the value of its text. -/
theorem takeNumber_of_take {text : List Char} {number : NumberText} {v : Json}
    (htake : NumberText.take .endInValue text = .ok (number, rest)) (hvalue : number.value = some v) :
    takeNumber (.kept depth) text = .ok (v, rest) := by
  have hkept : (Use.kept depth == Use.skipped) = false := rfl
  rw [takeNumber]
  refine (bind_of_ok htake).trans ?_
  simp only [hkept, hvalue, Bool.false_eq_true, if_false, pure_apply]

/-- **An integer is read as that integer.** -/
theorem takeNumber_toString {n : Int} (fits : Fits n) (hrest : Ends rest) :
    takeNumber (.kept depth) ((toString n).toList ++ rest) = .ok (.int n, rest) := by
  rw [Int.toString_eq_repr, Int.repr_eq_if]
  split
  · rename_i hsign
    obtain ⟨m, rfl⟩ := Int.eq_ofNat_of_zero_le hsign
    rw [Int.toNat_natCast, Nat.repr_eq_ofList_toDigits, String.toList_ofList]
    exact takeNumber_of_take (take_natural m hrest) (integerText_value_natural fits)
  · rename_i hsign
    obtain ⟨m, hm⟩ := Int.eq_ofNat_of_zero_le (show 0 ≤ -n by omega)
    obtain rfl : n = -m := by omega
    rw [Int.neg_neg, Int.toNat_natCast, Nat.repr_eq_ofList_toDigits]
    have htext : ("-" ++ String.ofList (Nat.toDigits 10 m)).toList ++ rest
        = '-' :: (Nat.toDigits 10 m ++ rest) := by simp
    rw [htext]
    exact takeNumber_of_take (take_negative m hrest) (integerText_value_negative (by omega) fits)

/-- An integer begins with a minus or a digit. -/
theorem exists_toString_eq_cons (n : Int) :
    ∃ c cs, (toString n).toList = c :: cs ∧ (c = '-' ∨ c.isDigit = true) := by
  have hdigits (m : Nat) : ∃ c cs, Nat.toDigits 10 m = c :: cs ∧ c.isDigit = true := by
    obtain ⟨c, cs, hcons⟩ := List.exists_cons_of_ne_nil (Nat.toDigits_ne_nil (n := m) (b := 10))
    exact ⟨c, cs, hcons, isDigit_of_mem_toDigits (hcons ▸ List.mem_cons_self)⟩
  rw [Int.toString_eq_repr, Int.repr_eq_if]
  split
  · obtain ⟨c, cs, hcons, hc⟩ := hdigits n.toNat
    exact ⟨c, cs, by simpa [Nat.repr_eq_ofList_toDigits] using hcons, .inr hc⟩
  · exact ⟨'-', Nat.toDigits 10 (-n).toNat, by simp [Nat.repr_eq_ofList_toDigits], .inl rfl⟩

end BusTrial.Json
