import BusTrial.Proofs.Success
import BusTrial.Signature
import Mathlib.Data.List.Infix

/-!
# Cutting a signature

What `takeType` cuts off depends on nothing behind the cut: the complete types are a prefix code.

* `takeBracketed_spec`, `takeType_spec` — what is cut off is a non-empty start of the text, and it
  is cut off whatever comes after it;
* `scan_eq` — the scan for a closing bracket, counted with an index and a depth that must not fall
  below zero, never faults, and the index it stops at cuts as `takeBracketed` does;
* `Complete` — a text that is its own first complete type;
* **`splitChars_eq_ok_iff`** — cutting up a signature is the inverse of concatenating complete
  texts;
* `splitFirstChars_fault`, `splitFrom_fault` — an error names the part that could not be cut.

A complete text need not balance the brackets of the other kind, so complete texts in brackets are
not complete in general.  `Neutral` is what the text between two brackets has to be, and `Typed`
texts are both; they are built from single characters by `Typed.array` and `Typed.bracketed`.
-/

namespace BusTrial

namespace Signature

/-! ## The scan for a closing bracket -/

/-- The depth behind a character, or `none` if the scan ends with it. -/
def depthAfter (opening closing : Char) (depth : Nat) (c : Char) : Option Nat :=
  if c = opening then some (depth + 1)
  else if c = closing then if depth ≤ 1 then none else some (depth - 1)
  else some depth

/-- The scan as it counts: the number of characters up to the closing bracket, if there is one.
Lowering a depth of zero is a fault, which is the outer `none`. -/
def scan (opening closing : Char) (depth index : Nat) : List Char → Option (Option Nat)
  | [] => some none
  | c :: cs =>
    if c = opening then scan opening closing (depth + 1) (index + 1) cs
    else if c = closing then
      if depth = 0 then none
      else if depth = 1 then some (some (index + 1))
      else scan opening closing (depth - 1) (index + 1) cs
    else scan opening closing depth (index + 1) cs

section

variable {opening closing : Char} {depth : Nat} {cs taken rest : List Char}

/-- One more character changes the depth, and the bracket ends where the depth comes to nothing. -/
theorem takeBracketed_cons (opening closing : Char) (depth : Nat) (c : Char) (cs : List Char) :
    takeBracketed opening closing depth (c :: cs)
      = match depthAfter opening closing depth c with
        | none => some ([c], cs)
        | some next =>
          (takeBracketed opening closing next cs).map fun (taken, rest) => (c :: taken, rest) := by
  rw [takeBracketed, depthAfter]
  by_cases hopen : c = opening
  · simp only [if_pos hopen]
  · by_cases hclose : c = closing
    · by_cases hlast : depth ≤ 1
      · simp only [if_neg hopen, if_pos hclose, if_pos hlast]
      · simp only [if_neg hopen, if_pos hclose, if_neg hlast]
    · simp only [if_neg hopen, if_neg hclose]

/-- What the scan takes is a non-empty start of the text, and it takes that whatever follows. -/
theorem takeBracketed_spec (h : takeBracketed opening closing depth cs = some (taken, rest)) :
    cs = taken ++ rest ∧ taken ≠ [] ∧
      ∀ r, takeBracketed opening closing depth (taken ++ r) = some (taken, r) := by
  induction cs generalizing depth taken rest with
  | nil => cases h
  | cons c cs ih =>
      rw [takeBracketed_cons] at h
      cases hnext : depthAfter opening closing depth c with
      | none =>
          simp only [hnext] at h
          cases h
          exact ⟨rfl, by simp, fun r => by simp [takeBracketed_cons, hnext]⟩
      | some next =>
          simp only [hnext] at h
          obtain ⟨⟨inner, behind⟩, hinner, heq⟩ := Option.map_eq_some_iff.1 h
          cases heq
          obtain ⟨rfl, -, hany⟩ := ih hinner
          exact ⟨rfl, by simp, fun r => by simp [takeBracketed_cons, hnext, hany r]⟩

/-- Below an opening bracket the count never faults, and it stops where `takeBracketed` cuts. -/
theorem scan_succ (opening closing : Char) (depth index : Nat) (cs : List Char) :
    scan opening closing (depth + 1) index cs
      = some ((takeBracketed opening closing (depth + 1) cs).map
          fun (taken, _) => index + taken.length) := by
  induction cs generalizing depth index with
  | nil => rfl
  | cons c cs ih =>
      have hcount (inner : Option (List Char × List Char)) :
          (inner.map fun (taken, _) => index + 1 + taken.length)
            = (inner.map fun (taken, rest) => (c :: taken, rest)).map
                fun (taken, _) => index + taken.length := by
        cases inner <;> simp
        omega
      rw [scan, takeBracketed]
      by_cases hopen : c = opening
      · rw [if_pos hopen, if_pos hopen, ih, hcount]
      · by_cases hclose : c = closing
        · rw [if_neg hopen, if_neg hopen, if_pos hclose, if_pos hclose]
          cases depth with
          | zero => rfl
          | succ depth =>
              rw [if_neg (by omega), if_neg (by omega), if_neg (by omega), Nat.add_sub_cancel, ih,
                hcount]
        · rw [if_neg hopen, if_neg hopen, if_neg hclose, if_neg hclose, ih, hcount]

/-- A scan that begins with its opening bracket never faults.  It stops inside the text, and cutting
there is what `takeBracketed` does. -/
theorem scan_eq (opening closing : Char) (cs : List Char) :
    ∃ found, scan opening closing 0 0 (opening :: cs) = some found ∧
      (∀ index ∈ found, index ≤ (opening :: cs).length) ∧
      takeBracketed opening closing 0 (opening :: cs)
        = found.map fun index => (opening :: cs).splitAt index := by
  have hscan : scan opening closing 0 0 (opening :: cs)
      = some ((takeBracketed opening closing 0 (opening :: cs)).map
          fun (taken, _) => taken.length) := by
    rw [scan, if_pos rfl, scan_succ, takeBracketed, if_pos rfl, Option.map_map]
    refine congrArg some (congrArg (Option.map · _) (funext fun _ => ?_))
    simp [Nat.add_comm]
  refine ⟨_, hscan, ?_⟩
  cases h : takeBracketed opening closing 0 (opening :: cs) with
  | none => exact ⟨nofun, rfl⟩
  | some parts =>
      obtain ⟨taken, rest⟩ := parts
      obtain ⟨hcs, -, -⟩ := takeBracketed_spec h
      rw [hcs]
      constructor
      · rintro index ⟨⟩
        simp
      · simp [List.splitAt_eq]

end

/-! ## The first complete type -/

section

variable {c closing : Char} {cs head tail : List Char}

/-- An array is cut off together with the type after it, and there must be one. -/
theorem takeType_array (cs : List Char) :
    takeType ('a' :: cs)
      = match takeType cs with
        | .error e => .error e
        | .ok ([], _) => .error (.truncatedArray (.ofList ('a' :: cs)))
        | .ok (element, rest) => .ok ('a' :: element, rest) := by
  rw [takeType]
  exact if_pos rfl

/-- A bracketed type is cut off behind the bracket that closes it. -/
theorem takeType_bracketed (hc : closingOf? c = some closing) (cs : List Char) :
    takeType (c :: cs)
      = match takeBracketed c closing 0 (c :: cs) with
        | some parts => .ok parts
        | none => .error (.unbalanced (.ofList (c :: cs))) := by
  have hne : c ≠ 'a' := by
    rintro rfl
    cases hc
  cases h : takeBracketed c closing 0 (c :: cs) <;> simp only [takeType, if_neg hne, hc, h]

/-- Any other character is cut off by itself. -/
theorem takeType_single (hne : c ≠ 'a') (hc : closingOf? c = none) (cs : List Char) :
    takeType (c :: cs) = .ok ([c], cs) := by
  rw [takeType, if_neg hne, hc]

/-- What is cut off is a non-empty start of the text, and it is cut off whatever follows. -/
theorem takeType_spec (h : takeType cs = .ok (head, tail)) (hne : cs ≠ []) :
    cs = head ++ tail ∧ head ≠ [] ∧ ∀ r, takeType (head ++ r) = .ok (head, r) := by
  induction cs generalizing head tail with
  | nil => exact absurd rfl hne
  | cons c cs ih =>
      by_cases ha : c = 'a'
      · subst ha
        rw [takeType_array] at h
        rcases hrest : takeType cs with e | ⟨element, behind⟩ <;> rw [hrest] at h
        · cases h
        cases element with
        | nil => cases h
        | cons d element =>
            cases h
            have hcs : cs ≠ [] := by
              rintro rfl
              cases hrest
            obtain ⟨rfl, -, hany⟩ := ih hrest hcs
            refine ⟨rfl, by simp, fun r => ?_⟩
            rw [List.cons_append, takeType_array, hany r]
      · cases hc : closingOf? c with
        | none =>
            rw [takeType_single ha hc] at h
            cases h
            exact ⟨rfl, by simp, fun r => takeType_single ha hc r⟩
        | some closing =>
            rw [takeType_bracketed hc] at h
            cases htake : takeBracketed c closing 0 (c :: cs) with
            | none => simp [htake] at h
            | some parts =>
                simp only [htake] at h
                cases h
                obtain ⟨hcs, hhead, hany⟩ := takeBracketed_spec htake
                obtain ⟨head', rfl⟩ : ∃ head', head = c :: head' := by
                  cases head with
                  | nil => exact absurd rfl hhead
                  | cons d head' => exact ⟨head', by rw [(List.cons.inj hcs).1]⟩
                refine ⟨hcs, hhead, fun r => ?_⟩
                rw [List.cons_append, takeType_bracketed hc, ← List.cons_append, hany r]

/-- What is cut off and what is left make the whole text again. -/
theorem takeType_append (h : takeType cs = .ok (head, tail)) : head ++ tail = cs := by
  cases cs with
  | nil =>
      cases h
      rfl
  | cons c cs => exact (takeType_spec h (by simp)).1.symm

/-- An error names the part of the text that could not be cut. -/
theorem takeType_fault {e : SignatureError} (h : takeType cs = .error e) :
    ∃ rest, rest ≠ [] ∧ rest <:+ cs ∧
      (e = .truncatedArray (.ofList rest) ∨ e = .unbalanced (.ofList rest)) := by
  induction cs with
  | nil => cases h
  | cons c cs ih =>
      by_cases ha : c = 'a'
      · subst ha
        rw [takeType_array] at h
        rcases hrest : takeType cs with e' | ⟨element, behind⟩ <;> rw [hrest] at h
        · cases h
          obtain ⟨rest, hne, hsuffix, he⟩ := ih hrest
          exact ⟨rest, hne, hsuffix.trans (List.suffix_cons ..), he⟩
        · cases element with
          | nil =>
              cases h
              exact ⟨_, by simp, List.suffix_rfl, .inl rfl⟩
          | cons d element => cases h
      · cases hc : closingOf? c with
        | none =>
            rw [takeType_single ha hc] at h
            cases h
        | some closing =>
            rw [takeType_bracketed hc] at h
            cases htake : takeBracketed c closing 0 (c :: cs) with
            | none =>
                simp only [htake] at h
                cases h
                exact ⟨_, by simp, List.suffix_rfl, .inr rfl⟩
            | some parts => simp [htake] at h

end

/-! ## Complete texts -/

/-- The text is its own first complete type. -/
structure Complete (p : List Char) : Prop where
  nonempty : p ≠ []
  ascii : isAscii p = true
  taken : takeType p = .ok (p, [])

/-- A text is ASCII if both its parts are. -/
theorem isAscii_append (p q : List Char) : isAscii (p ++ q) = (isAscii p && isAscii q) :=
  List.all_append

/-- Nothing but the type matters in an ASCII text. -/
theorem splitFirstChars_of_ascii {cs : List Char} (h : isAscii cs = true) :
    splitFirstChars cs = takeType cs := by
  rw [splitFirstChars, if_pos h]

/-- A type is cut off ASCII texts only. -/
theorem splitFirstChars_eq_ok {cs : List Char} {parts : List Char × List Char} :
    splitFirstChars cs = .ok parts ↔ isAscii cs = true ∧ takeType cs = .ok parts := by
  rw [splitFirstChars]
  by_cases h : isAscii cs = true <;> simp [h]

/-- A text is complete if it is one type, with nothing left of it. -/
theorem complete_iff {p : List Char} :
    Complete p ↔ p ≠ [] ∧ splitFirstChars p = .ok (p, []) := by
  rw [splitFirstChars_eq_ok]
  exact ⟨fun ⟨hne, hascii, htaken⟩ => ⟨hne, hascii, htaken⟩,
    fun ⟨hne, hascii, htaken⟩ => ⟨hne, hascii, htaken⟩⟩

namespace Complete

variable {p : List Char}

/-- **Complete texts are a prefix code**: one is cut off whatever comes after it. -/
theorem takeType_append (h : Complete p) (r : List Char) : takeType (p ++ r) = .ok (p, r) :=
  (takeType_spec h.taken h.nonempty).2.2 r

/-- A complete text is cut off whatever ASCII text stands behind it. -/
theorem splitFirstChars_append (h : Complete p) {r : List Char} (hr : isAscii r = true) :
    splitFirstChars (p ++ r) = .ok (p, r) := by
  rw [splitFirstChars_of_ascii (by rw [isAscii_append, h.ascii, hr]; rfl), h.takeType_append]

/-- What is cut off is complete. -/
theorem of_takeType {cs head tail : List Char} (h : splitFirstChars cs = .ok (head, tail))
    (hne : cs ≠ []) : Complete head := by
  obtain ⟨hascii, htake⟩ := splitFirstChars_eq_ok.1 h
  obtain ⟨rfl, hhead, hany⟩ := takeType_spec htake hne
  rw [isAscii_append, Bool.and_eq_true] at hascii
  exact ⟨hhead, hascii.1, by simpa using hany []⟩

/-- Complete texts in a row are ASCII. -/
theorem isAscii_flatten {parts : List (List Char)} (h : ∀ p ∈ parts, Complete p) :
    isAscii parts.flatten = true := by
  induction parts with
  | nil => rfl
  | cons p parts ih =>
      rw [List.flatten_cons, isAscii_append, (h p (by simp)).ascii,
        ih fun q hq => h q (List.mem_cons_of_mem p hq)]
      rfl

end Complete

/-! ## Cutting a signature up -/

/-- Cutting goes on with what the first type leaves. -/
theorem splitFrom_cons (fuel : Nat) (c : Char) (cs : List Char) :
    splitFrom (fuel + 1) (c :: cs)
      = match splitFirstChars (c :: cs) with
        | .error e => .error e
        | .ok (first, rest) => (splitFrom fuel rest).map (first :: ·) := rfl

/-- The parts of a signature are complete and make it up again. -/
theorem splitFrom_parts {fuel : Nat} {cs : List Char} {parts : List (List Char)}
    (hfuel : cs.length ≤ fuel) (h : splitFrom fuel cs = .ok parts) :
    parts.flatten = cs ∧ ∀ p ∈ parts, Complete p := by
  induction fuel generalizing cs parts with
  | zero =>
      obtain rfl : cs = [] := List.eq_nil_of_length_eq_zero (by omega)
      cases h
      exact ⟨rfl, by simp⟩
  | succ fuel ih =>
      cases cs with
      | nil =>
          cases h
          exact ⟨rfl, by simp⟩
      | cons c cs =>
          rw [splitFrom_cons] at h
          rcases hfirst : splitFirstChars (c :: cs) with e | ⟨first, rest⟩ <;> rw [hfirst] at h
          · cases h
          obtain ⟨others, hothers, rfl⟩ := Success.map_eq_ok.1 h
          have hcomplete := Complete.of_takeType hfirst (by simp)
          have happend := takeType_append (splitFirstChars_eq_ok.1 hfirst).2
          have hlength : rest.length ≤ fuel := by
            have := congrArg List.length happend
            have := List.length_pos_of_ne_nil hcomplete.nonempty
            simp only [List.length_append, List.length_cons] at *
            omega
          obtain ⟨rfl, hall⟩ := ih hlength hothers
          refine ⟨happend, fun p hp => ?_⟩
          rcases List.mem_cons.1 hp with rfl | hp
          · exact hcomplete
          · exact hall p hp

/-- Complete texts in a row are cut apart again. -/
theorem splitFrom_flatten {parts : List (List Char)} (h : ∀ p ∈ parts, Complete p) :
    ∀ {fuel : Nat}, parts.flatten.length ≤ fuel → splitFrom fuel parts.flatten = .ok parts := by
  induction parts with
  | nil =>
      intro fuel _
      cases fuel <;> rfl
  | cons p parts ih =>
      intro fuel hfuel
      have hp := h p (by simp)
      have hrest : ∀ q ∈ parts, Complete q := fun q hq => h q (List.mem_cons_of_mem p hq)
      have hfirst := hp.splitFirstChars_append (Complete.isAscii_flatten hrest)
      obtain ⟨c, cs, rfl⟩ := List.exists_cons_of_ne_nil hp.nonempty
      rw [List.flatten_cons, List.length_append, List.length_cons] at hfuel
      obtain ⟨fuel, rfl⟩ : ∃ n, fuel = n + 1 := ⟨fuel - 1, by omega⟩
      rw [List.flatten_cons, List.cons_append, splitFrom_cons, ← List.cons_append, hfirst]
      simp only [ih hrest (show parts.flatten.length ≤ fuel by omega), Except.map]

/-- **Cutting up is the inverse of concatenating** complete texts. -/
theorem splitChars_eq_ok_iff {cs : List Char} {parts : List (List Char)} :
    splitChars cs = .ok parts ↔ parts.flatten = cs ∧ ∀ p ∈ parts, Complete p := by
  constructor
  · exact splitFrom_parts le_rfl
  · rintro ⟨rfl, h⟩
    exact splitFrom_flatten h le_rfl

/-- An error names the part of the text that could not be cut. -/
theorem splitFirstChars_fault {cs : List Char} {e : SignatureError}
    (h : splitFirstChars cs = .error e) :
    ∃ rest, rest ≠ [] ∧ rest <:+ cs ∧
      (e = .notAscii (.ofList rest) ∨ e = .truncatedArray (.ofList rest) ∨
        e = .unbalanced (.ofList rest)) := by
  rw [splitFirstChars] at h
  by_cases hascii : isAscii cs = true
  · rw [if_pos hascii] at h
    obtain ⟨rest, hne, hsuffix, he⟩ := takeType_fault h
    exact ⟨rest, hne, hsuffix, .inr he⟩
  · rw [if_neg hascii] at h
    cases h
    have hne : cs ≠ [] := by
      rintro rfl
      exact hascii rfl
    exact ⟨cs, hne, List.suffix_rfl, .inl rfl⟩

/-- A text that cannot be cut is at fault in a part at its end, which the error names. -/
theorem splitFrom_fault {fuel : Nat} {cs : List Char} {e : SignatureError}
    (h : splitFrom fuel cs = .error e) :
    ∃ rest, rest ≠ [] ∧ rest <:+ cs ∧
      (e = .notAscii (.ofList rest) ∨ e = .truncatedArray (.ofList rest) ∨
        e = .unbalanced (.ofList rest)) := by
  induction fuel generalizing cs with
  | zero => cases cs <;> cases h
  | succ fuel ih =>
      cases cs with
      | nil => cases h
      | cons c cs =>
          rw [splitFrom_cons] at h
          rcases hfirst : splitFirstChars (c :: cs) with e' | ⟨first, rest⟩ <;> rw [hfirst] at h
          · cases h
            exact splitFirstChars_fault hfirst
          · have happend := takeType_append (splitFirstChars_eq_ok.1 hfirst).2
            cases hothers : splitFrom fuel rest with
            | ok others => simp [hothers, Except.map] at h
            | error e' =>
                simp only [hothers, Except.map] at h
                cases h
                obtain ⟨part, hne, hsuffix, he⟩ := ih hothers
                exact ⟨part, hne, hsuffix.trans ⟨first, happend⟩, he⟩

/-! ## Texts between brackets -/

/-- There are two kinds of brackets. -/
theorem closingOf?_eq_some {c closing : Char} :
    closingOf? c = some closing ↔
      (c = '(' ∧ closing = ')') ∨ (c = '\x7b' ∧ closing = '\x7d') := by
  rw [closingOf?]
  by_cases hround : c = '('
  · subst hround
    simp [eq_comm]
  · by_cases hcurly : c = '\x7b'
    · subst hcurly
      simp [eq_comm]
    · simp [hround, hcurly]

/-- A scan for a closing bracket of either kind passes over the text. -/
def Neutral (p : List Char) : Prop :=
  ∀ ⦃opening closing : Char⦄, closingOf? opening = some closing → ∀ (depth : Nat) (r : List Char),
    takeBracketed opening closing (depth + 1) (p ++ r)
      = (takeBracketed opening closing (depth + 1) r).map fun (taken, rest) => (p ++ taken, rest)

/-- The character is no bracket. -/
def isPlain (c : Char) : Bool :=
  c ∉ ['(', ')', '\x7b', '\x7d']

namespace Neutral

variable {p q : List Char}

/-- Nothing at all leaves every depth as it is. -/
theorem nil : Neutral [] := by
  intro opening closing _ depth r
  simp

/-- Two such texts in a row leave it as it is. -/
theorem append (hp : Neutral p) (hq : Neutral q) : Neutral (p ++ q) := by
  intro opening closing hkind depth r
  rw [List.append_assoc, hp hkind, hq hkind, Option.map_map]
  refine congrArg (Option.map · _) (funext fun _ => ?_)
  simp

/-- A character that is no bracket leaves the depth as it is. -/
theorem plain {c : Char} (h : isPlain c = true) : Neutral [c] := by
  intro opening closing hkind depth r
  have hnext : depthAfter opening closing (depth + 1) c = some (depth + 1) := by
    rcases closingOf?_eq_some.1 hkind with ⟨rfl, rfl⟩ | ⟨rfl, rfl⟩ <;>
      simp_all [isPlain, depthAfter]
  rw [List.singleton_append, takeBracketed_cons, hnext]
  rfl

/-- Such a character leaves it as it is in front of such a text, too. -/
theorem cons {c : Char} (h : isPlain c = true) (hp : Neutral p) : Neutral (c :: p) :=
  (plain h).append hp

/-- Brackets around a neutral text are counted up and down again, or not at all. -/
theorem bracketed {c closing : Char} (hc : closingOf? c = some closing) (hp : Neutral p) :
    Neutral (c :: (p ++ [closing])) := by
  intro opening closing' hkind depth r
  have hnext : ∃ inner, depthAfter opening closing' (depth + 1) c = some (inner + 1) ∧
      depthAfter opening closing' (inner + 1) closing = some (depth + 1) := by
    rcases closingOf?_eq_some.1 hkind with ⟨rfl, rfl⟩ | ⟨rfl, rfl⟩ <;>
      rcases closingOf?_eq_some.1 hc with ⟨rfl, rfl⟩ | ⟨rfl, rfl⟩
    · exact ⟨depth + 1, rfl, by simp [depthAfter]⟩
    · exact ⟨depth, rfl, by simp [depthAfter]⟩
    · exact ⟨depth, rfl, by simp [depthAfter]⟩
    · exact ⟨depth + 1, rfl, by simp [depthAfter]⟩
  obtain ⟨inner, hup, hdown⟩ := hnext
  rw [List.cons_append, takeBracketed_cons, hup]
  simp only [List.append_assoc, List.singleton_append]
  rw [hp hkind, takeBracketed_cons, hdown]
  simp only [Option.map_map]
  refine congrArg (Option.map · _) (funext fun _ => ?_)
  simp

end Neutral

/-- The text is complete, in brackets as well as by itself. -/
structure Typed (p : List Char) : Prop extends Complete p where
  neutral : Neutral p

namespace Typed

variable {p : List Char}

/-- A character that stands for a type by itself is complete, in brackets as well. -/
theorem single {c : Char} (hplain : isPlain c = true) (ha : c ≠ 'a') (hascii : isAscii [c] = true) :
    Typed [c] where
  nonempty := by simp
  ascii := hascii
  taken := by
    refine takeType_single ha ?_ []
    cases hc : closingOf? c with
    | none => rfl
    | some closing =>
        rcases closingOf?_eq_some.1 hc with ⟨rfl, -⟩ | ⟨rfl, -⟩ <;> simp [isPlain] at hplain
  neutral := Neutral.plain hplain

/-- An array of a complete type is complete, in brackets as well. -/
theorem array (h : Typed p) : Typed ('a' :: p) where
  nonempty := by simp
  ascii := h.ascii
  taken := by
    have htaken := h.taken
    obtain ⟨c, cs, rfl⟩ := List.exists_cons_of_ne_nil h.nonempty
    rw [takeType_array, htaken]
  neutral := h.neutral.cons rfl

/-- What stands in brackets is complete if it leaves the depth as it is, in further brackets as
well. -/
theorem bracketed {c closing : Char} (hc : closingOf? c = some closing) (hp : Neutral p)
    (hascii : isAscii p = true) : Typed (c :: (p ++ [closing])) where
  nonempty := by simp
  ascii := by
    have hends : isAscii [c] = true ∧ isAscii [closing] = true := by
      rcases closingOf?_eq_some.1 hc with ⟨rfl, rfl⟩ | ⟨rfl, rfl⟩ <;> decide
    rw [← List.singleton_append, isAscii_append, isAscii_append, hascii, hends.1, hends.2]
    rfl
  taken := by
    have hends : depthAfter c closing 0 c = some 1 ∧ depthAfter c closing 1 closing = none := by
      rcases closingOf?_eq_some.1 hc with ⟨rfl, rfl⟩ | ⟨rfl, rfl⟩ <;> decide
    rw [takeType_bracketed hc, takeBracketed_cons, hends.1]
    simp only [hp hc 0, takeBracketed_cons c closing 1, hends.2, Option.map_some]
  neutral := hp.bracketed hc

end Typed

end Signature

end BusTrial
