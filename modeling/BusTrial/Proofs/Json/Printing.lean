import BusTrial.Json.Printer
import Mathlib.Data.String.Basic
import Mathlib.Tactic.Common

/-!
# Written JSON stays on its line

No control character is written, whatever the texts in a value hold: a line feed is escaped like all
characters below U+0020, at every level of a value, and numbers consist of digits, signs, points and
letters.
-/

namespace BusTrial

/-- None of the characters is below U+0020. -/
def Inline (cs : List Char) : Prop :=
  ∀ c ∈ cs, 0x20 ≤ c.toNat

/-- By the characters of the text, and not by all characters there are. -/
instance Inline.decidable (cs : List Char) : Decidable (Inline cs) :=
  List.decidableBAll _ cs

namespace Inline

variable {c : Char} {cs ds : List Char}

/-- Nothing at all stays in the line. -/
theorem nil : Inline [] := nofun

/-- A character that is no control character stays in the line. -/
theorem cons (hc : 0x20 ≤ c.toNat) (hcs : Inline cs) : Inline (c :: cs) :=
  List.forall_mem_cons.2 ⟨hc, hcs⟩

/-- What is printed in a row stays in the line if each part does. -/
theorem append (hcs : Inline cs) (hds : Inline ds) : Inline (cs ++ ds) :=
  List.forall_mem_append.2 ⟨hcs, hds⟩

/-- What stays in the line holds no line feed, since that is a control character. -/
theorem no_lineFeed (h : Inline cs) : '\n' ∉ cs := fun hmem => absurd (h _ hmem) (by decide)

end Inline

/-! ## Numbers -/

namespace Decimal

/-- Digits stay in the line. -/
theorem inline_digitChars (n : Nat) : Inline (digitChars n) := by
  intro c hc
  have hdigit := Nat.isDigit_of_mem_toDigits (by decide) (by decide) hc
  have hlow : '0'.toNat ≤ c.toNat := (Char.isDigit_iff_toNat.1 hdigit).1
  exact le_trans (by decide) hlow

/-- The zeros that fill up a number stay in the line. -/
theorem inline_zeros (count : Nat) : Inline (zeros count) := by
  intro c hc
  rw [List.eq_of_mem_replicate hc]
  decide

/-- A decimal that is written out digit by digit stays in the line. -/
theorem Scaled.inline_writePositional (keepsPoint : Bool) (s : Scaled) :
    Inline (s.writePositional keepsPoint) := by
  have hdigits := inline_digitChars s.digits
  have htake (k : Nat) : Inline ((digitChars s.digits).take k) := fun c hc =>
    hdigits c (List.mem_of_mem_take hc)
  have hdrop (k : Nat) : Inline ((digitChars s.digits).drop k) := fun c hc =>
    hdigits c (List.mem_of_mem_drop hc)
  rw [writePositional]
  split
  · refine (hdigits.append (inline_zeros _)).append ?_
    split
    · exact .cons (by decide) (.cons (by decide) .nil)
    · exact .nil
  · split
    · exact (htake _).append (.cons (by decide) (hdrop _))
    · exact .cons (by decide) (.cons (by decide) ((inline_zeros _).append hdigits))

/-- A decimal with an exponent stays in the line. -/
theorem Scaled.inline_writeScientific (s : Scaled) : Inline s.writeScientific := by
  have hdigits := inline_digitChars s.digits
  rw [writeScientific]
  refine Inline.append ?_ (.cons (by decide) (.cons ?_ (inline_digitChars _)))
  · split
    · exact .nil
    · rename_i hone
      exact hone ▸ hdigits
    · rename_i d ds _ hmore
      rw [hmore] at hdigits
      obtain ⟨hd, hds⟩ := List.forall_mem_cons.1 hdigits
      exact .cons hd (.cons (by decide) hds)
  · split <;> decide

/-- A decimal stays in the line in either layout. -/
theorem Scaled.inline_write (layout : Layout) (s : Scaled) : Inline (s.write layout) := by
  have heither : s.write layout = s.writePositional layout.keepsPoint ∨
      s.write layout = s.writeScientific := by
    rw [write]
    exact ite_eq_or_eq _ _ _
  rcases heither with h | h <;> rw [h]
  · exact s.inline_writePositional _
  · exact s.inline_writeScientific

/-- A double stays in the line, the infinities and what is no number included. -/
theorem Layout.inline_write (layout : Layout) (x : Float) : Inline (layout.write x).toList := by
  rw [write]
  split
  · decide
  · split <;> decide
  · rename_i negative m _
    have hplain := (m.shortest layout.tie).inline_write layout
    cases negative
    · simpa using hplain
    · simpa using Inline.cons (by decide) hplain

end Decimal

namespace Json

/-- An integer stays in the line, with its sign. -/
theorem inline_toString (n : Int) : Inline (toString n).toList := by
  have hdigits (m : Nat) : Inline (Nat.toDigits 10 m) := Decimal.inline_digitChars m
  rw [Int.toString_eq_repr, Int.repr_eq_if]
  split
  · simpa [Nat.repr_eq_ofList_toDigits] using hdigits n.toNat
  · simpa [Nat.repr_eq_ofList_toDigits] using Inline.cons (by decide) (hdigits (-n).toNat)

/-! ## Texts -/

/-- A hexadecimal digit is no control character. -/
theorem inline_hexDigit (n : Nat) : 0x20 ≤ (hexDigit n).toNat := by
  have hall : ∀ m < 16, 0x20 ≤ (Nat.digitChar m).toNat := by decide
  exact hall _ (Nat.mod_lt n (by decide))

/-- Every character is escaped as characters that stay in the line. -/
theorem inline_escape (c : Char) : Inline (escape c) := by
  rw [escape]
  split_ifs
  all_goals simp [Inline, inline_hexDigit]

/-- The text between quotes stays in the line, since every character of it is escaped. -/
theorem inline_quotedChars (cs : List Char) : Inline (quotedChars cs) := by
  intro d hd
  obtain ⟨c, -, hd⟩ := List.mem_flatMap.1 hd
  split at hd
  · rename_i hplain
    obtain rfl := List.mem_singleton.1 hd
    simp only [isPlain, Bool.and_eq_true, decide_eq_true_eq] at hplain
    exact hplain.2
  · exact inline_escape c d hd

/-- A text in quotes stays in the line, whatever characters it has. -/
theorem inline_quote (text : String) : Inline (quote text).toList := by
  have hquoted := inline_quotedChars text.toList
  simpa [quote] using
    Inline.cons (c := '"') (by decide) (hquoted.append (.cons (c := '"') (by decide) .nil))

/-! ## Values -/

mutual

/-- **A value is written without a control character.** -/
theorem inline_render : ∀ v : Json, Inline v.render.toList
  | .null | .bool true | .bool false => by rw [render]; decide
  | .int n => by rw [render]; exact inline_toString n
  | .float x => by rw [render]; exact floatLayout.inline_write x
  | .string text => by rw [render]; exact inline_quote text
  | .array items => by
    have hitems := inline_renderItems items
    simpa [render] using
      Inline.cons (c := '[') (by decide) (hitems.append (.cons (c := ']') (by decide) .nil))
  | .object members => by
    have hmembers := inline_renderMembers members
    simpa [render] using
      Inline.cons (c := '\x7b') (by decide) (hmembers.append (.cons (c := '\x7d') (by decide) .nil))

/-- The items of an array stay in the line, by induction on the values in them. -/
theorem inline_renderItems : ∀ items : List Json, Inline (renderItems items).toList
  | [] => by simpa [renderItems] using Inline.nil
  | [item] => by rw [renderItems]; exact inline_render item
  | item :: next :: rest => by
    have hitem := inline_render item
    have hrest := inline_renderItems (next :: rest)
    simpa [renderItems] using hitem.append (.cons (c := ',') (by decide) hrest)

/-- The members of an object stay in the line, each of them with its key. -/
theorem inline_renderMembers :
    ∀ members : List (String × Json), Inline (renderMembers members).toList
  | [] => by simpa [renderMembers] using Inline.nil
  | [(key, value)] => by
    have hvalue := inline_render value
    simpa [renderMembers] using (inline_quote key).append (.cons (c := ':') (by decide) hvalue)
  | (key, value) :: next :: rest => by
    have hvalue := inline_render value
    have hrest := inline_renderMembers (next :: rest)
    simpa [renderMembers] using (inline_quote key).append
      (.cons (c := ':') (by decide) (hvalue.append (.cons (c := ',') (by decide) hrest)))

end

end Json

end BusTrial
