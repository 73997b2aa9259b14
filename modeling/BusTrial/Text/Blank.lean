/-!
# Blank characters

The characters of Unicode's `White_Space` property, and trimming of both ends of a text by
them.  Core's `Char.isWhitespace` knows only the ASCII part: `isBlank_of_isWhitespace` says that
it is contained in this one.
-/

namespace BusTrial.Text

/-- The character has Unicode's `White_Space` property. -/
def isBlank (c : Char) : Bool :=
  let n := c.toNat
  (0x09 ≤ n && n ≤ 0x0d) || n == 0x20 || n == 0x85 || n == 0xa0 || n == 0x1680 ||
    (0x2000 ≤ n && n ≤ 0x200a) || n == 0x2028 || n == 0x2029 || n == 0x202f || n == 0x205f ||
    n == 0x3000

/-- Every character that core calls white space is blank. -/
theorem isBlank_of_isWhitespace {c : Char} (h : c.isWhitespace = true) : isBlank c = true := by
  simp only [Char.isWhitespace, Bool.or_eq_true, decide_eq_true_eq] at h
  rcases h with ((rfl | rfl) | rfl) | rfl <;> rfl

/-- Drops the blank characters at both ends. -/
def trimChars (cs : List Char) : List Char :=
  ((cs.dropWhile isBlank).reverse.dropWhile isBlank).reverse

/-- Drops the blank characters at both ends of a text. -/
def trim (text : String) : String :=
  .ofList (trimChars text.toList)

/-- The text holds nothing but blank characters. -/
def isBlankText (text : String) : Bool :=
  text.toList.all isBlank

end BusTrial.Text
