/-!
# Cutting texts

Lines, separators and substrings, on lists of characters.  `lines` drops the line ends and the
empty piece after the last one; `startsWith` and `contains` compare character by character.
-/

namespace BusTrial.Text

/-- One line without the carriage return before its line feed. -/
def dropCarriageReturn (line : List Char) : List Char :=
  if line.getLast? == some '\r' then line.dropLast else line

/-- The lines of a text.  A carriage return counts as part of the line end only before a line
feed, so the piece after the last line feed keeps its own. -/
def lineChars (cs : List Char) : List (List Char) :=
  let pieces := cs.splitOn '\n'
  let ended := pieces.dropLast.map dropCarriageReturn
  match pieces.getLast? with
  | some (c :: rest) => ended ++ [c :: rest]
  | _ => ended

/-- The lines of a text, without their ends. -/
def lines (text : String) : List String :=
  (lineChars text.toList).map .ofList

/-- The text begins with `start`. -/
def startsWith (text start : String) : Bool :=
  start.toList.isPrefixOf text.toList

/-- The characters `part` occur in a row somewhere in the list. -/
def occursIn (part : List Char) : List Char → Bool
  | [] => part.isEmpty
  | c :: cs => part.isPrefixOf (c :: cs) || occursIn part cs

/-- `part` is a substring of the text. -/
def contains (text part : String) : Bool :=
  occursIn part.toList text.toList

/-- The piece after the last `sep`, or the whole text when there is none. -/
def afterLast (sep : Char) (text : String) : String :=
  .ofList (text.toList.reverse.takeWhile (· != sep)).reverse

/-- Drops every `c` at the end of the text. -/
def dropTrailing (c : Char) (text : String) : String :=
  .ofList (text.toList.reverse.dropWhile (· == c)).reverse

/-- The longest start of the list whose UTF-8 form has at most `budget` bytes. -/
def takeBytes (budget : Nat) : List Char → List Char
  | [] => []
  | c :: cs => if c.utf8Size ≤ budget then c :: takeBytes (budget - c.utf8Size) cs else []

end BusTrial.Text
