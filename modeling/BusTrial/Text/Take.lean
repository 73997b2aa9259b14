/-!
# Taking a text apart from the front

A `Take α` takes something off the front of a list of characters, or fails.  An alternative `a <|> b`
starts again at the same place when `a` fails, and `many` takes as often as it can.
-/

namespace BusTrial.Text

/-- Takes something off the front of a text. -/
abbrev Take (α : Type) : Type :=
  StateT (List Char) Option α

namespace Take

variable {α : Type}

/-- The next character, which stays. -/
def next? : Take (Option Char) := do
  return (← get).head?

/-- Takes a character of a kind. -/
def one (kind : Char → Bool) : Take Char
  | [] => none
  | c :: cs => if kind c then some (c, cs) else none

/-- Takes one character. -/
def char (c : Char) : Take Unit :=
  discard (one (· == c))

/-- Takes a row of characters. -/
def word (w : String) : Take Unit :=
  w.toList.forM char

/-- Takes the characters of a kind that stand at the front, if any. -/
def span (kind : Char → Bool) : Take (List Char)
  | cs => some (cs.span kind)

/-- Takes exactly `count` characters of a kind. -/
def exactly (count : Nat) (kind : Char → Bool) : Take (List Char) :=
  (List.range count).mapM fun _ => one kind

/-- Takes nothing, and succeeds only at the end. -/
def finish : Take Unit
  | [] => some ((), [])
  | _ :: _ => none

/-- Takes up to `bound` times. -/
def upTo (item : Take α) : (bound : Nat) → Take (List α)
  | 0 => pure []
  | bound + 1 => (do let a ← item; return a :: (← upTo item bound)) <|> pure []

/-- Takes as often as possible.  Each time takes a character at least, so there is no need to try more
often than there are characters. -/
def many (item : Take α) : Take (List α) := do
  upTo item (← get).length

/-- Takes one or more items with a separator between them. -/
def separated (separator : Take Unit) (item : Take α) : Take (List α) := do
  let first ← item
  return first :: (← many (separator *> item))

/-- Takes what another one takes, and gives back the characters that were taken. -/
def taken (item : Take α) : Take String := do
  let before ← get
  let _ ← item
  return .ofList (before.take (before.length - (← get).length))

end Take

end BusTrial.Text
