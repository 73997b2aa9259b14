import BusTrial.Json.Fault
import BusTrial.Text.Hex

/-!
# Steps through a JSON text

A `Reading α` takes something off the front of a text or stops.  What is here knows characters, white
space and brackets; `Enclosure` names the two kinds of brackets, and `hasFirst` and `hasNext` go from
one item between them to the next.
-/

namespace BusTrial.Json

/-- Takes something off the front of a text or stops. -/
abbrev Reading (α : Type) : Type :=
  StateT (List Char) (Except Stop) α

namespace Reading

variable {α : Type}

/-- Stops at the first character that is left, or at the end. -/
def refuse (cause : Cause) : Reading α
  | cs => .error (.on cause cs)

/-- Stops right after what was taken. -/
def refuseTaken (cause : Cause) : Reading α
  | cs => .error (.after cause cs)

/-- Stops because something else has to stand here. -/
def refuseHere (atEnd other : Cause) : Reading α
  | cs => .error (.unexpected atEnd other cs)

/-- The first character that is left; it stays. -/
def next? : Reading (Option Char) := do
  return (← get).head?

/-- Drops the first character. -/
def drop : Reading Unit :=
  modify List.tail

/-- Drops a character if it stands at the front, and says whether it did. -/
def dropIf (c : Char) : Reading Bool := do
  if (← next?) == some c then
    drop
    return true
  return false

/-- White space between tokens. -/
def isBlank (c : Char) : Bool :=
  c == ' ' || c == '\n' || c == '\t' || c == '\r'

/-- Drops white space. -/
def skipBlanks : Reading Unit :=
  modify fun cs => cs.dropWhile isBlank

/-- The first character after white space; it stays. -/
def token? : Reading (Option Char) := do
  skipBlanks
  next?

/-- Takes a row of characters. -/
def word (atEnd other : Cause) : List Char → Reading Unit
  | [] => pure ()
  | c :: cs => do
    if ← dropIf c then word atEnd other cs
    else refuseHere atEnd other

/-- Takes four hexadecimal digits.  Where there are four bytes but no four digits, the stop is behind
the four bytes. -/
def hex4 : Reading Nat
  | cs =>
    let digits := cs.take 4
    if byteCount digits < 4 then .error (.on .endInString [])
    else
      match Text.hexNumber? digits with
      | some n => .ok (n, cs.drop 4)
      | none => .error { cause := .noSuchEscape, left := cs, seen := 4 }

/-- Takes nothing, and succeeds only when nothing but white space is left. -/
def finish : Reading Unit := do
  if (← token?).isSome then refuse .trailingCharacters

/-- Reads a text that holds nothing else and white space around it. -/
def whole (reading : Reading α) (text : List Char) : Except Fault α :=
  match (do let a ← reading; finish; return a : Reading α) text with
  | .ok (a, _) => .ok a
  | .error stop => .error (stop.fault text)

end Reading

/-- What becomes of a value that is read. -/
inductive Use where
  /-- It is built; `depth` is one more than the levels of arrays and objects it may have. -/
  | kept (depth : Nat)
  /-- It is passed over. -/
  | skipped
  deriving DecidableEq, Repr

/-- The levels that the outermost value of a text may have, and one. -/
def depthLimit : Nat := 128

/-- Takes the opening bracket of an array or an object. -/
def Use.enter : Use → Reading Use
  | .kept depth => do
    if depth ≤ 1 then Reading.refuse .tooDeep
    Reading.drop
    return .kept (depth - 1)
  | .skipped => do
    Reading.drop
    return .skipped

/-- Takes nothing, but stops where the value in front of a comma is kept and the comma has no item
after it.  What is passed over is refused later, as an item that cannot be read. -/
def Use.afterComma (use : Use) (close : Char) : Reading Unit := do
  if use ≠ .skipped then
    match ← Reading.token? with
    | none => Reading.refuse .endInValue
    | some c => if c == close then Reading.refuse .trailingComma

/-- The brackets around items. -/
inductive Enclosure where
  | array
  | object
  deriving DecidableEq, Repr

namespace Enclosure

/-- The closing bracket. -/
def close : Enclosure → Char
  | .array => ']'
  | .object => '\x7d'

/-- The cause when the text ends between the brackets. -/
def cut : Enclosure → Cause
  | .array => .endInArray
  | .object => .endInObject

/-- The cause when an item has neither a comma nor the closing bracket after it. -/
def endExpected : Enclosure → Cause
  | .array => .arrayEndExpected
  | .object => .objectEndExpected

/-- Behind the opening bracket: there is a first item, or else the closing bracket is taken. -/
def hasFirst (e : Enclosure) : Reading Bool := do
  if (← Reading.token?).isNone then Reading.refuse e.cut
  return !(← Reading.dropIf e.close)

/-- Behind an item: a comma is taken and there is another item, or the closing bracket is taken. -/
def hasNext (e : Enclosure) (use : Use) : Reading Bool := do
  Reading.skipBlanks
  if ← Reading.dropIf ',' then
    use.afterComma e.close
    return true
  if ← Reading.dropIf e.close then return false
  Reading.refuseHere e.cut e.endExpected

end Enclosure

end BusTrial.Json
