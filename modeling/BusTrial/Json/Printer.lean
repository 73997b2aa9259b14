import BusTrial.Json.Basic
import BusTrial.Decimal.Layout

/-!
# Compact JSON text

`Json.render` writes a value on one line without blanks.  In a string only the quote, the backslash
and the characters below U+0020 are escaped, the latter by their short escapes where there are any;
`isPlain` names the characters that stand for themselves.
-/

namespace BusTrial.Json

/-- Floats are written positionally from `0.00001` up to, but without, ten to the sixteenth, and
with an exponent outside that range; an integer keeps its point, and ties go to the even digit. -/
def floatLayout : Decimal.Layout :=
  { positional := some (-5, 15), keepsPoint := true, tie := .toEven }

/-- The character stands for itself between quotes. -/
def isPlain (c : Char) : Bool :=
  c != '"' && c != '\\' && 0x20 ≤ c.toNat

/-- A hexadecimal digit, in lower case. -/
def hexDigit (n : Nat) : Char :=
  Nat.digitChar (n % 16)

/-- The escape of a character that does not stand for itself. -/
def escape (c : Char) : List Char :=
  if c == '"' then ['\\', '"']
  else if c == '\\' then ['\\', '\\']
  else if c == '\n' then ['\\', 'n']
  else if c == '\r' then ['\\', 'r']
  else if c == '\t' then ['\\', 't']
  else if c.toNat == 0x08 then ['\\', 'b']
  else if c.toNat == 0x0c then ['\\', 'f']
  else ['\\', 'u', '0', '0', hexDigit (c.toNat / 16), hexDigit c.toNat]

/-- The characters between the quotes of a written string. -/
def quotedChars (cs : List Char) : List Char :=
  cs.flatMap fun c => if isPlain c then [c] else escape c

/-- A text as a JSON string. -/
def quote (text : String) : String :=
  "\"" ++ .ofList (quotedChars text.toList) ++ "\""

mutual

/-- Writes a value. -/
def render : Json → String
  | .null => "null"
  | .bool value => if value then "true" else "false"
  | .int value => toString value
  | .float value => floatLayout.write value
  | .string text => quote text
  | .array items => "[" ++ renderItems items ++ "]"
  | .object members => "\x7b" ++ renderMembers members ++ "\x7d"

/-- Writes the items of an array, with commas between them. -/
def renderItems : List Json → String
  | [] => ""
  | [item] => render item
  | item :: rest => render item ++ "," ++ renderItems rest

/-- Writes the members of an object, with commas between them. -/
def renderMembers : List (String × Json) → String
  | [] => ""
  | [(key, value)] => quote key ++ ":" ++ render value
  | (key, value) :: rest => quote key ++ ":" ++ render value ++ "," ++ renderMembers rest

end

end BusTrial.Json
