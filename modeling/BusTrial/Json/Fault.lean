/-!
# Where a JSON text is refused

A reader of JSON works on the characters that are left of the text.  Where it cannot go on it stops
with a `Stop`: the cause, what is left there, and how many bytes of that it has looked at.
`Stop.fault` turns this into a `Fault`, which counts lines and bytes in the whole text.

Columns count bytes of the UTF-8 form, and the first byte of a refused character counts as looked at.
So a refused line feed puts the fault in column 0 of the next line, and the place may lie inside a
character of more than one byte.
-/

namespace BusTrial.Json

/-- Why a text is refused. -/
inductive Cause where
  /-- The text ends inside an array. -/
  | endInArray
  /-- The text ends inside an object. -/
  | endInObject
  /-- The text ends inside a string. -/
  | endInString
  /-- The text ends where a value is missing. -/
  | endInValue
  /-- A key has no colon after it. -/
  | colonExpected
  /-- An item of an array has neither a comma nor a bracket after it. -/
  | arrayEndExpected
  /-- A member of an object has neither a comma nor a brace after it. -/
  | objectEndExpected
  /-- A word is not `null`, `true` or `false`. -/
  | wordExpected
  /-- No value starts like this. -/
  | valueExpected
  /-- There is no such escape. -/
  | noSuchEscape
  /-- A number lacks digits, or has digits after a leading zero. -/
  | illFormedNumber
  /-- A number is beyond the range of binary64 numbers. -/
  | outOfRange
  /-- A string holds a character below U+0020. -/
  | controlCharacter
  /-- A key is not a string. -/
  | keyNotString
  /-- An escape gives half of a surrogate pair. -/
  | loneSurrogate
  /-- The first half of a surrogate pair has no escape after it. -/
  | pairCutShort
  /-- A comma has the closing bracket after it. -/
  | trailingComma
  /-- Something stands after the value. -/
  | trailingCharacters
  /-- Arrays and objects are nested too deep. -/
  | tooDeep
  /-- A member is missing. -/
  | lacks (field : String)
  /-- A member comes twice. -/
  | repeats (field : String)
  /-- An array has too few items. -/
  | wrongLength (length : Nat) (wanted : String)
  /-- A value of another type is wanted. -/
  | wrongType (found wanted : String)
  deriving DecidableEq, Repr

/-- The words for the cause. -/
def Cause.message : Cause → String
  | .endInArray => "EOF while parsing a list"
  | .endInObject => "EOF while parsing an object"
  | .endInString => "EOF while parsing a string"
  | .endInValue => "EOF while parsing a value"
  | .colonExpected => "expected \x60:\x60"
  | .arrayEndExpected => "expected \x60,\x60 or \x60]\x60"
  | .objectEndExpected => "expected \x60,\x60 or \x60\x7d\x60"
  | .wordExpected => "expected ident"
  | .valueExpected => "expected value"
  | .noSuchEscape => "invalid escape"
  | .illFormedNumber => "invalid number"
  | .outOfRange => "number out of range"
  | .controlCharacter =>
    "control character (\\u0000-\\u001F) found while parsing a string"
  | .keyNotString => "key must be a string"
  | .loneSurrogate => "lone leading surrogate in hex escape"
  | .pairCutShort => "unexpected end of hex escape"
  | .trailingComma => "trailing comma"
  | .trailingCharacters => "trailing characters"
  | .tooDeep => "recursion limit exceeded"
  | .lacks field => "missing field \x60" ++ field ++ "\x60"
  | .repeats field => "duplicate field \x60" ++ field ++ "\x60"
  | .wrongLength length wanted => "invalid length " ++ Nat.repr length ++ ", expected " ++ wanted
  | .wrongType found wanted => "invalid type: " ++ found ++ ", expected " ++ wanted

/-- Why a text is refused and where. -/
structure Fault where
  cause : Cause
  /-- Lines count from 1. -/
  line : Nat
  /-- The bytes of the line in front of the place. -/
  column : Nat
  deriving DecidableEq, Repr

/-- The sentence that reports the fault. -/
def Fault.message (f : Fault) : String :=
  f.cause.message ++ " at line " ++ Nat.repr f.line ++ " column " ++ Nat.repr f.column

/-- Why and where a reader stops. -/
structure Stop where
  cause : Cause
  /-- What the reader has not taken. -/
  left : List Char
  /-- The bytes of `left` that the reader has looked at.  There may be fewer than that. -/
  seen : Nat
  deriving DecidableEq, Repr

/-- The bytes of a text in its UTF-8 form. -/
def byteCount : List Char → Nat
  | [] => 0
  | c :: cs => c.utf8Size + byteCount cs

/-- The line and the column that are reached from a line and a column by going on by a count of bytes,
at most to the end of the text. -/
def advance (line column : Nat) : (count : Nat) → List Char → Nat × Nat
  | _, [] => (line, column)
  | count, c :: cs =>
    if count < c.utf8Size then (line, column + count)
    else if c == '\n' then advance (line + 1) 0 (count - c.utf8Size) cs
    else advance line (column + c.utf8Size) (count - c.utf8Size) cs

namespace Stop

/-- A stop at the first character that is left, or at the end of the text. -/
def on (cause : Cause) (cs : List Char) : Stop :=
  { cause, left := cs, seen := 1 }

/-- A stop right after what was taken. -/
def after (cause : Cause) (cs : List Char) : Stop :=
  { cause, left := cs, seen := 0 }

/-- A stop at a character that does not belong there, or at the end of the text. -/
def unexpected (atEnd other : Cause) (cs : List Char) : Stop :=
  on (if cs.isEmpty then atEnd else other) cs

/-- The fault that a stop is in the whole text. -/
def fault (text : List Char) (s : Stop) : Fault :=
  let (line, column) := advance 1 0 (byteCount text - byteCount s.left + s.seen) text
  { cause := s.cause, line, column }

end Stop

end BusTrial.Json
