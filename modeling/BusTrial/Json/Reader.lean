import BusTrial.Json.Number

/-!
# Reading JSON text

`parse` reads a whole text, and `takeKept` and `takeSkipped` read a value off the front of one.

A part of the text that is not kept (`Use.skipped`) is only checked for its grammar: a number may
then be out of range, a string may escape half of a surrogate pair, and nesting has no bound.  What
is kept may be nested 127 deep.  A few refusals of skipped parts are worded in another way or stand one
byte earlier, which `Use` decides at each of these places.
-/

namespace BusTrial.Json

/-! ## Strings -/

/-- The code unit is the first of a surrogate pair. -/
def isHighSurrogate (n : Nat) : Bool :=
  0xd800 ≤ n && n ≤ 0xdbff

/-- The code unit is the second of a surrogate pair. -/
def isLowSurrogate (n : Nat) : Bool :=
  0xdc00 ≤ n && n ≤ 0xdfff

/-- The character of an escape of one letter. -/
def shortEscape? (c : Char) : Option Char :=
  if c == '"' || c == '\\' || c == '/' then some c
  else if c == 'b' then some '\x08'
  else if c == 'f' then some '\x0c'
  else if c == 'n' then some '\n'
  else if c == 'r' then some '\r'
  else if c == 't' then some '\t'
  else none

/-- Takes the code units of an escape after its backslash and `u`: one unit, or a pair of
surrogates.  A unit that is half of a pair is no character. -/
def takeUnicode (use : Use) : Reading Char := do
  let unit ← Reading.hex4
  if use == .skipped then return ' '
  if isLowSurrogate unit then Reading.refuseTaken .loneSurrogate
  if !isHighSurrogate unit then return .ofNat unit
  Reading.word .endInString .pairCutShort ['\\', 'u']
  let second ← Reading.hex4
  if !isLowSurrogate second then Reading.refuseTaken .loneSurrogate
  return .ofNat (0x10000 + (unit - 0xd800) * 0x400 + (second - 0xdc00))

/-- Takes an escape after its backslash. -/
def takeEscape (use : Use) : Reading Char := do
  if ← Reading.dropIf 'u' then takeUnicode use
  else
    match (← Reading.next?).bind shortEscape? with
    | some c =>
      Reading.drop
      return c
    | none => Reading.refuseHere .endInString .noSuchEscape

/-- Stops at a character that must be escaped. -/
def refuseControl {α : Type} : Use → Reading α
  | .kept _ => Reading.refuse .controlCharacter
  | .skipped => Reading.refuseTaken .controlCharacter

/-- Takes the characters of a string up to its closing quote.  Characters below U+0020 must be
escaped.  `fuel` bounds the number of characters. -/
def takeQuoted (use : Use) : (fuel : Nat) → (taken : List Char) → Reading String
  | 0, _ => Reading.refuse .endInString
  | fuel + 1, taken => do
    match ← Reading.next? with
    | none => Reading.refuse .endInString
    | some c =>
      if c.toNat < 0x20 then refuseControl use
      else
        Reading.drop
        if c == '"' then return .ofList taken.reverse
        else if c == '\\' then
          let escaped ← takeEscape use
          takeQuoted use fuel (escaped :: taken)
        else takeQuoted use fuel (c :: taken)

/-- Takes a string after its opening quote. -/
def takeString (use : Use) : Reading String := do
  takeQuoted use ((← get).length + 1) []

/-! ## Scalars -/

/-- The cause when a text ends inside a number. -/
def Use.cutNumber : Use → Cause
  | .kept _ => .endInValue
  | .skipped => .illFormedNumber

/-- Takes a number. -/
def takeNumber (use : Use) : Reading Json := do
  let number ← NumberText.take use.cutNumber
  if use == .skipped then return .null
  match number.value with
  | some value => return value
  | none => fun rest => .error (.after .outOfRange (number.leftOutOfRange rest))

/-- Takes one of the three words. -/
def takeWord (word : List Char) (value : Json) : Reading Json := do
  Reading.word .endInValue .wordExpected word
  return value

/-- Takes a value that is neither an array nor an object, without white space before it. -/
def takeScalar (use : Use) : Reading Json := do
  match ← Reading.next? with
  | none => Reading.refuse .endInValue
  | some c =>
    if c == 'n' then takeWord ['n', 'u', 'l', 'l'] .null
    else if c == 't' then takeWord ['t', 'r', 'u', 'e'] (.bool true)
    else if c == 'f' then takeWord ['f', 'a', 'l', 's', 'e'] (.bool false)
    else if c == '"' then
      Reading.drop
      return .string (← takeString use)
    else if c == '-' || (Decimal.digit? c).isSome then takeNumber use
    else Reading.refuse .valueExpected

/-! ## Values -/

/-- Takes a key. -/
def takeKey (use : Use) : Reading String := do
  Reading.skipBlanks
  if ← Reading.dropIf '"' then takeString use
  else Reading.refuseHere .endInObject .keyNotString

/-- Takes the colon between a key and its value. -/
def takeColon : Reading Unit := do
  Reading.skipBlanks
  Reading.word .endInObject .colonExpected [':']

mutual

/-- Takes a value, with white space before it.  `fuel` bounds the number of values, items and
members that are left. -/
def takeValue (use : Use) : (fuel : Nat) → Reading Json
  | 0 => Reading.refuse .endInValue
  | fuel + 1 => do
    let c ← Reading.token?
    if c == some '[' then
      let use ← use.enter
      if ← Enclosure.array.hasFirst then return .array (← takeItems use fuel)
      else return .array []
    else if c == some '\x7b' then
      let use ← use.enter
      if ← Enclosure.object.hasFirst then return ofMembers (← takeMembers use fuel)
      else return .object []
    else takeScalar use

/-- Takes the items of an array, of which there is one at least, and the closing bracket. -/
def takeItems (use : Use) : (fuel : Nat) → Reading (List Json)
  | 0 => Reading.refuse .endInValue
  | fuel + 1 => do
    let item ← takeValue use fuel
    if ← Enclosure.array.hasNext use then return item :: (← takeItems use fuel)
    else return [item]

/-- Takes the members of an object, of which there is one at least, and the closing brace. -/
def takeMembers (use : Use) : (fuel : Nat) → Reading (List (String × Json))
  | 0 => Reading.refuse .endInValue
  | fuel + 1 => do
    let key ← takeKey use
    takeColon
    let value ← takeValue use fuel
    if ← Enclosure.object.hasNext use then return (key, value) :: (← takeMembers use fuel)
    else return [(key, value)]

end

/-- Takes a value that is kept, with at most `depth - 1` levels. -/
def takeKept (depth : Nat) : Reading Json := do
  takeValue (.kept depth) (2 * (← get).length + 1)

/-- Passes over a value. -/
def takeSkipped : Reading Unit := do
  discard (takeValue .skipped (2 * (← get).length + 1))

/-- Reads a text that holds one value and white space around it. -/
def parse (text : String) : Except Fault Json :=
  (takeKept depthLimit).whole text.toList

end BusTrial.Json
