import BusTrial.Failure
import BusTrial.Json.Reader
import BusTrial.Text.Blank
import BusTrial.Text.Visible
import BusTrial.Value.Decode

/-!
# Replies with their types

`busctl` prints a reply as a JSON object with the type and the data of it, or as an array of the two.
`TypedReply.read` reads what was printed; nothing printed means that there is no reply.  `value` and
`values` are what the reply says.

Members other than the two are passed over.  Each of the two must be there exactly once; where both
are missing it is the type that is reported.
-/

namespace BusTrial

/-- A reply as it is printed. -/
structure TypedReply where
  type : String
  data : Json

namespace TypedReply

open Json (Enclosure Reading Use)

/-! ## Values of a wrong type -/

/-- The words for a value that stands where another type is wanted. -/
def kindWords : Json → String
  | .null => "null"
  | .bool value => "boolean \x60" ++ toString value ++ "\x60"
  | .int value => "integer \x60" ++ toString value ++ "\x60"
  | .float value => "floating point \x60" ++ Json.floatLayout.write value ++ "\x60"
  | .string text => "string " ++ Text.quoteVisibly text
  | .array _ => "sequence"
  | .object _ => "map"

/-- Stops at a value because another type is wanted.  A scalar is read to its end first. -/
def refuseType {α : Type} (wanted : String) : Reading α := do
  let c ← Reading.token?
  let found ←
    if c == some '[' then pure (.array [])
    else if c == some '\x7b' then pure (.object [])
    else Json.takeScalar (.kept Json.depthLimit)
  Reading.refuseTaken (.wrongType (kindWords found) wanted)

/-! ## Reading a reply -/

/-- What a whole reply is called. -/
def described : String := "struct TypedReply"

/-- How the parts of a reply are read. -/
def partUse : Use := .kept (Json.depthLimit - 1)

/-- Takes the type. -/
def takeType : Reading String := do
  Reading.skipBlanks
  if ← Reading.dropIf '"' then Json.takeString partUse
  else refuseType "a string"

/-- Takes the data. -/
def takeData : Reading Json :=
  Json.takeKept (Json.depthLimit - 1)

/-- The parts of a reply read so far. -/
structure Parts where
  type : Option String := none
  data : Option Json := none

/-- Stops behind a key that came before; a closing brace after it is still taken. -/
def refuseRepeated {α : Type} (key : String) : Reading α := do
  Reading.skipBlanks
  discard (Reading.dropIf Enclosure.object.close)
  Reading.refuseTaken (.repeats key)

/-- Takes the colon and the value of one member.  Neither part may come twice. -/
def takeMember (parts : Parts) (key : String) : Reading Parts := do
  if key == "type" then
    if parts.type.isSome then refuseRepeated key
    Json.takeColon
    return { parts with type := some (← takeType) }
  else if key == "data" then
    if parts.data.isSome then refuseRepeated key
    Json.takeColon
    return { parts with data := some (← takeData) }
  else
    Json.takeColon
    Json.takeSkipped
    return parts

/-- Takes the members of a reply, of which there is one at least, and the closing brace.  `fuel`
bounds their number. -/
def takeMembers : (fuel : Nat) → Parts → Reading Parts
  | 0, _ => Reading.refuse .endInObject
  | fuel + 1, parts => do
    let parts ← takeMember parts (← Json.takeKey partUse)
    if ← Enclosure.object.hasNext partUse then takeMembers fuel parts
    else return parts

/-- A part that must be there. -/
def require {α : Type} (field : String) : Option α → Reading α
  | some part => pure part
  | none => Reading.refuseTaken (.lacks field)

/-- Takes a reply written as an object. -/
def takeObject : Reading TypedReply := do
  Reading.drop
  let parts ← if ← Enclosure.object.hasFirst then takeMembers ((← get).length + 1) {} else pure {}
  let type ← require "type" parts.type
  let data ← require "data" parts.data
  return { type, data }

/-- Stops behind an array that has too few items. -/
def refuseLength {α : Type} (length : Nat) : Reading α :=
  Reading.refuseTaken (.wrongLength length (described ++ " with 2 elements"))

/-- Takes the closing bracket after the two items of an array. -/
def takeArrayEnd : Reading Unit := do
  Reading.skipBlanks
  if ← Reading.dropIf ']' then return
  if ← Reading.dropIf ',' then
    if (← Reading.token?) == some ']' then Reading.refuse .trailingComma
    Reading.refuse .trailingCharacters
  Reading.refuseHere .endInArray .trailingCharacters

/-- Takes a reply written as an array. -/
def takeArray : Reading TypedReply := do
  Reading.drop
  if !(← Enclosure.array.hasFirst) then refuseLength 0
  let type ← takeType
  if !(← Enclosure.array.hasNext partUse) then refuseLength 1
  let data ← takeData
  takeArrayEnd
  return { type, data }

/-- Takes a reply, as an object or as an array. -/
def take : Reading TypedReply := do
  let c ← Reading.token?
  if c == some '\x7b' then takeObject
  else if c == some '[' then takeArray
  else refuseType described

/-- Reads what `busctl` printed. -/
def read (printed : String) : Except Failure (Option TypedReply) :=
  let trimmed := Text.trimChars printed.toList
  if trimmed.isEmpty then .ok none
  else
    match take.whole trimmed with
    | .ok reply => .ok (some reply)
    | .error fault => .error (.bus ("invalid busctl json: " ++ fault.message))

/-! ## What a reply says -/

/-- The value of a reply. -/
def value (r : TypedReply) : Except Failure Value :=
  (Value.decode r.type r.data).mapError DecodeError.failure

/-- The values of a reply to a method call: a list with one item for each complete type. -/
def values (r : TypedReply) : Except Failure (List Value) := do
  let types ← (Signature.splitChars r.type.toList).mapError SignatureError.failure
  match r.data with
  | .array items =>
    if types.length ≠ items.length then
      throw (.bus ("busctl reply signature " ++ r.type ++ " does not match "
        ++ Nat.repr items.length ++ " values"))
    (Value.decodeFields types items).mapError DecodeError.failure
  | _ => throw (.bus "busctl call reply data is not an array")

end TypedReply

end BusTrial
