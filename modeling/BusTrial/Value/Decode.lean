import BusTrial.Json.Printer
import BusTrial.Signature
import BusTrial.Value.Basic

/-!
# Values from typed JSON

`decode` reads a JSON value as a value of a given type.  Integers must be in the range of their
type, an array of bytes becomes `Value.bytes`, a dictionary is read from an object, and a variant
from an object with a `type` and a `data` member.

The type is text.  It is cut apart as the reading goes down into the JSON value, so a part of the
type that no part of the value reaches is not looked at.
-/

namespace BusTrial

/-- Why a JSON value is no value of a type. -/
inductive DecodeError where
  /-- The JSON value does not have the shape or the range of the type. -/
  | mismatch (data : Json) (type : String)
  /-- No value has this type. -/
  | unsupported (type : String)
  /-- The type cannot be cut apart. -/
  | signature (error : SignatureError)

/-- The sentence that reports the error. -/
def DecodeError.message : DecodeError → String
  | .mismatch data type => "value " ++ data.render ++ " does not match signature " ++ type
  | .unsupported type => "unsupported signature " ++ type
  | .signature error => error.message

/-- The failure that such an error is for a caller of the bus. -/
def DecodeError.failure (error : DecodeError) : Failure :=
  .bus error.message

namespace Value

/-- The types that a single value of JSON spells out, without parts of other types. -/
inductive BasicType where
  | bool | byte | int16 | uint16 | int32 | uint32 | int64 | uint64
  | double | string | objectPath | signature
  deriving DecidableEq, Repr

/-- The basic type that a text names; a handle is read as an unsigned number. -/
def BasicType.ofText? : List Char → Option BasicType
  | ['b'] => some .bool
  | ['y'] => some .byte
  | ['n'] => some .int16
  | ['q'] => some .uint16
  | ['i'] => some .int32
  | ['u'] => some .uint32
  | ['h'] => some .uint32
  | ['x'] => some .int64
  | ['t'] => some .uint64
  | ['d'] => some .double
  | ['s'] => some .string
  | ['o'] => some .objectPath
  | ['g'] => some .signature
  | _ => none

/-- An unsigned integer of JSON that fits in `width` bits. -/
def unsignedWithin (width : Nat) (data : Json) : Option Nat :=
  data.unsigned?.filter fun n => Decimal.fitsUnsigned width n

/-- A signed integer of JSON in the range of `width` bits. -/
def signedWithin (width : Nat) (data : Json) : Option Int :=
  data.signed?.filter (Decimal.fitsSigned width)

/-- Reads a value of a basic type. -/
def BasicType.read (data : Json) : BasicType → Option Value
  | .bool => data.bool?.map .bool
  | .byte => (unsignedWithin 8 data).map fun n => .byte (.ofNat n)
  | .int16 => (signedWithin 16 data).map fun n => .int16 (.ofInt n)
  | .uint16 => (unsignedWithin 16 data).map fun n => .uint16 (.ofNat n)
  | .int32 => (signedWithin 32 data).map fun n => .int32 (.ofInt n)
  | .uint32 => (unsignedWithin 32 data).map fun n => .uint32 (.ofNat n)
  | .int64 => data.signed?.map fun n => .int64 (.ofInt n)
  | .uint64 => data.unsigned?.map fun n => .uint64 (.ofNat n)
  | .double => data.float?.map .double
  | .string => data.string?.map .string
  | .objectPath => data.string?.map .objectPath
  | .signature => data.string?.map .signature

/-- Reads an array of bytes. -/
def readBytes : List Json → Option (List UInt8)
  | [] => some []
  | item :: rest => do
    let n ← unsignedWithin 8 item
    return .ofNat n :: (← readBytes rest)

/-- How a type is put together, as far as its first and last characters show. -/
inductive TypeShape where
  | basic (type : BasicType)
  | variant
  | bytes
  /-- A dictionary; the text between the braces, if the last character closes them. -/
  | dict (entry : Option (List Char))
  | array (element : List Char)
  /-- A struct; the text between the parentheses, if the last character closes them. -/
  | struct (fields : Option (List Char))
  | unknown

/-- The text before a last character, if that is the last one. -/
def dropClosing (closing : Char) (cs : List Char) : Option (List Char) :=
  if cs.getLast? = some closing then some cs.dropLast else none

/-- The shape of a type. -/
def TypeShape.ofText (type : List Char) : TypeShape :=
  match BasicType.ofText? type with
  | some single => .basic single
  | none =>
    match type with
    | ['v'] => .variant
    | ['a', 'y'] => .bytes
    | 'a' :: '\x7b' :: rest => .dict (dropClosing '\x7d' rest)
    | 'a' :: element => .array element
    | '(' :: rest => .struct (dropClosing ')' rest)
    | _ => .unknown

/-- The type that a variant names for what it holds. -/
def variantType? (members : KeyMap Json) : Option (List Char) :=
  (members.get? "type").bind fun type => type.string?.map String.toList

/-- Cuts the types of the fields of a struct apart. -/
def fieldTypes? (fields : List Char) : Except DecodeError (List (List Char)) :=
  (Signature.splitChars fields).mapError .signature

mutual

/-- Reads a JSON value as a value of the type that the characters spell. -/
def decodeAs (type : List Char) : Json → Except DecodeError Value
  | .array items =>
    let mismatch := DecodeError.mismatch (.array items) (.ofList type)
    match TypeShape.ofText type with
    | .bytes => (readBytes items).elim (.error mismatch) fun values => .ok (.bytes values)
    | .array element => (decodeItems element items).map .array
    | .struct (some fields) => do
      let types ← fieldTypes? fields
      if types.length ≠ items.length then throw mismatch
      return .struct (← decodeFields types items)
    | .dict (some entry) => do
      let _ ← (Signature.splitFirstChars entry).mapError DecodeError.signature
      throw mismatch
    | .unknown => throw (.unsupported (.ofList type))
    | _ => throw mismatch
  | .object members =>
    let mismatch := DecodeError.mismatch (.object members) (.ofList type)
    match TypeShape.ofText type with
    | .variant =>
      match variantType? members with
      | none => throw mismatch
      | some inner => return .variant (← (decodeMember inner "data" members).getD (throw mismatch))
    | .dict (some entry) => do
      let (keyType, valueType) ← (Signature.splitFirstChars entry).mapError DecodeError.signature
      if keyType.isEmpty && !members.isEmpty then throw mismatch
      return .dict (KeyMap.ofList (← decodeMembers valueType members))
    | .struct (some fields) => do
      let _ ← fieldTypes? fields
      throw mismatch
    | .unknown => throw (.unsupported (.ofList type))
    | _ => throw mismatch
  | data =>
    let mismatch := DecodeError.mismatch data (.ofList type)
    match TypeShape.ofText type with
    | .basic single => (single.read data).elim (.error mismatch) .ok
    | .dict (some entry) => do
      let _ ← (Signature.splitFirstChars entry).mapError DecodeError.signature
      throw mismatch
    | .struct (some fields) => do
      let _ ← fieldTypes? fields
      throw mismatch
    | .unknown => throw (.unsupported (.ofList type))
    | _ => throw mismatch

/-- Reads every item at one type. -/
def decodeItems (element : List Char) : List Json → Except DecodeError (List Value)
  | [] => .ok []
  | item :: rest => do
    let value ← decodeAs element item
    return value :: (← decodeItems element rest)

/-- Reads the items at one type each. -/
def decodeFields : List (List Char) → List Json → Except DecodeError (List Value)
  | type :: types, item :: rest => do
    let value ← decodeAs type item
    return value :: (← decodeFields types rest)
  | _, _ => .ok []

/-- Reads every member at one type. -/
def decodeMembers (type : List Char) :
    List (String × Json) → Except DecodeError (List (String × Value))
  | [] => .ok []
  | (key, data) :: rest => do
    let value ← decodeAs type data
    return (key, value) :: (← decodeMembers type rest)

/-- Reads the member of a key, if there is one. -/
def decodeMember (type : List Char) (key : String) :
    List (String × Json) → Option (Except DecodeError Value)
  | [] => none
  | (k, data) :: rest =>
    if k = key then some (decodeAs type data) else decodeMember type key rest

end

/-- Reads a JSON value as a value of a type. -/
def decode (type : String) (data : Json) : Except DecodeError Value :=
  decodeAs type.toList data

end Value

end BusTrial
