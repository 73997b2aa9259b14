import BusTrial.Text.Utf8
import BusTrial.Value.Basic

/-!
# Texts as byte arrays

A service passes some texts as byte arrays that end in a NUL.  `ofText` adds the NUL and `toText`
takes one NUL off the end, if there is one, and reads the rest as UTF-8.
-/

namespace BusTrial

/-- Why a value is no text in bytes. -/
inductive ByteTextError where
  /-- An item of the array is no byte. -/
  | notByte (item : Value)
  /-- The value is no byte array. -/
  | notBytes (value : Value)
  /-- The bytes are not UTF-8. -/
  | illFormed (fault : Text.Utf8Fault)

/-- The sentence that reports the error. -/
def ByteTextError.message : ByteTextError → String
  | .notByte item => item.kindName ++ " is not a byte"
  | .notBytes value => value.kindName ++ " is not a byte array"
  | .illFormed fault => fault.message

namespace Value

/-- The bytes of a text and a NUL. -/
def ofText (text : String) : Value :=
  .bytes (Text.toUtf8 text ++ [0])

/-- The bytes that the items of an array hold.  A byte inside a variant does not count. -/
def itemBytes : List Value → Except ByteTextError (List UInt8)
  | [] => .ok []
  | .byte b :: rest => (itemBytes rest).map (b :: ·)
  | item :: _ => .error (.notByte item)

/-- The bytes of a byte array, looking through variants around it. -/
def toBytes : Value → Except ByteTextError (List UInt8)
  | .bytes values => .ok values
  | .array items => itemBytes items
  | .variant inner => inner.toBytes
  | value => .error (.notBytes value)

/-- Takes one NUL off the end. -/
def dropTerminator (bytes : List UInt8) : List UInt8 :=
  if bytes.getLast? = some 0 then bytes.dropLast else bytes

/-- The text that a byte array holds. -/
def toText (value : Value) : Except ByteTextError String := do
  let bytes ← value.toBytes
  (Text.decode (dropTerminator bytes)).mapError .illFormed

end Value

end BusTrial
