/-!
# Bytes read as UTF-8

`decode` accepts a byte list exactly when it is the UTF-8 form of a text and otherwise says where
the first ill-formed sequence stands (`Utf8Fault`); `decodeLossy` puts U+FFFD in place of every
such sequence.  Both read with `scan`, which looks at one sequence at the front.

An ill-formed sequence is a maximal start of a well-formed one: its first byte alone, or the
bytes after it that could still have continued it.
-/

namespace BusTrial.Text

/-- The first ill-formed place of a byte list. -/
inductive Utf8Fault where
  /-- `length` bytes from `index` on cannot start a character. -/
  | invalid (length index : Nat)
  /-- The bytes from `index` on start a character that the end of the list cuts off. -/
  | truncated (index : Nat)
  deriving DecidableEq, Repr

/-- The sentence that reports the fault. -/
def Utf8Fault.message : Utf8Fault → String
  | .invalid length index => s!"invalid utf-8 sequence of {length} bytes from index {index}"
  | .truncated index => s!"incomplete utf-8 byte sequence from index {index}"

/-- What stands at the front of a byte list. -/
inductive Utf8Scan where
  /-- Nothing is left. -/
  | done
  /-- A character, written in `length` bytes. -/
  | char (c : Char) (length : Nat)
  /-- `length` bytes that cannot start a character. -/
  | invalid (length : Nat)
  /-- The list ends inside a character. -/
  | truncated

/-- The byte continues a sequence: its top bits are `10`. -/
def isContinuation (b : UInt8) : Bool :=
  0x80 ≤ b && b ≤ 0xbf

/-- The low six bits of a continuation byte. -/
def continuationBits (b : UInt8) : Nat :=
  b.toNat % 64

/-- The second bytes that may follow the first byte of a sequence of three: they exclude the
overlong forms and the surrogates. -/
def secondOfThree (first second : UInt8) : Bool :=
  if first == 0xe0 then 0xa0 ≤ second && second ≤ 0xbf
  else if first == 0xed then 0x80 ≤ second && second ≤ 0x9f
  else isContinuation second

/-- The second bytes that may follow the first byte of a sequence of four: they exclude the
overlong forms and what lies above U+10FFFF. -/
def secondOfFour (first second : UInt8) : Bool :=
  if first == 0xf0 then 0x90 ≤ second && second ≤ 0xbf
  else if first == 0xf4 then 0x80 ≤ second && second ≤ 0x8f
  else isContinuation second

/-- Reads the sequence at the front. -/
def scan : List UInt8 → Utf8Scan
  | [] => .done
  | a :: rest =>
    if a < 0x80 then .char (.ofNat a.toNat) 1
    else if 0xc2 ≤ a && a ≤ 0xdf then
      match rest with
      | [] => .truncated
      | b :: _ =>
        if isContinuation b then .char (.ofNat (a.toNat % 32 * 64 + continuationBits b)) 2
        else .invalid 1
    else if 0xe0 ≤ a && a ≤ 0xef then
      match rest with
      | [] => .truncated
      | b :: rest =>
        if !secondOfThree a b then .invalid 1
        else match rest with
          | [] => .truncated
          | c :: _ =>
            if isContinuation c then
              .char (.ofNat ((a.toNat % 16 * 64 + continuationBits b) * 64 + continuationBits c)) 3
            else .invalid 2
    else if 0xf0 ≤ a && a ≤ 0xf4 then
      match rest with
      | [] => .truncated
      | b :: rest =>
        if !secondOfFour a b then .invalid 1
        else match rest with
          | [] => .truncated
          | c :: rest =>
            if !isContinuation c then .invalid 2
            else match rest with
              | [] => .truncated
              | d :: _ =>
                if isContinuation d then
                  .char (.ofNat (((a.toNat % 8 * 64 + continuationBits b) * 64 +
                    continuationBits c) * 64 + continuationBits d)) 4
                else .invalid 3
    else .invalid 1

/-- The first ill-formed place, if there is one; `index` counts the bytes already passed and
`fuel` bounds the number of sequences, of which there are at most as many as bytes. -/
def faultFrom (index : Nat) : (fuel : Nat) → List UInt8 → Option Utf8Fault
  | 0, _ => none
  | fuel + 1, bytes =>
    match scan bytes with
    | .done => none
    | .char _ length => faultFrom (index + length) fuel (bytes.drop length)
    | .invalid length => some (.invalid length index)
    | .truncated => some (.truncated index)

/-- The first ill-formed place of a byte list. -/
def utf8Fault? (bytes : List UInt8) : Option Utf8Fault :=
  faultFrom 0 (bytes.length + 1) bytes

/-- The text whose UTF-8 form the bytes are, if there is one. -/
def ofUtf8? (bytes : List UInt8) : Option String :=
  String.fromUTF8? ⟨bytes.toArray⟩

/-- The UTF-8 form of a text. -/
def toUtf8 (text : String) : List UInt8 :=
  text.toUTF8.data.toList

/-- Bytes are read as a text exactly when they are its UTF-8 form. -/
theorem ofUtf8?_eq_some_iff {bytes : List UInt8} {text : String} :
    ofUtf8? bytes = some text ↔ bytes = toUtf8 text := by
  rw [ofUtf8?, String.fromUTF8?, toUtf8]
  constructor
  · intro h
    split at h
    · cases h
      rfl
    · cases h
  · rintro rfl
    exact dif_pos text.isValidUTF8

/-- Reads the bytes as UTF-8, or says where they stop being it. -/
def decode (bytes : List UInt8) : Except Utf8Fault String :=
  match ofUtf8? bytes with
  | some text => .ok text
  | none => .error ((utf8Fault? bytes).getD (.truncated 0))

/-- The characters of the bytes, with U+FFFD for each ill-formed sequence. -/
def lossyChars : (fuel : Nat) → List UInt8 → List Char
  | 0, _ => []
  | fuel + 1, bytes =>
    match scan bytes with
    | .done => []
    | .char c length => c :: lossyChars fuel (bytes.drop length)
    | .invalid length => '\uFFFD' :: lossyChars fuel (bytes.drop length)
    | .truncated => ['\uFFFD']

/-- Reads the bytes as UTF-8, with U+FFFD for each ill-formed sequence. -/
def decodeLossy (bytes : List UInt8) : String :=
  .ofList (lossyChars (bytes.length + 1) bytes)

end BusTrial.Text
