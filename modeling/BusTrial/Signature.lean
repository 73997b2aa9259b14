import BusTrial.Failure

/-!
# Type signatures as text

A signature is a row of complete types.  `takeType` cuts the first one off: an array is `a` and the
type after it, a bracketed type ends where its own kind of bracket is closed as often as it was
opened, and every other character is a type by itself.  `split` cuts a signature into all its
complete types.  Neither checks that a character names a type or that brackets of the other kind
match.
-/

namespace BusTrial

/-- Why a signature cannot be cut. -/
inductive SignatureError where
  /-- It holds a character outside ASCII. -/
  | notAscii (signature : String)
  /-- An array has no element type. -/
  | truncatedArray (signature : String)
  /-- A bracket is not closed. -/
  | unbalanced (signature : String)
  deriving DecidableEq, Repr

/-- The sentence that reports the error. -/
def SignatureError.message : SignatureError → String
  | .notAscii signature => "invalid signature " ++ signature
  | .truncatedArray signature => "truncated array signature " ++ signature
  | .unbalanced signature => "unbalanced signature " ++ signature

/-- The failure that such an error is for a caller of the bus. -/
def SignatureError.failure (error : SignatureError) : Failure :=
  .bus error.message

namespace Signature

/-- Takes characters up to the closing bracket that brings the depth back to zero. -/
def takeBracketed (opening closing : Char) (depth : Nat) :
    List Char → Option (List Char × List Char)
  | [] => none
  | c :: cs =>
    if c = opening then
      (takeBracketed opening closing (depth + 1) cs).map fun (taken, rest) => (c :: taken, rest)
    else if c = closing then
      if depth ≤ 1 then some ([c], cs)
      else (takeBracketed opening closing (depth - 1) cs).map fun (taken, rest) =>
        (c :: taken, rest)
    else (takeBracketed opening closing depth cs).map fun (taken, rest) => (c :: taken, rest)

/-- The bracket that closes an opening one. -/
def closingOf? (c : Char) : Option Char :=
  if c = '(' then some ')' else if c = '\x7b' then some '\x7d' else none

/-- Takes the first complete type off the front; nothing is taken off nothing. -/
def takeType : List Char → Except SignatureError (List Char × List Char)
  | [] => .ok ([], [])
  | c :: cs =>
    if c = 'a' then
      match takeType cs with
      | .error e => .error e
      | .ok ([], _) => .error (.truncatedArray (.ofList (c :: cs)))
      | .ok (element, rest) => .ok (c :: element, rest)
    else
      match closingOf? c with
      | none => .ok ([c], cs)
      | some closing =>
        match takeBracketed c closing 0 (c :: cs) with
        | some parts => .ok parts
        | none => .error (.unbalanced (.ofList (c :: cs)))

/-- The characters are all ASCII. -/
def isAscii (cs : List Char) : Bool :=
  cs.all fun c => c.toNat < 128

/-- Cuts off the first complete type of an ASCII signature. -/
def splitFirstChars (cs : List Char) : Except SignatureError (List Char × List Char) :=
  if isAscii cs then takeType cs else .error (.notAscii (.ofList cs))

/-- Cuts a signature into its complete types.  `fuel` bounds their number; each has a character. -/
def splitFrom : (fuel : Nat) → List Char → Except SignatureError (List (List Char))
  | _, [] => .ok []
  | 0, _ :: _ => .ok []
  | fuel + 1, c :: cs =>
    match splitFirstChars (c :: cs) with
    | .error e => .error e
    | .ok (first, rest) => (splitFrom fuel rest).map (first :: ·)

/-- Cuts a signature into its complete types. -/
def splitChars (cs : List Char) : Except SignatureError (List (List Char)) :=
  splitFrom cs.length cs

/-- Cuts off the first complete type of a signature. -/
def splitFirst (signature : String) : Except SignatureError (String × String) :=
  (splitFirstChars signature.toList).map fun (first, rest) => (.ofList first, .ofList rest)

/-- Cuts a signature into its complete types. -/
def split (signature : String) : Except SignatureError (List String) :=
  (splitChars signature.toList).map (·.map .ofList)

end Signature

end BusTrial
