import BusTrial.Text.Split

/-!
# Object paths

`ObjectPath.isValid` accepts the root `/` and every row of elements that each begin with a slash and
go on with one or more letters, digits and underscores of ASCII.  An `ObjectRef` is a path together
with the service that owns it; it is written `service:path`.
-/

namespace BusTrial

namespace ObjectPath

/-- The character may stand in an element of a path. -/
def isElementChar (c : Char) : Bool :=
  ('a' ≤ c && c ≤ 'z') || ('A' ≤ c && c ≤ 'Z') || ('0' ≤ c && c ≤ '9') || c == '_'

/-- An element of a path, without its slash. -/
def isElement (cs : List Char) : Bool :=
  !cs.isEmpty && cs.all isElementChar

/-- The characters form an object path. -/
def isValidChars : List Char → Bool
  | ['/'] => true
  | '/' :: rest => (rest.splitOn '/').all isElement
  | _ => false

/-- The text is an object path. -/
def isValid (path : String) : Bool :=
  isValidChars path.toList

end ObjectPath

/-- An object of a service. -/
structure ObjectRef where
  service : String
  path : String
  deriving DecidableEq, Repr

/-- Writes the object as `service:path`. -/
def ObjectRef.display (object : ObjectRef) : String :=
  object.service ++ ":" ++ object.path

end BusTrial
