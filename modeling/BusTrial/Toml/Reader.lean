import BusTrial.Toml.Document
import BusTrial.Toml.Number

/-!
# Reading TOML text

`Toml.parse` reads a document, as the table of its entries.  The text is taken apart statement by
statement, a statement being a line or an assignment that goes over several lines; the statements are
then added to the document in order.

Arrays and braces may be nested 79 deep, and a dotted key may have 79 parts.
-/

namespace BusTrial.Toml

open Text Text.Take

/-- Takes a comment, up to the end of its line. -/
def takeComment : Take Unit := do
  char '#'
  discard (span isPlain)

/-- Takes the blanks, line ends and comments that stand at the front. -/
def takeGap : Take Unit :=
  discard (many (discard (one isBlankChar) <|> takeNewline <|> takeComment *> takeNewline))

/-- Takes what may stand at the end of a line, and its end. -/
def takeLineEnd : Take Unit := do
  takeBlanks
  let _ ← optional takeComment
  takeNewline <|> finish

/-- One more than the parts that a key may have, and than the levels of arrays and braces. -/
def nestingLimit : Nat := 80

/-- Takes a part of a key. -/
def takeKeyPart : Take String :=
  takeBasic <|> takeLiteral <|> do
    let bare (c : Char) : Bool := c.isAlphanum || c == '-' || c == '_'
    return .ofList ((← one bare) :: (← span bare))

/-- Takes a key, as its last part and those before it. -/
def takeKey : Take (List String × String) := do
  let parts ← separated (char '.') (takeBlanks *> takeKeyPart <* takeBlanks)
  guard (parts.length < nestingLimit)
  return (parts.dropLast, parts.getLastD "")

/-- Takes a key, what is assigned to it, and the blanks after that. -/
def takeAssignment (value : Take Toml) : Take ((List String × String) × Toml) := do
  let key ← takeKey
  char '='
  takeBlanks
  let value ← value
  takeBlanks
  return (key, value)

/-- Takes a value that holds no others. -/
def takeScalar : Take Toml :=
  Toml.text <$> takeText
    <|> Toml.moment <$> taken takeMoment
    <|> Toml.float <$> (takeDecimalFloat <|> takeNamedFloat)
    <|> Toml.integer <$> takeInteger
    <|> (do word "true"; return .boolean true)
    <|> (do word "false"; return .boolean false)

/-- Takes an array. -/
def takeArray (item : Take Toml) : Take Toml := do
  char '['
  let items ← optional do
    separated (char ',') (takeGap *> item <* takeGap) <* optional (char ',')
  takeGap
  char ']'
  return .array (items.getD [])

/-- Takes a table in braces, which has no comma after its last entry. -/
def takeBraces (value : Take Toml) : Take Toml := do
  char '\x7b'
  let assignments ← optional (separated (char ',') (takeAssignment value))
  takeBlanks
  char '\x7d'
  let entries ← StateT.lift
    ((assignments.getD []).foldlM (fun m ((path, key), v) => assign path key v m) [])
  return .table .braces entries

/-- Takes a value with up to `levels` levels of arrays and braces. -/
def takeValue : (levels : Nat) → Take Toml
  | 0 => takeScalar
  | levels + 1 =>
    takeScalar <|> takeArray (takeValue levels) <|> takeBraces (takeValue levels)

/-- A statement of a document. -/
inductive Statement where
  | blank
  | assignment (path : List String) (key : String) (value : Toml)
  | openTable (path : List String) (key : String)
  | openSeries (path : List String) (key : String)

/-- Takes a statement, with the end of its line. -/
def takeStatement : Take Statement :=
  (do takeNewline; return .blank)
    <|> (do takeComment; takeLineEnd; return .blank)
    <|> (do
      word "[["
      let (path, key) ← takeKey
      word "]]"
      takeLineEnd
      return .openSeries path key)
    <|> (do
      char '['
      let (path, key) ← takeKey
      char ']'
      takeLineEnd
      return .openTable path key)
    <|> (do
      let ((path, key), value) ← takeAssignment (takeValue (nestingLimit - 1))
      takeLineEnd
      return .assignment path key value)

/-- Takes a whole document.  A mark of the byte order at its start does not count. -/
def takeStatements : Take (List Statement) := do
  let _ ← optional (char '\ufeff')
  takeBlanks
  let statements ← many (takeStatement <* takeBlanks)
  finish
  return statements

/-- A document with the path of the header that its next assignments belong to. -/
structure Draft where
  entries : KeyMap Toml := []
  header : List String := []

/-- Adds a statement to a document. -/
def Draft.add (d : Draft) : Statement → Option Draft
  | .blank => some d
  | .assignment path key value => do
    return { d with entries := ← define d.header path key value d.entries }
  | .openTable path key => do
    return { entries := ← Toml.openTable path key d.entries, header := path ++ [key] }
  | .openSeries path key => do
    return { entries := ← Toml.openSeries path key d.entries, header := path ++ [key] }

/-- Reads a document. -/
def parse (text : String) : Option (KeyMap Toml) := do
  let (statements, _) ← takeStatements.run text.toList
  return (← statements.foldlM Draft.add {}).entries

end BusTrial.Toml
