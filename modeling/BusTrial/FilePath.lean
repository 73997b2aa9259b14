import BusTrial.Text.Split

/-!
# Paths of files

A path keeps the text it was given, but names a file by its `parts`: empty parts and single dots
between slashes do not count, except for a dot that a relative path begins with.  So `/a//b/.` and
`/a/b` are the same file, while `./b` and `b` are kept apart and `..` is a part like any other.
-/

namespace BusTrial

/-- A path of a file. -/
structure FilePath where
  text : String
  deriving DecidableEq, Repr, Inhabited

namespace FilePath

/-- The path begins at the root. -/
def isAbsolute (p : FilePath) : Bool :=
  p.text.toList.head? == some '/'

/-- A piece between slashes that does not count. -/
def isIdle (piece : List Char) : Bool :=
  piece == [] || piece == ['.']

/-- The pieces of a path: a head that stands before all others (the root, or the dot at the start of
a relative path) and the pieces after it as they are written. -/
def pieces (p : FilePath) : Option String × List (List Char) :=
  match p.text.toList with
  | '/' :: rest => (some "/", rest.splitOn '/')
  | cs =>
    match cs.splitOn '/' with
    | ['.'] :: rest => (some ".", rest)
    | all => (none, all)

/-- What identifies a file: the head of the path and the pieces that count. -/
structure Key where
  head : Option String
  parts : List String
  deriving DecidableEq, Repr

/-- The identity of the file that the path names. -/
def key (p : FilePath) : Key :=
  let (head, all) := p.pieces
  ⟨head, (all.filter fun piece => !isIdle piece).map .ofList⟩

/-- Drops the pieces at the end that do not count. -/
def dropIdleEnd (all : List (List Char)) : List (List Char) :=
  (all.reverse.dropWhile isIdle).reverse

/-- The path with the last piece that counts taken off; a path of a head alone has none. -/
def parent? (p : FilePath) : Option FilePath :=
  let (head, all) := p.pieces
  let body (all : List (List Char)) : String := .ofList (['/'].intercalate all)
  match head, dropIdleEnd all with
  | some ".", [] => some ⟨""⟩
  | _, [] => none
  | none, some' => some ⟨body (dropIdleEnd some'.dropLast)⟩
  | some head, some' =>
    let rest := body (dropIdleEnd some'.dropLast)
    if head == "/" || rest == "" then some ⟨head ++ rest⟩ else some ⟨head ++ "/" ++ rest⟩

/-- The last piece that counts, unless that is `..` or the path has none. -/
def fileName? (p : FilePath) : Option String :=
  match (dropIdleEnd p.pieces.2).getLast? with
  | some ['.', '.'] => none
  | some piece => some (.ofList piece)
  | none => none

/-- The path `p` seen from the directory `base`. -/
def absolute (base p : FilePath) : FilePath :=
  if p.isAbsolute then p
  else if base.text == "" || base.text.toList.getLast? == some '/' then ⟨base.text ++ p.text⟩
  else ⟨base.text ++ "/" ++ p.text⟩

end FilePath

end BusTrial
