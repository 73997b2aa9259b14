import BusTrial.Act
import BusTrial.FilePath
import BusTrial.Table

/-!
# Files

A state with `Files` reads, replaces and extends text files and creates directories.  `FileTable`
keeps files in memory, under the keys of their paths.  It notes every request before it answers it,
and can be told to fail the next one.
-/

namespace BusTrial

/-- The state has a file system. -/
class Files (σ : Type) where
  /-- The text of a file. -/
  read : FilePath → Act σ String
  /-- Replaces the text of a file. -/
  write : FilePath → String → Act σ Unit
  /-- Adds text at the end of a file, which is created if need be. -/
  append : FilePath → String → Act σ Unit
  /-- Creates a directory and those above it. -/
  makeDirectory : FilePath → Act σ Unit

instance {ε σ : Type} [Files σ] : Files (ε × σ) where
  read p := Act.onRight (Files.read p)
  write p text := Act.onRight (Files.write p text)
  append p text := Act.onRight (Files.append p text)
  makeDirectory p := Act.onRight (Files.makeDirectory p)

/-- A request to a file system. -/
inductive FileRequest where
  | read (path : FilePath)
  | write (path : FilePath) (text : String)
  | append (path : FilePath) (text : String)
  | makeDirectory (path : FilePath)
  deriving DecidableEq, Repr

/-- Files in memory. -/
structure FileTable where
  files : Table FilePath.Key String := ∅
  /-- Every request, the first one first. -/
  requests : Array FileRequest := #[]
  /-- What the next request fails with. -/
  failNext : Option Failure := none

namespace FileTable

/-- The text of a file, without a request. -/
def contents? (t : FileTable) (p : FilePath) : Option String :=
  t.files.get? p.key

/-- The text of a file; one that does not exist has none. -/
def textOf (t : FileTable) (p : FilePath) : String :=
  (t.contents? p).getD ""

/-- Sets the text of a file. -/
def put (t : FileTable) (p : FilePath) (text : String) : FileTable :=
  { t with files := t.files.set p.key text }

/-- Notes a request and answers it, unless the next request is to fail: then it does, and the one
after it is answered again. -/
def request {α : Type} (r : FileRequest) (answer : FileTable → Except Failure α × FileTable) :
    Act FileTable α :=
  fun t =>
    let t := { t with requests := t.requests.push r }
    match t.failNext with
    | some failure => (.failed failure, { t with failNext := none })
    | none =>
      match answer t with
      | (.ok value, t) => (.done value, t)
      | (.error failure, t) => (.failed failure, t)

instance : Files FileTable where
  read p := request (.read p) fun t =>
    match t.contents? p with
    | some text => (.ok text, t)
    | none => (.error (.plain .notFound ("missing file " ++ p.text)), t)
  write p text := request (.write p text) fun t => (.ok (), t.put p text)
  append p text := request (.append p text) fun t => (.ok (), t.put p (t.textOf p ++ text))
  makeDirectory p := request (.makeDirectory p) fun t => (.ok (), t)

end FileTable

end BusTrial
