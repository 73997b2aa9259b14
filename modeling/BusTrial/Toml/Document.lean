import BusTrial.Toml.Basic

/-!
# Adding to a TOML document

A document is a table that is filled line by line: key by key (`define`), and header by header
(`openTable`, `openSeries`).  Each of these fails when what it adds has been defined already.

The way to a table leads through other tables; those that are missing are created.  It never leads
into a table in braces, which is complete, and through a series it leads into the last table.  A
dotted key moreover leads only through tables that have no header of their own, and only to one that
was itself created by a dotted key.
-/

namespace BusTrial.Toml

/-- How a way through tables is written. -/
inductive Way where
  /-- In a header. -/
  | header
  /-- In a dotted key. -/
  | dotted
  deriving DecidableEq, Repr

/-- The origin of a table that is created on the way. -/
def Way.origin : Way → Origin
  | .header => .passed
  | .dotted => .dotted

/-- The way may lead into a table of this origin. -/
def Way.enters : Way → Origin → Bool
  | .header, origin => origin != .braces
  | .dotted, origin => origin == .passed || origin == .dotted

/-- Changes the entries of the table at the end of a path, which the change sees together with the
table's origin. -/
def alter (way : Way) (change : Origin → KeyMap Toml → Option (KeyMap Toml)) :
    (path : List String) → Origin → KeyMap Toml → Option (KeyMap Toml)
  | [], origin, entries => change origin entries
  | key :: path, _, entries => do
    let inner ← match entries.get? key with
      | none => (alter way change path way.origin []).map (.table way.origin)
      | some (.table origin inner) =>
        if way.enters origin then (alter way change path origin inner).map (.table origin)
        else none
      | some (.series latest earlier) =>
        (alter way change path .header latest).map fun latest => .series latest earlier
      | some _ => none
    return entries.insert key inner

/-- Gives a dotted key its value, in the table with these entries. -/
def assign (path : List String) (key : String) (value : Toml) :
    KeyMap Toml → Option (KeyMap Toml) :=
  alter .dotted (fun origin entries => do
    guard (path.isEmpty || origin == .dotted)
    guard (!entries.hasKey key)
    return entries.insert key value) path .header

/-- Gives a dotted key its value, in the table that a header path leads to. -/
def define (header path : List String) (key : String) (value : Toml) :
    KeyMap Toml → Option (KeyMap Toml) :=
  alter .header (fun _ => assign path key value) header .header

/-- Defines a table by its header.  A table that headers only passed through so far keeps what it
holds. -/
def openTable (path : List String) (key : String) : KeyMap Toml → Option (KeyMap Toml) :=
  alter .header (fun _ entries =>
    match entries.get? key with
    | none => some (entries.insert key (.table .header []))
    | some (.table .passed inner) => some (entries.insert key (.table .header inner))
    | some _ => none) path .header

/-- Adds a table to a series by its header. -/
def openSeries (path : List String) (key : String) : KeyMap Toml → Option (KeyMap Toml) :=
  alter .header (fun _ entries =>
    match entries.get? key with
    | none => some (entries.insert key (.series [] []))
    | some (.series latest earlier) => some (entries.insert key (.series [] (latest :: earlier)))
    | some _ => none) path .header

end BusTrial.Toml
