import BusTrial.Decimal.Power
import BusTrial.KeyMap

/-!
# TOML values

A value of a TOML document.  A table remembers how it was defined (`Toml.Origin`), since that decides
what a document may still add to it; an array that was written with headers is a `series` of tables
and can still grow, while any other array is complete.

`entries?` and `items?` are the two views that a reader of a finished document needs: they do not tell
the ways of writing a table or an array apart.
-/

namespace BusTrial

/-- How a table was defined. -/
inductive Toml.Origin where
  /-- By a header of its own; the document itself counts as one of these. -/
  | header
  /-- On the way of a header to a table further inside. -/
  | passed
  /-- By a dotted key. -/
  | dotted
  /-- In braces. -/
  | braces
  deriving DecidableEq, Repr

/-- A TOML value. -/
inductive Toml where
  | text (value : String)
  | integer (value : Int)
  | float (value : Float)
  | boolean (value : Bool)
  /-- A date, a time of day or both, as it is written. -/
  | moment (value : String)
  | array (items : List Toml)
  | table (origin : Toml.Origin) (entries : List (String × Toml))
  /-- Tables that have the same header, the last one first. -/
  | series (latest : List (String × Toml)) (earlier : List (List (String × Toml)))
  deriving Inhabited

namespace Toml

/-- The text of a text. -/
def text? : Toml → Option String
  | .text value => some value
  | _ => none

/-- An integer that fits in `width` bits without a sign. -/
def unsigned? (width : Nat) : Toml → Option Nat
  | .integer value => if Decimal.fitsUnsigned width value then some value.toNat else none
  | _ => none

/-- The items of an array. -/
def items? : Toml → Option (List Toml)
  | .array items => some items
  | .series latest earlier => some ((latest :: earlier).reverse.map (.table .header))
  | _ => none

/-- The texts of an array of nothing else. -/
def texts? (t : Toml) : Option (List String) := do
  (← t.items?).mapM text?

/-- The entries of a table, in key order. -/
def entries? : Toml → Option (KeyMap Toml)
  | .table _ entries => some entries
  | _ => none

end Toml

end BusTrial
