import BusTrial.Value.Display

/-!
# Values as command-line words

The words with which a value is passed on a command line after its type: a scalar is one word, an
array and a dictionary begin with their count, a struct is its fields in a row, and a variant begins
with the type of what it holds.  An entry of a dictionary is its key followed by its value as a
variant, however many variants the value already has around it.
-/

namespace BusTrial.Value

/-- The words of a value as it stands, and of the value inside all variants around it. -/
structure Words where
  own : List String
  unwrapped : List String

/-- The words of a value that is no variant. -/
def Words.same (words : List String) : Words :=
  ⟨words, words⟩

mutual

/-- The words of a value, in both forms. -/
def words : Value → Words
  | .bytes values =>
    .same (Nat.repr values.length :: values.map fun b => Nat.repr b.toNat)
  | .array items => .same (Nat.repr items.length :: itemWords items)
  | .dict entries => .same (Nat.repr entries.length :: entryWords entries)
  | .struct fields => .same (itemWords fields)
  | .variant inner =>
    let w := inner.words
    ⟨inner.typeText :: w.own, w.unwrapped⟩
  | value => .same [value.display]

/-- The words of a row of values. -/
def itemWords : List Value → List String
  | [] => []
  | item :: rest => item.words.own ++ itemWords rest

/-- The words of the entries of a dictionary. -/
def entryWords : List (String × Value) → List String
  | [] => []
  | (key, value) :: rest =>
    key :: value.unwrapped.typeText :: value.words.unwrapped ++ entryWords rest

end

/-- The words that pass the value on a command line. -/
def arguments (value : Value) : List String :=
  value.words.own

/-- The types of a row of arguments, in one word. -/
def typesText (values : List Value) : String :=
  fieldTypes values

end BusTrial.Value
