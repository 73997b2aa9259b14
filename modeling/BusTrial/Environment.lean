import BusTrial.KeyMap
import BusTrial.Text.Utf8

/-!
# Environments

The environment of a process is a list of names and values, both of them bytes.  `ofBytes` keeps the
pairs of which both are text; of several pairs with one name the last one counts.
-/

namespace BusTrial

/-- Names and values, in the order of the names. -/
abbrev Environment := KeyMap String

/-- The pairs that are text, name and value alike. -/
def Environment.ofBytes (pairs : List (List UInt8 × List UInt8)) : Environment :=
  KeyMap.ofList (pairs.filterMap fun (name, value) => do
    return (← Text.ofUtf8? name, ← Text.ofUtf8? value))

end BusTrial
