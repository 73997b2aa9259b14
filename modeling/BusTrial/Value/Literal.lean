import BusTrial.Value.Basic
import BusTrial.Decimal.Reading

/-!
# Values from command-line literals

A literal has no type, so `ofLiteral` takes the first reading that fits: a truth value, a signed
integer, an unsigned one, a double, an object path if it begins with a slash, and otherwise a
string.
-/

namespace BusTrial.Value

/-- The value that a literal most likely means. -/
def ofLiteral (text : String) : Value :=
  if text = "true" then .bool true
  else if text = "false" then .bool false
  else
    match Decimal.readSigned 64 text, Decimal.readUnsigned 64 text, Decimal.readFloat text with
    | some n, _, _ => .int64 (.ofInt n)
    | none, some n, _ => .uint64 (.ofNat n)
    | none, none, some x => .double x
    | none, none, none =>
      if text.toList.head? = some '/' then .objectPath text else .string text

end BusTrial.Value
