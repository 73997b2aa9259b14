import BusTrial.Act

/-!
# Terminals

A state with a `Terminal` takes lines of output, and text for the error stream.  `Screen` keeps both
in memory.
-/

namespace BusTrial

/-- The state has a terminal. -/
class Terminal (σ : Type) where
  /-- Writes a line. -/
  writeLine : String → Act σ Unit
  /-- Writes to the error stream, without ending the line. -/
  writeError : String → Act σ Unit

instance {ε σ : Type} [Terminal σ] : Terminal (ε × σ) where
  writeLine line := Act.onRight (Terminal.writeLine line)
  writeError text := Act.onRight (Terminal.writeError text)

/-- A terminal in memory. -/
structure Screen where
  lines : Array String := #[]
  errors : Array String := #[]

instance : Terminal Screen where
  writeLine line := Act.change fun s => { s with lines := s.lines.push line }
  writeError text := Act.change fun s => { s with errors := s.errors.push text }

end BusTrial
