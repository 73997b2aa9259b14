import BusTrial.CommandLine.Rehearsal

/-!
# The program

`main` rehearses the command line that it is given.  The configuration file comes from the disk, and
what the processes leave from the standard input, one JSON object a line.  Afterwards everything that
the run wrote is written: lines to the terminal, sections to the flight record, events to the run log.
-/

open BusTrial

/-- Reads the lines of a stream up to its end. -/
partial def readLines (stream : IO.FS.Stream) (earlier : List String) : IO (List String) := do
  let line ← stream.getLine
  if line.isEmpty then return earlier.reverse
  readLines stream (line :: earlier)

/-- Puts a file of the disk on a bench, if it can be read. -/
def provideFile (path : FilePath) (b : Bench) : IO Bench := do
  try
    let text ← IO.FS.readFile path.text
    return { b with files := b.files.put path text }
  catch _ => return b

/-- Adds text to a file of the disk. -/
def extendFile (path : FilePath) (text : String) : IO Unit := do
  let file ← IO.FS.Handle.mk path.text .append
  file.putStr text

/-- Does to the disk what was done to the files of a bench. -/
def carryOut : FileRequest → IO Unit
  | .read _ => return
  | .write path text => IO.FS.writeFile path.text text
  | .append path text => extendFile path text
  | .makeDirectory path => IO.FS.createDirAll path.text

/-- Shows and writes what a run left on its bench. -/
def publish (b : Bench) : IO Unit := do
  for line in b.screen.lines do IO.println line
  for text in b.screen.errors do IO.eprint text
  for request in b.files.requests do carryOut request
  if let some path := b.log.destination then extendFile path (b.log.textOf path)

/-- Rehearses a command line. -/
def main (words : List String) : IO UInt32 := do
  let directory : FilePath := ⟨(← IO.currentDir).toString⟩
  let mut bench : Bench := {}
  if let some path := CommandLine.configFile? words directory then
    bench ← provideFile path bench
  let mut env : Environment := []
  if let some name := CommandLine.toggle? words directory bench then
    if let some value ← IO.getEnv name then env := [(name, value)]
  let responses ← readLines (← IO.getStdin) []
  let rehearsal : Act Bench Int := CommandLine.run words env directory
  let (ended, left) := rehearsal (CommandLine.queueResponses responses bench)
  publish left
  if let some text := CommandLine.lastWords? ended then IO.eprintln text
  return (CommandLine.exitStatus ended).toUInt32
