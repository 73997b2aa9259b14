/-!
# The words of a command line

A `Grammar` says what a command takes: options with a value, flags, operands, and commands of its own.
`read` goes through the words from left to right and stops at the first command among them.

`--name value` and `--name=value` give an option its value; a word that begins with a dash is no value
unless it is a dash alone.  After `--`, every word is an operand.  An option or a flag can be given once.
`--help` and `-h` are flags of every command and end the reading at once.

The value of an option that stands in a word of its own is looked at only when the next thing is read;
until then the option is `pending`.
-/

namespace BusTrial.CommandLine

/-- An option with a value. -/
structure OptionRule where
  name : String
  /-- The option can have this value. -/
  accepts : String → Bool := fun _ => true

/-- The operands that a command takes. -/
inductive Operands where
  | none
  /-- One operand. -/
  | one
  /-- Any number of operands, all of them after `--`. -/
  | afterDashes
  deriving DecidableEq, Repr

/-- What a command takes. -/
structure Grammar where
  options : List OptionRule := []
  flags : List String := []
  operands : Operands := .none
  commands : List String := []

/-- Why the words were not read to their end. -/
inductive Refusal where
  /-- They ask for help. -/
  | help
  /-- They are not what the command takes. -/
  | malformed
  deriving DecidableEq, Repr

/-- The option that was read last. -/
inductive Pending where
  | nothing
  /-- Its value is still to come. -/
  | awaiting (name : String)
  | holding (name value : String)
  deriving DecidableEq, Repr

/-- What was read from the words of a command. -/
structure Given where
  values : List (String × String) := []
  flags : List String := []
  operands : List String := []
  pending : Pending := .nothing
  /-- A command among the words, and the words after it. -/
  next : Option (String × List String) := none
  deriving Repr

namespace Given

/-- The value of an option. -/
def value? (s : Given) (name : String) : Option String :=
  (s.values.find? fun (n, _) => n == name).map (·.2)

/-- A flag was given. -/
def hasFlag (s : Given) (name : String) : Bool :=
  s.flags.contains name

end Given

namespace Grammar

/-- Gives an option its value. -/
def addValue (g : Grammar) (s : Given) (name value : String) : Except Refusal Given :=
  match g.options.find? fun o => o.name == name with
  | some rule =>
    if rule.accepts value && (s.value? name).isNone then
      .ok { s with values := s.values ++ [(name, value)] }
    else .error .malformed
  | none => .error .malformed

/-- Looks at the value of the pending option. -/
def settle (g : Grammar) (s : Given) : Except Refusal Given :=
  match s.pending with
  | .nothing => .ok s
  | .awaiting _ => .error .malformed
  | .holding name value => g.addValue { s with pending := .nothing } name value

/-- Adds a flag. -/
def addFlag (g : Grammar) (s : Given) (name : String) : Except Refusal Given := do
  let s ← g.settle s
  if name == "help" then throw .help
  if g.flags.contains name && !s.hasFlag name then return { s with flags := s.flags ++ [name] }
  throw .malformed

/-- Adds an operand, which may stand after `--`. -/
def addOperand (g : Grammar) (s : Given) (afterDashes : Bool) (word : String) :
    Except Refusal Given := do
  let s ← g.settle s
  let fits := match g.operands with
    | .none => false
    | .one => s.operands.isEmpty
    | .afterDashes => afterDashes
  if fits then return { s with operands := s.operands ++ [word] }
  throw .malformed

/-- Reads a word that begins with two dashes, given without these. -/
def addLong (g : Grammar) (s : Given) (word : List Char) : Except Refusal Given := do
  let name := String.ofList (word.takeWhile (· != '='))
  let attached := (word.dropWhile (· != '=')).tail?.map String.ofList
  if g.options.any (·.name == name) then
    let s ← g.settle s
    match attached with
    | some value => g.addValue s name value
    | none => return { s with pending := .awaiting name }
  else if attached.isNone then g.addFlag s name
  else throw .malformed

/-- Reads a word that is neither an option nor a flag. -/
def addPlain (g : Grammar) (s : Given) (word : String) : Except Refusal Given :=
  match s.pending with
  | .awaiting name => .ok { s with pending := .holding name word }
  | _ => g.addOperand s false word

/-- Reads a word before `--`. -/
def addWord (g : Grammar) (s : Given) (word : String) : Except Refusal Given :=
  match word.toList with
  | '-' :: '-' :: rest => g.addLong s rest
  | '-' :: 'h' :: _ => g.addFlag s "help"
  | '-' :: _ :: _ => .error .malformed
  | _ => g.addPlain s word

/-- The word is a command at this place. -/
def isCommand (g : Grammar) (s : Given) (word : String) : Bool :=
  match s.pending with
  | .awaiting _ => false
  | _ => g.commands.contains word

/-- Reads the words after what was read of them already. -/
def readFrom (g : Grammar) (s : Given) : (words : List String) → Except Refusal Given
  | [] => g.settle s
  | word :: rest =>
    if g.isCommand s word then .ok { s with next := some (word, rest) }
    else if word == "--" then do
      g.settle (← rest.foldlM (fun s w => g.addOperand s true w) s)
    else do
      g.readFrom (← g.addWord s word) rest

/-- Reads the words of a command. -/
def read (g : Grammar) (words : List String) : Except Refusal Given :=
  g.readFrom {} words

end Grammar

end BusTrial.CommandLine
