import RepoIdentity.CommandLine.Basic

/-!
# Reading arguments

Arguments are read from left to right, first those of the program and then those
of the command. An argument is accepted only when the next one comes, so that a
switch can wait for its value; after two hyphens alone all arguments are operands.

* `Word` is the form of an argument;
* `Reading` is what has been read at one level, and what waits to be accepted;
* `Invocation.ofArguments` reads a whole command line;
* `Refusal` tells why no command is to be run: the arguments are wrong, or they
  ask for help.
-/

namespace RepoIdentity.CommandLine

/-- What help is asked for. -/
inductive Topic where
  | program
  | command (name : CommandName)
  /-- The word that asks for help. -/
  | help
deriving DecidableEq, Repr

/-- Why no command is to be run. -/
inductive Refusal where
  | unknownArgument
  | unknownCommand
  | missingOperand
  /-- A value that is not accepted, or that is missing. -/
  | invalidValue
  /-- A value after a switch that has none. -/
  | needlessValue
  /-- A switch that may not be repeated is. -/
  | conflict
  | missingCommand
  /-- There is nothing to go by at all. -/
  | nothingGiven
  | help (topic : Topic)
  | version
deriving DecidableEq, Repr

-- ---------------------------------------------------------------------------
-- Words
-- ---------------------------------------------------------------------------

inductive Word where
  /-- Two hyphens. -/
  | escape
  /-- Two hyphens and a name, and what follows an equals sign. -/
  | long (name : Text) (value : Option Text)
  /-- A hyphen and letters. -/
  | cluster (letters : Text)
  /-- Any other text, a lone hyphen among them. -/
  | plain
deriving DecidableEq, Repr

def Word.ofText : Text → Word
  | ['-', '-'] => .escape
  | '-' :: '-' :: s =>
    match Text.cutAt '=' s with
    | some (name, value) => .long name (some value)
    | none => .long s none
  | '-' :: c :: s => .cluster (c :: s)
  | _ => .plain

/-- The word that asks for help in place of a command. -/
def helpWord : Text := "help".toList

/-- Whether a text can stand in place of a command. -/
def isCommandWord (s : Text) : Bool := s == helpWord || (CommandName.ofName? s).isSome

/-- What the words after the one for help ask for. -/
def helpAbout : List Text → Refusal
  | [] => .help .program
  | [s] =>
    if s = helpWord then .help .help
    else
      match CommandName.ofName? s with
      | some c => .help (.command c)
      | none => .unknownCommand
  | _ => .unknownCommand

-- ---------------------------------------------------------------------------
-- Reading one level
-- ---------------------------------------------------------------------------

/-- An argument that has not been accepted yet. -/
inductive Pending where
  | switch (s : Switch) (value : Option Text)
  | operand (text : Text)
deriving DecidableEq, Repr

/-- What has been read at one level. -/
structure Reading where
  /-- Switches with their values, in order; the value of one without is empty. -/
  switches : List (Switch × Text)
  operands : List Text
  pending : Option Pending
  /-- Whether all that follows are operands. -/
  escaped : Bool
deriving DecidableEq, Repr

namespace Reading

def start : Reading := ⟨[], [], none, false⟩

def has (r : Reading) (s : Switch) : Bool := r.switches.any fun (t, _) => t = s

def values (r : Reading) (s : Switch) : List Text :=
  r.switches.filterMap fun (t, value) => if t = s then some value else none

def accept (r : Reading) (s : Switch) (value : Text) : Except Refusal Reading :=
  if !s.repeats && r.has s then .error .conflict
  else if !s.accepts value then .error .invalidValue
  else .ok { r with switches := r.switches ++ [(s, value)] }

def settle (level : Level) (r : Reading) : Except Refusal Reading :=
  match r.pending with
  | none => .ok r
  | some (.switch _ none) => .error .invalidValue
  | some (.switch s (some value)) => { r with pending := none }.accept s value
  | some (.operand text) =>
    if (level.operands[r.operands.length]?).all (·.accepts text) then
      .ok { r with operands := r.operands ++ [text], pending := none }
    else .error .invalidValue

/-- The switch that waits for its value. -/
def awaiting? (r : Reading) : Option Switch :=
  match r.pending with
  | some (.switch s none) => some s
  | _ => none

/-- The number of operands, accepted or not. -/
def operandCount (r : Reading) : Nat :=
  match r.pending with
  | some (.operand _) => r.operands.length + 1
  | _ => r.operands.length

/-- The reading with one more operand, if the level has one more. -/
def addOperand (level : Level) (r : Reading) (text : Text) : Except Refusal Reading :=
  if r.operandCount < level.operands.length then
    (r.settle level).map fun r => { r with pending := some (.operand text) }
  else if level = .program ∧ !(r.escaped && isCommandWord text) then .error .unknownCommand
  else .error .unknownArgument

def addFlag (level : Level) (r : Reading) (s : Switch) : Except Refusal Reading :=
  match r.settle level with
  | .error refusal => .error refusal
  | .ok r =>
    match s, level with
    | .help, .program => .error (.help .program)
    | .help, .command c => .error (.help (.command c))
    | .version, _ => .error .version
    | s, _ => r.accept s []

/-- The reading with a switch that has a value, there or still to come. -/
def addValued (level : Level) (r : Reading) (s : Switch) : Option Text → Except Refusal Reading
  | some value => (r.settle level).bind fun r => r.accept s value
  | none => (r.settle level).map fun r => { r with pending := some (.switch s none) }

def addLong (level : Level) (r : Reading) (name : Text) (value : Option Text) :
    Except Refusal Reading :=
  match level.switches.find? fun s => s.name = name with
  | none => .error .unknownArgument
  | some s =>
    if s.takesValue then r.addValued level s value
    else if value.isSome then .error .needlessValue
    else r.addFlag level s

/-- The reading with switches given by their letters. The letters after one that
takes a value are its value, after an equals sign or without. -/
def addCluster (level : Level) (r : Reading) : Text → Except Refusal Reading
  | [] => .ok r
  | c :: rest =>
    match level.switches.find? fun s => s.letter? = some c with
    | none => .error .unknownArgument
    | some s =>
      if s.takesValue then
        match rest with
        | [] => r.addValued level s none
        | '=' :: value => r.addValued level s (some value)
        | value => r.addValued level s (some value)
      else (r.addFlag level s).bind fun r => r.addCluster level rest

def add (level : Level) (r : Reading) (arg : Text) : Except Refusal Reading :=
  if r.escaped then r.addOperand level arg
  else
    match Word.ofText arg with
    | .escape => .ok { r with escaped := true }
    | .long name value => r.addLong level name value
    | .cluster letters => r.addCluster level letters
    | .plain =>
      match r.awaiting? with
      | some s => .ok { r with pending := some (.switch s (some arg)) }
      | none => r.addOperand level arg

/-- Whether the next argument may be a command. -/
def expectsCommand (r : Reading) : Bool := !r.escaped && r.awaiting?.isNone

/-- Reads the arguments before a command; gives the command with what follows it,
if there is one. -/
def beforeCommand (r : Reading) :
    List Text → Except Refusal (Reading × Option (CommandName × List Text))
  | [] => .ok (r, none)
  | arg :: args =>
    if r.expectsCommand && arg == helpWord then .error (helpAbout args)
    else
      match if r.expectsCommand then CommandName.ofName? arg else none with
      | some c => .ok (r, some (c, args))
      | none => (r.add .program arg).bind fun r => r.beforeCommand args

def addAll (level : Level) (r : Reading) : List Text → Except Refusal Reading
  | [] => r.settle level
  | arg :: args => (r.add level arg).bind fun r => r.addAll level args

end Reading

-- ---------------------------------------------------------------------------
-- Invocations
-- ---------------------------------------------------------------------------

structure Invocation where
  strict : Bool
  debug : Bool
  quiet : Bool
  config : Option Text
  command : Command
deriving DecidableEq, Repr

def Command.ofReading (r : Reading) : CommandName → Except Refusal Command
  | .parse =>
    match r.operands with
    | [input] => .ok (.parse input (r.values .metadata) (r.has .validate) (r.has .json))
    | _ => .error .missingOperand
  | .describe =>
    match r.operands with
    | [path] => .ok (.describe path (r.values .metadata) (r.has .json))
    | _ => .error .missingOperand
  | .validate =>
    match r.operands with
    | [input] => .ok (.validate input)
    | _ => .error .missingOperand
  | .compare =>
    match r.operands with
    | [first, second] =>
      .ok (.compare first second (r.values .metadataFirst) (r.values .metadataSecond))
    | _ => .error .missingOperand
  | .completion =>
    match r.operands with
    | [text] =>
      match Shell.ofName? text with
      | some shell => .ok (.completion shell)
      | none => .error .invalidValue
    | _ => .error .missingOperand

/-- The command and the switches given before and after its name. Of two values
for one switch the one after the name counts. -/
def Invocation.ofReadings (before after : Reading) (command : Command) : Invocation where
  strict := before.has .strict || after.has .strict
  debug := before.has .debug || after.has .debug
  quiet := before.has .quiet || after.has .quiet
  config := (after.values .config).head? <|> (before.values .config).head?
  command := command

/-- Reads a command line, without the name of the program. What stands before the
command is accepted last. -/
def Invocation.ofArguments (args : List Text) : Except Refusal Invocation :=
  match Reading.start.beforeCommand args with
  | .error refusal => .error refusal
  | .ok (before, none) =>
    match before.settle .program with
    | .error refusal => .error refusal
    | .ok before => .error (if before.switches.isEmpty then .nothingGiven else .missingCommand)
  | .ok (before, some (name, rest)) =>
    match Reading.start.addAll (.command name) rest with
    | .error refusal => .error refusal
    | .ok after =>
      match Command.ofReading after name with
      | .error refusal => .error refusal
      | .ok command =>
        (before.settle .program).map fun before => Invocation.ofReadings before after command

end RepoIdentity.CommandLine
