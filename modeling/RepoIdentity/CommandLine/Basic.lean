import RepoIdentity.Text.Basic

/-!
# Commands and switches

What the command line of the program offers: five commands, the switches that
each understands, and the operands that each needs.

* `Switch` is a word that begins with a hyphen, with or without a value;
* `CommandName` is a command by name, `Command` one with all that it was given;
* `Level` lists what may stand after the program's name, or after a command's.
-/

namespace RepoIdentity.CommandLine

def programName : Text := "repo-ref".toList

def programVersion : Text := "0.1.0".toList

def programAbout : Text := "Parse, validate and compare repository references".toList

-- ---------------------------------------------------------------------------
-- Switches
-- ---------------------------------------------------------------------------

/-- What an argument that begins with a hyphen can mean. -/
inductive Switch where
  | strict
  | config
  | debug
  | quiet
  | validate
  | json
  | metadata
  /-- A tag for the first of two references. -/
  | metadataFirst
  /-- A tag for the second of two references. -/
  | metadataSecond
  | help
  | version
deriving DecidableEq, Repr

namespace Switch

/-- The name after two hyphens. -/
def name : Switch → Text
  | strict => "strict".toList
  | config => "config".toList
  | debug => "debug".toList
  | quiet => "quiet".toList
  | validate => "validate".toList
  | json => "json".toList
  | metadata => "metadata".toList
  | metadataFirst => "metadata-a".toList
  | metadataSecond => "metadata-b".toList
  | help => "help".toList
  | version => "version".toList

/-- The letter after one hyphen, if there is one. -/
def letter? : Switch → Option Char
  | quiet => some 'q'
  | metadata => some 'm'
  | help => some 'h'
  | version => some 'V'
  | _ => none

/-- What the value of a switch is called; a switch without a value has none. -/
def valueName? : Switch → Option Text
  | config => some "PATH".toList
  | metadata | metadataFirst | metadataSecond => some "TAG".toList
  | _ => none

def takesValue (s : Switch) : Bool := s.valueName?.isSome

/-- Whether a switch may be given more than once. -/
def repeats : Switch → Bool
  | metadata | metadataFirst | metadataSecond => true
  | _ => false

/-- Whether a switch can have the value. -/
def accepts (s : Switch) (value : Text) : Bool := s != config || value != []

def about : Switch → Text
  | strict => "Accept only https:// URLs and file:// paths".toList
  | config => "Config file to use instead of the default search locations".toList
  | debug => "Enable debug logging".toList
  | quiet => "Minimal output".toList
  | validate => "Also check GitHub naming rules".toList
  | json => "Print JSON instead of text".toList
  | metadata => "Attach a metadata tag (repeatable)".toList
  | metadataFirst => "Metadata tag for the first reference (repeatable)".toList
  | metadataSecond => "Metadata tag for the second reference (repeatable)".toList
  | help => "Print help".toList
  | version => "Print version".toList

/-- The switches that may stand before a command or after it. -/
def common : List Switch := [strict, config, debug, quiet]

end Switch

-- ---------------------------------------------------------------------------
-- Shells
-- ---------------------------------------------------------------------------

/-- The shells that completion scripts exist for. -/
inductive Shell where
  | bash
  | zsh
  | fish
  | powerShell
deriving DecidableEq, Repr

def Shell.all : List Shell := [.bash, .zsh, .fish, .powerShell]

def Shell.name : Shell → Text
  | .bash => "bash".toList
  | .zsh => "zsh".toList
  | .fish => "fish".toList
  | .powerShell => "power-shell".toList

def Shell.ofName? (s : Text) : Option Shell := Shell.all.find? fun shell => shell.name = s

-- ---------------------------------------------------------------------------
-- Commands
-- ---------------------------------------------------------------------------

/-- An argument told by its place. -/
inductive Operand where
  | input
  | path
  | first
  | second
  | shell
deriving DecidableEq, Repr

namespace Operand

def name : Operand → Text
  | input => "INPUT".toList
  | path => "PATH".toList
  | first => "FIRST".toList
  | second => "SECOND".toList
  | shell => "SHELL".toList

/-- Whether an operand can be the text. -/
def accepts (o : Operand) (s : Text) : Bool := o != shell || (Shell.ofName? s).isSome

def about : Operand → Text
  | input => "owner/repo, host/owner/repo, or a full URL".toList
  | path => "Directory path, stored as given".toList
  | first => "First reference".toList
  | second => "Second reference".toList
  | shell =>
    "Shell to generate completions for [possible values: ".toList
      ++ Text.join ", ".toList (Shell.all.map Shell.name) ++ "]".toList

end Operand

inductive CommandName where
  | parse
  | describe
  | validate
  | compare
  | completion
deriving DecidableEq, Repr

namespace CommandName

/-- All commands, in the order in which they are listed. -/
def all : List CommandName := [parse, describe, validate, compare, completion]

def name : CommandName → Text
  | parse => "parse".toList
  | describe => "local".toList
  | validate => "validate".toList
  | compare => "compare".toList
  | completion => "completion".toList

def ofName? (s : Text) : Option CommandName := all.find? fun c => c.name = s

def about : CommandName → Text
  | parse => "Parse a repository reference and print its canonical forms".toList
  | describe => "Describe a repository checked out on disk".toList
  | validate => "Parse and check a reference against GitHub naming rules".toList
  | compare => "Report whether two references identify the same repository".toList
  | completion => "Generate shell completion scripts".toList

def ownSwitches : CommandName → List Switch
  | parse => [.metadata, .validate, .json]
  | describe => [.metadata, .json]
  | validate => []
  | compare => [.metadataFirst, .metadataSecond]
  | completion => []

/-- The operands of a command, in order; none may be left out. -/
def operands : CommandName → List Operand
  | parse => [.input]
  | describe => [.path]
  | validate => [.input]
  | compare => [.first, .second]
  | completion => [.shell]

end CommandName

/-- A command with all that it was given. -/
inductive Command where
  | parse (input : Text) (metadata : List Text) (validate json : Bool)
  | describe (path : Text) (metadata : List Text) (json : Bool)
  | validate (input : Text)
  | compare (first second : Text) (metadataFirst metadataSecond : List Text)
  | completion (shell : Shell)
deriving DecidableEq, Repr

-- ---------------------------------------------------------------------------
-- Levels
-- ---------------------------------------------------------------------------

/-- What may stand after the name of the program, or after that of a command. -/
inductive Level where
  | program
  | command (name : CommandName)
deriving DecidableEq, Repr

namespace Level

def switches : Level → List Switch
  | program => Switch.common ++ [.help, .version]
  | command c => c.ownSwitches ++ Switch.common ++ [.help]

/-- The operands of a level. A command stands in place of operands. -/
def operands : Level → List Operand
  | program => []
  | command c => c.operands

end Level

end RepoIdentity.CommandLine
