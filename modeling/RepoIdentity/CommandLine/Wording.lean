import RepoIdentity.CommandLine.Arguments

/-!
# Texts from outside

Some texts that the program writes are not its own. The help on a topic, what is said
of arguments that are refused and the scripts for shells are made by whatever reads the
command line, and what is wrong with a text that is no document of TOML is told by
whatever reads documents. A `Wording` is a choice of all these texts. Runs take one as
a parameter, so what is proved of runs holds whatever the texts are.

* `Wording` is a choice of texts;
* `versionText` is the one text of this kind that is always the same;
* `Wording.builtIn` is a choice that can be run, made from the lists of commands and
  switches: help tells what a command is for, how it is written, and its operands and
  switches in tables; the scripts teach a shell to complete commands and switches.
-/

namespace RepoIdentity

/-- A choice of the texts that the program does not word itself. -/
structure Wording where
  /-- The help on a topic. -/
  help : CommandLine.Topic → Text
  /-- What is said of the arguments that are refused. -/
  refusal : List Text → CommandLine.Refusal → Text
  /-- The completion script for a shell. -/
  script : CommandLine.Shell → Text
  /-- What is wrong with a text that is no document of TOML. -/
  syntaxFault : Text → Text

end RepoIdentity

namespace RepoIdentity.CommandLine

-- ---------------------------------------------------------------------------
-- Tables
-- ---------------------------------------------------------------------------

/-- Rows of two columns, the first as wide as its widest cell. -/
def table (rows : List (Text × Text)) : List Text :=
  let width := (rows.map fun (left, _) => left.length).foldl max 0
  rows.map fun (left, right) =>
    "  ".toList ++ left ++ List.replicate (width - left.length + 2) ' ' ++ right

/-- A title with rows under it, after an empty line; nothing if there are no rows. -/
def tableUnder (title : String) (rows : List (Text × Text)) : List Text :=
  if rows.isEmpty then [] else [[], title.toList] ++ table rows

/-- How a switch is written. -/
def Switch.usage (s : Switch) : Text :=
  (match s.letter? with
    | some c => ['-', c, ',', ' ']
    | none => "    ".toList)
    ++ "--".toList ++ s.name
    ++ (match s.valueName? with
        | some value => " <".toList ++ value ++ ">".toList
        | none => [])

/-- How an operand is written. -/
def Operand.usage (o : Operand) : Text := '<' :: o.name ++ ['>']

-- ---------------------------------------------------------------------------
-- Topics
-- ---------------------------------------------------------------------------

/-- What the word for help does. -/
def helpAboutHelp : Text := "Print this message or the help of the given subcommand(s)".toList

/-- Two lists in turns; of two switches in the same place the first by name goes
first. -/
def inTurns : List Switch → List Switch → List Switch
  | a :: as, b :: bs => (if a.name < b.name then [a, b] else [b, a]) ++ inTurns as bs
  | as, [] => as
  | [], bs => bs

/-- The switches of a level in the order in which help lists them: its own in turns
with the common ones, and last the ones that only inform. -/
def Level.listed : Level → List Switch
  | .program => Switch.common ++ [.help, .version]
  | .command c => inTurns c.ownSwitches Switch.common ++ [.help]

/-- The table of the switches of a level. -/
def Level.switchTable (level : Level) : List Text :=
  tableUnder "Options:" (level.listed.map fun s => (s.usage, s.about))

/-- Lines of examples after the help on a command. -/
def CommandName.examples : CommandName → List Text
  | .parse =>
    [[], "EXAMPLES:".toList,
      "    repo-ref parse ossf/scorecard".toList,
      "    repo-ref parse github.com/ossf/scorecard --json".toList,
      "    repo-ref --strict parse file:///src/checkout".toList]
  | _ => []

/-- How the arguments of a topic are written. -/
def Topic.usage : Topic → Text
  | .program => programName ++ " [OPTIONS] <COMMAND>".toList
  | .command c =>
    Text.join [' '] ([programName, c.name, "[OPTIONS]".toList] ++ c.operands.map Operand.usage)
  | .help => programName ++ " help [COMMAND]...".toList

/-- The lines of help on a topic. -/
def Topic.lines (topic : Topic) : List Text :=
  let usage := "Usage: ".toList ++ topic.usage
  match topic with
  | .program =>
    [programAbout, [], usage]
      ++ tableUnder "Commands:"
        (CommandName.all.map (fun c => (c.name, c.about)) ++ [(helpWord, helpAboutHelp)])
      ++ Level.program.switchTable
  | .command c =>
    [c.about, [], usage]
      ++ tableUnder "Arguments:" (c.operands.map fun o => (o.usage, o.about))
      ++ (Level.command c).switchTable ++ c.examples
  | .help =>
    [helpAboutHelp, [], usage]
      ++ tableUnder "Arguments:"
        [("[COMMAND]...".toList, "Print help for the subcommand(s)".toList)]

/-- Lines as a text, each ended by a line feed. -/
def textOfLines (lines : List Text) : Text := lines.flatMap fun line => line ++ ['\n']

/-- The text of help on a topic. -/
def Topic.text (topic : Topic) : Text := textOfLines topic.lines

/-- The text that tells the version. -/
def versionText : Text := programName ++ ' ' :: programVersion ++ ['\n']

-- ---------------------------------------------------------------------------
-- Refusals
-- ---------------------------------------------------------------------------

/-- Why the arguments are refused, in a few words. -/
def Refusal.reason : Refusal → Text
  | .unknownArgument => "unexpected argument found".toList
  | .unknownCommand => "unrecognized subcommand".toList
  | .missingOperand => "the required arguments were not provided".toList
  | .invalidValue => "invalid value for an argument".toList
  | .needlessValue => "unexpected value for an argument".toList
  | .conflict => "an argument cannot be used multiple times".toList
  | .missingCommand => "a subcommand is required but none was provided".toList
  | .nothingGiven => "no arguments were provided".toList
  | .help _ => "help is asked for".toList
  | .version => "the version is asked for".toList

/-- What is said of arguments that are refused. -/
def Refusal.text (r : Refusal) : Text :=
  if r = .nothingGiven then Topic.text .program
  else
    textOfLines
      ["error: ".toList ++ r.reason, [], "Usage: ".toList ++ Topic.usage .program, [],
        "For more information, try '--help'.".toList]

-- ---------------------------------------------------------------------------
-- What is completed
-- ---------------------------------------------------------------------------

/-- A switch as it is written, with two hyphens and with one. -/
def Switch.spellings (s : Switch) : List Text :=
  ("--".toList ++ s.name)
    :: (match s.letter? with
        | some c => [['-', c]]
        | none => [])

/-- The words that may follow the program's name, or a command's, with what they do. -/
def Level.words (level : Level) : List (Text × Text) :=
  level.switches.flatMap (fun s => s.spellings.map (·, s.about))
    ++ (match level with
        | .program =>
          CommandName.all.map (fun c => (c.name, c.about)) ++ [(helpWord, helpAboutHelp)]
        | .command .completion => Shell.all.map fun shell => (shell.name, Operand.shell.about)
        | .command _ => [])

/-- All commands as levels, each with its name. -/
def commandLevels : List (Text × Level) := CommandName.all.map fun c => (c.name, .command c)

/-- All levels, each with the pattern that a script tells it by: the name of its
command, or `otherwise` for the program. -/
def casesOf (otherwise : Text) : List (Text × Level) :=
  commandLevels ++ [(otherwise, Level.program)]

/-- A text between single quotes. -/
def singleQuoted (s : Text) : Text := '\'' :: s ++ ['\'']

-- ---------------------------------------------------------------------------
-- One script for each shell
-- ---------------------------------------------------------------------------

/-- The words of a level with spaces between them. -/
def Level.wordList (level : Level) : Text := Text.join [' '] (level.words.map Prod.fst)

/-- The script for bash. -/
def bashScript : List Text :=
  ["_repo-ref() \x7b".toList,
    "    local word current command words".toList,
    "    current=\"$\x7bCOMP_WORDS[COMP_CWORD]\x7d\"".toList,
    "    command=\"\"".toList,
    "    for word in \"$\x7bCOMP_WORDS[@]:1:COMP_CWORD-1\x7d\"; do".toList,
    "        case \"$word\" in".toList,
    "            ".toList ++ Text.join ['|'] (CommandName.all.map CommandName.name)
      ++ ") command=\"$word\"; break ;;".toList,
    "        esac".toList,
    "    done".toList,
    "    case \"$command\" in".toList]
    ++ (casesOf ['*']).map (fun (pattern, level) =>
        "        ".toList ++ pattern ++ ") words=\"".toList ++ level.wordList ++ "\" ;;".toList)
    ++ ["    esac".toList,
      "    COMPREPLY=( $(compgen -W \"$words\" -- \"$current\") )".toList,
      "\x7d".toList,
      [],
      "complete -F _repo-ref -o bashdefault -o default repo-ref".toList]

/-- A word with what it does, as zsh takes it. -/
def zshEntry (word : Text × Text) : Text :=
  "            ".toList ++ singleQuoted (word.1 ++ ':' :: word.2)

/-- The script for zsh. -/
def zshScript : List Text :=
  ["#compdef repo-ref".toList,
    [],
    "_repo-ref() \x7b".toList,
    "    local word command".toList,
    "    local -a entries".toList,
    "    for word in \"$\x7bwords[@]:1:CURRENT-2\x7d\"; do".toList,
    "        case \"$word\" in".toList,
    "            ".toList ++ Text.join ['|'] (CommandName.all.map CommandName.name)
      ++ ") command=\"$word\"; break ;;".toList,
    "        esac".toList,
    "    done".toList,
    "    case \"$command\" in".toList]
    ++ (casesOf ['*']).flatMap (fun (pattern, level) =>
        ["        ".toList ++ pattern ++ ") entries=(".toList] ++ level.words.map zshEntry
          ++ ["        ) ;;".toList])
    ++ ["    esac".toList,
      "    _describe 'repo-ref' entries || _files".toList,
      "\x7d".toList,
      [],
      "compdef _repo-ref repo-ref".toList]

/-- The line for a switch under a condition, as fish takes it. -/
def fishSwitch (condition : Text) (s : Switch) : Text :=
  "complete -c repo-ref -n ".toList ++ singleQuoted condition
    ++ (match s.letter? with
        | some c => [' ', '-', 's', ' ', c]
        | none => [])
    ++ " -l ".toList ++ s.name ++ " -d ".toList ++ singleQuoted s.about
    ++ (if s.takesValue then " -r".toList else [])

/-- The line for a plain word under a condition, as fish takes it. -/
def fishWord (condition : Text) (word : Text × Text) : Text :=
  "complete -c repo-ref -n ".toList ++ singleQuoted condition ++ " -f -a ".toList
    ++ singleQuoted word.1 ++ " -d ".toList ++ singleQuoted word.2

/-- The script for fish. -/
def fishScript : List Text :=
  let before := "__fish_use_subcommand".toList
  let after (name : Text) := "__fish_seen_subcommand_from ".toList ++ name
  Level.program.switches.map (fishSwitch before)
    ++ CommandName.all.map (fun c => fishWord before (c.name, c.about))
    ++ [fishWord before (helpWord, helpAboutHelp)]
    ++ commandLevels.flatMap (fun (name, level) => level.switches.map (fishSwitch (after name)))
    ++ Shell.all.map fun shell =>
      fishWord (after CommandName.completion.name) (shell.name, Operand.shell.about)

/-- A word with what it does, as PowerShell takes it. -/
def powerShellEntry (word : Text × Text) : Text :=
  "            [CompletionResult]::new(".toList ++ singleQuoted word.1 ++ ", ".toList
    ++ singleQuoted word.1 ++ ", [CompletionResultType]::ParameterValue, ".toList
    ++ singleQuoted word.2 ++ [')']

/-- The script for PowerShell. -/
def powerShellScript : List Text :=
  ["using namespace System.Management.Automation".toList,
    "using namespace System.Management.Automation.Language".toList,
    [],
    "Register-ArgumentCompleter -Native -CommandName 'repo-ref' -ScriptBlock \x7b".toList,
    "    param($wordToComplete, $commandAst, $cursorPosition)".toList,
    "    $command = $commandAst.CommandElements | ForEach-Object \x7b \"$_\" \x7d |".toList,
    "        Where-Object \x7b $_ -in ".toList
      ++ Text.join [','] (CommandName.all.map fun c => singleQuoted c.name)
      ++ " \x7d | Select-Object -First 1".toList,
    "    $completions = @(switch (\"$command\") \x7b".toList]
    ++ (casesOf "default".toList).flatMap (fun (pattern, level) =>
        ["        ".toList ++ pattern ++ " \x7b".toList] ++ level.words.map powerShellEntry
          ++ ["        \x7d".toList])
    ++ ["    \x7d)".toList,
      "    $completions.Where\x7b $_.CompletionText -like \"$wordToComplete*\" \x7d".toList,
      "\x7d".toList]

/-- The completion script for a shell. -/
def Shell.script : Shell → Text
  | .bash => textOfLines bashScript
  | .zsh => textOfLines zshScript
  | .fish => textOfLines fishScript
  | .powerShell => textOfLines powerShellScript

end RepoIdentity.CommandLine

namespace RepoIdentity

/-- Texts made from the lists of commands and switches. A refusal names no argument, and
a fault of a document no place. -/
def Wording.builtIn : Wording where
  help := CommandLine.Topic.text
  refusal _ refusal := refusal.text
  script := CommandLine.Shell.script
  syntaxFault _ := "TOML parse error".toList

end RepoIdentity
