import RepoIdentity.CommandLine.Wording
import RepoIdentity.Configuration
import RepoIdentity.Reference.Forms

/-!
# The program

What a run of the program does, as a function of its arguments, its environment and a
file system. A run writes lines to two streams, one after the other as it goes on, and
ends well or with a failure. What was written before a failure stays written, and each
line is written or left out where it comes up, by the verbosity of the run.

* `Action` is a piece of a run: what it writes, in order, and how it ends;
* `Verbosity.print`, `Verbosity.note` and `Verbosity.warn` write a line if the
  verbosity lets them;
* `Context.execute` is a command, `Invocation.execute` all that follows the reading of
  the arguments;
* `transcript` is a whole run with the report of its failure, and `run` is what the run
  leaves in the two streams.
-/

namespace RepoIdentity

open CommandLine (Command Invocation Refusal)

-- ---------------------------------------------------------------------------
-- Failures
-- ---------------------------------------------------------------------------

inductive Ordinal where
  | first
  | second
deriving DecidableEq, Repr

def Ordinal.word : Ordinal → Text
  | .first => "first".toList
  | .second => "second".toList

/-- Why a run fails that got as far as a command. -/
inductive Failure where
  | configuration (fault : LoadFault)
  | reference (fault : Fault)
  /-- One of two references, given as `input`, is at fault. -/
  | compared (ordinal : Ordinal) (input : Text) (fault : Fault)
deriving DecidableEq, Repr

/-- The wording of a failure. A file that cannot be read has its cause named once
more at the end. -/
def Failure.message (w : Wording) : Failure → Text
  | .configuration fault =>
    "Failed to load config: ".toList ++ fault.message w.syntaxFault
      ++ (match fault with
          | .unreadable _ cause => ": ".toList ++ cause.message
          | _ => [])
  | .reference fault => fault.message
  | .compared ordinal input fault =>
    ordinal.word ++ " reference '".toList ++ input ++ "': ".toList ++ fault.message

-- ---------------------------------------------------------------------------
-- Actions
-- ---------------------------------------------------------------------------

/-- The two places that a run writes to. -/
inductive Stream where
  | output
  | errors
deriving DecidableEq, Repr

/-- A text that was written to a stream. -/
structure Write where
  stream : Stream
  text : Text
deriving DecidableEq, Repr

/-- What a piece of a run comes to: what it wrote, in order, and how it ended. -/
structure Action (α : Type) where
  writes : List Write
  result : Except Failure α

namespace Action

/-- One action and then, if that ended well, another. -/
instance : Monad Action where
  pure a := ⟨[], .ok a⟩
  bind x f :=
    match x.result with
    | .ok a => ⟨x.writes ++ (f a).writes, (f a).result⟩
    | .error failure => ⟨x.writes, .error failure⟩

/-- The result of what writes nothing, with a fault turned into a failure. -/
def ofExcept {ε α : Type} (failure : ε → Failure) (result : Except ε α) : Action α :=
  ⟨[], result.mapError failure⟩

/-- Writes a text to a stream. -/
def write (stream : Stream) (text : Text) : Action Unit := ⟨[⟨stream, text⟩], .ok ()⟩

end Action

-- ---------------------------------------------------------------------------
-- Verbosity
-- ---------------------------------------------------------------------------

/-- How much a run says. -/
inductive Verbosity where
  /-- Only failures and machine-readable results. -/
  | quiet
  | normal
  /-- All there is to say. -/
  | debug
deriving DecidableEq, Repr

namespace Verbosity

/-- The verbosity that two flags ask for; being quiet goes first. -/
def ofFlags (quiet debug : Bool) : Verbosity :=
  if quiet then .quiet else if debug then .debug else .normal

/-- Writes a message for the reader, unless the run is quiet. -/
def print (v : Verbosity) (message : Text) : Action Unit :=
  if v = .quiet then pure () else .write .output (message ++ ['\n'])

/-- Writes what the program is about, if all is to be said. -/
def note (v : Verbosity) (message : Text) : Action Unit :=
  if v = .debug then .write .errors ("[debug] ".toList ++ message ++ ['\n']) else pure ()

/-- Writes a warning, unless the run is quiet. -/
def warn (v : Verbosity) (message : Text) : Action Unit :=
  if v = .quiet then pure () else .write .errors ("warning: ".toList ++ message ++ ['\n'])

end Verbosity

-- ---------------------------------------------------------------------------
-- Commands
-- ---------------------------------------------------------------------------

/-- What all commands share. -/
structure Context where
  mode : Mode
  verbosity : Verbosity
  configuration : Configuration
deriving DecidableEq, Repr

def CommandLine.Invocation.verbosity (inv : Invocation) : Verbosity :=
  .ofFlags inv.quiet inv.debug

namespace Context

/-- The context of a run. The grammar is the strict one if the arguments ask for it, or
else the one that the configuration asks for. -/
def ofInvocation (inv : Invocation) (configuration : Configuration) : Context :=
  ⟨if inv.strict then .strict else configuration.mode, inv.verbosity, configuration⟩

/-- A reference with the tags of the configuration and then those given. -/
def tagged (c : Context) (r : Reference) (tags : List Text) : Reference :=
  (r.appendMetadata c.configuration.metadata).appendMetadata tags

/-- Writes a reference, as a document that every run shows or as lines for a reader. -/
def emit (c : Context) (r : Reference) (json : Bool) : Action Unit :=
  if json then .write .output (r.toJson.print ++ ['\n']) else c.verbosity.print r.describe

/-- Whether a parsed reference is to be validated: if that is asked for, or if the
configuration asks for it and the repository is hosted. -/
def validates (c : Context) (asked : Bool) (r : Reference) : Bool :=
  asked || (c.configuration.validate && r.kind == .url)

/-- Validates a parsed reference where that is asked for. -/
def check (c : Context) (asked : Bool) (r : Reference) : Action Unit :=
  if c.validates asked r then .ofExcept .reference r.validate else pure ()

def parse (c : Context) (input : Text) (tags : List Text) (validate json : Bool) :
    Action Unit := do
  let r ← Action.ofExcept .reference (Reference.parse input c.mode)
  c.verbosity.note ("parsed '".toList ++ input ++ "' as ".toList ++ r.kind.name
    ++ " reference".toList)
  c.check validate r
  c.emit (c.tagged r tags) json

/-- Warns of a path where nothing stands. -/
def warnOfAbsence (c : Context) (fs : FileSystem) (path : Text) : Action Unit :=
  if fs.holds path then pure ()
  else c.verbosity.warn (['\''] ++ path ++ "' does not exist".toList)

/-- Describes a directory, which need not be there. -/
def describe (c : Context) (fs : FileSystem) (path : Text) (tags : List Text) (json : Bool) :
    Action Unit := do
  c.warnOfAbsence fs path
  c.emit (c.tagged (Reference.ofDirectory path) tags) json

def validate (c : Context) (input : Text) : Action Unit := do
  let r ← Action.ofExcept .reference (Reference.parse input c.mode)
  Action.ofExcept .reference r.validate
  match r.canonicalUrl? with
  | some url => c.verbosity.print ("ok: ".toList ++ url)
  | none => pure ()

/-- The word for the sameness of two references. -/
def verdict (same : Bool) : Text := if same then "equal".toList else "different".toList

/-- Compares two references, each with its own tags. -/
def compare (c : Context) (first second : Text) (tagsFirst tagsSecond : List Text) :
    Action Unit := do
  let a ← Action.ofExcept (.compared .first first) (Reference.parse first c.mode)
  let b ← Action.ofExcept (.compared .second second) (Reference.parse second c.mode)
  c.verbosity.note ("comparing ".toList ++ a.displayKey ++ " with ".toList ++ b.displayKey)
  c.verbosity.print (verdict ((c.tagged a tagsFirst).sameAs (c.tagged b tagsSecond)))

/-- Tells where the configuration comes from, and which grammar is used. -/
def announce (c : Context) : Action Unit := do
  c.verbosity.note ("config: ".toList ++ c.configuration.loadedFrom.getD "defaults".toList)
  c.verbosity.note ("parse mode: ".toList ++ c.mode.name)

/-- Runs a command. -/
def execute (w : Wording) (fs : FileSystem) (c : Context) : Command → Action Unit
  | .parse input tags validate json => c.parse input tags validate json
  | .describe path tags json => c.describe fs path tags json
  | .validate input => c.validate input
  | .compare first second tagsFirst tagsSecond => c.compare first second tagsFirst tagsSecond
  | .completion shell => .write .output (w.script shell)

end Context

-- ---------------------------------------------------------------------------
-- Runs
-- ---------------------------------------------------------------------------

/-- Loads the configuration, tells what it is, and runs the command. -/
def CommandLine.Invocation.execute (w : Wording) (inv : Invocation) (env : Environment)
    (fs : FileSystem) : Action Unit := do
  let configuration ← Action.ofExcept .configuration (Configuration.load inv.config env fs)
  let c := Context.ofInvocation inv configuration
  c.announce
  c.execute w fs inv.command

/-- All that a run wrote, in order, and its exit code. -/
structure Transcript where
  writes : List Write
  exitCode : Nat
deriving DecidableEq, Repr

/-- The report of a failure, which every run writes. -/
def Failure.report (w : Wording) (failure : Failure) : Write :=
  ⟨.errors, "error: ".toList ++ failure.message w ++ ['\n']⟩

/-- The transcript of an action that is all of a run. -/
def Action.transcript (w : Wording) (x : Action Unit) : Transcript :=
  match x.result with
  | .ok () => ⟨x.writes, 0⟩
  | .error failure => ⟨x.writes ++ [failure.report w], 1⟩

/-- What is answered when no command is to be run. -/
def CommandLine.Refusal.transcript (w : Wording) (args : List Text) : Refusal → Transcript
  | .help topic => ⟨[⟨.output, w.help topic⟩], 0⟩
  | .version => ⟨[⟨.output, CommandLine.versionText⟩], 0⟩
  | refusal => ⟨[⟨.errors, w.refusal args refusal⟩], 2⟩

/-- A whole run of the program. -/
def transcript (w : Wording) (args : List Text) (env : Environment) (fs : FileSystem) :
    Transcript :=
  match Invocation.ofArguments args with
  | .error refusal => refusal.transcript w args
  | .ok inv => (inv.execute w env fs).transcript w

/-- The exit code and the two streams that a run leaves behind. -/
structure Outcome where
  exitCode : Nat
  stdout : Text
  stderr : Text
deriving DecidableEq, Repr

/-- All that was written to a stream. -/
def textOn (stream : Stream) (writes : List Write) : Text :=
  (writes.filter fun x => x.stream = stream).flatMap Write.text

def Transcript.outcome (t : Transcript) : Outcome :=
  ⟨t.exitCode, textOn .output t.writes, textOn .errors t.writes⟩

/-- Runs the program. -/
def run (w : Wording) (args : List Text) (env : Environment) (fs : FileSystem) : Outcome :=
  (transcript w args env fs).outcome

end RepoIdentity
