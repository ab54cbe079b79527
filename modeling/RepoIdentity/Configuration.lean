import RepoIdentity.FileSystem
import RepoIdentity.Grammar
import RepoIdentity.Settings

/-!
# Configuration

The settings in force, and where they come from. A file that is named explicitly
must be there; otherwise the first of the usual places where something stands is
read, and if there is none the settings are empty. A file that is chosen and
cannot be used is a fault, whatever the other places hold.

* `Configuration.searchPaths` lists the usual places;
* `Configuration.load` chooses a file and reads it;
* `Configuration.mode` and its siblings are the settings in force: the
  environment can ask for the strict grammar, and nothing can cancel that.
-/

namespace RepoIdentity

/-- What the library reads of the environment: four variables, which need not be set,
and what the system knows of the user's account. -/
structure Environment where
  /-- `REPO_REF_CONFIG`: the path of a configuration file. -/
  configPath : Option Text := none
  /-- `XDG_CONFIG_HOME`: the directory for configuration files. -/
  configHome : Option Text := none
  /-- `HOME`: the directory of the user. -/
  home : Option Text := none
  /-- `REPO_REF_STRICT`: asks for the strict grammar, whatever its value. -/
  strict : Option Text := none
  /-- The directory of the user's account, if the system knows the account. -/
  accountHome : Option Text := none
deriving DecidableEq, Repr

/-- The directory of the user: that of the variable, or that of the account if the
variable is not set or empty. -/
def Environment.homeDirectory (env : Environment) : Option Text :=
  env.home.filter (· ≠ []) <|> env.accountHome

/-- Why no configuration can be loaded. -/
inductive LoadFault where
  | unreadable (path : Text) (cause : FileFault)
  | undecodable (path : Text) (cause : Settings.DocumentFault)
  /-- A tag is empty or white space alone. -/
  | blankTag
deriving DecidableEq, Repr

/-- The wording of a fault; what is wrong with a text that is no document is told by
`syntaxFault`. -/
def LoadFault.message (syntaxFault : Text → Text) : LoadFault → Text
  | .unreadable path cause =>
    "failed to read config file '".toList ++ path ++ "': ".toList ++ cause.message
  | .undecodable path cause =>
    "failed to parse config file '".toList ++ path ++ "': ".toList ++ cause.message syntaxFault
  | .blankTag => "invalid config value: metadata tags cannot be empty".toList

/-- Refuses settings with a blank tag. -/
def Settings.check (s : Settings) : Except LoadFault Unit :=
  if s.hasNoBlankTag then .ok () else .error .blankTag

structure Configuration where
  settings : Settings
  /-- The path of the file that holds them. -/
  loadedFrom : Option Text
  /-- Whether the environment asks for the strict grammar. -/
  strictByEnvironment : Bool
deriving DecidableEq, Repr

namespace Configuration

-- ---------------------------------------------------------------------------
-- Settings in force
-- ---------------------------------------------------------------------------

def ofSettings (s : Settings) : Configuration := ⟨s, none, false⟩

/-- The grammar that environment and settings ask for. -/
def mode (c : Configuration) : Mode :=
  if c.strictByEnvironment || c.settings.strict.getD false then .strict else .legacy

/-- Whether what was parsed is to be validated. -/
def validate (c : Configuration) : Bool := c.settings.validate.getD false

def metadata (c : Configuration) : List Text := c.settings.metadata

-- ---------------------------------------------------------------------------
-- Loading
-- ---------------------------------------------------------------------------

/-- The usual places of a configuration file, the most specific first. -/
def searchPaths (configPath configHome home : Option Text) : List Text :=
  configPath.toList
    ++ (configHome.map fun base => joinPath base "repo-ref/config.toml".toList).toList
    ++ (home.map fun base => joinPath base ".repo-ref/config.toml".toList).toList

def candidates (env : Environment) : List Text :=
  searchPaths env.configPath env.configHome env.homeDirectory

/-- The path of the file to read, if any. -/
def choose (explicit : Option Text) (env : Environment) (fs : FileSystem) : Option Text :=
  match explicit with
  | some path => some path
  | none => (candidates env).find? fs.holds

def readText (fs : FileSystem) (path : Text) : Except FileFault Text :=
  match fs.read path with
  | .error fault => .error fault
  | .ok bytes => (Utf8.decode bytes).mapError fun _ => .notText

def settingsAt (fs : FileSystem) (path : Text) : Except LoadFault Settings :=
  match readText fs path with
  | .error fault => .error (.unreadable path fault)
  | .ok source =>
    match Settings.ofDocument source with
    | .error fault => .error (.undecodable path fault)
    | .ok settings => settings.check.map fun _ => settings

def load (explicit : Option Text) (env : Environment) (fs : FileSystem) :
    Except LoadFault Configuration :=
  let path := choose explicit env fs
  let settings :=
    match path with
    | some path => settingsAt fs path
    | none => .ok Settings.empty
  settings.map fun settings => ⟨settings, path, env.strict.isSome⟩

end Configuration

end RepoIdentity
