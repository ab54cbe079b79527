import Mathlib.Data.List.Find
import RepoIdentity.Proofs.AbsentFlags
import RepoIdentity.Proofs.Loading
import RepoIdentity.Proofs.Output

/-!
# Who asks for the strict grammar

The arguments, the environment and the configuration file can each ask for the strict
grammar, and none of them can take that back. A command sees the grammar that comes of
it and not who asked: two contexts that differ in that alone write the same, down to the
notes, and end alike.

* `Context.Alike`, `Context.Alike.execute` — contexts that no command tells apart;
* `Configuration.load_of_variable`, `Configuration.load_of_settings` — what the
  environment, or another file in the same place, does to a configuration;
* `StrictnessLaws`, `strictnessLaws` — the three ways to ask come to the same run.
-/

namespace RepoIdentity

open CommandLine (Command Invocation Switch)

-- ---------------------------------------------------------------------------
-- Contexts
-- ---------------------------------------------------------------------------

/-- The paths that a command looks at, besides those of configuration files. -/
def CommandLine.Command.paths : Command → List Text
  | .describe path _ _ => [path]
  | _ => []

namespace Context

/-- Two contexts with the same grammar, whoever asked for it, and the same of all else
that a command looks at. -/
structure Alike (a b : Context) : Prop where
  mode : a.mode = b.mode
  verbosity : a.verbosity = b.verbosity
  validate : a.configuration.validate = b.configuration.validate
  metadata : a.configuration.metadata = b.configuration.metadata
  loadedFrom : a.configuration.loadedFrom = b.configuration.loadedFrom

namespace Alike

variable {a b : Context}

theorem tagged (h : Alike a b) (r : Reference) (tags : List Text) :
    a.tagged r tags = b.tagged r tags := by
  rw [Context.tagged, Context.tagged, h.metadata]

theorem emit (h : Alike a b) (r : Reference) (json : Bool) : a.emit r json = b.emit r json := by
  rw [Context.emit, Context.emit, h.verbosity]

theorem check (h : Alike a b) (asked : Bool) (r : Reference) :
    a.check asked r = b.check asked r := by
  rw [Context.check, Context.check, Context.validates, Context.validates, h.validate]

theorem warnOfAbsence (h : Alike a b) {fs fs' : FileSystem} {path : Text}
    (hfs : fs.holds path = fs'.holds path) : a.warnOfAbsence fs path = b.warnOfAbsence fs' path := by
  rw [Context.warnOfAbsence, Context.warnOfAbsence, h.verbosity, hfs]

theorem announce (h : Alike a b) : a.announce = b.announce := by
  rw [Context.announce, Context.announce, h.verbosity, h.mode, h.loadedFrom]

/-- Contexts that are alike come to the same. Of the files a command sees no more than
whether something stands at a path that it was given. -/
theorem execute (h : Alike a b) {fs fs' : FileSystem} {command : Command}
    (hfs : ∀ path ∈ command.paths, fs.holds path = fs'.holds path) (w : Wording) :
    a.execute w fs command = b.execute w fs' command := by
  cases command with
  | parse input tags validate json =>
    show a.parse input tags validate json = b.parse input tags validate json
    simp only [Context.parse, h.mode, h.verbosity, h.check, h.tagged, h.emit]
  | describe path tags json =>
    have hpath : fs.holds path = fs'.holds path := hfs path (List.mem_singleton_self path)
    show a.describe fs path tags json = b.describe fs' path tags json
    rw [Context.describe, Context.describe, h.warnOfAbsence hpath, h.tagged, h.emit]
  | validate input =>
    show a.validate input = b.validate input
    rw [Context.validate, Context.validate, h.mode, h.verbosity]
  | compare first second tagsFirst tagsSecond =>
    show a.compare first second tagsFirst tagsSecond = b.compare first second tagsFirst tagsSecond
    simp only [Context.compare, h.mode, h.verbosity, h.tagged]
  | completion shell => rfl

end Alike

end Context

-- ---------------------------------------------------------------------------
-- Configurations
-- ---------------------------------------------------------------------------

namespace Configuration

/-- The file is chosen by what stands where, and by nothing else. -/
theorem choose_eq_of_holds_eq {env : Environment} {fs fs' : FileSystem}
    (hfs : ∀ path ∈ candidates env, fs'.holds path = fs.holds path) (explicit : Option Text) :
    choose explicit env fs' = choose explicit env fs := by
  cases explicit with
  | some path => rfl
  | none =>
    show (candidates env).find? fs'.holds = (candidates env).find? fs.holds
    exact List.find?_congr hfs

/-- The variable that asks for the strict grammar does nothing else. -/
theorem load_of_variable {explicit : Option Text} {env : Environment} {fs : FileSystem}
    {c : Configuration} (h : load explicit env fs = .ok c) (value : Text) :
    load explicit { env with strict := some value } fs =
      .ok { c with strictByEnvironment := true } := by
  have hchoose : choose explicit { env with strict := some value } fs =
      choose explicit env fs := rfl
  rw [load_eq] at h
  rw [load_eq, hchoose]
  cases hsettings : ((choose explicit env fs).map (settingsAt fs)).getD (.ok Settings.empty) with
  | error fault =>
    rw [hsettings] at h
    cases h
  | ok settings =>
    rw [hsettings] at h
    cases h
    rfl

/-- Another document in place of the file that was loaded changes the settings, and
nothing else. -/
theorem load_of_settings {explicit : Option Text} {env : Environment} {fs fs' : FileSystem}
    {c : Configuration} {path source : Text} {settings : Settings}
    (h : load explicit env fs = .ok c) (hpath : c.loadedFrom = some path)
    (hfs : ∀ p ∈ candidates env, fs'.holds p = fs.holds p)
    (hread : readText fs' path = .ok source)
    (hdocument : Settings.ofDocument source = .ok settings)
    (htags : settings.metadata = c.settings.metadata) :
    load explicit env fs' = .ok { c with settings } := by
  obtain ⟨horigin, henv⟩ := origin_of_load h
  have hchoose : choose explicit env fs' = some path := by
    rw [choose_eq_of_holds_eq hfs, ← horigin, hpath]
  have hblank : settings.hasNoBlankTag = true := by
    rw [Settings.hasNoBlankTag, htags]
    exact hasNoBlankTag_of_load h
  have hcheck : settings.check = .ok () := by
    rw [Settings.check, if_pos hblank]
  rw [load_of_choose hchoose, settingsAt_of_settings hread hdocument, hcheck, ← henv, ← hpath]
  rfl

end Configuration

-- ---------------------------------------------------------------------------
-- Runs
-- ---------------------------------------------------------------------------

/-- The outcome of a command under the strict grammar. -/
def CommandLine.Invocation.strictOutcome (w : Wording) (inv : Invocation) (c : Configuration)
    (fs : FileSystem) : Outcome :=
  let context : Context := ⟨.strict, inv.verbosity, c⟩
  ((context.announce >>= fun _ => context.execute w fs inv.command).transcript w).outcome

/-- A run of the same command has that outcome if its context is like the strict one. -/
theorem run_eq_strictOutcome {w : Wording} {args : List Text} {inv inv' : Invocation}
    {env : Environment} {fs fs' : FileSystem} {c c' : Configuration}
    (hargs : Invocation.ofArguments args = .ok inv')
    (hload : Configuration.load inv'.config env fs' = .ok c')
    (hcommand : inv'.command = inv.command)
    (halike : Context.Alike (Context.ofInvocation inv' c') ⟨.strict, inv.verbosity, c⟩)
    (hfs : ∀ path ∈ inv.command.paths, fs'.holds path = fs.holds path) :
    run w args env fs' = inv.strictOutcome w c fs := by
  have hexecute : inv'.execute w env fs' = (Context.ofInvocation inv' c').announce >>= fun _ =>
      (Context.ofInvocation inv' c').execute w fs' inv'.command :=
    Action.ofExcept_bind_of_ok hload
  rw [run_of_ofArguments hargs, hexecute, hcommand, halike.announce]
  simp only [halike.execute hfs]
  rfl

-- ---------------------------------------------------------------------------
-- Laws
-- ---------------------------------------------------------------------------

/-- The ways to ask for the strict grammar, for a command line that does not
(`Invocation.strict_of_not_mem`), and the configuration `c` that is loaded for it.
Whatever the file says, the flag and the variable make the grammar strict. -/
structure StrictnessLaws (w : Wording) (args : List Text) (inv : Invocation) (env : Environment)
    (fs : FileSystem) (c : Configuration) : Prop where
  /-- The flag in front of the arguments makes the run one under the strict grammar. -/
  of_flag : run w ("--strict".toList :: args) env fs = inv.strictOutcome w c fs
  /-- The variable does the same, whatever its value, -/
  of_variable : ∀ value,
    run w args { env with strict := some value } fs = run w ("--strict".toList :: args) env fs
  /-- and so does a file that asks for it and otherwise says what the loaded file says. -/
  of_settings : ∀ path source fs', c.loadedFrom = some path →
    (∀ p ∈ Configuration.candidates env ++ inv.command.paths, fs'.holds p = fs.holds p) →
    Configuration.readText fs' path = .ok source →
    Settings.ofDocument source = .ok { c.settings with strict := some true } →
    run w args env fs' = run w ("--strict".toList :: args) env fs

/-- The flag, the variable and the configuration file come to the same run when they ask for the
strict grammar. -/
theorem strictnessLaws {args : List Text} {inv : Invocation} {env : Environment} {fs : FileSystem}
    {c : Configuration} (hargs : Invocation.ofArguments args = .ok inv) (hnot : inv.strict = false)
    (hload : Configuration.load inv.config env fs = .ok c) (w : Wording) :
    StrictnessLaws w args inv env fs c := by
  -- each of the three runs is the one under the strict grammar
  have hflag : run w ("--strict".toList :: args) env fs = inv.strictOutcome w c fs := by
    have hfront := Invocation.ofArguments_cons (s := .strict) (by decide) hargs hnot
    have halike : Context.Alike (Context.ofInvocation (inv.withFlag .strict) c)
        ⟨.strict, inv.verbosity, c⟩ :=
      ⟨rfl, rfl, rfl, rfl, rfl⟩
    exact run_eq_strictOutcome hfront hload rfl halike fun _ _ => rfl
  refine ⟨hflag, ?_, ?_⟩
  · intro value
    have hstrict : (Context.ofInvocation inv { c with strictByEnvironment := true }).mode =
        .strict := by
      rw [Context.ofInvocation, Configuration.mode, hnot]
      rfl
    rw [hflag]
    exact run_eq_strictOutcome hargs (Configuration.load_of_variable hload value) rfl
      ⟨hstrict, rfl, rfl, rfl, rfl⟩ fun _ _ => rfl
  · intro path source fs' hpath hfs hread hdocument
    have hstrict : (Context.ofInvocation inv
        { c with settings := { c.settings with strict := some true } }).mode = .strict := by
      simp [Context.ofInvocation, Configuration.mode]
    have hload' := Configuration.load_of_settings hload hpath
      (fun p hp => hfs p (List.mem_append_left _ hp)) hread hdocument rfl
    rw [hflag]
    exact run_eq_strictOutcome hargs hload' rfl ⟨hstrict, rfl, rfl, rfl, rfl⟩
      fun p hp => hfs p (List.mem_append_right _ hp)

/-- A file that refuses the strict grammar does not cancel an empty variable or the
flag, and one that asks for it does the same. -/
theorem strictnessLaws_of_refusal :
    run .builtIn ["--debug".toList, "parse".toList, "a/b".toList]
        { configPath := some "/c".toList, strict := some [] }
        (Disk.ofFiles ["w".toList] [("/c".toList,
          some (Utf8.encode "strict = false\nmetadata = ['x']".toList))]).fileSystem =
      run .builtIn ["--strict".toList, "--debug".toList, "parse".toList, "a/b".toList]
        { configPath := some "/c".toList }
        (Disk.ofFiles ["w".toList] [("/c".toList,
          some (Utf8.encode "strict = false\nmetadata = ['x']".toList))]).fileSystem ∧
    run .builtIn ["--debug".toList, "parse".toList, "a/b".toList]
        { configPath := some "/c".toList }
        (Disk.ofFiles ["w".toList] [("/c".toList,
          some (Utf8.encode "metadata = ['x']\nstrict = true".toList))]).fileSystem =
      run .builtIn ["--strict".toList, "--debug".toList, "parse".toList, "a/b".toList]
        { configPath := some "/c".toList }
        (Disk.ofFiles ["w".toList] [("/c".toList,
          some (Utf8.encode "strict = false\nmetadata = ['x']".toList))]).fileSystem ∧
    (run .builtIn ["--strict".toList, "--debug".toList, "parse".toList, "a/b".toList]
        { configPath := some "/c".toList }
        (Disk.ofFiles ["w".toList] [("/c".toList,
          some (Utf8.encode "strict = false\nmetadata = ['x']".toList))]).fileSystem).exitCode =
      1 := by
  have hargs : Invocation.ofArguments ["--debug".toList, "parse".toList, "a/b".toList] =
      .ok ⟨false, true, false, none, .parse "a/b".toList [] false false⟩ := rfl
  have hload : Configuration.load none { configPath := some "/c".toList }
      (Disk.ofFiles ["w".toList] [("/c".toList,
        some (Utf8.encode "strict = false\nmetadata = ['x']".toList))]).fileSystem =
      .ok ⟨⟨some false, none, ["x".toList]⟩, some "/c".toList, false⟩ := by
    decide +kernel
  have hnot := Invocation.strict_of_not_mem hargs (by decide)
  have laws := strictnessLaws hargs hnot hload .builtIn
  have hread : Configuration.readText (Disk.ofFiles ["w".toList] [("/c".toList,
      some (Utf8.encode "metadata = ['x']\nstrict = true".toList))]).fileSystem "/c".toList =
      .ok "metadata = ['x']\nstrict = true".toList := by
    decide +kernel
  have hdocument : Settings.ofDocument "metadata = ['x']\nstrict = true".toList =
      .ok ⟨some true, none, ["x".toList]⟩ := by
    decide +kernel
  refine ⟨laws.of_variable [], laws.of_settings _ _ _ rfl ?_ hread hdocument, ?_⟩
  · decide +kernel
  · rw [laws.of_flag]
    decide +kernel

end RepoIdentity
