import RepoIdentity.Proofs.ParseCommand

/-!
# Three ways to have a reference checked

The command to validate a reference, the command to parse it with the switch that asks for
the check, and the command to parse it under a configuration that asks for the check come
to the same steps: the configuration is loaded, the text is read and the reference is
checked. They exit alike and report the same failure; what differs is what they write if
all goes well, and what they note when they are to say all there is to say. Only a
configuration cannot ask for a directory to be checked, which would always fail.

* `Outcome.Reports`, `reports_of_fails` — what a run leaves behind that reports a failure,
  the notes aside;
* `run_validate_of_accepts`, `run_parse_of_accepts` — what the two commands leave behind if
  all goes well;
* `Context.parse_asked` — where it makes no difference who asks for the check;
* `ValidateLaws`, `validateLaws` — the runs of the three.
-/

namespace RepoIdentity

open CommandLine (Command Invocation)

-- ---------------------------------------------------------------------------
-- Failures that are reported
-- ---------------------------------------------------------------------------

/-- The run fails and reports that in these words. Before that it may note what it did, if it
is to say all there is to say. -/
structure Outcome.Reports (o : Outcome) (v : Verbosity) (words : Text) : Prop where
  exitCode : o.exitCode = 1
  stdout : o.stdout = []
  stderr : ∃ messages : List Text, o.stderr =
    noteLines v messages ++ ("error: ".toList ++ words ++ ['\n'])
  stderr_of_not_debug : v ≠ .debug → o.stderr = "error: ".toList ++ words ++ ['\n']

/-- A run whose first step to fail is known reports that failure. -/
theorem reports_of_fails {w : Wording} {args : List Text} {inv : Invocation} {env : Environment}
    {fs : FileSystem} {messages : List Text} {failure : Failure}
    (hargs : Invocation.ofArguments args = .ok inv) (h : inv.Fails env fs messages failure) :
    (run w args env fs).Reports inv.verbosity (failure.message w) := by
  rw [run_of_fails hargs h]
  refine ⟨rfl, rfl, ⟨messages, rfl⟩, fun hv => ?_⟩
  rw [noteLines_of_ne inv.verbosity hv]
  rfl

-- ---------------------------------------------------------------------------
-- The steps
-- ---------------------------------------------------------------------------

/-- The same flags of the program with another command. -/
def CommandLine.Invocation.withCommand (inv : Invocation) (command : Command) : Invocation :=
  { inv with command }

section

variable {inv : Invocation} {env : Environment} {fs : FileSystem} {input : Text}

/-- Which steps there are depends on the flags of the program, and not on its command. -/
theorem ParseFails.withCommand {asked : Bool} {failure : Failure}
    (h : ParseFails inv env fs input asked failure) (command : Command) :
    ParseFails (inv.withCommand command) env fs input asked failure := by
  cases h with
  | configuration hload => exact .configuration hload
  | reference hload hparse => exact .reference hload hparse
  | validation hload hparse hasks hcheck => exact .validation hload hparse hasks hcheck

theorem ParseAccepts.withCommand {asked : Bool} {c : Configuration} {r : Reference}
    (h : ParseAccepts inv env fs input asked c r) (command : Command) :
    ParseAccepts (inv.withCommand command) env fs input asked c r :=
  ⟨h.loads, h.parses, h.validates⟩

end

/-- Where the configuration asks for the check, it makes no difference that it is asked for
in the arguments too, but for directories. -/
theorem Context.parse_asked {c : Context} {input : Text}
    (hvalidate : c.configuration.settings.validate = some true)
    (hhosted : ∀ path, Locator.parse input c.mode ≠ .ok (.directory path)) (tags : List Text)
    (json : Bool) : c.parse input tags true json = c.parse input tags false json := by
  cases hparse : Reference.parse input c.mode with
  | error fault => rw [parse_of_fault hparse, parse_of_fault hparse]
  | ok r =>
    obtain ⟨locator, hlocator, rfl⟩ := exists_of_map_eq_ok hparse
    have hkind : (Reference.ofLocator locator).kind = .url := by
      cases locator with
      | directory path => exact absurd hlocator (hhosted path)
      | hosted repository => rfl
    have hasked :
        c.validates true (.ofLocator locator) = c.validates false (.ofLocator locator) := by
      rw [validates, validates, Configuration.validate, hvalidate, hkind]
      rfl
    have hcheck : c.check true (.ofLocator locator) = c.check false (.ofLocator locator) := by
      rw [check, check, hasked]
    refine (Action.ofExcept_bind_of_ok hparse).trans (Eq.trans ?_
      (Action.ofExcept_bind_of_ok hparse).symm)
    rw [hcheck]

-- ---------------------------------------------------------------------------
-- Laws
-- ---------------------------------------------------------------------------

/-- The outcomes of three commands for the same text, with the same flags of the program:
to validate it, to parse it with the check asked for, and to parse it without. -/
structure ValidateLaws (w : Wording) (inv : Invocation) (env : Environment) (fs : FileSystem)
    (input : Text) (validated checked plain : Outcome) : Prop where
  exitCode_eq : validated.exitCode = checked.exitCode
  /-- If they fail they report the first step that did, in the same words. -/
  of_failure : validated.exitCode ≠ 0 → ∃ failure words,
    ParseFails inv env fs input true failure ∧ failure.Says w words ∧
    validated.Reports inv.verbosity words ∧ checked.Reports inv.verbosity words
  /-- If they succeed the URL that is confirmed is the one that is described. -/
  of_success : validated.exitCode = 0 → ∃ c repository,
    Configuration.load inv.config env fs = .ok c ∧
    Locator.parse input (grammarOf inv env c) = .ok (.hosted repository) ∧
    repository.host = "github.com".toList ∧
    (inv.quiet = false →
      validated.stdout = "ok: ".toList ++ repository.canonicalUrl ++ ['\n'] ∧
      checked.stdout = (Reference.mk (.hosted repository) c.settings.metadata).describe ++ ['\n'] ∧
      Reference.fieldLine "url" repository.canonicalUrl ∈
        (Reference.mk (.hosted repository) c.settings.metadata).lines)
  /-- A configuration that asks for the check has the same effect as the switch, -/
  plain_eq : ∀ c, Configuration.load inv.config env fs = .ok c →
    c.settings.validate = some true →
    (∀ path, Locator.parse input (grammarOf inv env c) ≠ .ok (.directory path)) → plain = checked
  /-- but that it lets directories pass. -/
  of_directory : ∀ c path, Configuration.load inv.config env fs = .ok c →
    c.settings.validate = some true →
    Locator.parse input (grammarOf inv env c) = .ok (.directory path) →
      plain.exitCode = 0 ∧
      ParseFails inv env fs input true (.reference (.wrongKind .url .localDirectory)) ∧
      validated.Reports inv.verbosity
        "invalid repository type: expected url, found local directory".toList ∧
      checked.Reports inv.verbosity
        "invalid repository type: expected url, found local directory".toList

section

variable {w : Wording} {inv : Invocation} {input : Text} {args : List Text} {env : Environment}
  {fs : FileSystem} {failure : Failure} {c : Configuration} {r : Reference}

/-- The command to validate reports the first step to fail. -/
theorem reports_validate
    (hargs : Invocation.ofArguments args = .ok (inv.withCommand (.validate input)))
    (h : ParseFails inv env fs input true failure) :
    (run w args env fs).Reports inv.verbosity (failure.message w) := by
  obtain ⟨messages, hfails⟩ := exists_fails_of_validate rfl (h.withCommand (.validate input))
  have hreports := reports_of_fails (w := w) hargs hfails
  exact hreports

/-- The command to parse reports the first step to fail. -/
theorem reports_parse {tags : List Text} {asked json : Bool}
    (hargs : Invocation.ofArguments args = .ok (inv.withCommand (.parse input tags asked json)))
    (h : ParseFails inv env fs input asked failure) :
    (run w args env fs).Reports inv.verbosity (failure.message w) := by
  obtain ⟨messages, hfails⟩ :=
    exists_fails_of_parse rfl (h.withCommand (.parse input tags asked json))
  have hreports := reports_of_fails (w := w) hargs hfails
  exact hreports

/-- A text that stands the check is confirmed by the URL of its repository. -/
theorem run_validate_of_accepts
    (hargs : Invocation.ofArguments args = .ok (inv.withCommand (.validate input)))
    (h : ParseAccepts inv env fs input true c r) :
    ∃ repository, Locator.parse input (grammarOf inv env c) = .ok (.hosted repository) ∧
      r = .ofLocator (.hosted repository) ∧ repository.host = "github.com".toList ∧
      (run w args env fs).exitCode = 0 ∧ (run w args env fs).stdout =
        if inv.quiet then [] else "ok: ".toList ++ repository.canonicalUrl ++ ['\n'] := by
  obtain ⟨repository, hlocator, hr, hhost, hexecute⟩ :=
    execute_of_confirmed (w := w) rfl (h.withCommand (.validate input))
  refine ⟨repository, hlocator, hr, hhost, ?_⟩
  rw [run_of_execute hargs hexecute, textOn_print, if_verbosity_quiet]
  exact ⟨rfl, rfl⟩

/-- A text that is parsed is described, with the tags of the configuration. -/
theorem run_parse_of_accepts {asked : Bool}
    (hargs : Invocation.ofArguments args = .ok (inv.withCommand (.parse input [] asked false)))
    (h : ParseAccepts inv env fs input asked c r) :
    (run w args env fs).exitCode = 0 ∧ (run w args env fs).stdout =
      if inv.quiet then [] else (c.tag r []).describe ++ ['\n'] := by
  rw [run_of_accepts hargs rfl (h.withCommand (.parse input [] asked false))]
  exact ⟨rfl, (textOn_print inv.verbosity _).trans (if_verbosity_quiet inv _ _)⟩

end

/-- The command to validate a text and the one to parse it with the check come to the same,
and so does the one to parse it if the configuration asks for the check. -/
theorem validateLaws {inv : Invocation} {input : Text} {args args' args'' : List Text}
    (hvalidate : Invocation.ofArguments args = .ok (inv.withCommand (.validate input)))
    (hchecked : Invocation.ofArguments args' =
      .ok (inv.withCommand (.parse input [] true false)))
    (hplain : Invocation.ofArguments args'' =
      .ok (inv.withCommand (.parse input [] false false)))
    (w : Wording) (env : Environment) (fs : FileSystem) :
    ValidateLaws w inv env fs input (run w args env fs) (run w args' env fs)
      (run w args'' env fs) where
  exitCode_eq := by
    rcases accepts_or_fails inv env fs input true with ⟨c, r, haccepts⟩ | ⟨failure, hfails⟩
    · obtain ⟨repository, -, -, -, hzero, -⟩ :=
        run_validate_of_accepts (w := w) hvalidate haccepts
      rw [hzero, (run_parse_of_accepts hchecked haccepts).1]
    · rw [(reports_validate hvalidate hfails).exitCode, (reports_parse hchecked hfails).exitCode]
  of_failure := by
    intro hne
    rcases accepts_or_fails inv env fs input true with ⟨c, r, haccepts⟩ | ⟨failure, hfails⟩
    · obtain ⟨repository, -, -, -, hzero, -⟩ :=
        run_validate_of_accepts (w := w) hvalidate haccepts
      exact absurd hzero hne
    · exact ⟨failure, failure.message w, hfails, failure.says_message w,
        reports_validate hvalidate hfails, reports_parse hchecked hfails⟩
  of_success := by
    intro hzero
    rcases accepts_or_fails inv env fs input true with ⟨c, r, haccepts⟩ | ⟨failure, hfails⟩
    · obtain ⟨repository, hlocator, rfl, hhost, -, hvalidated⟩ :=
        run_validate_of_accepts (w := w) hvalidate haccepts
      have hdescribed := (run_parse_of_accepts (w := w) hchecked haccepts).2
      rw [Configuration.tag, List.append_nil] at hdescribed
      refine ⟨c, repository, haccepts.loads, hlocator, hhost, fun hquiet => ⟨?_, ?_, ?_⟩⟩
      · rwa [hquiet, if_neg Bool.false_ne_true] at hvalidated
      · rwa [hquiet, if_neg Bool.false_ne_true] at hdescribed
      · simp [Reference.lines]
    · rw [(reports_validate hvalidate hfails).exitCode] at hzero
      cases hzero
  plain_eq := by
    intro c hload hasks hhosted
    have hmode : (Context.ofInvocation inv c).mode = grammarOf inv env c := mode_ofInvocation hload
    -- the configuration asks already, so that the switch adds nothing
    have hsame := Context.parse_asked (c := Context.ofInvocation inv c) hasks
      (fun path => hmode ▸ hhosted path) [] false
    have hexecute : (inv.withCommand (.parse input [] false false)).execute w env fs =
        (inv.withCommand (.parse input [] true false)).execute w env fs := by
      refine (Action.ofExcept_bind_of_ok hload).trans (Eq.trans ?_
        (Action.ofExcept_bind_of_ok hload).symm)
      exact congrArg (fun x => (Context.ofInvocation inv c).announce >>= fun _ => x) hsame.symm
    rw [run_of_ofArguments hplain, run_of_ofArguments hchecked, hexecute]
  of_directory := by
    intro c path hload hasks hdirectory
    have hparse : Reference.parse input (grammarOf inv env c) = .ok (.ofDirectory path) := by
      rw [Reference.parse, hdirectory]
      rfl
    have hfails : ParseFails inv env fs input true (.reference (.wrongKind .url .localDirectory)) :=
      .validation hload hparse (.inl rfl) rfl
    have haccepts : ParseAccepts inv env fs input false c (.ofDirectory path) := by
      refine ⟨hload, hparse, ?_⟩
      -- the configuration asks for repositories alone
      rintro (hfalse | ⟨-, repository, hrepository⟩)
      · cases hfalse
      · cases hrepository
    have hwords : (Fault.wrongKind .url .localDirectory).message =
        "invalid repository type: expected url, found local directory".toList := by
      decide
    refine ⟨(run_parse_of_accepts hplain haccepts).1, hfails, ?_, ?_⟩
    · rw [← hwords]
      exact reports_validate hvalidate hfails
    · rw [← hwords]
      exact reports_parse hchecked hfails

/-- A directory, which the configuration lets pass and both commands that are asked for the
check refuse. -/
theorem validateLaws_of_directory :
    (run .builtIn ["--strict".toList, "parse".toList, "file:///d".toList]
        { configPath := some "/c".toList }
        (Disk.ofFiles ["w".toList]
          [("/c".toList, some (Utf8.encode "validate = true".toList))]).fileSystem
        ).exitCode = 0 ∧
      (run .builtIn ["validate".toList, "--strict".toList, "file:///d".toList]
        { configPath := some "/c".toList }
        (Disk.ofFiles ["w".toList]
          [("/c".toList, some (Utf8.encode "validate = true".toList))]).fileSystem
        ).stderr =
        "error: invalid repository type: expected url, found local directory\n".toList ∧
      (run .builtIn ["--strict".toList, "parse".toList, "--validate".toList, "file:///d".toList]
        { configPath := some "/c".toList }
        (Disk.ofFiles ["w".toList]
          [("/c".toList, some (Utf8.encode "validate = true".toList))]).fileSystem
        ).stderr =
        "error: invalid repository type: expected url, found local directory\n".toList := by
  have hvalidate : Invocation.ofArguments
      ["validate".toList, "--strict".toList, "file:///d".toList] =
      .ok ⟨true, false, false, none, .validate "file:///d".toList⟩ := rfl
  have hchecked : Invocation.ofArguments
      ["--strict".toList, "parse".toList, "--validate".toList, "file:///d".toList] =
      .ok ⟨true, false, false, none, .parse "file:///d".toList [] true false⟩ := rfl
  have hplain : Invocation.ofArguments ["--strict".toList, "parse".toList, "file:///d".toList] =
      .ok ⟨true, false, false, none, .parse "file:///d".toList [] false false⟩ := rfl
  have hload : Configuration.load none { configPath := some "/c".toList }
      (Disk.ofFiles ["w".toList]
        [("/c".toList, some (Utf8.encode "validate = true".toList))]).fileSystem =
      .ok ⟨⟨none, some true, []⟩, some "/c".toList, false⟩ := by
    decide +kernel
  have hparse : Locator.parse "file:///d".toList .strict = .ok (.directory "/d".toList) := by
    decide +kernel
  have laws (env fs) : ValidateLaws .builtIn
      ⟨true, false, false, none, .validate "file:///d".toList⟩ env fs _ _ _ _ :=
    validateLaws hvalidate hchecked hplain .builtIn env fs
  obtain ⟨hzero, -, hvalidated, hrefused⟩ := (laws _ _).of_directory _ _ hload rfl hparse
  have hline : "error: ".toList ++
      "invalid repository type: expected url, found local directory".toList ++ ['\n'] =
      "error: invalid repository type: expected url, found local directory\n".toList := by
    decide
  rw [← hline]
  exact ⟨hzero, hvalidated.stderr_of_not_debug (by decide),
    hrefused.stderr_of_not_debug (by decide)⟩

end RepoIdentity
