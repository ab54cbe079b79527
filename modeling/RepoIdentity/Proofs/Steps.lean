import RepoIdentity.Proofs.Action
import RepoIdentity.Proofs.Loading
import RepoIdentity.Proofs.Username

/-!
# The steps of a run

A run of a command comes down to a few steps, of which the first that fails is reported:
the configuration is loaded, a text is read by the grammar that was asked for, and the
reference is checked if that was asked for. Who asks, which step fails first and what was
noted before it is said here without regard to the order in which the program finds out,
and then proved of the program.

* `AsksStrict`, `AsksValidation` — who asks for the strict grammar and for the check;
* `ParseAccepts`, `ParseFails` — all steps for a text succeed, or one is the first to fail;
* `Invocation.Fails`, `Invocation.Completes` — the first step of any command to fail with the
  notes before it, or that there is none; `fails_or_completes` says that these are all cases;
* `execute_of_fails`, `execute_of_accepts`, … — what a run writes in each case, and how it
  ends;
* `Invocation.Presents` — the reference that a run writes in the end.
-/

namespace RepoIdentity

open CommandLine (Command Invocation)

-- ---------------------------------------------------------------------------
-- Who asks for what
-- ---------------------------------------------------------------------------

/-- The arguments, the environment or the configuration ask for the strict grammar. -/
def AsksStrict (inv : Invocation) (env : Environment) (c : Configuration) : Prop :=
  inv.strict = true ∨ env.strict ≠ none ∨ c.settings.strict = some true

instance (inv : Invocation) (env : Environment) (c : Configuration) :
    Decidable (AsksStrict inv env c) := inferInstanceAs (Decidable (_ ∨ _ ∨ _))

/-- The grammar of a run: the strict one if anybody asks for it. -/
def grammarOf (inv : Invocation) (env : Environment) (c : Configuration) : Mode :=
  if AsksStrict inv env c then .strict else .legacy

/-- The arguments ask for the check, or the configuration does and the reference is to
a hosted repository. -/
def AsksValidation (asked : Bool) (c : Configuration) (r : Reference) : Prop :=
  asked = true ∨ c.settings.validate = some true ∧ ∃ repository, r.locator = .hosted repository

/-- The grammar of a run is the one that its context holds. -/
theorem mode_ofInvocation {inv : Invocation} {env : Environment} {fs : FileSystem}
    {c : Configuration} (h : Configuration.load inv.config env fs = .ok c) :
    (Context.ofInvocation inv c).mode = grammarOf inv env c := by
  have henv : c.strictByEnvironment = env.strict.isSome := (Configuration.origin_of_load h).2
  have hasks : AsksStrict inv env c ↔ (inv.strict = true ∨ env.strict.isSome = true ∨
      c.settings.strict.getD false = true) := by
    rw [AsksStrict, Option.isSome_iff_ne_none]
    cases c.settings.strict with
    | none => simp
    | some b => simp
  rw [grammarOf, Context.ofInvocation, Configuration.mode, henv]
  simp only [hasks]
  cases inv.strict with
  | true => rfl
  | false => simp

/-- A command validates a reference if somebody asks for that. -/
theorem validates_iff {inv : Invocation} {c : Configuration} {asked : Bool} {r : Reference} :
    (Context.ofInvocation inv c).validates asked r = true ↔ AsksValidation asked c r := by
  have hkind : r.kind = .url ↔ ∃ repository, r.locator = .hosted repository := by
    rw [Reference.kind]
    cases r.locator with
    | directory path => simp [Locator.kind]
    | hosted repository => simp [Locator.kind]
  have hsettings : c.validate = true ↔ c.settings.validate = some true := by
    rw [Configuration.validate]
    cases c.settings.validate with
    | none => simp
    | some b => simp
  rw [Context.validates, AsksValidation, Bool.or_eq_true, Bool.and_eq_true, beq_iff_eq, hkind]
  exact or_congr_right (and_congr_left' hsettings)

-- ---------------------------------------------------------------------------
-- Handlers
-- ---------------------------------------------------------------------------

/-- What is noted of a text that was parsed. -/
def parsedNote (input : Text) (r : Reference) : Text :=
  "parsed '".toList ++ input ++ "' as ".toList ++ r.kind.name ++ " reference".toList

/-- What is noted of two references before they are compared. -/
def comparedNote (a b : Reference) : Text :=
  "comparing ".toList ++ a.displayKey ++ " with ".toList ++ b.displayKey

namespace Context

variable {c : Context} {input : Text} {tags : List Text} {asked json : Bool} {r : Reference}
  {fault : Fault}

@[simp] theorem result_emit (c : Context) (r : Reference) (json : Bool) :
    (c.emit r json).result = .ok () := by
  cases json with
  | true => rfl
  | false => exact c.verbosity.result_print r.describe

/-- A path where nothing stands is no failure. -/
theorem result_warnOfAbsence (c : Context) (fs : FileSystem) (path : Text) :
    (c.warnOfAbsence fs path).result = .ok () := by
  unfold warnOfAbsence
  split
  · rfl
  · exact c.verbosity.result_warn _

/-- Nothing is written of a text that names no reference. -/
theorem parse_of_fault (h : Reference.parse input c.mode = .error fault) (tags : List Text)
    (asked json : Bool) : c.parse input tags asked json = ⟨[], .error (.reference fault)⟩ :=
  Action.ofExcept_bind_of_error h

/-- A reference that is refused has been noted, and nothing else is written. -/
theorem parse_of_refusal (h : Reference.parse input c.mode = .ok r)
    (hasks : c.validates asked r = true) (hcheck : r.validate = .error fault) (tags : List Text)
    (json : Bool) : c.parse input tags asked json =
      ⟨notesAt c.verbosity [parsedNote input r], .error (.reference fault)⟩ := by
  have hrefused : c.check asked r = ⟨[], .error (.reference fault)⟩ := by
    rw [check, if_pos hasks, hcheck]
    rfl
  have hrest (f : Unit → Action Unit) : c.check asked r >>= f =
      ⟨[], .error (.reference fault)⟩ := by
    rw [hrefused]
    rfl
  refine (Action.ofExcept_bind_of_ok h).trans ?_
  refine (c.verbosity.note_bind _ _).trans ?_
  rw [hrest, List.append_nil]
  rfl

/-- A reference that passes is noted and then written. -/
theorem parse_of_success (h : Reference.parse input c.mode = .ok r)
    (hcheck : c.validates asked r = true → r.validate = .ok ()) (tags : List Text) (json : Bool) :
    c.parse input tags asked json =
      ⟨notesAt c.verbosity [parsedNote input r] ++ (c.emit (c.tagged r tags) json).writes,
        .ok ()⟩ := by
  have hpasses : c.check asked r = ⟨[], .ok ()⟩ := by
    rw [check]
    split
    · next hasks =>
      rw [hcheck hasks]
      rfl
    · rfl
  have hrest (f : Unit → Action Unit) : c.check asked r >>= f = f () := by
    rw [hpasses]
    rfl
  refine (Action.ofExcept_bind_of_ok h).trans ?_
  refine (c.verbosity.note_bind _ _).trans ?_
  rw [hrest, result_emit]
  rfl

/-- Nothing is written of a text that cannot be read. -/
theorem validate_of_fault (h : Reference.parse input c.mode = .error fault) :
    c.validate input = ⟨[], .error (.reference fault)⟩ :=
  Action.ofExcept_bind_of_error h

/-- Nothing is written of a reference that is refused. -/
theorem validate_of_refusal (h : Reference.parse input c.mode = .ok r)
    (hcheck : r.validate = .error fault) : c.validate input = ⟨[], .error (.reference fault)⟩ :=
  (Action.ofExcept_bind_of_ok h).trans (Action.ofExcept_bind_of_error hcheck)

/-- A repository that passes is confirmed by its URL. -/
theorem validate_of_success {repository : Hosted}
    (h : Reference.parse input c.mode = .ok (.ofLocator (.hosted repository)))
    (hcheck : repository.validate = .ok ()) :
    c.validate input = c.verbosity.print ("ok: ".toList ++ repository.canonicalUrl) :=
  (Action.ofExcept_bind_of_ok h).trans (Action.ofExcept_bind_of_ok hcheck)

section

variable {first second : Text} {a b : Reference} (tagsFirst tagsSecond : List Text)

/-- The first text is reported if it names no reference, whatever the second is. -/
theorem compare_of_first_fault (h : Reference.parse first c.mode = .error fault) (second : Text) :
    c.compare first second tagsFirst tagsSecond = ⟨[], .error (.compared .first first fault)⟩ :=
  Action.ofExcept_bind_of_error h

/-- The second text is reported if only the first names a reference. -/
theorem compare_of_second_fault (ha : Reference.parse first c.mode = .ok a)
    (h : Reference.parse second c.mode = .error fault) :
    c.compare first second tagsFirst tagsSecond = ⟨[], .error (.compared .second second fault)⟩ :=
  (Action.ofExcept_bind_of_ok ha).trans (Action.ofExcept_bind_of_error h)

/-- Two texts that name references are noted, and the verdict is written. -/
theorem compare_of_success (ha : Reference.parse first c.mode = .ok a)
    (hb : Reference.parse second c.mode = .ok b) :
    c.compare first second tagsFirst tagsSecond =
      ⟨notesAt c.verbosity [comparedNote a b] ++ (c.verbosity.print
          (verdict ((c.tagged a tagsFirst).sameAs (c.tagged b tagsSecond)))).writes, .ok ()⟩ := by
  refine (Action.ofExcept_bind_of_ok ha).trans ?_
  refine (Action.ofExcept_bind_of_ok hb).trans ?_
  refine (c.verbosity.note_bind _ _).trans ?_
  rw [Verbosity.result_print]
  rfl

end

/-- A directory is described in any case, after a warning if it is not there. -/
theorem describe_eq (c : Context) (fs : FileSystem) (path : Text) (tags : List Text)
    (json : Bool) : c.describe fs path tags json =
      ⟨(c.warnOfAbsence fs path).writes
        ++ (c.emit (c.tagged (.ofDirectory path) tags) json).writes, .ok ()⟩ := by
  refine (Action.bind_of_ok (c.result_warnOfAbsence fs path)).trans ?_
  rw [result_emit]

end Context

-- ---------------------------------------------------------------------------
-- The steps for a text
-- ---------------------------------------------------------------------------

section

variable (inv : Invocation) (env : Environment) (fs : FileSystem)

section

variable (input : Text) (asked : Bool)

/-- All steps succeed: the configuration loads, the text names a reference, and that
stands the check if there is one. -/
structure ParseAccepts (c : Configuration) (r : Reference) : Prop where
  loads : Configuration.load inv.config env fs = .ok c
  parses : Reference.parse input (grammarOf inv env c) = .ok r
  validates : AsksValidation asked c r → r.validate = .ok ()

/-- The first step to fail, by the failure that is reported. -/
inductive ParseFails : Failure → Prop where
  | configuration {fault : LoadFault} : Configuration.load inv.config env fs = .error fault →
      ParseFails (.configuration fault)
  | reference {c : Configuration} {fault : Fault} :
      Configuration.load inv.config env fs = .ok c →
      Reference.parse input (grammarOf inv env c) = .error fault → ParseFails (.reference fault)
  | validation {c : Configuration} {r : Reference} {fault : Fault} :
      Configuration.load inv.config env fs = .ok c →
      Reference.parse input (grammarOf inv env c) = .ok r → AsksValidation asked c r →
      r.validate = .error fault → ParseFails (.reference fault)

/-- Either all steps succeed or one is the first to fail. -/
theorem accepts_or_fails :
    (∃ c r, ParseAccepts inv env fs input asked c r) ∨
      ∃ failure, ParseFails inv env fs input asked failure := by
  cases hload : Configuration.load inv.config env fs with
  | error fault => exact Or.inr ⟨_, .configuration hload⟩
  | ok c =>
    cases hparse : Reference.parse input (grammarOf inv env c) with
    | error fault => exact Or.inr ⟨_, .reference hload hparse⟩
    | ok r =>
      by_cases hasks : AsksValidation asked c r
      · cases hcheck : r.validate with
        | error fault => exact Or.inr ⟨_, .validation hload hparse hasks hcheck⟩
        | ok checked => exact Or.inl ⟨c, r, hload, hparse, fun _ => hcheck⟩
      · exact Or.inl ⟨c, r, hload, hparse, fun h => absurd h hasks⟩

end

/-- A reference as it is shown: with the tags of the configuration, and then those
of the arguments. -/
def Configuration.tag (c : Configuration) (r : Reference) (tags : List Text) : Reference :=
  ⟨r.locator, c.settings.metadata ++ tags⟩

/-- A reference that was read has no tags but those that it is given. -/
theorem tagged_of_parse {c : Configuration} {r : Reference} {input : Text} {mode : Mode}
    (h : Reference.parse input mode = .ok r) (tags : List Text) :
    (Context.ofInvocation inv c).tagged r tags = c.tag r tags := by
  obtain ⟨locator, -, rfl⟩ := exists_of_map_eq_ok h
  rfl

-- ---------------------------------------------------------------------------
-- The steps of a command
-- ---------------------------------------------------------------------------

/-- What a run notes before its command: where the configuration comes from, and which
grammar is used. -/
def openingNotes (c : Configuration) : List Text :=
  ["config: ".toList ++ c.loadedFrom.getD "defaults".toList,
    "parse mode: ".toList ++ (grammarOf inv env c).name]

/-- The first step of a run to fail, by the failure that is reported, and what the run noted
before it. -/
inductive CommandLine.Invocation.Fails : List Text → Failure → Prop where
  /-- The configuration cannot be loaded. -/
  | configuration {fault : LoadFault} : Configuration.load inv.config env fs = .error fault →
      Fails [] (.configuration fault)
  /-- The text to parse names no reference, -/
  | parse {c : Configuration} {input : Text} {tags : List Text} {asked json : Bool}
      {fault : Fault} : inv.command = .parse input tags asked json →
      Configuration.load inv.config env fs = .ok c →
      Reference.parse input (grammarOf inv env c) = .error fault →
      Fails (openingNotes inv env c) (.reference fault)
  /-- or one that does not stand the check. -/
  | parseCheck {c : Configuration} {input : Text} {tags : List Text} {asked json : Bool}
      {r : Reference} {fault : Fault} : inv.command = .parse input tags asked json →
      Configuration.load inv.config env fs = .ok c →
      Reference.parse input (grammarOf inv env c) = .ok r → AsksValidation asked c r →
      r.validate = .error fault →
      Fails (openingNotes inv env c ++ [parsedNote input r]) (.reference fault)
  /-- The text to validate names no reference, -/
  | validate {c : Configuration} {input : Text} {fault : Fault} :
      inv.command = .validate input → Configuration.load inv.config env fs = .ok c →
      Reference.parse input (grammarOf inv env c) = .error fault →
      Fails (openingNotes inv env c) (.reference fault)
  /-- or one that does not stand the check. -/
  | validateCheck {c : Configuration} {input : Text} {r : Reference} {fault : Fault} :
      inv.command = .validate input → Configuration.load inv.config env fs = .ok c →
      Reference.parse input (grammarOf inv env c) = .ok r → r.validate = .error fault →
      Fails (openingNotes inv env c) (.reference fault)
  /-- The first text to compare names no reference, -/
  | first {c : Configuration} {first second : Text} {tagsFirst tagsSecond : List Text}
      {fault : Fault} : inv.command = .compare first second tagsFirst tagsSecond →
      Configuration.load inv.config env fs = .ok c →
      Reference.parse first (grammarOf inv env c) = .error fault →
      Fails (openingNotes inv env c) (.compared .first first fault)
  /-- or the second does not. -/
  | second {c : Configuration} {first second : Text} {tagsFirst tagsSecond : List Text}
      {a : Reference} {fault : Fault} :
      inv.command = .compare first second tagsFirst tagsSecond →
      Configuration.load inv.config env fs = .ok c →
      Reference.parse first (grammarOf inv env c) = .ok a →
      Reference.parse second (grammarOf inv env c) = .error fault →
      Fails (openingNotes inv env c) (.compared .second second fault)

/-- All steps of a run succeed. -/
inductive CommandLine.Invocation.Completes : Prop where
  | parse {c : Configuration} {input : Text} {tags : List Text} {asked json : Bool}
      {r : Reference} : inv.command = .parse input tags asked json →
      ParseAccepts inv env fs input asked c r → Completes
  | describe {c : Configuration} {path : Text} {tags : List Text} {json : Bool} :
      inv.command = .describe path tags json → Configuration.load inv.config env fs = .ok c →
      Completes
  | validate {c : Configuration} {input : Text} {r : Reference} :
      inv.command = .validate input → ParseAccepts inv env fs input true c r → Completes
  | compare {c : Configuration} {first second : Text} {tagsFirst tagsSecond : List Text}
      {a b : Reference} : inv.command = .compare first second tagsFirst tagsSecond →
      Configuration.load inv.config env fs = .ok c →
      Reference.parse first (grammarOf inv env c) = .ok a →
      Reference.parse second (grammarOf inv env c) = .ok b → Completes
  | completion {c : Configuration} {shell : CommandLine.Shell} :
      inv.command = .completion shell → Configuration.load inv.config env fs = .ok c → Completes

/-- The reference that a run writes in the end. -/
inductive CommandLine.Invocation.Presents : Reference → Prop where
  | parsed {c : Configuration} {input : Text} {tags : List Text} {asked json : Bool}
      {r : Reference} : inv.command = .parse input tags asked json →
      ParseAccepts inv env fs input asked c r → Presents (c.tag r tags)
  | described {c : Configuration} {path : Text} {tags : List Text} {json : Bool} :
      inv.command = .describe path tags json → Configuration.load inv.config env fs = .ok c →
      Presents ⟨.directory path, c.settings.metadata ++ tags⟩

variable {inv env fs} {w : Wording}

/-- What is told of the configuration are the opening notes. -/
theorem announce_eq {c : Configuration} (hload : Configuration.load inv.config env fs = .ok c) :
    (Context.ofInvocation inv c).announce = ⟨notesAt inv.verbosity (openingNotes inv env c),
      .ok ()⟩ := by
  rw [Context.announce, Verbosity.note_bind, Verbosity.writes_note, Verbosity.result_note,
    mode_ofInvocation hload, ← notesAt_append]
  rfl

/-- What a run comes to once its configuration is loaded. -/
theorem execute_of_load {c : Configuration}
    (hload : Configuration.load inv.config env fs = .ok c) : inv.execute w env fs =
      ⟨notesAt inv.verbosity (openingNotes inv env c)
          ++ ((Context.ofInvocation inv c).execute w fs inv.command).writes,
        ((Context.ofInvocation inv c).execute w fs inv.command).result⟩ := by
  refine (Action.ofExcept_bind_of_ok hload).trans ?_
  have hannounce := announce_eq hload
  have hresult : (Context.ofInvocation inv c).announce.result = .ok () := by rw [hannounce]
  refine (Action.bind_of_ok hresult).trans ?_
  rw [hannounce]

/-- Nothing is written if the configuration cannot be loaded. -/
theorem execute_of_load_error {fault : LoadFault}
    (hload : Configuration.load inv.config env fs = .error fault) :
    inv.execute w env fs = ⟨[], .error (.configuration fault)⟩ :=
  Action.ofExcept_bind_of_error hload

/-- A command that fails without a word leaves the notes that come before every command. -/
theorem execute_of_silent {c : Configuration} {failure : Failure}
    (hload : Configuration.load inv.config env fs = .ok c)
    (h : (Context.ofInvocation inv c).execute w fs inv.command = ⟨[], .error failure⟩) :
    inv.execute w env fs = ⟨notesAt inv.verbosity (openingNotes inv env c), .error failure⟩ := by
  rw [execute_of_load hload, h, List.append_nil]

/-- A run does what its first step to fail says: it has written the notes before that step,
and ends with its failure. -/
theorem execute_of_fails {messages : List Text} {failure : Failure}
    (h : inv.Fails env fs messages failure) :
    inv.execute w env fs = ⟨notesAt inv.verbosity messages, .error failure⟩ := by
  -- every step but the check of a parsed text fails before the command has written a word
  cases h with
  | configuration hload => rw [execute_of_load_error hload, notesAt_nil]
  | parse hcommand hload hparse =>
    rw [← mode_ofInvocation hload] at hparse
    refine execute_of_silent hload ?_
    rw [hcommand]
    exact Context.parse_of_fault hparse _ _ _
  | parseCheck hcommand hload hparse hasks hcheck =>
    rw [← mode_ofInvocation hload] at hparse
    have hparsed := Context.parse_of_refusal hparse (validates_iff.mpr hasks) hcheck
    rw [execute_of_load hload, hcommand, notesAt_append]
    show Action.mk (_ ++ ((Context.ofInvocation inv _).parse _ _ _ _).writes)
      ((Context.ofInvocation inv _).parse _ _ _ _).result = _
    rw [hparsed]
    rfl
  | validate hcommand hload hparse =>
    rw [← mode_ofInvocation hload] at hparse
    refine execute_of_silent hload ?_
    rw [hcommand]
    exact Context.validate_of_fault hparse
  | validateCheck hcommand hload hparse hcheck =>
    rw [← mode_ofInvocation hload] at hparse
    refine execute_of_silent hload ?_
    rw [hcommand]
    exact Context.validate_of_refusal hparse hcheck
  | first hcommand hload hparse =>
    rw [← mode_ofInvocation hload] at hparse
    refine execute_of_silent hload ?_
    rw [hcommand]
    exact Context.compare_of_first_fault _ _ hparse _
  | second hcommand hload hfirst hparse =>
    rw [← mode_ofInvocation hload] at hfirst hparse
    refine execute_of_silent hload ?_
    rw [hcommand]
    exact Context.compare_of_second_fault _ _ hfirst hparse

/-- A first step to fail of the parse command is one of the run. -/
theorem exists_fails_of_parse {input : Text} {tags : List Text} {asked json : Bool}
    {failure : Failure} (hcommand : inv.command = .parse input tags asked json)
    (h : ParseFails inv env fs input asked failure) :
    ∃ messages, inv.Fails env fs messages failure := by
  cases h with
  | configuration hload => exact ⟨_, .configuration hload⟩
  | reference hload hparse => exact ⟨_, .parse hcommand hload hparse⟩
  | validation hload hparse hasks hcheck =>
    exact ⟨_, .parseCheck hcommand hload hparse hasks hcheck⟩

/-- The command to validate has the same steps as the command to parse with the check. -/
theorem exists_fails_of_validate {input : Text} {failure : Failure}
    (hcommand : inv.command = .validate input)
    (h : ParseFails inv env fs input true failure) :
    ∃ messages, inv.Fails env fs messages failure := by
  cases h with
  | configuration hload => exact ⟨_, .configuration hload⟩
  | reference hload hparse => exact ⟨_, .validate hcommand hload hparse⟩
  | validation hload hparse _ hcheck => exact ⟨_, .validateCheck hcommand hload hparse hcheck⟩

/-- A run completes, or there is a first step that fails. -/
theorem fails_or_completes (inv : Invocation) (env : Environment) (fs : FileSystem) :
    (∃ messages failure, inv.Fails env fs messages failure) ∨ inv.Completes env fs := by
  cases hload : Configuration.load inv.config env fs with
  | error fault => exact .inl ⟨_, _, .configuration hload⟩
  | ok c =>
    -- with the configuration loaded, the steps are those of the command
    cases hcommand : inv.command with
    | parse input tags asked json =>
      rcases accepts_or_fails inv env fs input asked with ⟨c, r, haccepts⟩ | ⟨failure, hfails⟩
      · exact .inr (.parse hcommand haccepts)
      · obtain ⟨messages, h⟩ := exists_fails_of_parse hcommand hfails
        exact .inl ⟨messages, failure, h⟩
    | describe path tags json => exact .inr (.describe hcommand hload)
    | validate input =>
      rcases accepts_or_fails inv env fs input true with ⟨c, r, haccepts⟩ | ⟨failure, hfails⟩
      · exact .inr (.validate hcommand haccepts)
      · obtain ⟨messages, h⟩ := exists_fails_of_validate hcommand hfails
        exact .inl ⟨messages, failure, h⟩
    | compare first second tagsFirst tagsSecond =>
      cases ha : Reference.parse first (grammarOf inv env c) with
      | error fault => exact .inl ⟨_, _, .first hcommand hload ha⟩
      | ok a =>
        cases hb : Reference.parse second (grammarOf inv env c) with
        | error fault => exact .inl ⟨_, _, .second hcommand hload ha hb⟩
        | ok b => exact .inr (.compare hcommand hload ha hb)
    | completion shell => exact .inr (.completion hcommand hload)

/-- A parse command whose steps succeed notes what it parsed and writes the reference. -/
theorem execute_of_accepts {input : Text} {tags : List Text} {asked json : Bool}
    {c : Configuration} {r : Reference} (hcommand : inv.command = .parse input tags asked json)
    (h : ParseAccepts inv env fs input asked c r) : inv.execute w env fs =
      ⟨notesAt inv.verbosity (openingNotes inv env c ++ [parsedNote input r])
        ++ ((Context.ofInvocation inv c).emit (c.tag r tags) json).writes, .ok ()⟩ := by
  have hparse := h.parses
  rw [← mode_ofInvocation h.loads] at hparse
  have hparsed := Context.parse_of_success hparse
    (fun hasks => h.validates (validates_iff.mp hasks)) tags json
  rw [execute_of_load h.loads, hcommand, notesAt_append, List.append_assoc]
  show Action.mk (_ ++ ((Context.ofInvocation inv c).parse _ _ _ _).writes)
    ((Context.ofInvocation inv c).parse _ _ _ _).result = _
  rw [hparsed, tagged_of_parse inv hparse]
  rfl

/-- A directory is described in every case, after a warning if there is none. -/
theorem execute_of_describe {path : Text} {tags : List Text} {json : Bool} {c : Configuration}
    (hcommand : inv.command = .describe path tags json)
    (hload : Configuration.load inv.config env fs = .ok c) : inv.execute w env fs =
      ⟨notesAt inv.verbosity (openingNotes inv env c)
        ++ (((Context.ofInvocation inv c).warnOfAbsence fs path).writes
          ++ ((Context.ofInvocation inv c).emit
            ⟨.directory path, c.settings.metadata ++ tags⟩ json).writes), .ok ()⟩ := by
  rw [execute_of_load hload, hcommand]
  show Action.mk (_ ++ ((Context.ofInvocation inv c).describe _ _ _ _).writes)
    ((Context.ofInvocation inv c).describe _ _ _ _).result = _
  rw [Context.describe_eq]
  rfl

/-- A reference that stands the check is to a repository on the usual host. -/
theorem exists_of_validate {r : Reference} (h : r.validate = .ok ()) :
    ∃ repository, r.locator = .hosted repository ∧ repository.host = "github.com".toList ∧
      repository.validate = .ok () := by
  obtain ⟨repository, hlocator, hvalid⟩ := Reference.validate_eq_ok_iff.mp h
  exact ⟨repository, hlocator, (Hosted.validate_eq_ok_iff.mp hvalid).1, hvalid⟩

/-- A validate command whose steps succeed confirms a repository on the usual host. -/
theorem execute_of_confirmed {input : Text} {c : Configuration} {r : Reference}
    (hcommand : inv.command = .validate input) (h : ParseAccepts inv env fs input true c r) :
    ∃ repository, Locator.parse input (grammarOf inv env c) = .ok (.hosted repository) ∧
      r = .ofLocator (.hosted repository) ∧ repository.host = "github.com".toList ∧
      inv.execute w env fs = ⟨notesAt inv.verbosity (openingNotes inv env c)
        ++ (inv.verbosity.print ("ok: ".toList ++ repository.canonicalUrl)).writes, .ok ()⟩ := by
  obtain ⟨locator, hlocator, rfl⟩ := exists_of_map_eq_ok h.parses
  obtain ⟨repository, rfl, hhost, hvalid⟩ := exists_of_validate (h.validates (.inl rfl))
  have hparse := h.parses
  rw [← mode_ofInvocation h.loads] at hparse
  refine ⟨repository, hlocator, rfl, hhost, ?_⟩
  rw [execute_of_load h.loads, hcommand]
  show Action.mk (_ ++ ((Context.ofInvocation inv c).validate _).writes)
    ((Context.ofInvocation inv c).validate _).result = _
  rw [Context.validate_of_success hparse hvalid, Verbosity.result_print]
  rfl

/-- A comparison of two texts that name references writes a verdict. -/
theorem execute_of_compared {first second : Text} {tagsFirst tagsSecond : List Text}
    {c : Configuration} {a b : Reference}
    (hcommand : inv.command = .compare first second tagsFirst tagsSecond)
    (hload : Configuration.load inv.config env fs = .ok c)
    (ha : Reference.parse first (grammarOf inv env c) = .ok a)
    (hb : Reference.parse second (grammarOf inv env c) = .ok b) :
    inv.execute w env fs =
      ⟨notesAt inv.verbosity (openingNotes inv env c ++ [comparedNote a b])
        ++ (inv.verbosity.print (Context.verdict
          (((Context.ofInvocation inv c).tagged a tagsFirst).sameAs
            ((Context.ofInvocation inv c).tagged b tagsSecond)))).writes, .ok ()⟩ := by
  rw [← mode_ofInvocation hload] at ha hb
  rw [execute_of_load hload, hcommand, notesAt_append, List.append_assoc]
  show Action.mk (_ ++ ((Context.ofInvocation inv c).compare _ _ _ _).writes)
    ((Context.ofInvocation inv c).compare _ _ _ _).result = _
  rw [Context.compare_of_success tagsFirst tagsSecond ha hb]
  rfl

/-- A completion script is written as it is. -/
theorem execute_of_completion {shell : CommandLine.Shell} {c : Configuration}
    (hcommand : inv.command = .completion shell)
    (hload : Configuration.load inv.config env fs = .ok c) : inv.execute w env fs =
      ⟨notesAt inv.verbosity (openingNotes inv env c) ++ [⟨.output, w.script shell⟩], .ok ()⟩ := by
  rw [execute_of_load hload, hcommand]
  rfl

/-- A run whose steps succeed ends well. -/
theorem result_of_completes (h : inv.Completes env fs) :
    (inv.execute w env fs).result = .ok () := by
  cases h with
  | parse hcommand haccepts => rw [execute_of_accepts hcommand haccepts]
  | describe hcommand hload => rw [execute_of_describe hcommand hload]
  | validate hcommand haccepts =>
    obtain ⟨repository, -, -, -, hexecute⟩ := execute_of_confirmed (w := w) hcommand haccepts
    rw [hexecute]
  | compare hcommand hload ha hb => rw [execute_of_compared hcommand hload ha hb]
  | completion hcommand hload => rw [execute_of_completion hcommand hload]

end

end RepoIdentity
