import RepoIdentity.Configuration
import RepoIdentity.Proofs.Text
import RepoIdentity.Proofs.Utf8

/-!
# One configuration file

Loading looks for a file, and reads the one that it finds. It never goes back to
another one: what is wrong with that file is the fault of the whole, and whatever
stands at later places does not count. All of this holds for every file system, that is
for whatever stands at the paths that a program asks for, relative or absolute.

* `FileSystem.Stands` — something stands at a path;
* `Disk.look_put` — a file can stand at the end of every absolute path;
* `Configuration.Chooses` — which file is to be read, in terms of what stands where;
  `choose_eq_iff` says that this is the choice of `Configuration.load`;
* `Configuration.LoadLaws`, `Configuration.loadLaws` — what loading comes to for
  every file that can be chosen, and what it depends on.
-/

namespace RepoIdentity

/-- No tag is blank exactly if every tag has a character that is not white space. -/
theorem Settings.hasNoBlankTag_iff {s : Settings} :
    s.hasNoBlankTag = true ↔ ∀ tag ∈ s.metadata, ∃ c ∈ tag, isBlankChar c = false := by
  simp [hasNoBlankTag, Text.isBlank]

/-- Settings pass if no tag is blank. -/
theorem Settings.check_of_tags {s : Settings}
    (h : ∀ tag ∈ s.metadata, ∃ c ∈ tag, isBlankChar c = false) : s.check = .ok () :=
  if_pos (Settings.hasNoBlankTag_iff.mpr h)

/-- Settings with a blank tag are refused. -/
theorem Settings.check_of_blank_tag {s : Settings}
    (h : ∃ tag ∈ s.metadata, ∀ c ∈ tag, isBlankChar c = true) : s.check = .error .blankTag := by
  obtain ⟨tag, htag, hblank⟩ := h
  refine if_neg fun hnone => ?_
  obtain ⟨c, hc, hvisible⟩ := Settings.hasNoBlankTag_iff.mp hnone tag htag
  rw [hblank c hc] at hvisible
  cases hvisible

-- ---------------------------------------------------------------------------
-- What stands where
-- ---------------------------------------------------------------------------

namespace FileSystem

/-- Something stands at the path. -/
def Stands (fs : FileSystem) (path : Text) : Prop := ∃ standing, fs.look path = .ok standing

/-- Something stands at a path if looking there finds it. -/
theorem holds_iff {fs : FileSystem} {path : Text} : fs.holds path = true ↔ fs.Stands path := by
  unfold holds Stands
  cases fs.look path with
  | error cause => simp [Except.isOk, Except.toBool]
  | ok standing => simp [Except.isOk, Except.toBool]

/-- A path that cannot be looked at cannot be read. -/
theorem read_of_error {fs : FileSystem} {path : Text} {cause : FileFault}
    (h : fs.look path = .error cause) : fs.read path = .error cause := by
  rw [read, h]
  rfl

/-- What is read is the content of what stands there. -/
theorem read_of_ok {fs : FileSystem} {path : Text} {standing : Standing}
    (h : fs.look path = .ok standing) : fs.read path = standing.content := by
  rw [read, h]
  rfl

end FileSystem

/-- A name that an entry of a directory can have. -/
structure IsEntryName (name : Text) : Prop where
  ne_nil : name ≠ []
  ne_dot : name ≠ ['.']
  ne_dots : name ≠ ['.', '.']
  length_le : (Utf8.encode name).length ≤ FileTree.maxName
  slash_not_mem : '/' ∉ name

/-- What was put at the end of names is found at their end, whatever was there before. -/
theorem FileTree.follow_put {names : List Text} (h : ∀ name ∈ names, IsEntryName name)
    (bytes : Bytes) (there : Option FileTree) (above : List FileTree) :
    follow (put (.file bytes) names there) above names = .ok (.file bytes) := by
  induction names generalizing there above with
  | nil => rfl
  | cons name names ih =>
    obtain ⟨hname, hnames⟩ := List.forall_mem_cons.mp h
    have hstays : ¬ (name = [] ∨ name = ['.']) := not_or.mpr ⟨hname.ne_nil, hname.ne_dot⟩
    rw [put, follow.eq_def]
    simp only [hstays, hname.ne_dots, Nat.not_lt.mpr hname.length_le, if_false,
      List.lookup_cons_self]
    exact ih hnames _ _

/-- A file that is put at an absolute path stands there, wherever the program works. -/
theorem Disk.look_put {names : List Text} (h : ∀ name ∈ names, IsEntryName name) (hne : names ≠ [])
    (hnull : '\x00' ∉ Text.join ['/'] names)
    (hlength : (Utf8.encode ('/' :: Text.join ['/'] names)).length ≤ FileTree.maxPath)
    (bytes : Bytes) (root : FileTree) (workingDirectory : List Text) :
    (Disk.mk (FileTree.put (.file bytes) names (some root)) workingDirectory).fileSystem.look
      ('/' :: Text.join ['/'] names) = .ok (.file bytes) := by
  have hpieces : Text.splitOn '/' ('/' :: Text.join ['/'] names) = [] :: names := by
    rw [← List.nil_append ('/' :: _), Text.splitOn_append _ List.not_mem_nil,
      Text.splitOn_join hne fun name hname => (h name hname).slash_not_mem]
  have hnull' : '\x00' ∉ '/' :: Text.join ['/'] names := by
    rw [List.mem_cons, not_or]
    exact ⟨by decide, hnull⟩
  obtain ⟨name, rest, rfl⟩ := List.exists_cons_of_ne_nil hne
  have hfound : (Disk.mk (FileTree.put (.file bytes) (name :: rest) (some root))
      workingDirectory).at? ('/' :: Text.join ['/'] (name :: rest)) = .ok (.file bytes) := by
    have hnames : namesFrom workingDirectory ('/' :: Text.join ['/'] (name :: rest)) =
        [] :: name :: rest := by
      rw [namesFrom, List.head?_cons, if_pos rfl, hpieces]
    rw [at?, if_neg hnull', if_neg (List.cons_ne_nil _ _), if_neg (Nat.not_lt.mpr hlength), hnames]
    exact FileTree.follow_put h bytes (some root) []
  show Except.map FileTree.standing (at? _ _) = _
  rw [hfound]
  rfl

-- ---------------------------------------------------------------------------
-- The choice
-- ---------------------------------------------------------------------------

namespace Configuration

/-- The usual places of a configuration file for a user with a directory, the most
specific first. A variable that is not set names none. -/
def usualPlaces (env : Environment) (home : Text) : List Text :=
  env.configPath.toList
    ++ (env.configHome.map fun base => joinPath base "repo-ref/config.toml".toList).toList
    ++ [joinPath home ".repo-ref/config.toml".toList]

/-- The candidates are the usual places. -/
theorem candidates_eq {env : Environment} {home : Text} (hhome : env.home = some home)
    (hne : home ≠ []) : candidates env = usualPlaces env home := by
  have hdirectory : env.homeDirectory = some home := by
    rw [Environment.homeDirectory, hhome, Option.filter_some, if_pos (by simpa using hne)]
    rfl
  rw [candidates, hdirectory]
  rfl

/-- Which file is to be read if one is named explicitly, or if none is. -/
inductive Chooses (env : Environment) (home : Text) (fs : FileSystem) :
    Option Text → Option Text → Prop where
  /-- The explicit one, whether it is there or not. -/
  | explicit (path : Text) : Chooses env home fs (some path) (some path)
  /-- The first of the usual places where something stands. -/
  | first {before after : List Text} {path : Text} :
      usualPlaces env home = before ++ path :: after → (∀ p ∈ before, ¬ fs.Stands p) →
      fs.Stands path → Chooses env home fs none (some path)
  /-- No file, where nothing stands in any of them. -/
  | vacant : (∀ p ∈ usualPlaces env home, ¬ fs.Stands p) → Chooses env home fs none none

/-- Loading chooses what is to be chosen. -/
theorem choose_eq_iff {env : Environment} {home : Text} (hhome : env.home = some home)
    (hne : home ≠ []) {fs : FileSystem} {explicit choice : Option Text} :
    choose explicit env fs = choice ↔ Chooses env home fs explicit choice := by
  have hholds {p : Text} : (!fs.holds p) = true ↔ ¬ fs.Stands p := by
    rw [← FileSystem.holds_iff, Bool.not_eq_true', Bool.not_eq_true]
  constructor
  · intro h
    cases explicit with
    | some path =>
      cases h
      exact .explicit path
    | none =>
      rw [choose, candidates_eq hhome hne] at h
      cases choice with
      | none =>
        refine .vacant fun p hp hstands => ?_
        exact List.find?_eq_none.mp h p hp (FileSystem.holds_iff.mpr hstands)
      | some path =>
        -- `find?` stops at the first place where something stands
        obtain ⟨hstands, before, after, hplaces, hbefore⟩ := List.find?_eq_some_iff_append.mp h
        refine .first hplaces ?_ (FileSystem.holds_iff.mp hstands)
        exact fun p hp => hholds.mp (hbefore p hp)
  · rintro (⟨path⟩ | ⟨hplaces, hbefore, hstands⟩ | ⟨hnone⟩)
    · rfl
    · rw [choose, candidates_eq hhome hne]
      refine List.find?_eq_some_iff_append.mpr
        ⟨FileSystem.holds_iff.mpr hstands, _, _, hplaces, ?_⟩
      exact fun p hp => hholds.mpr (hbefore p hp)
    · rw [choose, candidates_eq hhome hne]
      exact List.find?_eq_none.mpr fun p hp hstands =>
        hnone p hp (FileSystem.holds_iff.mp hstands)

-- ---------------------------------------------------------------------------
-- Reading the chosen file
-- ---------------------------------------------------------------------------

/-- Loading is choosing a file and then decoding it, if there is one. -/
theorem load_eq (explicit : Option Text) (env : Environment) (fs : FileSystem) :
    load explicit env fs =
      (((choose explicit env fs).map (settingsAt fs)).getD (.ok Settings.empty)).map
        fun settings => ⟨settings, choose explicit env fs, env.strict.isSome⟩ := by
  unfold load
  cases choose explicit env fs <;> rfl

/-- The file that was chosen decides. -/
theorem load_of_choose {explicit : Option Text} {env : Environment} {fs : FileSystem} {path : Text}
    (h : choose explicit env fs = some path) :
    load explicit env fs =
      (settingsAt fs path).map fun settings => ⟨settings, some path, env.strict.isSome⟩ := by
  rw [load_eq, h]
  rfl

/-- If no file is chosen the configuration is empty. -/
theorem load_of_choose_none {explicit : Option Text} {env : Environment} {fs : FileSystem}
    (h : choose explicit env fs = none) :
    load explicit env fs = .ok ⟨Settings.empty, none, env.strict.isSome⟩ := by
  rw [load_eq, h]
  rfl

/-- Loading decodes the file that is to be chosen. -/
theorem load_of_chooses {env : Environment} {home : Text} (hhome : env.home = some home)
    (hne : home ≠ []) {explicit : Option Text} {fs : FileSystem} {path : Text}
    (h : Chooses env home fs explicit (some path)) :
    load explicit env fs = (settingsAt fs path).map
      fun settings => ⟨settings, some path, env.strict.isSome⟩ :=
  load_of_choose ((choose_eq_iff hhome hne).mpr h)

/-- What a configuration says of where it comes from. -/
theorem origin_of_load {explicit : Option Text} {env : Environment} {fs : FileSystem}
    {c : Configuration} (h : load explicit env fs = .ok c) :
    c.loadedFrom = choose explicit env fs ∧ c.strictByEnvironment = env.strict.isSome := by
  rw [load_eq] at h
  obtain ⟨settings, -, rfl⟩ := exists_of_map_eq_ok h
  exact ⟨rfl, rfl⟩

/-- A file that cannot be read is a fault. -/
theorem settingsAt_of_unreadable {fs : FileSystem} {path : Text} {cause : FileFault}
    (hread : readText fs path = .error cause) :
    settingsAt fs path = .error (.unreadable path cause) := by
  rw [settingsAt, hread]

/-- A file that is no document for settings is a fault. -/
theorem settingsAt_of_fault {fs : FileSystem} {path source : Text}
    {fault : Settings.DocumentFault} (hread : readText fs path = .ok source)
    (hdocument : Settings.ofDocument source = .error fault) :
    settingsAt fs path = .error (.undecodable path fault) := by
  rw [settingsAt, hread]
  simp only [hdocument]

/-- Settings that were decoded are checked. -/
theorem settingsAt_of_settings {fs : FileSystem} {path source : Text} {settings : Settings}
    (hread : readText fs path = .ok source)
    (hdocument : Settings.ofDocument source = .ok settings) :
    settingsAt fs path = settings.check.map fun _ => settings := by
  rw [settingsAt, hread]
  simp only [hdocument]

theorem readText_of_error {fs : FileSystem} {path : Text} {cause : FileFault}
    (h : fs.look path = .error cause) : readText fs path = .error cause := by
  rw [readText, FileSystem.read_of_error h]

/-- A directory is not a text. -/
theorem readText_of_directory {fs : FileSystem} {path : Text}
    (h : fs.look path = .ok .directory) : readText fs path = .error .isDirectory := by
  rw [readText, FileSystem.read_of_ok h]
  rfl

/-- A file that may not be read is not a text. -/
theorem readText_of_closed {fs : FileSystem} {path : Text} {cause : FileFault}
    (h : fs.look path = .ok (.closed cause)) : readText fs path = .error cause := by
  rw [readText, FileSystem.read_of_ok h]
  rfl

/-- A file is a text if its bytes are the encoding of one, -/
theorem readText_of_encode {fs : FileSystem} {path source : Text}
    (h : fs.read path = .ok (Utf8.encode source)) : readText fs path = .ok source := by
  rw [readText, h]
  show (Utf8.decode (Utf8.encode source)).mapError _ = _
  rw [Utf8.decode_encode]
  rfl

/-- and it is none if its bytes are the encoding of no text. -/
theorem readText_of_bytes {fs : FileSystem} {path : Text} {bytes : Bytes}
    (h : fs.look path = .ok (.file bytes)) (hbytes : ∀ source, bytes ≠ Utf8.encode source) :
    readText fs path = .error .notText := by
  obtain ⟨fault, hfault⟩ := Utf8.exists_fault_iff.mpr hbytes
  rw [readText, FileSystem.read_of_ok h]
  show (Utf8.decode bytes).mapError _ = _
  rw [hfault]
  rfl

/-- The settings that a file holds depend on nothing but its bytes. -/
theorem settingsAt_eq_of_read_eq {fs fs' : FileSystem} {path : Text}
    (h : fs'.read path = fs.read path) : settingsAt fs' path = settingsAt fs path := by
  rw [settingsAt, settingsAt, readText, readText, h]

/-- Nothing but the content of the chosen file counts. -/
theorem load_eq_of_read_eq {explicit : Option Text} {env : Environment} {fs fs' : FileSystem}
    {path : Text} (h : choose explicit env fs = some path)
    (h' : choose explicit env fs' = some path) (hread : fs'.read path = fs.read path) :
    load explicit env fs' = load explicit env fs := by
  rw [load_of_choose h, load_of_choose h', settingsAt_eq_of_read_eq hread]

/-- Settings that are loaded hold no blank tag. -/
theorem check_of_settingsAt {fs : FileSystem} {path : Text} {settings : Settings}
    (h : settingsAt fs path = .ok settings) : settings.hasNoBlankTag = true := by
  unfold settingsAt at h
  split at h
  · cases h
  · split at h
    · cases h
    · next found _ =>
      obtain ⟨_, hcheck, rfl⟩ := exists_of_map_eq_ok h
      cases hblank : settings.hasNoBlankTag with
      | true => rfl
      | false =>
        simp only [Settings.check, hblank] at hcheck
        cases hcheck

/-- Whatever is loaded has no blank tag. -/
theorem hasNoBlankTag_of_load {explicit : Option Text} {env : Environment} {fs : FileSystem}
    {c : Configuration} (h : load explicit env fs = .ok c) : c.settings.hasNoBlankTag = true := by
  cases hchoose : choose explicit env fs with
  | none =>
    rw [load_of_choose_none hchoose] at h
    cases h
    rfl
  | some path =>
    rw [load_of_choose hchoose] at h
    obtain ⟨settings, hsettings, rfl⟩ := exists_of_map_eq_ok h
    exact check_of_settingsAt hsettings

-- ---------------------------------------------------------------------------
-- Laws
-- ---------------------------------------------------------------------------

/-- Two file systems that are the same as far as one is searched: they agree on what
stands before the chosen file, and on the contents of that. -/
inductive Agree (env : Environment) (home : Text) (fs fs' : FileSystem) : Option Text → Prop where
  | explicit {path : Text} : fs'.read path = fs.read path → Agree env home fs fs' (some path)
  | first {before after : List Text} {path : Text} :
      usualPlaces env home = before ++ path :: after → (∀ p ∈ before, ¬ fs.Stands p) →
      fs.Stands path → (∀ p ∈ before, fs'.Stands p ↔ fs.Stands p) → fs'.Stands path →
      fs'.read path = fs.read path → Agree env home fs fs' none
  | vacant : (∀ p ∈ usualPlaces env home, ¬ fs.Stands p) →
      (∀ p ∈ usualPlaces env home, fs'.Stands p ↔ fs.Stands p) → Agree env home fs fs' none

/-- What loading comes to, for a user with a directory. -/
structure LoadLaws (env : Environment) (home : Text) (explicit : Option Text) (fs : FileSystem) :
    Prop where
  /-- Nothing to read is no fault. -/
  of_vacant : Chooses env home fs explicit none →
    load explicit env fs = .ok ⟨⟨none, none, []⟩, none, env.strict.isSome⟩
  /-- The chosen file is missing, or there is no way to it, -/
  of_missing : ∀ path cause, Chooses env home fs explicit (some path) →
    fs.look path = .error cause → load explicit env fs = .error (.unreadable path cause)
  /-- it is a directory, -/
  of_directory : ∀ path, Chooses env home fs explicit (some path) →
    fs.look path = .ok .directory → load explicit env fs = .error (.unreadable path .isDirectory)
  /-- the system does not let it be read, -/
  of_closed : ∀ path cause, Chooses env home fs explicit (some path) →
    fs.look path = .ok (.closed cause) → load explicit env fs = .error (.unreadable path cause)
  /-- its bytes are no text, -/
  of_bytes : ∀ path bytes, Chooses env home fs explicit (some path) →
    fs.look path = .ok (.file bytes) → (∀ source, bytes ≠ Utf8.encode source) →
    load explicit env fs = .error (.unreadable path .notText)
  /-- the text is no document of settings, -/
  of_document : ∀ path source fault, Chooses env home fs explicit (some path) →
    fs.look path = .ok (.file (Utf8.encode source)) → Settings.ofDocument source = .error fault →
    load explicit env fs = .error (.undecodable path fault)
  /-- it holds a blank tag, -/
  of_blank_tag : ∀ path source settings, Chooses env home fs explicit (some path) →
    fs.look path = .ok (.file (Utf8.encode source)) → Settings.ofDocument source = .ok settings →
    (∃ tag ∈ settings.metadata, ∀ c ∈ tag, isBlankChar c = true) →
    load explicit env fs = .error .blankTag
  /-- or its settings are those that are loaded. -/
  of_settings : ∀ path source settings, Chooses env home fs explicit (some path) →
    fs.look path = .ok (.file (Utf8.encode source)) → Settings.ofDocument source = .ok settings →
    (∀ tag ∈ settings.metadata, ∃ c ∈ tag, isBlankChar c = false) →
    load explicit env fs = .ok ⟨settings, some path, env.strict.isSome⟩
  /-- What is loaded names the chosen file, and its tags are not blank. -/
  of_success : ∀ c, load explicit env fs = .ok c →
    Chooses env home fs explicit c.loadedFrom ∧
      ∀ tag ∈ c.metadata, ∃ ch ∈ tag, isBlankChar ch = false
  /-- Nothing else counts. -/
  of_agreement : ∀ fs', Agree env home fs fs' explicit →
    load explicit env fs' = load explicit env fs

/-- Loading reads the explicit file or the first of the usual places where something
stands, and nothing else; it never falls back to another file. -/
theorem loadLaws {env : Environment} {home : Text} (hhome : env.home = some home)
    (hne : home ≠ []) (explicit : Option Text) (fs : FileSystem) :
    LoadLaws env home explicit fs where
  of_vacant h := load_of_choose_none ((choose_eq_iff hhome hne).mpr h)
  of_missing := by
    intro path cause h hlook
    rw [load_of_chooses hhome hne h, settingsAt_of_unreadable (readText_of_error hlook)]
    rfl
  of_directory := by
    intro path h hlook
    rw [load_of_chooses hhome hne h, settingsAt_of_unreadable (readText_of_directory hlook)]
    rfl
  of_closed := by
    intro path cause h hlook
    rw [load_of_chooses hhome hne h, settingsAt_of_unreadable (readText_of_closed hlook)]
    rfl
  of_bytes := by
    intro path bytes h hlook hbytes
    rw [load_of_chooses hhome hne h, settingsAt_of_unreadable (readText_of_bytes hlook hbytes)]
    rfl
  of_document := by
    intro path source fault h hlook hdocument
    have hread := readText_of_encode (FileSystem.read_of_ok hlook)
    rw [load_of_chooses hhome hne h, settingsAt_of_fault hread hdocument]
    rfl
  of_blank_tag := by
    intro path source settings h hlook hdocument hblank
    have hread := readText_of_encode (FileSystem.read_of_ok hlook)
    rw [load_of_chooses hhome hne h, settingsAt_of_settings hread hdocument,
      Settings.check_of_blank_tag hblank]
    rfl
  of_settings := by
    intro path source settings h hlook hdocument htags
    have hread := readText_of_encode (FileSystem.read_of_ok hlook)
    rw [load_of_chooses hhome hne h, settingsAt_of_settings hread hdocument,
      Settings.check_of_tags htags]
    rfl
  of_success := by
    intro c h
    refine ⟨(choose_eq_iff hhome hne).mp (origin_of_load h).1.symm, ?_⟩
    exact Settings.hasNoBlankTag_iff.mp (hasNoBlankTag_of_load h)
  of_agreement := by
    rintro fs' (⟨hread⟩ | ⟨hplaces, hbefore, hstands, hagree, hstands', hread⟩ | ⟨hnone, hagree⟩)
    · exact load_eq_of_read_eq rfl rfl hread
    · -- nothing stands before the chosen place in the other file system either
      have hbefore' : ∀ p ∈ _, ¬ fs'.Stands p := fun p hp hp' =>
        hbefore p hp ((hagree p hp).mp hp')
      exact load_eq_of_read_eq ((choose_eq_iff hhome hne).mpr (.first hplaces hbefore hstands))
        ((choose_eq_iff hhome hne).mpr (.first hplaces hbefore' hstands')) hread
    · have hnone' : ∀ p ∈ _, ¬ fs'.Stands p := fun p hp hp' => hnone p hp ((hagree p hp).mp hp')
      rw [load_of_choose_none ((choose_eq_iff hhome hne).mpr (.vacant hnone)),
        load_of_choose_none ((choose_eq_iff hhome hne).mpr (.vacant hnone'))]

/-- A directory in the first place is a fault, although a later place has a file that
would do, and does where the directory is missing. Both places are absolute paths. -/
theorem loadLaws_of_directory :
    load none { configHome := some "/x".toList, home := some "/home/u".toList }
        (Disk.ofFiles ["w".toList] [("/x/repo-ref/config.toml".toList, none),
          ("/home/u/.repo-ref/config.toml".toList,
            some (Utf8.encode "strict = true".toList))]).fileSystem =
      .error (.unreadable "/x/repo-ref/config.toml".toList .isDirectory) ∧
    load none { configHome := some "/x".toList, home := some "/home/u".toList }
        (Disk.ofFiles ["w".toList] [("/home/u/.repo-ref/config.toml".toList,
          some (Utf8.encode "strict = true".toList))]).fileSystem =
      .ok ⟨⟨some true, none, []⟩, some "/home/u/.repo-ref/config.toml".toList, false⟩ := by
  have hplaces : usualPlaces { configHome := some "/x".toList, home := some "/home/u".toList }
      "/home/u".toList =
      ["/x/repo-ref/config.toml".toList, "/home/u/.repo-ref/config.toml".toList] := rfl
  constructor
  · have hlook : (Disk.ofFiles ["w".toList] [("/x/repo-ref/config.toml".toList, none),
        ("/home/u/.repo-ref/config.toml".toList,
          some (Utf8.encode "strict = true".toList))]).fileSystem.look
          "/x/repo-ref/config.toml".toList = .ok .directory := by decide +kernel
    have hfirst : usualPlaces { configHome := some "/x".toList, home := some "/home/u".toList }
        "/home/u".toList =
        [] ++ "/x/repo-ref/config.toml".toList :: ["/home/u/.repo-ref/config.toml".toList] :=
      hplaces
    have hchosen := Chooses.first hfirst (by simp) ⟨_, hlook⟩
    exact (loadLaws rfl (by decide) none _).of_directory _ hchosen hlook
  · have hlook : (Disk.ofFiles ["w".toList] [("/home/u/.repo-ref/config.toml".toList,
        some (Utf8.encode "strict = true".toList))]).fileSystem.look
          "/home/u/.repo-ref/config.toml".toList =
          .ok (.file (Utf8.encode "strict = true".toList)) := by decide +kernel
    have hmissing : (Disk.ofFiles ["w".toList] [("/home/u/.repo-ref/config.toml".toList,
        some (Utf8.encode "strict = true".toList))]).fileSystem.look
          "/x/repo-ref/config.toml".toList = .error .notFound := by decide +kernel
    have hbefore : ∀ p ∈ ["/x/repo-ref/config.toml".toList], ¬ (Disk.ofFiles ["w".toList]
        [("/home/u/.repo-ref/config.toml".toList,
          some (Utf8.encode "strict = true".toList))]).fileSystem.Stands p := by
      intro p hp
      rw [List.mem_singleton] at hp
      subst hp
      rintro ⟨standing, hstanding⟩
      rw [hmissing] at hstanding
      cases hstanding
    have hsettings : Settings.ofDocument "strict = true".toList = .ok ⟨some true, none, []⟩ := by
      decide +kernel
    have hsecond : usualPlaces { configHome := some "/x".toList, home := some "/home/u".toList }
        "/home/u".toList =
        ["/x/repo-ref/config.toml".toList] ++ "/home/u/.repo-ref/config.toml".toList :: [] :=
      hplaces
    have hchosen := Chooses.first hsecond hbefore ⟨_, hlook⟩
    exact (loadLaws rfl (by decide) none _).of_settings _ _ _ hchosen hlook hsettings (by simp)

end Configuration

end RepoIdentity
