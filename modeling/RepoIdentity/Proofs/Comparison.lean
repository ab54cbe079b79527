import RepoIdentity.Proofs.Output
import RepoIdentity.Proofs.Sameness

/-!
# What a comparison says

Two references are compared with the tags of the configuration on both sides, and each
with tags of its own. Since tags count as sets, what the sides share masks differences and
never makes one: the verdict depends on the locators and on the tags that are not shared.
A text that names no reference is the failure, the first text before the second.

* `SameTags`, `Adds` — tags with the same members, and with one more;
* `Context.Answers`, `Context.answers_equal_iff` — the word that is the verdict, and when
  it is that the references are equal;
* `CompareLaws`, `compareLaws` — failures, verdicts and how they depend on the tags.
-/

namespace RepoIdentity

open CommandLine (Command Invocation)

-- ---------------------------------------------------------------------------
-- Tags as sets
-- ---------------------------------------------------------------------------

/-- The same tags, in whatever order and number. -/
def SameTags (a b : List Text) : Prop := ∀ t, t ∈ a ↔ t ∈ b

/-- The tags with `tag` among them, in whatever order and number. -/
def Adds (tag : Text) (tags more : List Text) : Prop := ∀ t, t ∈ more ↔ t = tag ∨ t ∈ tags

namespace SameTags

variable {a b a' b' : List Text}

theorem symm (h : SameTags a b) : SameTags b a := fun t => (h t).symm

theorem trans {d : List Text} (h : SameTags a b) (h' : SameTags b d) : SameTags a d :=
  fun t => (h t).trans (h' t)

/-- Tags with the same members may be put behind each other. -/
theorem append (h : SameTags a a') (h' : SameTags b b') : SameTags (a ++ b) (a' ++ b') := by
  intro t
  rw [List.mem_append, List.mem_append, h t, h' t]

/-- Tags of the same members may be put for each other on both sides. -/
theorem congr (h : SameTags a a') (h' : SameTags b b') : SameTags a b ↔ SameTags a' b' :=
  ⟨fun hab => h.symm.trans (hab.trans h'), fun hab => h.trans (hab.trans h'.symm)⟩

/-- One more tag on both sides makes no difference between them. -/
theorem adds {tag : Text} (h : SameTags a b) (ha : Adds tag a a') (hb : Adds tag b b') :
    SameTags a' b' := by
  intro t
  rw [ha t, hb t, h t]

end SameTags

/-- One more tag on the right is one more tag of all. -/
theorem Adds.append_right {tag : Text} {tags more : List Text} (h : Adds tag tags more)
    (shared : List Text) : Adds tag (shared ++ tags) (shared ++ more) := by
  intro t
  rw [List.mem_append, List.mem_append, h t]
  exact or_left_comm

/-- One more tag on the left is one more tag of all. -/
theorem Adds.append_left {tag : Text} {tags more : List Text} (h : Adds tag tags more)
    (given : List Text) : Adds tag (tags ++ given) (more ++ given) := by
  intro t
  rw [List.mem_append, List.mem_append, h t]
  exact or_assoc

-- ---------------------------------------------------------------------------
-- Verdicts
-- ---------------------------------------------------------------------------

namespace Context

/-- The context with other tags in its configuration. -/
def withTags (c : Context) (tags : List Text) : Context :=
  { c with configuration :=
    { c.configuration with settings := { c.configuration.settings with metadata := tags } } }

/-- The comparison of two texts succeeds, and the word is its verdict: unless more or less
is to be said, it writes that word and nothing else. -/
def Answers (c : Context) (first second : Text) (tagsFirst tagsSecond : List Text)
    (word : Text) : Prop :=
  (c.withVerbosity .normal).compare first second tagsFirst tagsSecond =
    ⟨[⟨.output, word ++ ['\n']⟩], .ok ()⟩

variable {c : Context} {first second : Text} {a b : Reference}

section

variable (ha : Reference.parse first c.mode = .ok a) (hb : Reference.parse second c.mode = .ok b)
  (tagsFirst tagsSecond : List Text)

include ha hb

/-- A reference that was read has no tags of its own, so that only those remain that it
is given here. -/
theorem sameAs_tagged_iff :
    (c.tagged a tagsFirst).sameAs (c.tagged b tagsSecond) = true ↔
      a.locator = b.locator ∧
        SameTags (c.configuration.metadata ++ tagsFirst)
          (c.configuration.metadata ++ tagsSecond) := by
  obtain ⟨locator, -, rfl⟩ := exists_of_map_eq_ok ha
  obtain ⟨locator', -, rfl⟩ := exists_of_map_eq_ok hb
  exact Reference.sameAs_iff

/-- Two texts that name references have a verdict. -/
theorem answers_iff {word : Text} :
    c.Answers first second tagsFirst tagsSecond word ↔
      word = verdict ((c.tagged a tagsFirst).sameAs (c.tagged b tagsSecond)) := by
  have hcompare : (c.withVerbosity .normal).compare first second tagsFirst tagsSecond =
      ⟨[⟨.output, verdict ((c.tagged a tagsFirst).sameAs (c.tagged b tagsSecond)) ++ ['\n']⟩],
        .ok ()⟩ :=
    compare_of_success (c := c.withVerbosity .normal) tagsFirst tagsSecond ha hb
  rw [Answers, hcompare]
  constructor
  · intro h
    injection h with hwrites _
    injection hwrites with hwrite _
    injection hwrite with _ htext
    exact (List.append_cancel_right htext).symm
  · rintro rfl
    rfl

/-- The verdict is that they are equal if the locators are and the tags agree. -/
theorem answers_equal_iff :
    c.Answers first second tagsFirst tagsSecond "equal".toList ↔
      a.locator = b.locator ∧
        SameTags (c.configuration.metadata ++ tagsFirst)
          (c.configuration.metadata ++ tagsSecond) := by
  have hword (same : Bool) : "equal".toList = verdict same ↔ same = true := by
    cases same <;> decide
  rw [answers_iff ha hb, hword, sameAs_tagged_iff ha hb]

/-- There is one other verdict. -/
theorem answers_different_iff :
    c.Answers first second tagsFirst tagsSecond "different".toList ↔
      ¬ c.Answers first second tagsFirst tagsSecond "equal".toList := by
  have hword (same : Bool) :
      "different".toList = verdict same ↔ ¬ "equal".toList = verdict same := by
    cases same <;> decide
  rw [answers_iff ha hb, answers_iff ha hb, hword]

end

/-- A comparison that succeeds has read both texts, and its verdict is one of two words. -/
theorem exists_of_answers {tagsFirst tagsSecond : List Text} {word : Text}
    (h : c.Answers first second tagsFirst tagsSecond word) :
    ∃ a b, Reference.parse first c.mode = .ok a ∧ Reference.parse second c.mode = .ok b ∧
      (word = "equal".toList ∨ word = "different".toList) := by
  cases ha : Reference.parse first c.mode with
  | error fault =>
    have hfails : (c.withVerbosity .normal).compare first second tagsFirst tagsSecond =
        ⟨[], .error (.compared .first first fault)⟩ :=
      compare_of_first_fault (c := c.withVerbosity .normal) tagsFirst tagsSecond ha second
    rw [Answers, hfails] at h
    cases h
  | ok a =>
    cases hb : Reference.parse second c.mode with
    | error fault =>
      have hfails : (c.withVerbosity .normal).compare first second tagsFirst tagsSecond =
          ⟨[], .error (.compared .second second fault)⟩ :=
        compare_of_second_fault (c := c.withVerbosity .normal) tagsFirst tagsSecond ha hb
      rw [Answers, hfails] at h
      cases h
    | ok b =>
      refine ⟨a, b, rfl, rfl, ?_⟩
      rw [(answers_iff ha hb tagsFirst tagsSecond).mp h, verdict]
      split
      · exact .inl rfl
      · exact .inr rfl

/-- The verdict depends on the locators and on the sets of tags. -/
theorem Answers.congr {c' : Context} {first' second' : Text}
    {tagsFirst tagsSecond tagsFirst' tagsSecond' : List Text} {a' b' : Reference} {word : Text}
    (h : c.Answers first second tagsFirst tagsSecond word)
    (ha : Reference.parse first c.mode = .ok a) (hb : Reference.parse second c.mode = .ok b)
    (ha' : Reference.parse first' c'.mode = .ok a') (hb' : Reference.parse second' c'.mode = .ok b')
    (hsame : (a.locator = b.locator ∧
        SameTags (c.configuration.metadata ++ tagsFirst) (c.configuration.metadata ++ tagsSecond)) ↔
      (a'.locator = b'.locator ∧
        SameTags (c'.configuration.metadata ++ tagsFirst')
          (c'.configuration.metadata ++ tagsSecond'))) :
    c'.Answers first' second' tagsFirst' tagsSecond' word := by
  rw [answers_iff ha hb] at h
  rw [answers_iff ha' hb', h]
  refine congrArg verdict (Bool.eq_iff_iff.mpr ?_)
  rw [sameAs_tagged_iff ha hb, sameAs_tagged_iff ha' hb', hsame]

end Context

-- ---------------------------------------------------------------------------
-- Laws
-- ---------------------------------------------------------------------------

/-- What the comparison of two texts says in a context. -/
structure CompareLaws (c : Context) : Prop where
  /-- If the first text names no reference, that is the failure, whatever else is given, and
  nothing is written. -/
  of_first_fault : ∀ first fault, Reference.parse first c.mode = .error fault →
    ∀ second tagsFirst tagsSecond, ∃ failure,
      c.compare first second tagsFirst tagsSecond = ⟨[], .error failure⟩ ∧
      ∀ w, failure.message w =
        "first reference '".toList ++ first ++ "': ".toList ++ fault.message
  of_second_fault : ∀ first second a fault, Reference.parse first c.mode = .ok a →
    Reference.parse second c.mode = .error fault → ∀ tagsFirst tagsSecond, ∃ failure,
      c.compare first second tagsFirst tagsSecond = ⟨[], .error failure⟩ ∧
      ∀ w, failure.message w =
        "second reference '".toList ++ second ++ "': ".toList ++ fault.message
  /-- If both do, they are equal if the locators are and the tags, together with those of
  the configuration, have the same members. -/
  verdict : ∀ first second a b, Reference.parse first c.mode = .ok a →
    Reference.parse second c.mode = .ok b → ∀ tagsFirst tagsSecond,
      (c.Answers first second tagsFirst tagsSecond "equal".toList ↔
        a.locator = b.locator ∧
          ∀ t, t ∈ c.configuration.metadata ++ tagsFirst ↔
            t ∈ c.configuration.metadata ++ tagsSecond) ∧
      (c.Answers first second tagsFirst tagsSecond "different".toList ↔
        ¬ c.Answers first second tagsFirst tagsSecond "equal".toList)
  comm : ∀ first second tagsFirst tagsSecond word,
    c.Answers first second tagsFirst tagsSecond word →
      c.Answers second first tagsSecond tagsFirst word
  /-- Neither the order nor the number of tags counts, wherever they come from. -/
  of_sameTags : ∀ first second tagsFirst tagsSecond tagsFirst' tagsSecond' shared word,
    SameTags c.configuration.metadata shared → SameTags tagsFirst tagsFirst' →
    SameTags tagsSecond tagsSecond' → c.Answers first second tagsFirst tagsSecond word →
      (c.withTags shared).Answers first second tagsFirst' tagsSecond' word
  /-- One more tag in the configuration, or on both sides, makes no difference. -/
  of_shared_tag : ∀ first second tagsFirst tagsSecond tag shared,
    Adds tag c.configuration.metadata shared →
    c.Answers first second tagsFirst tagsSecond "equal".toList →
      (c.withTags shared).Answers first second tagsFirst tagsSecond "equal".toList
  of_common_tag : ∀ first second tagsFirst tagsSecond tag tagsFirst' tagsSecond',
    Adds tag tagsFirst tagsFirst' → Adds tag tagsSecond tagsSecond' →
    c.Answers first second tagsFirst tagsSecond "equal".toList →
      c.Answers first second tagsFirst' tagsSecond' "equal".toList
  /-- A run in the context exits alike for both verdicts, and reports a failure. -/
  run : ∀ w args inv env fs configuration first second tagsFirst tagsSecond,
    Invocation.ofArguments args = .ok inv →
    inv.command = .compare first second tagsFirst tagsSecond →
    Configuration.load inv.config env fs = .ok configuration →
    c = Context.ofInvocation inv configuration →
      (∀ word, c.Answers first second tagsFirst tagsSecond word →
        (run w args env fs).exitCode = 0 ∧
          (run w args env fs).stdout = if inv.quiet then [] else word ++ ['\n']) ∧
      ∀ failure, (c.compare first second tagsFirst tagsSecond).result = .error failure →
        (run w args env fs).exitCode = 1 ∧ (run w args env fs).stdout = [] ∧
          (run w args env fs).stderr = noteLines inv.verbosity (openingNotes inv env configuration)
            ++ ("error: ".toList ++ failure.message w ++ ['\n'])

/-- What a comparison fails with is the fault of one of the texts, and it fails before
it writes. -/
theorem Context.compare_of_error {c : Context} {first second : Text}
    {tagsFirst tagsSecond : List Text} {failure : Failure}
    (h : (c.compare first second tagsFirst tagsSecond).result = .error failure) :
    c.compare first second tagsFirst tagsSecond = ⟨[], .error failure⟩ := by
  cases ha : Reference.parse first c.mode with
  | error fault =>
    have hfails := Context.compare_of_first_fault tagsFirst tagsSecond ha second
    rw [hfails] at h ⊢
    rw [← h]
  | ok a =>
    cases hb : Reference.parse second c.mode with
    | error fault =>
      have hfails := Context.compare_of_second_fault tagsFirst tagsSecond ha hb
      rw [hfails] at h ⊢
      rw [← h]
    | ok b =>
      rw [Context.compare_of_success tagsFirst tagsSecond ha hb] at h
      cases h

/-- A comparison says which text is at fault, or else whether the locators and the tags are
the same, whatever the verbosity, the order of the texts and the order of the tags. -/
theorem compareLaws (c : Context) : CompareLaws c where
  of_first_fault := by
    intro first fault h second tagsFirst tagsSecond
    exact ⟨_, Context.compare_of_first_fault tagsFirst tagsSecond h second, fun _ => rfl⟩
  of_second_fault := by
    intro first second a fault ha h tagsFirst tagsSecond
    exact ⟨_, Context.compare_of_second_fault tagsFirst tagsSecond ha h, fun _ => rfl⟩
  verdict := by
    intro first second a b ha hb tagsFirst tagsSecond
    exact ⟨Context.answers_equal_iff ha hb tagsFirst tagsSecond,
      Context.answers_different_iff ha hb tagsFirst tagsSecond⟩
  comm := by
    intro first second tagsFirst tagsSecond word h
    obtain ⟨a, b, ha, hb, -⟩ := Context.exists_of_answers h
    -- equality of locators and of tag sets is symmetric
    exact h.congr ha hb hb ha (and_congr eq_comm ⟨SameTags.symm, SameTags.symm⟩)
  of_sameTags := by
    intro first second tagsFirst tagsSecond tagsFirst' tagsSecond' shared word hshared hfirst
      hsecond h
    obtain ⟨a, b, ha, hb, -⟩ := Context.exists_of_answers h
    exact h.congr ha hb ha hb
      (and_congr_right' (SameTags.congr (hshared.append hfirst) (hshared.append hsecond)))
  of_shared_tag := by
    intro first second tagsFirst tagsSecond tag shared hshared h
    obtain ⟨a, b, ha, hb, -⟩ := Context.exists_of_answers h
    obtain ⟨hlocator, htags⟩ := (Context.answers_equal_iff ha hb tagsFirst tagsSecond).mp h
    refine (Context.answers_equal_iff (c := c.withTags shared) ha hb _ _).mpr ⟨hlocator, ?_⟩
    exact htags.adds (hshared.append_left tagsFirst) (hshared.append_left tagsSecond)
  of_common_tag := by
    intro first second tagsFirst tagsSecond tag tagsFirst' tagsSecond' hfirst hsecond h
    obtain ⟨a, b, ha, hb, -⟩ := Context.exists_of_answers h
    obtain ⟨hlocator, htags⟩ := (Context.answers_equal_iff ha hb tagsFirst tagsSecond).mp h
    refine (Context.answers_equal_iff ha hb _ _).mpr ⟨hlocator, ?_⟩
    exact htags.adds (hfirst.append_right _) (hsecond.append_right _)
  run := by
    rintro w args inv env fs configuration first second tagsFirst tagsSecond hargs hcommand hload
      rfl
    refine ⟨fun word h => ?_, fun failure h => ?_⟩
    · obtain ⟨a, b, ha, hb, -⟩ := Context.exists_of_answers h
      -- the verdict does not depend on the verbosity, which decides whether it is shown
      obtain rfl := (Context.answers_iff ha hb tagsFirst tagsSecond).mp h
      rw [mode_ofInvocation hload] at ha hb
      rw [run_of_execute hargs (execute_of_compared hcommand hload ha hb), textOn_print,
        if_verbosity_quiet]
      exact ⟨rfl, rfl⟩
    · have hsilent := Context.compare_of_error h
      have hexecute : inv.execute w env fs =
          ⟨notesAt inv.verbosity (openingNotes inv env configuration), .error failure⟩ := by
        refine execute_of_silent hload ?_
        rw [hcommand]
        exact hsilent
      rw [run_of_failure hargs hexecute]
      exact ⟨rfl, rfl, rfl⟩

/-- A tag of the configuration that one side has too makes no difference, which it does
without the configuration. -/
theorem compareLaws_of_masked_tag :
    (Context.mk .legacy .normal (.ofSettings ⟨none, none, ["ci".toList]⟩)).Answers "git://h/a/b".toList
        "git://h//a/b/?q".toList ["ci".toList, "ci".toList] [] "equal".toList ∧
      (Context.mk .legacy .normal (.ofSettings .empty)).Answers "git://h/a/b".toList
        "git://h//a/b/?q".toList ["ci".toList, "ci".toList] [] "different".toList := by
  have ha : Reference.parse "git://h/a/b".toList .legacy =
      .ok ⟨.hosted ⟨"h".toList, "a".toList, "b".toList⟩, []⟩ := by decide +kernel
  have hb : Reference.parse "git://h//a/b/?q".toList .legacy =
      .ok ⟨.hosted ⟨"h".toList, "a".toList, "b".toList⟩, []⟩ := by decide +kernel
  constructor
  · refine (((compareLaws _).verdict _ _ _ _ ha hb _ _).1).mpr ⟨rfl, fun t => ?_⟩
    show t ∈ ["ci".toList, "ci".toList, "ci".toList] ↔ t ∈ ["ci".toList]
    simp
  · obtain ⟨hequal, hdifferent⟩ :=
      (compareLaws (.mk .legacy .normal (.ofSettings .empty))).verdict _ _ _ _ ha hb
        ["ci".toList, "ci".toList] []
    refine hdifferent.mpr fun h => ?_
    exact absurd (((hequal.mp h).2 "ci".toList).mp List.mem_cons_self) List.not_mem_nil

end RepoIdentity
