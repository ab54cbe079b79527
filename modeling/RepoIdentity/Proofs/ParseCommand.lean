import RepoIdentity.Proofs.Lossless
import RepoIdentity.Proofs.Message
import RepoIdentity.Proofs.Steps

/-!
# What the parse command means

Every run of the command to parse a reference is settled by its steps: which of them
succeed decides the exit code, and what is written is the reference with all its tags, as a
document or as lines, or else the sentence for the first step that failed. Nothing is left
open of what is written: a document is read as JSON and says all about the reference, lines
are spelt out, and so is every sentence.

* `Reference.ToldBy`, `Reference.toldBy_iff` — the lines for a reader, spelt out;
* `ParseLaws`, `parseLaws` — exit code and both streams of every run of the command.
-/

namespace RepoIdentity

open CommandLine (Command Invocation textOfLines)

-- ---------------------------------------------------------------------------
-- Lines for a reader
-- ---------------------------------------------------------------------------

/-- The line for tags, which there is only if there are any. -/
def tagLines (tags : List Text) : List Text :=
  if tags = [] then [] else ["metadata: ".toList ++ Text.join ", ".toList tags]

/-- The text tells a reader about the reference, in one line for each thing. -/
inductive Reference.ToldBy : Text → Reference → Prop where
  | hosted (host owner name : Text) (tags : List Text) :
      ToldBy (textOfLines (["kind: url".toList, "host: ".toList ++ host, "owner: ".toList ++ owner,
          "name: ".toList ++ name, "url: ".toList ++ (host ++ '/' :: owner ++ '/' :: name),
          "key: ".toList ++ (host ++ '-' :: owner ++ '-' :: name)] ++ tagLines tags))
        ⟨.hosted ⟨host, owner, name⟩, tags⟩
  | directory (path : Text) (tags : List Text) :
      ToldBy (textOfLines (["kind: local directory".toList, "path: ".toList ++ path,
          "key: ".toList ++ path] ++ tagLines tags)) ⟨.directory path, tags⟩

/-- Lines joined by line feeds, with one more at the end, are lines each ended by one. -/
theorem join_feed {lines : List Text} (h : lines ≠ []) :
    Text.join ['\n'] lines ++ ['\n'] = textOfLines lines := by
  induction lines with
  | nil => exact absurd rfl h
  | cons line rest ih =>
    cases rest with
    | nil => simp [Text.join, textOfLines]
    | cons next rest =>
      have hjoin : Text.join ['\n'] (line :: next :: rest) =
          line ++ ['\n'] ++ Text.join ['\n'] (next :: rest) := by
        simp [Text.join]
      rw [hjoin, List.append_assoc, ih (List.cons_ne_nil _ _)]
      rfl

theorem lines_tags (tags : List Text) : (if tags.isEmpty then []
    else [Reference.fieldLine "metadata" (Text.join ", ".toList tags)]) = tagLines tags := by
  cases tags with
  | nil => rfl
  | cons tag tags => rfl

/-- The text that tells a reader about a reference is its description, with the line feed
that ends it. -/
theorem Reference.toldBy_iff {s : Text} {r : Reference} :
    ToldBy s r ↔ s = r.describe ++ ['\n'] := by
  have hlines : r.describe ++ ['\n'] = textOfLines r.lines := join_feed (List.cons_ne_nil _ _)
  rw [hlines]
  constructor
  · intro h
    cases h with
    | hosted host owner name tags =>
      rw [← lines_tags]
      rfl
    | directory path tags =>
      rw [← lines_tags]
      rfl
  · rintro rfl
    obtain ⟨locator, tags⟩ := r
    cases locator with
    | hosted repository =>
      have h := ToldBy.hosted repository.host repository.owner repository.name tags
      rw [← lines_tags] at h
      exact h
    | directory path =>
      have h := ToldBy.directory path tags
      rw [← lines_tags] at h
      exact h

-- ---------------------------------------------------------------------------
-- Laws
-- ---------------------------------------------------------------------------

/-- The outcome of the command: the steps decide the exit code, and what is written is
the reference with all its tags, or why the first step failed that did. -/
structure ParseLaws (w : Wording) (inv : Invocation) (env : Environment) (fs : FileSystem)
    (input : Text) (tags : List Text) (asked json : Bool) (outcome : Outcome) : Prop where
  exitCode_eq_zero_iff : outcome.exitCode = 0 ↔ ∃ c r, ParseAccepts inv env fs input asked c r
  /-- A document is read as JSON that says all about the reference, and every run shows it. -/
  stdout_of_json : json = true → ∀ c r, ParseAccepts inv env fs input asked c r →
    outcome.stdout = (c.tag r tags).toJson.print ++ ['\n'] ∧
      ∃ j, Json.Denotes (c.tag r tags).toJson.print j ∧ (c.tag r tags).DescribedBy j
  /-- Lines tell a reader about it, and a quiet run leaves them out. -/
  stdout_of_lines : json = false → ∀ c r, ParseAccepts inv env fs input asked c r →
    if inv.quiet then outcome.stdout = [] else (c.tag r tags).ToldBy outcome.stdout
  /-- Besides the reference there are no more than the notes of the run. -/
  stderr_of_accepts : ∀ c r, ParseAccepts inv env fs input asked c r →
    outcome.stderr = noteLines inv.verbosity (openingNotes inv env c ++ [parsedNote input r])
  exists_failure : outcome.exitCode ≠ 0 → ∃ failure, ParseFails inv env fs input asked failure
  /-- The first step to fail is reported, once and after the notes of the run. -/
  of_fails : ∀ failure, ParseFails inv env fs input asked failure →
    ∃ messages words, inv.Fails env fs messages failure ∧ failure.Says w words ∧
      outcome.exitCode = 1 ∧ outcome.stdout = [] ∧
      outcome.stderr = noteLines inv.verbosity messages ++ ("error: ".toList ++ words ++ ['\n'])

section

variable {w : Wording} {args : List Text} {inv : Invocation} {env : Environment} {fs : FileSystem}

/-- A run that fails after its notes leaves these and one report. -/
theorem run_of_failure {messages : List Text} {failure : Failure}
    (hargs : Invocation.ofArguments args = .ok inv)
    (h : inv.execute w env fs = ⟨notesAt inv.verbosity messages, .error failure⟩) :
    run w args env fs = ⟨1, [], noteLines inv.verbosity messages
      ++ ("error: ".toList ++ failure.message w ++ ['\n'])⟩ := by
  have hresult : (inv.execute w env fs).result = .error failure := by rw [h]
  rw [run_of_ofArguments hargs, Action.outcome_of_error hresult, h, textOn_output_notesAt,
    textOn_notesAt]

/-- A run that fails at a step leaves the notes before it and one report. -/
theorem run_of_fails {messages : List Text} {failure : Failure}
    (hargs : Invocation.ofArguments args = .ok inv) (h : inv.Fails env fs messages failure) :
    run w args env fs = ⟨1, [], noteLines inv.verbosity messages
      ++ ("error: ".toList ++ failure.message w ++ ['\n'])⟩ :=
  run_of_failure hargs (execute_of_fails h)

/-- A run that ends well with notes and then a text on the output. -/
theorem run_of_execute {messages : List Text} {rest : Action Unit}
    (hargs : Invocation.ofArguments args = .ok inv)
    (h : inv.execute w env fs = ⟨notesAt inv.verbosity messages ++ rest.writes, .ok ()⟩) :
    run w args env fs = ⟨0, textOn .output rest.writes,
      noteLines inv.verbosity messages ++ textOn .errors rest.writes⟩ := by
  have hresult : (inv.execute w env fs).result = .ok () := by rw [h]
  rw [run_of_ofArguments hargs, Action.outcome_of_ok hresult, h, textOn_append, textOn_append,
    textOn_output_notesAt, textOn_notesAt, List.nil_append]

/-- A message for the reader is on the output, unless the run is quiet. -/
theorem textOn_print (v : Verbosity) (message : Text) :
    textOn .output (v.print message).writes = if v = .quiet then [] else message ++ ['\n'] := by
  rw [Verbosity.print_eq]
  split
  · rfl
  · exact textOn_singleton _ _

theorem textOn_errors_print (v : Verbosity) (message : Text) :
    textOn .errors (v.print message).writes = [] := by
  rw [Verbosity.print_eq]
  split <;> rfl

/-- No part of a reference is written to the stream for errors. -/
theorem textOn_errors_emit (c : Context) (r : Reference) (json : Bool) :
    textOn .errors (c.emit r json).writes = [] := by
  cases json with
  | true => rfl
  | false => exact textOn_errors_print c.verbosity r.describe

/-- A run of the command whose steps succeed writes the reference with all its tags. -/
theorem run_of_accepts {input : Text} {tags : List Text} {asked json : Bool} {c : Configuration}
    {r : Reference} (hargs : Invocation.ofArguments args = .ok inv)
    (hcommand : inv.command = .parse input tags asked json)
    (h : ParseAccepts inv env fs input asked c r) :
    run w args env fs =
      ⟨0, textOn .output ((Context.ofInvocation inv c).emit (c.tag r tags) json).writes,
        noteLines inv.verbosity (openingNotes inv env c ++ [parsedNote input r])⟩ := by
  rw [run_of_execute hargs (execute_of_accepts hcommand h), textOn_errors_emit, List.append_nil]

end

/-- A run of the command to parse a reference does what its steps say, and writes no more. -/
theorem parseLaws {args : List Text} {inv : Invocation} {input : Text} {tags : List Text}
    {asked json : Bool} (hargs : Invocation.ofArguments args = .ok inv)
    (hcommand : inv.command = .parse input tags asked json) (w : Wording) (env : Environment)
    (fs : FileSystem) :
    ParseLaws w inv env fs input tags asked json (run w args env fs) where
  exitCode_eq_zero_iff := by
    constructor
    · intro hzero
      rcases accepts_or_fails inv env fs input asked with haccepts | ⟨failure, hfails⟩
      · exact haccepts
      · obtain ⟨messages, h⟩ := exists_fails_of_parse hcommand hfails
        rw [run_of_fails hargs h] at hzero
        cases hzero
    · rintro ⟨c, r, haccepts⟩
      rw [run_of_accepts hargs hcommand haccepts]
  stdout_of_json := by
    rintro rfl c r haccepts
    rw [run_of_accepts hargs hcommand haccepts]
    refine ⟨Context.stdout_emit (Context.ofInvocation inv c) _, (c.tag r tags).toJson, ?_,
      Reference.describedBy_toJson _⟩
    have hdenotes : Json.Denotes ((c.tag r tags).toJson.print ++ []) (c.tag r tags).toJson :=
      Json.denotes_print (c.tag r tags).toJson rfl
    rwa [List.append_nil] at hdenotes
  stdout_of_lines := by
    rintro rfl c r haccepts
    rw [run_of_accepts hargs hcommand haccepts]
    -- lines go through the verbosity, which shows them unless the run is quiet
    have hshown : textOn .output ((Context.ofInvocation inv c).emit (c.tag r tags) false).writes =
        if inv.quiet then [] else (c.tag r tags).describe ++ ['\n'] :=
      (textOn_print inv.verbosity _).trans (if_verbosity_quiet inv _ _)
    rw [hshown]
    split
    · rfl
    · exact Reference.toldBy_iff.mpr rfl
  stderr_of_accepts := by
    intro c r haccepts
    rw [run_of_accepts hargs hcommand haccepts]
  exists_failure := by
    intro hne
    rcases accepts_or_fails inv env fs input asked with ⟨c, r, haccepts⟩ | hfails
    · rw [run_of_accepts hargs hcommand haccepts] at hne
      exact absurd rfl hne
    · exact hfails
  of_fails := by
    intro failure hfails
    obtain ⟨messages, h⟩ := exists_fails_of_parse hcommand hfails
    rw [run_of_fails hargs h]
    exact ⟨messages, failure.message w, h, failure.says_message w, rfl, rfl, rfl⟩

/-- The configuration asks for the check, which a directory does not come to and an
address for a host does not stand. -/
theorem parseLaws_of_directory :
    (run .builtIn ["parse".toList, "--metadata=x".toList, "file:///d".toList]
        { configPath := some "/c".toList, strict := some [] }
        (Disk.ofFiles ["w".toList] [("/c".toList,
          some (Utf8.encode "validate = true\nmetadata = ['ci']".toList))]).fileSystem).stdout =
      "kind: local directory\npath: /d\nkey: /d\nmetadata: ci, x\n".toList ∧
    (run .builtIn ["parse".toList, "https://[::1]/o/n".toList]
        { configPath := some "/c".toList, strict := some [] }
        (Disk.ofFiles ["w".toList] [("/c".toList,
          some (Utf8.encode "validate = true\nmetadata = ['ci']".toList))]).fileSystem).exitCode =
      1 := by
  have hload : Configuration.load none { configPath := some "/c".toList, strict := some [] }
      (Disk.ofFiles ["w".toList] [("/c".toList,
        some (Utf8.encode "validate = true\nmetadata = ['ci']".toList))]).fileSystem =
      .ok ⟨⟨none, some true, ["ci".toList]⟩, some "/c".toList, true⟩ := by
    decide +kernel
  constructor
  · have hargs : Invocation.ofArguments
        ["parse".toList, "--metadata=x".toList, "file:///d".toList] =
        .ok ⟨false, false, false, none, .parse "file:///d".toList ["x".toList] false false⟩ := rfl
    have hparse : Reference.parse "file:///d".toList .strict =
        .ok ⟨.directory "/d".toList, []⟩ := by decide +kernel
    have htold := (parseLaws hargs rfl .builtIn _ _).stdout_of_lines rfl _ _ ⟨hload, hparse, by
      rintro (hasked | ⟨-, repository, hrepository⟩)
      · cases hasked
      · cases hrepository⟩
    exact (Reference.toldBy_iff.mp htold).trans rfl
  · have hargs : Invocation.ofArguments ["parse".toList, "https://[::1]/o/n".toList] =
        .ok ⟨false, false, false, none, .parse "https://[::1]/o/n".toList [] false false⟩ := rfl
    have hparse : Reference.parse "https://[::1]/o/n".toList .strict =
        .ok ⟨.hosted ⟨"[::1]".toList, "o".toList, "n".toList⟩, []⟩ := by decide +kernel
    obtain ⟨messages, words, -, -, hone, -⟩ := (parseLaws hargs rfl .builtIn _ _).of_fails _
      (.validation hload hparse (Or.inr ⟨rfl, _, rfl⟩) rfl)
    exact hone

end RepoIdentity
