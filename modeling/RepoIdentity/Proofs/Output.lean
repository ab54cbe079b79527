import RepoIdentity.Proofs.Flags
import RepoIdentity.Proofs.ParseCommand

/-!
# What a run writes

Every handler writes as it goes on, so that the discipline of a run is one of all its
handlers: none writes to the output before its last step that can fail, none lets the
verbosity decide what it does, and none says anything in a quiet run but the document that
it was asked for. A failure is reported once, after the notes that were written before it.

* `InOrder`, `inOrder_of_completes` — what goes to the output comes last, and at once;
* `run_quiet_of_completes` — what a quiet run leaves behind that succeeds;
* `QuietLaws`, `quietLaws` — quiet runs, with what is written tied to what was asked;
* `OutputLaws`, `outputLaws` — every run, and runs of the same command line with flags in
  front of it.
-/

namespace RepoIdentity

open CommandLine (Command Invocation Refusal Switch)

-- ---------------------------------------------------------------------------
-- Order
-- ---------------------------------------------------------------------------

/-- All that is written for the user's attention comes first, and at most one text is
written to the output after it. -/
def InOrder (writes : List Write) : Prop :=
  ∃ before after, writes = before ++ after ∧ (∀ x ∈ before, x.stream = .errors) ∧
    (∀ x ∈ after, x.stream = .output) ∧ after.length ≤ 1

/-- Notes go to the stream for errors. -/
theorem stream_of_mem_notesAt {v : Verbosity} {messages : List Text} {x : Write}
    (h : x ∈ notesAt v messages) : x.stream = .errors := by
  by_cases hdebug : v = .debug
  · rw [notesAt, if_pos hdebug] at h
    obtain ⟨message, -, rfl⟩ := List.mem_map.mp h
    rfl
  · rw [notesAt_of_ne v hdebug] at h
    cases h

/-- Nothing, or one text on the output. -/
theorem print_writes_cases (v : Verbosity) (message : Text) :
    (v.print message).writes = [] ∨ ∃ s, (v.print message).writes = [⟨.output, s⟩] := by
  rw [Verbosity.print_eq]
  split
  · exact .inl rfl
  · exact .inr ⟨_, rfl⟩

/-- A reference comes to nothing, or to one text on the output. -/
theorem emit_writes_cases (c : Context) (r : Reference) (json : Bool) :
    (c.emit r json).writes = [] ∨ ∃ s, (c.emit r json).writes = [⟨.output, s⟩] := by
  cases json with
  | true => exact .inr ⟨_, rfl⟩
  | false => exact print_writes_cases c.verbosity r.describe

/-- A warning goes to the stream for errors. -/
theorem stream_of_mem_warnOfAbsence {c : Context} {fs : FileSystem} {path : Text} {x : Write}
    (h : x ∈ (c.warnOfAbsence fs path).writes) : x.stream = .errors := by
  unfold Context.warnOfAbsence Verbosity.warn at h
  split at h
  · cases h
  · split at h
    · cases h
    · obtain rfl := List.mem_singleton.mp h
      rfl

/-- Texts for the user's attention are in order with at most one text on the output after them. -/
theorem InOrder.intro {before after : List Write} (hbefore : ∀ x ∈ before, x.stream = .errors)
    (hafter : after = [] ∨ ∃ s, after = [⟨.output, s⟩]) : InOrder (before ++ after) := by
  refine ⟨before, after, rfl, hbefore, ?_⟩
  rcases hafter with rfl | ⟨s, rfl⟩
  · simp
  · simp

section

variable {w : Wording} {args : List Text} {inv : Invocation} {env : Environment} {fs : FileSystem}

/-- A run that completes writes to the output last, and at once. -/
theorem inOrder_of_completes (h : inv.Completes env fs) :
    InOrder (inv.execute w env fs).writes := by
  cases h with
  | parse hcommand haccepts =>
    rw [execute_of_accepts hcommand haccepts]
    exact .intro (fun _ => stream_of_mem_notesAt) (emit_writes_cases _ _ _)
  | describe hcommand hload =>
    rw [execute_of_describe hcommand hload]
    dsimp only
    rw [← List.append_assoc]
    refine .intro (fun x hx => ?_) (emit_writes_cases _ _ _)
    rcases List.mem_append.mp hx with hnote | hwarning
    · exact stream_of_mem_notesAt hnote
    · exact stream_of_mem_warnOfAbsence hwarning
  | validate hcommand haccepts =>
    obtain ⟨repository, -, -, -, hexecute⟩ := execute_of_confirmed (w := w) hcommand haccepts
    rw [hexecute]
    exact .intro (fun _ => stream_of_mem_notesAt) (print_writes_cases _ _)
  | compare hcommand hload ha hb =>
    rw [execute_of_compared hcommand hload ha hb]
    exact .intro (fun _ => stream_of_mem_notesAt) (print_writes_cases _ _)
  | completion hcommand hload =>
    rw [execute_of_completion hcommand hload]
    exact .intro (fun _ => stream_of_mem_notesAt) (.inr ⟨_, rfl⟩)

-- ---------------------------------------------------------------------------
-- Quiet runs
-- ---------------------------------------------------------------------------

theorem verbosity_of_quiet (h : inv.quiet = true) : inv.verbosity = .quiet :=
  verbosity_eq_quiet_iff.mpr h

/-- A quiet run notes nothing. -/
theorem noteLines_quiet (h : inv.quiet = true) (messages : List Text) :
    noteLines inv.verbosity messages = [] := by
  refine noteLines_of_ne _ ?_ messages
  rw [verbosity_of_quiet h]
  decide

/-- A quiet run leaves lines out. -/
theorem writes_print_quiet (h : inv.quiet = true) (message : Text) :
    (inv.verbosity.print message).writes = [] := by
  rw [verbosity_of_quiet h]
  rfl

/-- A quiet run does not warn. -/
theorem writes_warnOfAbsence_quiet (h : inv.quiet = true) (c : Configuration) (path : Text) :
    ((Context.ofInvocation inv c).warnOfAbsence fs path).writes = [] := by
  have hwarn (message : Text) : (inv.verbosity.warn message).writes = [] := by
    rw [verbosity_of_quiet h]
    rfl
  unfold Context.warnOfAbsence
  split
  · rfl
  · exact hwarn _

/-- A quiet run writes the reference as a document if it was asked for one. -/
theorem textOn_emit_quiet (h : inv.quiet = true) (c : Configuration) (r : Reference)
    (json : Bool) : textOn .output ((Context.ofInvocation inv c).emit r json).writes =
      if json then r.toJson.print ++ ['\n'] else [] := by
  cases json with
  | true => exact Context.stdout_emit _ _
  | false =>
    show textOn .output (inv.verbosity.print r.describe).writes = []
    rw [writes_print_quiet h]
    rfl

/-- A quiet run that completes leaves the document that it was asked for, or nothing. -/
theorem run_quiet_of_completes (hargs : Invocation.ofArguments args = .ok inv)
    (hquiet : inv.quiet = true) (hcommand : inv.command.isCompletion = false)
    (h : inv.Completes env fs) :
    (inv.command.wantsJson = false ∧ run w args env fs = ⟨0, [], []⟩) ∨
      inv.command.wantsJson = true ∧ ∃ r, inv.Presents env fs r ∧
        run w args env fs = ⟨0, r.toJson.print ++ ['\n'], []⟩ := by
  -- of all that a command writes, a quiet run keeps documents
  cases h with
  | @parse c input tags asked json r hparse haccepts =>
    have hrun := run_of_accepts (w := w) hargs hparse haccepts
    rw [noteLines_quiet hquiet, textOn_emit_quiet hquiet] at hrun
    have hjson : inv.command.wantsJson = json := by rw [hparse]; rfl
    cases json with
    | false => exact .inl ⟨hjson, hrun⟩
    | true => exact .inr ⟨hjson, _, .parsed hparse haccepts, hrun⟩
  | @describe c path tags json hdescribe hload =>
    have hexecute := execute_of_describe (w := w) hdescribe hload
    rw [writes_warnOfAbsence_quiet hquiet, List.nil_append] at hexecute
    have hrun := run_of_execute hargs hexecute
    rw [noteLines_quiet hquiet, textOn_emit_quiet hquiet, textOn_errors_emit] at hrun
    have hjson : inv.command.wantsJson = json := by rw [hdescribe]; rfl
    cases json with
    | false => exact .inl ⟨hjson, hrun⟩
    | true => exact .inr ⟨hjson, _, .described hdescribe hload, hrun⟩
  | validate hvalidate haccepts =>
    obtain ⟨repository, -, -, -, hexecute⟩ := execute_of_confirmed (w := w) hvalidate haccepts
    have hrun := run_of_execute hargs hexecute
    rw [noteLines_quiet hquiet, writes_print_quiet hquiet] at hrun
    exact .inl ⟨by rw [hvalidate]; rfl, hrun⟩
  | compare hcompare hload ha hb =>
    have hrun := run_of_execute hargs (execute_of_compared (w := w) hcompare hload ha hb)
    rw [noteLines_quiet hquiet, writes_print_quiet hquiet] at hrun
    exact .inl ⟨by rw [hcompare]; rfl, hrun⟩
  | completion hcompletion hload =>
    rw [hcompletion] at hcommand
    cases hcommand

end

/-- What a quiet run of a command leaves behind. -/
structure QuietLaws (w : Wording) (inv : Invocation) (env : Environment) (fs : FileSystem)
    (outcome : Outcome) : Prop where
  stderr_of_success : outcome.exitCode = 0 → outcome.stderr = []
  stdout_of_lines : outcome.exitCode = 0 → inv.command.wantsJson = false → outcome.stdout = []
  /-- The document of the reference that the command was to show, and nothing else. -/
  stdout_of_json : outcome.exitCode = 0 → inv.command.wantsJson = true →
    ∃ r j, inv.Presents env fs r ∧ outcome.stdout = r.toJson.print ++ ['\n'] ∧
      Json.Denotes r.toJson.print j ∧ r.DescribedBy j
  /-- The report of the first step to fail, and nothing else. -/
  of_failure : outcome.exitCode ≠ 0 →
    ∃ messages failure words, inv.Fails env fs messages failure ∧ failure.Says w words ∧
      outcome.stdout = [] ∧ outcome.stderr = "error: ".toList ++ words ++ ['\n']

/-- A quiet run says nothing but the document that it was asked for, or why it fails. -/
theorem quietLaws {args : List Text} {inv : Invocation}
    (hargs : Invocation.ofArguments args = .ok inv) (hquiet : inv.quiet = true)
    (hcommand : inv.command.isCompletion = false) (w : Wording) (env : Environment)
    (fs : FileSystem) : QuietLaws w inv env fs (run w args env fs) := by
  rcases fails_or_completes inv env fs with ⟨messages, failure, hfails⟩ | hcompletes
  · have hrun := run_of_fails (w := w) hargs hfails
    rw [noteLines_quiet hquiet] at hrun
    rw [hrun]
    refine ⟨nofun, nofun, nofun, fun _ => ?_⟩
    exact ⟨messages, failure, failure.message w, hfails, failure.says_message w, rfl, rfl⟩
  · rcases run_quiet_of_completes (w := w) hargs hquiet hcommand hcompletes with
      ⟨hlines, hrun⟩ | ⟨hjson, r, hpresents, hrun⟩
    · rw [hrun]
      refine ⟨fun _ => rfl, fun _ _ => rfl, fun _ hjson => ?_, fun hne => absurd rfl hne⟩
      rw [hlines] at hjson
      cases hjson
    · rw [hrun]
      refine ⟨fun _ => rfl, fun _ hlines => ?_, fun _ _ => ?_, fun hne => absurd rfl hne⟩
      · rw [hjson] at hlines
        cases hlines
      · have hdenotes : Json.Denotes (r.toJson.print ++ []) r.toJson :=
          Json.denotes_print r.toJson rfl
        rw [List.append_nil] at hdenotes
        exact ⟨r, r.toJson, hpresents, rfl, hdenotes, r.describedBy_toJson⟩

-- ---------------------------------------------------------------------------
-- Flags in front of the arguments
-- ---------------------------------------------------------------------------

/-- What is put in front of a command line to make a run quiet. -/
def quietFronts : List (List Text) :=
  [["--quiet".toList], ["--quiet".toList, "--debug".toList], ["--debug".toList, "--quiet".toList]]

/-- A quiet front changes how much is said, and nothing else. -/
theorem ofArguments_quietFront {args front : List Text} {inv : Invocation}
    (h : Invocation.ofArguments args = .ok inv) (hdebug : inv.debug = false)
    (hquiet : inv.quiet = false) (hfront : front ∈ quietFronts) :
    ∃ loud, Invocation.ofArguments (front ++ args) =
      .ok { inv with debug := loud, quiet := true } := by
  have hdebugged := Invocation.ofArguments_cons (s := .debug) (by decide) h hdebug
  have hquieted := Invocation.ofArguments_cons (s := .quiet) (by decide) h hquiet
  simp only [quietFronts, List.mem_cons, List.not_mem_nil, or_false] at hfront
  rcases hfront with rfl | rfl | rfl
  · refine ⟨false, ?_⟩
    rw [← hdebug]
    exact hquieted
  · exact ⟨true, Invocation.ofArguments_cons (s := .quiet) (by decide) hdebugged hquiet⟩
  · exact ⟨true, Invocation.ofArguments_cons (s := .debug) (by decide) hquieted hdebug⟩

/-- Which step fails first does not depend on how much is to be said, -/
theorem CommandLine.Invocation.Fails.of_flags {inv : Invocation} {quiet debug : Bool}
    {env : Environment} {fs : FileSystem} {messages : List Text} {failure : Failure}
    (h : { inv with quiet := quiet, debug := debug }.Fails env fs messages failure) :
    inv.Fails env fs messages failure := by
  cases h with
  | configuration hload => exact .configuration hload
  | parse hcommand hload hparse => exact .parse hcommand hload hparse
  | parseCheck hcommand hload hparse hasks hcheck =>
    exact .parseCheck hcommand hload hparse hasks hcheck
  | validate hcommand hload hparse => exact .validate hcommand hload hparse
  | validateCheck hcommand hload hparse hcheck =>
    exact .validateCheck hcommand hload hparse hcheck
  | first hcommand hload hparse => exact .first hcommand hload hparse
  | second hcommand hload ha hparse => exact .second hcommand hload ha hparse

/-- and neither does the reference that is shown. -/
theorem CommandLine.Invocation.Presents.of_flags {inv : Invocation} {quiet debug : Bool}
    {env : Environment} {fs : FileSystem} {r : Reference}
    (h : { inv with quiet := quiet, debug := debug }.Presents env fs r) :
    inv.Presents env fs r := by
  cases h with
  | parsed hcommand haccepts =>
    exact .parsed hcommand ⟨haccepts.loads, haccepts.parses, haccepts.validates⟩
  | described hcommand hload => exact .described hcommand hload

/-- What is known of a quiet run does not depend on how it was asked to be quiet. -/
theorem QuietLaws.of_flags {w : Wording} {inv : Invocation} {quiet debug : Bool}
    {env : Environment} {fs : FileSystem} {outcome : Outcome}
    (h : QuietLaws w { inv with quiet := quiet, debug := debug } env fs outcome) :
    QuietLaws w inv env fs outcome where
  stderr_of_success := h.stderr_of_success
  stdout_of_lines := h.stdout_of_lines
  stdout_of_json := by
    intro hzero hjson
    obtain ⟨r, j, hpresents, hrest⟩ := h.stdout_of_json hzero hjson
    exact ⟨r, j, hpresents.of_flags, hrest⟩
  of_failure := by
    intro hne
    obtain ⟨messages, failure, words, hfails, hrest⟩ := h.of_failure hne
    exact ⟨messages, failure, words, hfails.of_flags, hrest⟩

-- ---------------------------------------------------------------------------
-- Laws
-- ---------------------------------------------------------------------------

/-- Arguments that are refused come with an answer on the output and no failure, or with
none. -/
theorem outcome_refusal (w : Wording) (args : List Text) (refusal : Refusal) :
    (refusal.transcript w args).outcome.exitCode = 0 ∨
      (refusal.transcript w args).outcome.exitCode = 2 ∧
        (refusal.transcript w args).outcome.stdout = [] := by
  cases refusal with
  | help topic => exact Or.inl rfl
  | version => exact Or.inl rfl
  | _ => exact Or.inr ⟨rfl, rfl⟩

/-- The discipline of all runs of a command line. -/
structure OutputLaws (w : Wording) (args : List Text) (env : Environment) (fs : FileSystem) :
    Prop where
  /-- A run that fails has no output, -/
  stdout_of_failure : (run w args env fs).exitCode ≠ 0 → (run w args env fs).stdout = []
  /-- and one that gets as far as a command writes its notes and then, once and last, the
  report of the first step that failed. -/
  of_failure : (run w args env fs).exitCode = 1 → ∃ inv messages failure words,
    Invocation.ofArguments args = .ok inv ∧ inv.Fails env fs messages failure ∧
      failure.Says w words ∧
      (transcript w args env fs).writes = notesAt inv.verbosity messages
        ++ [⟨.errors, "error: ".toList ++ words ++ ['\n']⟩] ∧
      (run w args env fs).stderr = noteLines inv.verbosity messages
        ++ ("error: ".toList ++ words ++ ['\n'])
  /-- A run that succeeds writes to the output at once and last. -/
  order : ∀ inv, Invocation.ofArguments args = .ok inv → (run w args env fs).exitCode = 0 →
    InOrder (transcript w args env fs).writes
  /-- Debugging changes neither output nor exit code. -/
  of_debug : ∀ inv, Invocation.ofArguments args = .ok inv → inv.debug = false →
    inv.quiet = false →
    (run w ("--debug".toList :: args) env fs).stdout = (run w args env fs).stdout ∧
      (run w ("--debug".toList :: args) env fs).exitCode = (run w args env fs).exitCode
  /-- Being quiet does not change the exit code. Documents are left as they are, and
  nothing else is said but why a run fails. -/
  of_quiet_front : ∀ inv, Invocation.ofArguments args = .ok inv → inv.debug = false →
    inv.quiet = false → ∀ front ∈ quietFronts,
      (run w (front ++ args) env fs).exitCode = (run w args env fs).exitCode ∧
      (inv.command.isCompletion = false →
        QuietLaws w inv env fs (run w (front ++ args) env fs)) ∧
      (inv.command.wantsJson = true →
        (run w (front ++ args) env fs).stdout = (run w args env fs).stdout)
  /-- The same holds wherever the flag stands. -/
  of_quiet : ∀ inv, Invocation.ofArguments args = .ok inv → inv.quiet = true →
    inv.command.isCompletion = false → QuietLaws w inv env fs (run w args env fs)

/-- No handler writes to the output before its last step that can fail, and the verbosity
decides about nothing but what is shown. -/
theorem outputLaws (w : Wording) (args : List Text) (env : Environment) (fs : FileSystem) :
    OutputLaws w args env fs where
  stdout_of_failure := by
    intro hne
    -- refused arguments are answered on the output and exit well, or say nothing there
    cases hargs : Invocation.ofArguments args with
    | error refusal =>
      have hrun : run w args env fs = (refusal.transcript w args).outcome := by
        rw [run, transcript, hargs]
      rw [hrun] at hne ⊢
      rcases outcome_refusal w args refusal with hzero | ⟨-, hempty⟩
      · exact absurd hzero hne
      · exact hempty
    | ok inv =>
      rcases fails_or_completes inv env fs with ⟨messages, failure, hfails⟩ | hcompletes
      · rw [run_of_fails hargs hfails]
      · rw [run_of_ofArguments hargs, Action.outcome_of_ok (result_of_completes hcompletes)] at hne
        exact absurd rfl hne
  of_failure := by
    intro hone
    cases hargs : Invocation.ofArguments args with
    | error refusal =>
      have hrun : run w args env fs = (refusal.transcript w args).outcome := by
        rw [run, transcript, hargs]
      rw [hrun] at hone
      rcases outcome_refusal w args refusal with hzero | ⟨htwo, -⟩
      · rw [hzero] at hone
        cases hone
      · rw [htwo] at hone
        cases hone
    | ok inv =>
      rcases fails_or_completes inv env fs with ⟨messages, failure, hfails⟩ | hcompletes
      · have hexecute := execute_of_fails (w := w) hfails
        refine ⟨inv, messages, failure, failure.message w, rfl, hfails, failure.says_message w,
          ?_, ?_⟩
        · rw [transcript_of_ofArguments hargs, Action.transcript, hexecute]
          rfl
        · rw [run_of_fails hargs hfails]
      · rw [run_of_ofArguments hargs, Action.outcome_of_ok (result_of_completes hcompletes)] at hone
        cases hone
  order := by
    intro inv hargs hzero
    rcases fails_or_completes inv env fs with ⟨messages, failure, hfails⟩ | hcompletes
    · rw [run_of_fails hargs hfails] at hzero
      cases hzero
    · rw [transcript_of_ofArguments hargs, Action.transcript, result_of_completes hcompletes]
      exact inOrder_of_completes hcompletes
  of_debug := by
    intro inv hargs hdebug hquiet
    have hfront := Invocation.ofArguments_cons (s := .debug) (by decide) hargs hdebug
    -- neither run is quiet, so that lines are shown in both
    have hnot : ¬ inv.quiet = true := by
      rw [hquiet]
      decide
    have hsimilar : Similar true (inv.execute w env fs)
        ((inv.withFlag .debug).execute w env fs) := by
      refine inv.similar_execute w inv.quiet true env fs fun _ _ => ⟨?_, ?_⟩
      · exact fun hv => hnot (verbosity_eq_quiet_iff.mp hv)
      · rw [hquiet]
        decide
    have hrun : run w ("--debug".toList :: args) env fs =
        (((inv.withFlag .debug).execute w env fs).transcript w).outcome :=
      run_of_ofArguments hfront
    rw [hrun, run_of_ofArguments hargs]
    exact ⟨(Action.stdout_of_similar hsimilar).symm, (Action.exitCode_of_similar hsimilar).symm⟩
  of_quiet_front := by
    intro inv hargs hdebug hquiet front hfront
    obtain ⟨loud, hquieted⟩ := ofArguments_quietFront hargs hdebug hquiet hfront
    refine ⟨?_, fun hcommand => ?_, fun hjson => ?_⟩
    · have hsimilar : Similar false (inv.execute w env fs)
          ({ inv with debug := loud, quiet := true }.execute w env fs) :=
        inv.similar_execute w true loud env fs fun hkept => absurd hkept Bool.false_ne_true
      rw [run_of_ofArguments hquieted, run_of_ofArguments hargs]
      exact (Action.exitCode_of_similar hsimilar).symm
    · have hlaws := quietLaws hquieted rfl hcommand w env fs
      exact hlaws.of_flags
    · have hsimilar : Similar true (inv.execute w env fs)
          ({ inv with debug := loud, quiet := true }.execute w env fs) := by
        refine inv.similar_execute w true loud env fs fun _ hlines => ?_
        rw [hjson] at hlines
        cases hlines
      rw [run_of_ofArguments hquieted, run_of_ofArguments hargs]
      exact (Action.stdout_of_similar hsimilar).symm
  of_quiet := fun _ hargs hquiet hcommand => quietLaws hargs hquiet hcommand w env fs

/-- The second of two references is at fault: a quiet run has the same exit code, and
reports that alone. -/
theorem outputLaws_of_second_fault :
    (run .builtIn ["--quiet".toList, "--strict".toList, "compare".toList, "file:///a".toList,
        "b".toList] {} (Disk.ofFiles ["w".toList] []).fileSystem).exitCode = 1 ∧
      (run .builtIn ["--quiet".toList, "--strict".toList, "compare".toList, "file:///a".toList,
        "b".toList] {} (Disk.ofFiles ["w".toList] []).fileSystem).stdout = [] ∧
      ∃ messages failure words, (Invocation.mk true false false none
          (.compare "file:///a".toList "b".toList [] [])).Fails {}
          (Disk.ofFiles ["w".toList] []).fileSystem messages failure ∧
        failure.Says .builtIn words ∧
        (run .builtIn ["--quiet".toList, "--strict".toList, "compare".toList, "file:///a".toList,
          "b".toList] {} (Disk.ofFiles ["w".toList] []).fileSystem).stderr =
        "error: ".toList ++ words ++ ['\n'] := by
  have hargs : Invocation.ofArguments
      ["--strict".toList, "compare".toList, "file:///a".toList, "b".toList] =
      .ok ⟨true, false, false, none, .compare "file:///a".toList "b".toList [] []⟩ := rfl
  have hcode : (run .builtIn ["--strict".toList, "compare".toList, "file:///a".toList,
      "b".toList] {} (Disk.ofFiles ["w".toList] []).fileSystem).exitCode = 1 := by
    decide +kernel
  obtain ⟨hsame, hquiet, -⟩ := (outputLaws .builtIn _ {}
    (Disk.ofFiles ["w".toList] []).fileSystem).of_quiet_front _ hargs rfl rfl ["--quiet".toList]
      (by decide)
  rw [hcode] at hsame
  have hne : (run .builtIn (["--quiet".toList] ++
      ["--strict".toList, "compare".toList, "file:///a".toList, "b".toList]) {}
      (Disk.ofFiles ["w".toList] []).fileSystem).exitCode ≠ 0 := by
    rw [hsame]
    decide
  obtain ⟨messages, failure, words, hfails, hsays, -, hstderr⟩ := (hquiet rfl).of_failure hne
  exact ⟨hsame, (outputLaws .builtIn _ {} _).stdout_of_failure hne, messages, failure, words,
    hfails, hsays, hstderr⟩

end RepoIdentity
